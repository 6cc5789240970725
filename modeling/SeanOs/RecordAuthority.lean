import SeanOs.ChiefOfStaff
import SeanOs.KilledProjects
import SeanOs.Sample
import SeanOs.Store.Ownership

/-! Who changes which records, over all interleavings of the operations that write them. -/

namespace SeanOs

open Atomic

namespace ChiefOfStaff

variable [Platform] (chief : ChiefOfStaff)

theorem governs_createTasks (scope : Scope) (project_id : String) (position : ℕ)
    (tasks : List (List (String × Json))) :
    Governs chief.store chief.actor (chief.createTasks scope project_id position tasks) := by
  induction tasks generalizing position with
  | nil => exact governs_logging trivial
  | cons task tasks ih =>
    refine (governs_create_record _).bind fun task_id => ?_
    refine (governs_link_records _ _ _).bind fun _ => ?_
    exact (ih (position + 1)).bind fun _ => governs_logging trivial

theorem governs_create_project (goal_id name : String) (tasks : List (List (String × Json)))
    (success_metric stop_condition : String) (metrics : Option (List (String × Json))) :
    Governs chief.store chief.actor
      (chief.create_project goal_id name tasks success_metric stop_condition metrics) := by
  rw [create_project]
  refine (governs_logging (logging_get_record _ _ _)).bind fun goal => ?_
  dsimp only
  split
  · exact governs_logging trivial
  split
  · exact governs_logging trivial
  split
  · exact governs_logging trivial
  split
  · exact governs_logging trivial
  split
  · exact governs_logging trivial
  refine (governs_logging (logging_lift _)).bind fun metrics => ?_
  refine (governs_create_record _).bind fun project_id => ?_
  refine (governs_link_records _ _ _).bind fun _ => ?_
  refine (chief.governs_createTasks _ _ _ _).bind fun task_ids => ?_
  exact (governs_transition_project _ _ _ _ _).bind fun _ => governs_logging trivial

theorem governs_evaluate_project (project_id : String) (completed_tasks total_tasks : ℤ)
    (metric_value minimum_viable_metric : Number) (evidence : String) :
    Governs chief.store chief.actor (chief.evaluate_project project_id completed_tasks total_tasks
      metric_value minimum_viable_metric evidence) := by
  refine (governs_logging (logging_get_record _ _ _)).bind fun project => ?_
  split
  · exact governs_logging trivial
  refine (governs_logging (logging_lift _)).bind fun owned => ?_
  split
  · exact governs_logging trivial
  split
  · exact governs_logging trivial
  refine (governs_transition_project _ _ _ _ _).bind fun _ => ?_
  refine (governs_create_record _).bind fun decision_id => ?_
  exact (governs_link_records _ _ _).bind fun _ => governs_logging trivial

theorem governs_reviewEach (capacity_limit : ℤ) (low_fit_threshold : Number) (position : ℕ)
    (items : List Ranked) :
    Governs chief.store chief.actor
      (chief.reviewEach capacity_limit low_fit_threshold position items) := by
  induction items generalizing position with
  | nil => exact governs_logging trivial
  | cons item items ih =>
    rw [reviewEach]
    dsimp only
    split
    · refine (governs_transition_project _ _ _ _ _).bind fun _ => ?_
      exact (ih (position + 1)).bind fun _ => governs_logging trivial
    · exact (ih (position + 1)).bind fun _ => governs_logging trivial

theorem governs_governEach (decision_id : String) (items : List Reviewed) :
    Governs chief.store chief.actor (chief.governEach decision_id items) := by
  induction items with
  | nil => exact governs_logging trivial
  | cons item items ih => exact (governs_link_records _ _ _).bind fun _ => ih

theorem governs_review_portfolio (project_ids : List String) (capacity_limit : ℤ)
    (low_fit_threshold : Number) :
    Governs chief.store chief.actor
      (chief.review_portfolio project_ids capacity_limit low_fit_threshold) := by
  rw [review_portfolio]
  split
  · exact governs_logging trivial
  split
  · exact governs_logging trivial
  refine (governs_logging (chief.logging_ranking _)).bind fun items => ?_
  refine (chief.governs_reviewEach _ _ _ _).bind fun result => ?_
  refine (governs_create_record _).bind fun decision_id => ?_
  exact (chief.governs_governEach _ _).bind fun _ => governs_logging trivial

theorem governs_maintain_portfolio (period_key : String) (capacity_limit : ℤ)
    (low_fit_threshold : Number) :
    Governs chief.store chief.actor
      (chief.maintain_portfolio period_key capacity_limit low_fit_threshold) := by
  rw [maintain_portfolio]
  split
  · exact governs_logging trivial
  refine (governs_logging (logging_read _ _)).bind fun rows => ?_
  split
  · exact governs_logging trivial
  refine (governs_logging (logging_lift _)).bind fun projects => ?_
  dsimp only
  split
  · exact governs_logging trivial
  · exact (chief.governs_review_portfolio _ _ _).bind fun _ => governs_logging trivial

end ChiefOfStaff

/-- The database as the boundaries between its scopes need it. -/
structure Isolated (store : Store) (world : World) : Prop where
  distinct : world.DistinctRecords
  /-- No personal record is sold with the company. -/
  personal : ∀ row ∈ world.db.records, row.owner_scope = .PERSONAL → row.portable_on_sale = false
  /-- A shared record names those it is shared with. -/
  shared : ∀ row ∈ world.db.records, row.owner_scope = .SHARED → row.permitted_principals ≠ []
  /-- The database holds no scope that its profile excludes. -/
  bound : ∀ row ∈ world.db.records, row.owner_scope ∈ store.allowed_scopes
  /-- No relationship joins a personal record with one of the company. -/
  joined : ∀ link ∈ world.db.relationships, ∃ source ∈ world.db.records,
    ∃ target ∈ world.db.records, source.id = link.from_record_id ∧ target.id = link.to_record_id ∧
      (source.owner_scope = target.owner_scope ∨ source.owner_scope = .SHARED ∨
        target.owner_scope = .SHARED)
  /-- Every lifecycle state is one of the four, of a project. -/
  lifecycle : ∀ state ∈ world.db.project_state, state.state ∈ PROJECT_STATES ∧
    ∃ row ∈ world.db.records, row.id = state.record_id ∧ row.entity_type = .PROJECT

section Isolation

variable {store : Store} {actor : Actor} {world changed : World}

/-- Whatever an actor may do with a record, its scope is one of the database. -/
theorem Permits.bound {row : RecordRow} {action : String} (permits : Permits store actor row action) :
    row.owner_scope ∈ store.allowed_scopes := by
  rw [Permits, _authorize] at permits
  have named : Scope.read row.owner_scope.text = some row.owner_scope := by
    cases row.owner_scope <;> rfl
  rw [named] at permits
  dsimp only at permits
  by_contra outside
  rw [if_pos outside] at permits
  cases permits

/-- A governed step keeps the boundaries between the scopes. -/
theorem Isolated.governed (isolated : Isolated store world)
    (governed : Governed store actor world changed) : Isolated store changed := by
  -- Each record behind the step is an earlier one that goes on, or a new one of the actor.
  have every {such : RecordRow → Prop} (old : ∀ row ∈ world.db.records, such row)
      (lasts : ∀ row later, row.Continues later → such row → such later)
      (new : ∀ row, Owned store actor row → such row) : ∀ row ∈ changed.db.records, such row := by
    intro row there
    rcases governed.records.right there with ⟨earlier, there, revised⟩ | owned
    · exact lasts earlier row revised.continues (old earlier there)
    · exact new row owned
  have goes (row : RecordRow) (there : row ∈ world.db.records) :
      ∃ later ∈ changed.db.records, row.Continues later := governed.grows.records row there
  refine ⟨governed.distinct isolated.distinct, every isolated.personal ?_ fun _ => Owned.personal,
    every isolated.shared ?_ fun _ => Owned.shared, every isolated.bound ?_ fun _ owned =>
      owned.permitted.bound, fun link there => ?_, fun state there => ?_⟩
  · intro row later continues sold own
    rw [continues.portable_on_sale]
    exact sold (continues.owner_scope ▸ own)
  · intro row later continues named own
    rw [continues.permitted_principals]
    exact named (continues.owner_scope ▸ own)
  · intro row later continues inside
    rw [continues.owner_scope]
    exact inside
  · have joined : ∃ source ∈ world.db.records, ∃ target ∈ world.db.records,
        source.id = link.from_record_id ∧ target.id = link.to_record_id ∧
          (source.owner_scope = target.owner_scope ∨ source.owner_scope = .SHARED ∨
            target.owner_scope = .SHARED) := by
      rcases governed.relationships.right there with ⟨earlier, before, rfl⟩ | new
      · exact isolated.joined earlier before
      · obtain ⟨source, here, target, there, first, second, _, _, apart⟩ := new
        exact ⟨source, here, target, there, first, second, apart⟩
    obtain ⟨source, here, target, there, first, second, apart⟩ := joined
    obtain ⟨source_, here, on⟩ := goes source here
    obtain ⟨target_, there, on_⟩ := goes target there
    refine ⟨source_, here, target_, there, on.id.trans first, on_.id.trans second, ?_⟩
    rw [on.owner_scope, on_.owner_scope]
    exact apart
  · rcases governed.project_state.right there with ⟨before, held, moved⟩ | ⟨new, row, there, same⟩
    · obtain ⟨known, row, stored, named, project⟩ := isolated.lifecycle before held
      obtain ⟨later, stays, on⟩ := goes row stored
      rcases moved with rfl | ⟨same, one, _⟩
      · exact ⟨known, later, stays, on.id.trans named, on.entity_type.trans project⟩
      · exact ⟨one, later, stays, (on.id.trans named).trans same.symm, on.entity_type.trans project⟩
    · exact ⟨new ▸ by decide, row, there, same.1, same.2.1⟩

theorem Isolated.aside (isolated : Isolated store world) (aside : RecordsAside world changed) :
    Isolated store changed := isolated.governed (.of_aside aside : Governed store ⟨"", [], false⟩ _ _)

end Isolation

/-- An operation that writes or reads records, with what it is called with. -/
inductive RecordCall where
  | create_record (request : RecordRequest)
  | update_record (record_id : String) (payload : List (String × Json)) (expected_version : ℤ)
      (correlation_id : Option String)
  | link_records (from_record_id relationship_type to_record_id : String)
  | transition_project (record_id state reason : String) (reopen_trigger review_at : Option String)
  | get_record (record_id : String)
  | list_records (entity_type : Option String)
  | create_approval (action_type target scope max_impact approver expires_at : String)
      (conditions : Option (List (String × Json))) (reusable : Bool)
  | request_approval (action_type target scope max_impact expires_at : String)
      (conditions : Option (List (String × Json)))
  | create_project (limits : PlanningLimits) (goal_id name : String)
      (tasks : List (List (String × Json))) (success_metric stop_condition : String)
      (portfolio_metrics : Option (List (String × Json)))
  | evaluate_project (project_id : String) (completed_tasks total_tasks : ℤ)
      (metric_value minimum_viable_metric : Number) (evidence : String)
  | review_portfolio (project_ids : List String) (capacity_limit : ℤ) (low_fit_threshold : Number)
  | maintain_portfolio (period_key : String) (capacity_limit : ℤ) (low_fit_threshold : Number)

section Runs

variable [Platform] (store : Store) (actor : Actor)

/-- The program of an operation, without what it returns. -/
def RecordCall.program : RecordCall → Op Unit
  | .create_record request => do let _ ← SeanOs.create_record store actor request
  | .update_record record_id payload expected_version correlation_id => do
    let _ ← SeanOs.update_record store actor record_id payload expected_version correlation_id
  | .link_records from_record_id relationship_type to_record_id => do
    let _ ← SeanOs.link_records store actor from_record_id relationship_type to_record_id
  | .transition_project record_id state reason reopen_trigger review_at =>
    SeanOs.transition_project store actor record_id state reason reopen_trigger review_at
  | .get_record record_id => do let _ ← SeanOs.get_record store actor record_id
  | .list_records entity_type => do let _ ← SeanOs.list_records store actor entity_type
  | .create_approval action_type target scope max_impact approver expires_at conditions reusable => do
    let _ ← SeanOs.create_approval store actor action_type target scope max_impact approver expires_at
      conditions reusable
  | .request_approval action_type target scope max_impact expires_at conditions => do
    let _ ← SeanOs.request_approval store actor action_type target scope max_impact expires_at
      conditions
  | .create_project limits goal_id name tasks success_metric stop_condition portfolio_metrics => do
    let _ ← (ChiefOfStaff.mk store actor limits).create_project goal_id name tasks success_metric
      stop_condition portfolio_metrics
  | .evaluate_project project_id completed_tasks total_tasks metric_value minimum_viable_metric
      evidence => do
    let _ ← (ChiefOfStaff.mk store actor {}).evaluate_project project_id completed_tasks total_tasks
      metric_value minimum_viable_metric evidence
  | .review_portfolio project_ids capacity_limit low_fit_threshold => do
    let _ ← (ChiefOfStaff.mk store actor {}).review_portfolio project_ids capacity_limit
      low_fit_threshold
  | .maintain_portfolio period_key capacity_limit low_fit_threshold => do
    let _ ← (ChiefOfStaff.mk store actor {}).maintain_portfolio period_key capacity_limit
      low_fit_threshold

theorem RecordCall.governs (call : RecordCall) : Governs store actor (call.program store actor) := by
  have ended {α : Type} {program : Op α} (governs : Governs store actor program) :
      Governs store actor (do let _ ← program) :=
    governs.bind fun _ => governs_logging trivial
  cases call with
  | create_record => exact ended (governs_create_record _)
  | update_record => exact ended (governs_update_record _ _ _ _)
  | link_records => exact ended (governs_link_records _ _ _)
  | transition_project => exact governs_transition_project _ _ _ _ _
  | get_record => exact ended (governs_logging (logging_get_record _ _ _))
  | list_records => exact ended (governs_logging (logging_list_records _ _ _))
  | create_approval => exact ended (governs_create_approval _ _ _ _ _ _ _ _)
  | request_approval => exact ended (governs_request_approval _ _ _ _ _ _)
  | create_project limits => exact ended (ChiefOfStaff.governs_create_project ⟨store, actor, limits⟩ _ _ _ _ _ _)
  | evaluate_project => exact ended (ChiefOfStaff.governs_evaluate_project ⟨store, actor, {}⟩ _ _ _ _ _ _)
  | review_portfolio => exact ended (ChiefOfStaff.governs_review_portfolio ⟨store, actor, {}⟩ _ _ _)
  | maintain_portfolio => exact ended (ChiefOfStaff.governs_maintain_portfolio ⟨store, actor, {}⟩ _ _ _)

/--
The boundaries between the scopes hold in every state of every interleaving of these operations.

Every step of a call is one that its actor has the authority for: it writes records and links from
records that the actor may write, and lifecycle states of projects that it may read, and no record is
removed or given to another owner.
-/
theorem records_governed {κ : Type} [DecidableEq κ] (store : Store) (calls : κ → Actor × RecordCall)
    {world : World} (isolated : Isolated store world) {taken : List (Calls.Event κ World Label)}
    {last : Calls κ World Label Error Unit}
    (traced : Calls.Trace RecordsAside
      ⟨world, fun caller => (calls caller).2.program store (calls caller).1⟩ taken last) :
    Isolated store last.shared ∧ (∀ row ∈ world.db.records, last.shared.Stores row) ∧
      ∀ step ∈ taken, Governed store (calls step.caller).1 step.before step.after := by
  have governed := (traced.relies (fun _ => stable_distinct) (fun _ => isolated.distinct)
    (fun caller => (calls caller).2.governs store (calls caller).1 _ stable_distinct fun _ => id)
    (fun _ _ _ => Governed.grows) fun _ _ => RecordsAside.grows).1
  refine ⟨?_, fun row there => ?_, governed⟩
  · exact traced.kept isolated (fun step there before => before.governed (governed step there))
      fun _ _ before aside => before.aside aside
  · exact traced.kept ⟨row, there, .refl row⟩
      (fun step there stored => stable_stores row _ _ stored (governed step there).grows)
      fun _ _ stored aside => stable_stores row _ _ stored aside.grows

end Runs

section Example

local instance governedPlatform : Platform := Sample.platform []

/-- The operator keeps a personal record while a worker creates a project of the company. -/
def Sample.recordCalls : Bool → Actor × RecordCall
  | true => (.sean, .create_record { entity_type := "KNOWLEDGE", scope := "PERSONAL", payload := [] })
  | false => (worker, .create_record { entity_type := "PROJECT", scope := "IAC", payload := [] })

/-- The steps of the two, in turn until both have ended. -/
def Sample.mixed : List (Calls.Event Bool World Label) × Calls Bool World Label Error Unit :=
  Calls.play (List.replicate 6 [false, true]).flatten ⟨world Database.empty, fun caller =>
    (recordCalls caller).2.program ⟨.DEVELOPMENT⟩ (recordCalls caller).1⟩

theorem records_governed_of_two :
    Sample.mixed.2.shared.db.records.map (·.owner_scope) = [.IAC, .PERSONAL] ∧
      Isolated ⟨.DEVELOPMENT⟩ Sample.mixed.2.shared ∧
        ∀ step ∈ Sample.mixed.1,
          Governed ⟨.DEVELOPMENT⟩ (Sample.recordCalls step.caller).1 step.before step.after := by
  have isolated : Isolated ⟨.DEVELOPMENT⟩ (Sample.world Database.empty) :=
    ⟨List.nodup_nil, by simp [Sample.world, Database.empty], by simp [Sample.world, Database.empty],
      by simp [Sample.world, Database.empty], by simp [Sample.world, Database.empty],
      by simp [Sample.world, Database.empty]⟩
  obtain ⟨kept, _, governed⟩ := records_governed ⟨.DEVELOPMENT⟩ Sample.recordCalls isolated
    (.play (List.replicate 6 [false, true]).flatten .start)
  exact ⟨by decide +kernel, kept, governed⟩

end Example

end SeanOs
