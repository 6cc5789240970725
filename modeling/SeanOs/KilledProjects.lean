import SeanOs.ChiefOfStaff
import SeanOs.Lib.Among
import SeanOs.Sample
import SeanOs.Store.RecordWrites

/-! A killed project stays killed with its reopen trigger, while no review pauses it. -/

namespace SeanOs

open Atomic

namespace World

variable (world : World) (project_id : String)

/-- There is a record with an identifier. -/
def hasRecord : Prop := ∃ row ∈ world.db.records, row.id = project_id

/-- The lifecycle states of a project, of which there is one at most. -/
def states : List ProjectStateRow := world.db.project_state.filter (·.record_id == project_id)

/-- A project is killed, with what would reopen it. -/
structure Killed (trigger : String) : Prop where
  stored : world.hasRecord project_id
  killed : ∃ row, world.states project_id = [row] ∧ row.state = "KILLED" ∧
    row.reopen_trigger = some trigger

end World

/-- A change that leaves the record and the lifecycle state of a project. -/
structure Spares (project_id : String) (world changed : World) : Prop where
  stored : world.hasRecord project_id → changed.hasRecord project_id
  states : world.hasRecord project_id → changed.states project_id = world.states project_id

section Changes

variable {project_id : String} {world changed last : World}

/-- Nothing that stays as it is touches the project. -/
theorem Spares.refl (world : World) : Spares project_id world world := ⟨id, fun _ => rfl⟩

/-- Two changes that spare a project spare it together. -/
theorem Spares.trans (first : Spares project_id world changed)
    (second : Spares project_id changed last) : Spares project_id world last where
  stored there := second.stored (first.stored there)
  states there := (second.states (first.stored there)).trans (first.states there)

/-- A killed project stays killed in what leaves it. -/
theorem Spares.killed (spares : Spares project_id world changed) {trigger : String}
    (killed : world.Killed project_id trigger) : changed.Killed project_id trigger := by
  -- The state of the project is as it was, and it was killed.
  refine ⟨spares.stored killed.stored, ?_⟩
  rw [spares.states killed.stored]
  exact killed.killed

/-- A change that leaves records and states spares every project. -/
theorem Spares.of_eq (records : changed.db.records = world.db.records)
    (states : changed.db.project_state = world.db.project_state) :
    Spares project_id world changed := by
  -- Neither the record nor its states have changed.
  refine ⟨fun there => ?_, fun _ => ?_⟩
  · rw [World.hasRecord, records]
    exact there
  · rw [World.states, states]
    rfl

/-- What is only logged spares every project. -/
theorem Spares.of_logged (logged : Logged world changed) : Spares project_id world changed :=
  .of_eq (logged.same fun _ _ => rfl) (logged.same fun _ _ => rfl)

/-- A new record is not that of a project that is there. -/
theorem Spares.of_added {row : RecordRow} (added : RecordAdded row world changed) :
    Spares project_id world changed := by
  -- The record is new, so its state is the one of another project.
  refine Spares.trans ⟨fun ⟨other, there, same⟩ => ⟨other, List.mem_append_left _ there, same⟩, ?_⟩
    (.of_logged added.logged)
  rintro ⟨other, there, rfl⟩
  rw [World.states, World.states, insertRecord]
  dsimp only
  split
  · rw [List.filter_append, List.filter_singleton]
    have apart : (row.id == other.id) = false := by simpa using (added.fresh other there).symm
    dsimp only
    rw [apart]
    exact List.append_nil _
  · rfl

/-- The lifecycle state of one project is overwritten without touching that of another one. -/
theorem Spares.of_setProjectState {next : ProjectStateRow} (other : next.record_id ≠ project_id) :
    Spares project_id world (setProjectState next world) := by
  refine ⟨id, fun _ => ?_⟩
  rw [World.states, World.states, setProjectState]
  dsimp only
  generalize world.db.project_state = rows
  -- A row that is overwritten is out of the list before and after.
  induction rows with
  | nil => rfl
  | cons row rows ih =>
    rw [List.map_cons, List.filter_cons, List.filter_cons, ih]
    by_cases same : row.record_id = next.record_id
    · simp [same, other]
    · simp [same]

end Changes

section Programs

variable [Platform] {project_id : String} {store : Store} {actor : Actor}

/-- A program that leaves the record and the lifecycle state of a project wherever it is run. -/
abbrev Sparing {α : Type} (project_id : String) (program : Op α) : Prop :=
  ∀ world, program.Ends world fun _ changed => Spares project_id world changed

omit [Platform] in
/-- Programs that spare a project spare it one after another. -/
theorem Sparing.bind {α β : Type} {program : Op α} {rest : α → Op β}
    (first : Sparing project_id program) (second : ∀ value, Sparing project_id (rest value)) :
    Sparing project_id (program >>= rest) := fun world =>
  (first world).bind
    (fun value changed spared => (second value changed).mono fun _ _ => spared.trans)
    fun _ _ => id

omit [Platform] in
/-- A program that only logs spares every project. -/
theorem sparing_logging {α : Type} {program : Op α} (logging : Logging program) :
    Sparing project_id program := fun world => .of_logged (logging.run world)

/-- What follows the creation of a record may rely on that it is not that of the project. -/
theorem sparing_create_record_bind {β : Type} {request : RecordRequest} {rest : String → Op β}
    (second : ∀ id, id ≠ project_id → Sparing project_id (rest id)) :
    Sparing project_id (create_record store actor request >>= rest) := by
  intro world
  refine (ends_create_record request).bind (fun id changed created => ?_)
    fun error changed created => .of_logged (created.refused error rfl)
  obtain ⟨row, rfl, _, added⟩ := created.added id rfl
  have spared : Spares project_id world changed := .of_added added
  -- The identifier is new, so it is not the one of a project that is there.
  by_cases there : world.hasRecord project_id
  · obtain ⟨other, member, rfl⟩ := there
    exact (second row.id (added.fresh other member).symm changed).mono fun _ _ => spared.trans
  · exact ⟨fun stored => absurd stored there, fun stored => absurd stored there⟩

/-- The creation of a record spares every project. -/
theorem sparing_create_record {request : RecordRequest} :
    Sparing project_id (create_record store actor request) := fun world =>
  (ends_create_record request).mono fun outcome changed created => by
    cases outcome with
    | ok id =>
      obtain ⟨row, _, _, added⟩ := created.added id rfl
      exact .of_added added
    | error error => exact .of_logged (created.refused error rfl)

/-- A link spares every project. -/
theorem sparing_link_records {from_record_id relationship_type to_record_id : String} :
    Sparing project_id
      (link_records store actor from_record_id relationship_type to_record_id) := fun world =>
  (ends_link_records ..).mono fun outcome changed linked => by
    cases outcome with
    | ok id =>
      obtain ⟨stamp, _, logged⟩ := linked.added id rfl
      have inserted : Spares project_id world (insertRelationship
        ⟨id, from_record_id, upper relationship_type, to_record_id, stamp⟩ world) := .of_eq rfl rfl
      exact inserted.trans (.of_logged logged)
    | error error => exact .of_logged (linked.refused error rfl)

/-- A transition of one project spares every other one. -/
theorem sparing_transition_project {record_id state reason : String}
    {reopen_trigger review_at : Option String} (other : record_id ≠ project_id) :
    Sparing project_id (transition_project store actor record_id state reason reopen_trigger
      review_at) := fun world =>
  (ends_transition_project ..).mono fun outcome changed moved => by
    cases outcome with
    | ok _ =>
      obtain ⟨stamp, logged⟩ := moved.1 rfl
      exact (Spares.of_setProjectState other).trans (.of_logged logged)
    | error error => exact .of_logged (moved.2 error rfl)

omit [Platform] in
/-- An error spares every project. -/
theorem sparing_throw {α : Type} (error : Error) : Sparing project_id (throw error : Op α) :=
  fun world => Spares.refl world

omit [Platform] in
/-- A returned value spares every project. -/
theorem sparing_ret {α : Type} (value : α) : Sparing project_id (.ret value : Op α) :=
  fun world => Spares.refl world

end Programs

/-- The projects that can be ranked are some of those that are looked at. -/
theorem splitProjects_mem {rows : List RecordRow} {eligible missing : List String}
    (split : splitProjects rows = .ok (eligible, missing)) :
    ∀ id ∈ eligible, ∃ row ∈ rows, row.id = id := by
  induction rows generalizing eligible missing with
  | nil =>
    cases split
    exact fun _ there => by cases there
  | cons row rows ih =>
    rw [splitProjects, bind_ok_iff] at split
    obtain ⟨valid, _, split⟩ := split
    rw [bind_ok_iff] at split
    obtain ⟨⟨ranked, lacking⟩, rest, split⟩ := split
    intro id there
    have later (member : id ∈ ranked) : ∃ other ∈ row :: rows, other.id = id := by
      obtain ⟨other, member, same⟩ := ih rest id member
      exact ⟨other, List.mem_cons_of_mem _ member, same⟩
    -- The first project is eligible, or it is one of those that lack something.
    cases valid with
    | false =>
      cases split
      exact later there
    | true =>
      cases split
      rcases List.mem_cons.mp there with rfl | there
      · exact ⟨row, List.mem_cons_self, rfl⟩
      · exact later there

/-- A killed project is not among those of the scheduled maintenance. -/
theorem World.Killed.not_maintained {world : World} {project_id trigger : String}
    (killed : world.Killed project_id trigger) : ∀ row ∈ world.db.maintained, row.id ≠ project_id := by
  -- The only state of the project is killed, which is none that is maintained.
  obtain ⟨state, only, dead, -⟩ := killed.killed
  rintro row there rfl
  rw [Database.maintained, List.mem_insertionSort, List.mem_filter] at there
  simp only [Bool.and_eq_true, List.any_eq_true, beq_iff_eq, Bool.or_eq_true] at there
  obtain ⟨-, -, -, other, member, same, lives⟩ := there
  have one : other ∈ world.states row.id := List.mem_filter.mpr ⟨member, by simpa using same⟩
  rw [only, List.mem_singleton] at one
  rw [one, dead] at lives
  revert lives
  decide

namespace ChiefOfStaff

variable [Platform] {project_id : String} (chief : ChiefOfStaff)

/-- The creation of tasks spares every project. -/
theorem sparing_createTasks (scope : Scope) (parent : String) (position : ℕ)
    (tasks : List (List (String × Json))) :
    Sparing project_id (chief.createTasks scope parent position tasks) := by
  -- Each task is a record and a link.
  induction tasks generalizing position with
  | nil => exact sparing_ret _
  | cons task tasks ih =>
    refine sparing_create_record.bind fun task_id => ?_
    refine sparing_link_records.bind fun _ => ?_
    exact (ih (position + 1)).bind fun _ => sparing_ret _

/-- A new project is none that was there before. -/
theorem sparing_create_project (goal_id name : String) (tasks : List (List (String × Json)))
    (success_metric stop_condition : String) (metrics : Option (List (String × Json))) :
    Sparing project_id
      (chief.create_project goal_id name tasks success_metric stop_condition metrics) := by
  rw [create_project]
  refine (sparing_logging (logging_get_record _ _ _)).bind fun goal => ?_
  dsimp only
  split
  · exact sparing_throw _
  split
  · exact sparing_throw _
  split
  · exact sparing_throw _
  split
  · exact sparing_throw _
  split
  · exact sparing_throw _
  refine (sparing_logging (logging_lift _)).bind fun metrics => ?_
  -- The new project has a new identifier, so its transition spares the others.
  refine sparing_create_record_bind fun id other => ?_
  refine sparing_link_records.bind fun _ => ?_
  refine (chief.sparing_createTasks _ _ _ _).bind fun task_ids => ?_
  exact (sparing_transition_project other).bind fun _ => sparing_ret _

/-- The evaluation of a project leaves every other one. -/
theorem sparing_evaluate_project {evaluated : String} (other : evaluated ≠ project_id)
    (completed_tasks total_tasks : ℤ) (metric_value minimum_viable_metric : Number)
    (evidence : String) :
    Sparing project_id (chief.evaluate_project evaluated completed_tasks total_tasks metric_value
      minimum_viable_metric evidence) := by
  refine (sparing_logging (logging_get_record _ _ _)).bind fun project => ?_
  split
  · exact sparing_throw _
  refine (sparing_logging (logging_lift _)).bind fun owned => ?_
  split
  · exact sparing_throw _
  split
  · exact sparing_throw _
  -- Only the project that is evaluated is moved.
  refine (sparing_transition_project other).bind fun _ => ?_
  refine sparing_create_record.bind fun decision_id => ?_
  exact sparing_link_records.bind fun _ => sparing_ret _

/-- The rank of a project changes nothing but the log. -/
theorem logging_rank (ranked : String) : Logging (chief.rank ranked) := by
  -- A rank is read and computed.
  refine Prog.Keeps.bind (logging_get_record _ _ _) fun project => ?_
  split
  · exact trivial
  refine Prog.Keeps.bind (logging_lift _) fun found => ?_
  split
  · exact trivial
  refine Prog.Keeps.bind (logging_lift _) fun score => ?_
  refine Prog.Keeps.bind (logging_lift _) fun name => ?_
  exact Prog.Keeps.bind (logging_lift _) fun owned => trivial

/-- The ranks of some projects change nothing but the log. -/
theorem logging_rankEach (project_ids : List String) : Logging (chief.rankEach project_ids) := by
  -- One project after another is ranked.
  induction project_ids with
  | nil => exact trivial
  | cons first rest ih =>
    refine Prog.Keeps.bind (chief.logging_rank first) fun item => ?_
    exact Prog.Keeps.bind ih fun items => trivial

/-- A ranking changes nothing but the log. -/
theorem logging_ranking (project_ids : List String) : Logging (chief.ranking project_ids) :=
  Prog.Keeps.bind (chief.logging_rankEach _) fun _ => trivial

/-- Whether a review pauses a project that it finds at a position. -/
def pauses (capacity_limit : ℤ) (low_fit_threshold : Number) (entry : Ranked × ℕ) : Bool :=
  (entry.1.recommend capacity_limit low_fit_threshold entry.2).1 != "PRIORITIZE" && entry.1.agent_owned

/-- Projects that are not paused in a review are left by it. -/
theorem sparing_reviewEach (capacity_limit : ℤ) (low_fit_threshold : Number) (position : ℕ)
    (items : List Ranked)
    (apart : ∀ entry ∈ items.zipIdx position, pauses capacity_limit low_fit_threshold entry = true →
      entry.1.project_id ≠ project_id) :
    Sparing project_id (chief.reviewEach capacity_limit low_fit_threshold position items) := by
  induction items generalizing position with
  | nil => exact sparing_ret _
  | cons item items ih =>
    rw [List.zipIdx_cons, List.forall_mem_cons] at apart
    have rest := ih (position + 1) apart.2
    rw [reviewEach]
    dsimp only
    -- A project is moved where it is paused, and the one that is killed is not.
    split
    next paused =>
      have other : item.project_id ≠ project_id := apart.1 (by simp [pauses, paused])
      exact (sparing_transition_project other).bind fun _ => rest.bind fun _ => sparing_ret _
    next => exact rest.bind fun _ => sparing_ret _

/-- The links of a decision spare every project. -/
theorem sparing_governEach (decision_id : String) (items : List Reviewed) :
    Sparing project_id (chief.governEach decision_id items) := by
  -- Each item is a link.
  induction items with
  | nil => exact sparing_ret _
  | cons item items ih => exact sparing_link_records.bind fun _ => ih

/-- Whether a review, run in a world, pauses other projects only. -/
def passesOver (project_id : String) (project_ids : List String) (capacity_limit : ℤ)
    (low_fit_threshold : Number) (world : World) : Bool :=
  match ((chief.ranking project_ids).run world).1 with
  | .ok ranked => (ranked.zipIdx 1).all fun entry =>
      !pauses capacity_limit low_fit_threshold entry || entry.1.project_id != project_id
  | .error _ => true

/-- A review leaves the projects that it passes over. -/
theorem spares_review_portfolio {project_ids : List String} {capacity_limit : ℤ}
    {low_fit_threshold : Number} {world : World}
    (passed : chief.passesOver project_id project_ids capacity_limit low_fit_threshold world = true) :
    (chief.review_portfolio project_ids capacity_limit low_fit_threshold).Ends world
      fun _ changed => Spares project_id world changed := by
  rw [review_portfolio]
  split
  · exact sparing_throw _ world
  split
  · exact sparing_throw _ world
  -- The ranking only logs, and what it ranks is what is paused or linked then.
  have ranked : (chief.ranking project_ids).Ends world fun outcome changed =>
      Logged world changed ∧ ∀ items, outcome = .ok items →
        ∀ entry ∈ items.zipIdx 1, pauses capacity_limit low_fit_threshold entry = true →
          entry.1.project_id ≠ project_id := by
    refine ⟨(chief.logging_ranking project_ids).run world, fun items same entry there paused => ?_⟩
    rw [passesOver, same] at passed
    simpa [paused] using List.all_eq_true.mp passed entry there
  refine ranked.bind (fun items changed found => ?_) fun _ _ failed => .of_logged failed.1
  refine ((Sparing.bind (chief.sparing_reviewEach _ _ _ _ (found.2 items rfl)) fun result => ?_)
    changed).mono fun _ _ => (Spares.of_logged found.1).trans
  refine sparing_create_record.bind fun decision_id => ?_
  exact (chief.sparing_governEach _ _).bind fun _ => sparing_ret _

/-- A project is ranked under its own identifier. -/
theorem returns_rank (ranked : String) :
    Prog.Returns (chief.rank ranked) fun item => item.project_id = ranked := by
  rw [rank]
  -- The item is made of the record that was asked for.
  refine .bind fun project => ?_
  split
  · exact .raise _
  refine .bind fun found => ?_
  split
  · exact .raise _
  refine .bind fun score => .bind fun name => .bind fun owned => ?_
  rintro item ⟨⟩
  rfl

/-- The projects are ranked in the order they are given in. -/
theorem returns_rankEach (project_ids : List String) :
    Prog.Returns (chief.rankEach project_ids) fun items =>
      items.map (·.project_id) = project_ids := by
  -- One project after another is ranked.
  induction project_ids with
  | nil =>
    rintro items ⟨⟩
    rfl
  | cons first rest ih =>
    refine (chief.returns_rank first).of_bind fun item same => ih.of_bind fun items others => ?_
    rintro all ⟨⟩
    rw [List.map_cons, same, others]

/-- The projects of a ranking are those it was asked for, each of them once. -/
theorem returns_ranking (project_ids : List String) :
    Prog.Returns (chief.ranking project_ids) fun items =>
      (items.map (·.project_id)).Perm project_ids.eraseDups := by
  -- The projects are ranked one by one, and then only moved about.
  refine (chief.returns_rankEach _).of_bind fun ranked same => ?_
  rintro items ⟨⟩
  rw [← same]
  exact (List.perm_insertionSort _ ranked).map _

/-- A review passes over the projects that it is not asked for. -/
theorem passesOver_of_not_mem {project_ids : List String} (absent : project_id ∉ project_ids)
    (capacity_limit : ℤ) (low_fit_threshold : Number) (world : World) :
    chief.passesOver project_id project_ids capacity_limit low_fit_threshold world = true := by
  rw [passesOver]
  -- The ranking has the projects that were asked for only, and the killed one is none of them.
  cases ran : ((chief.ranking project_ids).run world).1 with
  | error error => rfl
  | ok items =>
    refine List.all_eq_true.mpr fun entry there => ?_
    have other : entry.1.project_id ≠ project_id := by
      rintro rfl
      refine absent (List.mem_eraseDups.mp (((chief.returns_ranking _).run ran).mem_iff.mp ?_))
      exact List.mem_map_of_mem (List.fst_mem_of_mem_zipIdx there)
    simp [other]

/-- The scheduled maintenance leaves a killed project. -/
theorem spares_maintain_portfolio (period_key : String) (capacity_limit : ℤ)
    (low_fit_threshold : Number) {world : World} {trigger : String}
    (killed : world.Killed project_id trigger) :
    (chief.maintain_portfolio period_key capacity_limit low_fit_threshold).Ends world
      fun _ changed => Spares project_id world changed := by
  rw [maintain_portfolio]
  split
  · exact sparing_throw _ world
  refine .read_bind ?_
  split
  · exact sparing_throw _ world
  refine ends_lift_bind (fun projects split => ?_) fun _ _ => .refl world
  obtain ⟨eligible, missing⟩ := projects
  -- The killed project is not maintained, so it is not among the eligible ones.
  have absent : project_id ∉ eligible := by
    intro there
    obtain ⟨row, member, same⟩ := splitProjects_mem split _ there
    exact killed.not_maintained row (List.mem_of_mem_take member) same
  dsimp only
  split
  · exact sparing_ret _ world
  · refine (chief.spares_review_portfolio (chief.passesOver_of_not_mem absent _ _ _)).bind
      (fun review changed spared => ?_) fun error changed spared => ?_
    · exact spared
    · exact spared

end ChiefOfStaff

section Runs

variable [Platform]

/-- One operation of an agent or an operator, run alone, which neither evaluates nor moves a project. -/
inductive AgentStep (project_id : String) : World → World → Prop
  | create_project (chief : ChiefOfStaff) (goal_id name : String)
      (tasks : List (List (String × Json))) (success_metric stop_condition : String)
      (metrics : Option (List (String × Json))) (world : World) :
      AgentStep project_id world
        ((chief.create_project goal_id name tasks success_metric stop_condition metrics).run world).2
  | evaluate_project (chief : ChiefOfStaff) {evaluated : String} (other : evaluated ≠ project_id)
      (completed_tasks total_tasks : ℤ) (metric_value minimum_viable_metric : Number)
      (evidence : String) (world : World) :
      AgentStep project_id world
        ((chief.evaluate_project evaluated completed_tasks total_tasks metric_value
          minimum_viable_metric evidence).run world).2
  | review_portfolio (chief : ChiefOfStaff) {project_ids : List String} {capacity_limit : ℤ}
      {low_fit_threshold : Number} {world : World}
      (passed : chief.passesOver project_id project_ids capacity_limit low_fit_threshold world = true) :
      AgentStep project_id world
        ((chief.review_portfolio project_ids capacity_limit low_fit_threshold).run world).2
  | maintain_portfolio (chief : ChiefOfStaff) (period_key : String) (capacity_limit : ℤ)
      (low_fit_threshold : Number) (world : World) :
      AgentStep project_id world
        ((chief.maintain_portfolio period_key capacity_limit low_fit_threshold).run world).2
  | transition_project (store : Store) (actor : Actor) {record_id : String}
      (other : record_id ≠ project_id) (state reason : String)
      (reopen_trigger review_at : Option String) (world : World) :
      AgentStep project_id world
        ((transition_project store actor record_id state reason reopen_trigger review_at).run world).2
  | outside {world changed : World} (spares : Spares project_id world changed) :
      AgentStep project_id world changed

/-- An operation that is no review keeps a killed project, and a review does that passes it over. -/
theorem AgentStep.killed {project_id trigger : String} {world changed : World}
    (step : AgentStep project_id world changed) (killed : world.Killed project_id trigger) :
    changed.Killed project_id trigger := by
  -- Each operation spares the project, and a project that is spared stays killed.
  cases step with
  | create_project => exact Spares.killed (ChiefOfStaff.sparing_create_project _ _ _ _ _ _ _ world) killed
  | evaluate_project chief other =>
    exact Spares.killed (chief.sparing_evaluate_project other _ _ _ _ _ world) killed
  | review_portfolio chief passed => exact Spares.killed (chief.spares_review_portfolio passed) killed
  | maintain_portfolio chief =>
    exact Spares.killed (chief.spares_maintain_portfolio _ _ _ killed) killed
  | transition_project _ _ other => exact Spares.killed (sparing_transition_project other world) killed
  | outside spares => exact spares.killed killed

/--
A killed project stays killed, with the trigger that would reopen it.

This holds over every run of operations that do not evaluate or move the project itself, as long as
no explicit review pauses it; the scheduled maintenance never does.
-/
theorem killed_stays_killed {project_id trigger : String} {start last : World}
    (killed : start.Killed project_id trigger)
    (run : Relation.ReflTransGen (AgentStep project_id) start last) :
    last.Killed project_id trigger := by
  -- One operation after another keeps it killed.
  induction run with
  | refl => exact killed
  | tail _ step ih => exact step.killed ih

end Runs

section Example

local instance killedPlatform : Platform := Sample.platform []

/-- An agent that plans for the company. -/
def Sample.chief : ChiefOfStaff := ⟨⟨.DEVELOPMENT⟩, worker, ⟨5, [.IAC]⟩⟩

/-- A project of that agent, with metrics by which it can be ranked. -/
def Sample.project (id : String) : RecordRow where
  id := id
  entity_type := .PROJECT
  owner_scope := .IAC
  confidentiality := "EXECUTIVE"
  portable_on_sale := true
  source := "chief-of-staff"
  source_locator := none
  created_by := "worker"
  created_at := "2030-01-01T00:00:00+00:00"
  updated_at := "2030-01-01T00:00:00+00:00"
  effective_at := "2030-01-01T00:00:00+00:00"
  expires_at := none
  confidence := 1
  permitted_principals := []
  retention_rule := "retain"
  payload := .obj [("created_by_agent", .str "worker"),
    ("portfolio_metrics", .obj (defaultMetrics))]
  version := 1

/-- A killed project beside an active one. -/
def Sample.oneKilled : World := world { Database.empty with
  records := [project "dead", project "alive"]
  project_state := [⟨"dead", "KILLED", "No demand", none, some "New demand", "2030-01-01T00:00:00+00:00"⟩,
    ⟨"alive", "ACTIVE", "Demand", none, none, "2030-01-01T00:00:00+00:00"⟩] }

/-- A killed project is passed over while the others are maintained and reviewed. -/
theorem killed_stays_killed_maintained :
    World.Killed ((Sample.chief.review_portfolio ["alive"] 1 (.finite 0)).run
      ((Sample.chief.maintain_portfolio "2030-W01" 1 (.finite 1)).run Sample.oneKilled).2).2
      "dead" "New demand" := by
  -- The project is killed at first, and both operations are steps that spare it.
  have killed : Sample.oneKilled.Killed "dead" "New demand" :=
    ⟨⟨_, List.mem_cons_self, rfl⟩, _, by rfl, rfl, rfl⟩
  refine killed_stays_killed killed (.tail (.single (.maintain_portfolio Sample.chief "2030-W01" 1
    (.finite 1) Sample.oneKilled)) (.review_portfolio Sample.chief ?_))
  exact Sample.chief.passesOver_of_not_mem (by decide) _ _ _

end Example

end SeanOs
