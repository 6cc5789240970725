import SeanOs.Store.ApprovalExpiry
import SeanOs.Store.SingleUse

/-! The gate before the handlers: what holds wherever one is invoked, and what a refusal leaves. -/

namespace SeanOs

open Atomic Calendar

/-- The payload declares a finite number of units, or none. -/
def DeclaresFinite (payload : List (String × Json)) : Prop :=
  match payload.lookup "estimated_cost_units" with
  | none | some (.bool _) | some (.int _) | some (.float (.finite _)) | some (.float .negZero) => True
  | _ => False

/-- Whether the declared cost is finite can be computed. -/
instance (payload : List (String × Json)) : Decidable (DeclaresFinite payload) := by
  unfold DeclaresFinite
  split <;> infer_instance

section Gate

variable [Platform]

/-- Work names an approval and a target for its action. -/
def Work.Names (work : Work) (approval_id : String) (target : Json) : Prop :=
  ∃ approval, payloadValue "approval_id" work.payload = some approval ∧
    boundText approval = .ok (some approval_id) ∧
    payloadValue "action_target" work.payload = some target

omit [Platform] in
/-- The use that work makes of an approval. -/
def Work.use (work : Work) (policy : ActionPolicy) (approval_id : String) (target : Json) :
    Consumption where
  approval_id := approval_id
  action_type := policy.name
  target := target
  scope := some work.owner_scope

/-- An approval has not ended by a clock, as instants. -/
def Unexpired (row : ApprovalRow) (clock : Reading) : Prop :=
  ∃ expires, ReadsAs row.expires_at expires ∧ clock.utc.instant < expires.instant

/-- What holds in the world a handler was invoked from, and of the approval in the world after it. -/
structure HandlerAllowed (work : Work) (policy : ActionPolicy) (world last : World) : Prop where
  /-- There is no receipt of the work. -/
  unexecuted : ∀ work_id, given work.id = some work_id →
    world.db.action_executions.find? work_id = none
  running : world.db.kill_switch ≠ "ON"
  named : policy.name = work.task_type
  permitted : policy.prohibited = false
  inScope : work.owner_scope.text ∈ policy.allowed_scopes
  /-- A positive estimate is there exactly for an action that bears cost. -/
  costed : ∃ estimated, estimatedCost work.payload = .ok estimated ∧
    (isAboveZero estimated = true ↔ policy.cost_bearing = true)
  /-- An action that has to be approved was, by an approval of exactly this action. -/
  approved : policy.external_effect = true ∨ policy.reversible = false ∨
      policy.approval_required = true →
    policy.approval_required = true ∧ ∃ approval_id row, work.Names approval_id (.str row.target) ∧
      world.db.approval? approval_id = some row ∧ row.action_type = policy.name ∧
      row.scope = work.owner_scope ∧ row.status = .APPROVED ∧ Unexpired row world.clock ∧
      last.db.approval? approval_id =
        some { row with status := if row.reusable then .APPROVED else .CONSUMED }

/-- Only audit events were added to a world. -/
structure OnlyAudited (world last : World) (events : List AuditRow) : Prop where
  database : last.db = { world.db with audit_log := world.db.audit_log ++ events }
  effects : last.effects = world.effects
  clock : last.clock = world.clock

/-- An event is a decision by policy about work. -/
def AuditRow.decides (event : AuditRow) (actor : Actor) (work : Work) (result : AuditResult) :
    Prop :=
  event.action = "POLICY_DECISION" ∧ event.actor_id = actor.id ∧ event.result = result ∧
    event.affected_record_id = work.id

/-- The gate before the handlers, for one execution that runs alone. -/
structure PolicyGate (registry : ActionRegistry) (store : Store) (actor : Actor) (work : Work)
    (world : World) : Prop where
  /-- A handler is invoked only once, where it is allowed. -/
  handled : ((registry.execute store actor work).run world).2.effects ≠ world.effects →
    ∃ entry approval_id, registry.entry? work.task_type = some entry ∧
      ((registry.execute store actor work).run world).2.effects =
        .handled work.id entry.1.name approval_id :: world.effects ∧
      HandlerAllowed work entry.1 world ((registry.execute store actor work).run world).2
  /-- A refusal by policy adds audit events, one of them about the decision, and changes nothing. -/
  refused : ∀ reason required,
    ((registry.execute store actor work).run world).1 = .error (.policy_denied reason required) →
    ((registry.execute store actor work).run world).2.effects = world.effects →
    ∃ events, OnlyAudited world ((registry.execute store actor work).run world).2 events ∧
      ∃ event ∈ events, event.decides actor work .DENIED
  /-- Where a refusal was raised at all, by a handler if not before it, a decision was recorded. -/
  decided : ∀ reason required,
    ((registry.execute store actor work).run world).1 = .error (.policy_denied reason required) →
    ∃ events, ((registry.execute store actor work).run world).2.db.audit_log =
        world.db.audit_log ++ events ∧
      ∃ event ∈ events, ∃ result, event.decides actor work result
  /-- A result that is there for the action is returned again, and that is recorded. -/
  replayed : ∀ work_id row, given work.id = some work_id →
    world.db.action_executions.find? work_id = some row → row.task_type = work.task_type →
    row.result ≠ .null →
    ((registry.execute store actor work).run world).1 = .ok row.result ∧
      ∃ events, OnlyAudited world ((registry.execute store actor work).run world).2 events ∧
        ∃ event ∈ events, event.decides actor work .ALLOWED

/-- The code finds no result of the work: there is no receipt, or one that holds null. -/
def Work.Fresh (work : Work) (world : World) : Prop :=
  ∀ work_id row, given work.id = some work_id →
    world.db.action_executions.find? work_id = some row →
    row.task_type = work.task_type ∧ row.result = .null

/-- The checks pass work under an entry of the registry, with the approval it names if it needs one. -/
structure Passed (registry : ActionRegistry) (store : Store) (actor : Actor) (work : Work)
    (world : World) (entry : ActionPolicy × Handler) (estimated : Number)
    (approval : Option (String × ApprovalRow)) : Prop where
  running : world.db.kill_switch ≠ "ON"
  registered : registry.entry? work.task_type = some entry
  inScope : scopeRefusal entry.1 work = none
  declared : estimatedCost work.payload = .ok estimated
  costed : policyRefusal entry.1 estimated = none
  unneeded : entry.1.approval_required = false → approval = none
  approved : entry.1.approval_required = true → ∃ approval_id target row,
    approval = some (approval_id, row) ∧ work.Names approval_id target ∧
      world.db.approval? approval_id = some row ∧
      consumeRefusal store actor (work.use entry.1 approval_id target)
        world.clock.utc.isoformat (some row) = none

/--
What the gate relies on where all of its checks pass: there is no receipt that holds null, and the
text of the end of the approval is of a time and sorts with the text of the clock as their instants.
-/
def GateRelies (registry : ActionRegistry) (store : Store) (actor : Actor) (work : Work)
    (world : World) : Prop :=
  work.Fresh world → ∀ entry estimated approval,
    Passed registry store actor work world entry estimated approval →
    (∀ work_id, given work.id = some work_id →
      world.db.action_executions.find? work_id = none) ∧
    ∀ approval_id row, approval = some (approval_id, row) →
      ∃ expires, ReadsAs row.expires_at expires ∧
        SortAsInstants world.clock.utc.isoformat row.expires_at world.clock.utc expires

namespace OnlyAudited

variable {world middle last : World} {first second : List AuditRow}

omit [Platform] in
/-- Nothing is audited where nothing happens. -/
theorem refl (world : World) : OnlyAudited world world [] :=
  ⟨by simp, rfl, rfl⟩

omit [Platform] in
/-- What is audited by one step and by another one is audited by both. -/
theorem trans (before : OnlyAudited world middle first) (after : OnlyAudited middle last second) :
    OnlyAudited world last (first ++ second) := by
  refine ⟨?_, after.effects.trans before.effects, after.clock.trans before.clock⟩
  rw [after.database, before.database, List.append_assoc]

end OnlyAudited

/-- The event that an audit adds to a world. -/
def World.auditRow (actor : Actor) (action : String) (result : AuditResult) (reason : String)
    (record_id : Option String) (details : List (String × Json)) (correlation_id : Option String)
    (world : World) : AuditRow where
  event_id := Platform.uuid4 world.drawn
  occurred_at := world.clock.utc.isoformat
  actor_id := actor.id
  action := action
  result := result
  policy_reason := (auditEvidence result reason details).1
  affected_record_id := record_id
  correlation_id := correlation_id.getD (Platform.uuid4 (world.drawn + 1))
  details := (auditEvidence result reason details).2

/-- An audit adds its event and nothing else. -/
theorem OnlyAudited.audit (actor : Actor) (action : String) (result : AuditResult)
    (reason : String) (record_id : Option String) (details : List (String × Json))
    (correlation_id : Option String) (world : World) :
    OnlyAudited world (world.audit actor action result reason record_id details correlation_id)
      [world.auditRow actor action result reason record_id details correlation_id] :=
  ⟨rfl, rfl, rfl⟩

/-- Recording a decision adds an event that decides about the work. -/
theorem run_record_policy_decision (actor : Actor) (work : Work) (allowed : Bool)
    (reason : String) (details : List (String × Json)) (world : World) :
    ∃ last events, (record_policy_decision actor work.id allowed reason details).run world =
        (.ok (), last) ∧ OnlyAudited world last events ∧
      ∃ event ∈ events, event.decides actor work (if allowed then .ALLOWED else .DENIED) := by
  refine ⟨_, _, rfl, .audit _ _ _ _ _ _ _ world, _, .head _, rfl, rfl, rfl, rfl⟩

/-- The whole run of a consumption without conditions, at the time of the clock. -/
theorem run_consume_approval_now (store : Store) (actor : Actor) (use : Consumption)
    (world : World) (unconditional : use.conditions = none) (untimed : use.at_ = none) :
    (∃ row, world.db.approval? use.approval_id = some row ∧
        consumeRefusal store actor use world.clock.utc.isoformat (some row) = none ∧
        (consume_approval store actor use).run world =
          (.ok (), grantConsumption actor use row.reusable world)) ∨
      ∃ reason, (∀ row, world.db.approval? use.approval_id = some row →
          consumeRefusal store actor use world.clock.utc.isoformat (some row) ≠ none) ∧
        (consume_approval store actor use).run world =
          (.error (.authorization reason), refuseConsumption actor use reason world) := by
  have clean : use.secret = false := by rw [Consumption.secret, unconditional]; rfl
  have timed : (timeOr use.at_).run world = (.ok world.clock.utc.isoformat, world) := by
    rw [untimed]; rfl
  rw [consume_approval, clean, if_neg (by simp), select, Prog.run_bind, Prog.run_read]
  dsimp only
  rw [Prog.run_bind, timed]
  dsimp only
  -- The approval is missing, refused for a reason, or consumed.
  cases found : world.db.approval? use.approval_id with
  | none => exact .inr ⟨_, (by rintro _ ⟨⟩), rfl⟩
  | some row =>
    cases judged : consumeRefusal store actor use world.clock.utc.isoformat (some row) with
    | none => exact .inl ⟨row, rfl, judged, rfl⟩
    | some reason =>
      refine .inr ⟨reason, fun other there => ?_, rfl⟩
      cases there
      rw [judged]
      simp

/-- What a world was changed to by the approval that work consumed. -/
structure Spent (approval : Option (String × ApprovalRow)) (world last : World)
    (events : List AuditRow) : Prop where
  recorded : last.db.audit_log = world.db.audit_log ++ events
  effects : last.effects = world.effects
  clock : last.clock = world.clock
  approval : ∀ approval_id row, approval = some (approval_id, row) →
    last.db.approval? approval_id =
      some { row with status := if row.reusable then row.status else .CONSUMED }

/-- The row of an approval after it was consumed. -/
theorem approval?_grantConsumption {actor : Actor} {use : Consumption} {row : ApprovalRow}
    {world : World} (found : world.db.approval? use.approval_id = some row) :
    (grantConsumption actor use row.reusable world).db.approval? use.approval_id =
      some { row with status := if row.reusable then row.status else .CONSUMED } := by
  have named : row.record_id = use.approval_id := by simpa using List.find?_some found
  -- A reusable approval stays as it is, and any other one is marked as consumed.
  by_cases reusable : row.reusable = true
  · rw [grantConsumption, if_pos reusable, if_pos reusable]
    exact found
  · rw [grantConsumption, if_neg reusable, if_neg reusable]
    show (setApproval use.approval_id .CONSUMED world).db.approval? use.approval_id = _
    rw [approval?_setApproval, found, Option.map_some, if_pos named]

/-- A granted consumption spends the approval and records that. -/
theorem spent_grantConsumption (actor : Actor) {use : Consumption} {row : ApprovalRow}
    {world : World} (found : world.db.approval? use.approval_id = some row) :
    ∃ events, Spent (some (use.approval_id, row)) world
      (grantConsumption actor use row.reusable world) events := by
  refine ⟨[World.auditRow actor "CONSUME_APPROVAL" .ALLOWED "Exact active approval matched"
    (some use.approval_id) use.details none
    (if row.reusable then world else setApproval use.approval_id .CONSUMED world)], ?_, ?_, ?_, ?_⟩
  · rw [grantConsumption]
    cases row.reusable <;> rfl
  · rw [grantConsumption]
    cases row.reusable <;> rfl
  · rw [grantConsumption]
    cases row.reusable <;> rfl
  · rintro approval_id other same
    cases same
    exact approval?_grantConsumption found

/-- A refused consumption adds an event. -/
theorem onlyAudited_refuseConsumption (actor : Actor) (use : Consumption) (reason : String)
    (world : World) : ∃ events, OnlyAudited world (refuseConsumption actor use reason world) events :=
  ⟨_, .audit _ _ _ _ _ _ _ world⟩

omit [Platform] in
/-- An error is raised again, as a refusal by policy where it was one of authorization. -/
theorem run_refusedByPolicy {α : Type} (error : Error) (world : World) :
    (refusedByPolicy error : Op α).run world = (.error (match error with
      | .authorization message => .policy_denied message true
      | .policy_denied reason _ => .policy_denied reason true
      | other => other), world) := by
  cases error <;> rfl

/-- A consumption by work is granted and recorded, or adds an event and is refused by policy. -/
theorem run_consumeRequired (store : Store) (actor : Actor) (policy : ActionPolicy) (work : Work)
    (world : World) :
    (∃ approval last events, (consumeRequired store actor policy work).run world =
        (.ok (approval.map (·.1)), last) ∧ Spent approval world last events ∧
      (policy.approval_required = false → approval = none) ∧
      (policy.approval_required = true → ∃ approval_id target row,
        approval = some (approval_id, row) ∧ work.Names approval_id target ∧
          world.db.approval? approval_id = some row ∧
          consumeRefusal store actor (work.use policy approval_id target)
            world.clock.utc.isoformat (some row) = none)) ∨
    ∃ error last events, (consumeRequired store actor policy work).run world =
        (.error error, last) ∧ OnlyAudited world last events ∧
      policy.approval_required = true ∧ ∀ approval_id target row, work.Names approval_id target →
        world.db.approval? approval_id = some row →
        consumeRefusal store actor (work.use policy approval_id target)
          world.clock.utc.isoformat (some row) ≠ none := by
  rw [consumeRequired]
  cases required : policy.approval_required with
  | false =>
    refine .inl ⟨none, world, [], rfl, ⟨by simp, rfl, rfl, by nofun⟩, fun _ => rfl, by nofun⟩
  | true =>
    rw [if_neg (by simp)]
    split
    case h_2 unnamed =>
      refine .inr ⟨_, world, [], rfl, .refl world, rfl, ?_⟩
      rintro approval_id target row ⟨approval, given, bound, aimed⟩
      exact absurd aimed (unnamed _ _ given)
    case h_1 approval target given aimed =>
      rw [Prog.run_catch, run_lift_bind]
      -- The value names one approval, names none, or is of a kind that cannot be bound.
      have only : ∀ {approval_id other}, work.Names approval_id other →
          boundText approval = .ok (some approval_id) ∧ other = target := by
        rintro approval_id other ⟨value, there, bound, aim⟩
        rw [given] at there
        rw [aimed] at aim
        cases there
        cases aim
        exact ⟨bound, rfl⟩
      cases bound : boundText approval with
      | error error =>
        refine .inr ⟨_, world, [], run_refusedByPolicy error world, .refl world, rfl, ?_⟩
        intro approval_id other row names
        rw [bound] at only
        cases (only names).1
      | ok named =>
        cases named with
        | none =>
          refine .inr ⟨_, _, _, rfl, .audit _ _ _ _ _ _ _ world, rfl, ?_⟩
          intro approval_id other row names
          rw [bound] at only
          cases (only names).1
        | some approval_id =>
          dsimp only
          rw [consumeNamed, Prog.run_bind]
          dsimp only
          rcases run_consume_approval_now store actor (work.use policy approval_id target) world
              rfl rfl with
            ⟨row, found, covered, ran⟩ | ⟨reason, refused, ran⟩
          · obtain ⟨events, spent⟩ := spent_grantConsumption actor found
            refine .inl ⟨some (approval_id, row), _, events, ?_, spent, by nofun, fun _ =>
              ⟨approval_id, target, row, rfl, ⟨approval, given, bound, aimed⟩, found, covered⟩⟩
            rw [Work.use] at ran
            rw [ran]
            rfl
          · obtain ⟨events, audited⟩ := onlyAudited_refuseConsumption actor
              (work.use policy approval_id target) reason world
            refine .inr ⟨.policy_denied reason true, _, events, ?_, audited, rfl, ?_⟩
            · rw [Work.use] at ran
              rw [ran]
              rfl
            · intro other_id other row names
              rw [bound] at only
              obtain ⟨same, rfl⟩ := only names
              cases same
              exact refused row

omit [Platform] in
/-- A refusal there is a reason for is raised, and nothing else happens. -/
theorem run_denyFor_bind {α : Type} (reason : Option String) (rest : Unit → Op α) (world : World) :
    (lift (denyFor reason) >>= rest).run world = match reason with
      | some reason => (.error (.policy_denied reason false), world)
      | none => (rest ()).run world := by
  cases reason <;> rfl

/-- All checks pass, and the approval is spent, or work is refused with nothing but audit events. -/
theorem run_permitWork (registry : ActionRegistry) (store : Store) (actor : Actor) (work : Work)
    (world : World) :
    (∃ entry estimated approval last events, (permitWork registry store actor work).run world =
        (.ok (entry, estimated, approval.map (·.1)), last) ∧ Spent approval world last events ∧
      Passed registry store actor work world entry estimated approval) ∨
    ∃ error last events, (permitWork registry store actor work).run world = (.error error, last) ∧
      OnlyAudited world last events ∧ ∀ entry estimated approval,
        ¬Passed registry store actor work world entry estimated approval := by
  rw [permitWork, kill_switch_enabled, Prog.run_bind, Prog.run_read]
  dsimp only
  rw [run_denyFor_bind]
  -- The checks follow each other, and each one that fails excludes that all of them pass.
  by_cases killed : world.db.kill_switch = "ON"
  · rw [if_pos (by simpa using killed)]
    exact .inr ⟨_, _, _, rfl, .refl world, fun _ _ _ passed => passed.running killed⟩
  rw [if_neg (by simpa using killed)]
  dsimp only
  cases registered : registry.entry? work.task_type with
  | none =>
    refine .inr ⟨_, _, _, rfl, .refl world, fun _ _ _ passed => ?_⟩
    rw [passed.registered] at registered
    cases registered
  | some entry =>
    have same : ∀ {other estimated approval},
        Passed registry store actor work world other estimated approval → other = entry := by
      intro other estimated approval passed
      have there := passed.registered
      rw [registered] at there
      exact (Option.some.inj there).symm
    dsimp only
    rw [run_denyFor_bind]
    cases inScope : scopeRefusal entry.1 work with
    | some reason =>
      refine .inr ⟨_, _, _, rfl, .refl world, fun _ _ _ passed => ?_⟩
      have there := passed.inScope
      rw [same passed, inScope] at there
      cases there
    | none =>
      dsimp only
      rw [run_lift_bind]
      cases declared : estimatedCost work.payload with
      | error error =>
        refine .inr ⟨_, _, _, rfl, .refl world, fun _ _ _ passed => ?_⟩
        have there := passed.declared
        rw [declared] at there
        cases there
      | ok estimated =>
        dsimp only
        rw [run_denyFor_bind]
        cases costed : policyRefusal entry.1 estimated with
        | some reason =>
          refine .inr ⟨_, _, _, rfl, .refl world, fun _ other _ passed => ?_⟩
          have there := passed.declared
          rw [declared] at there
          have refused := passed.costed
          rw [same passed, ← Except.ok.inj there, costed] at refused
          cases refused
        | none =>
          dsimp only
          rw [Prog.run_bind]
          rcases run_consumeRequired store actor entry.1 work world with
            ⟨approval, last, events, ran, spent, unneeded, approved⟩ |
            ⟨error, last, events, ran, audited, required, refused⟩
          · refine .inl ⟨entry, estimated, approval, last, events, ?_, spent,
              ⟨killed, registered, inScope, declared, costed, unneeded, approved⟩⟩
            rw [ran]
            rfl
          · refine .inr ⟨error, last, events, ?_, audited, fun _ _ approval passed => ?_⟩
            · rw [ran]
            · have needed := passed.approved
              rw [same passed] at needed
              obtain ⟨approval_id, target, row, _, names, found, covered⟩ := needed required
              exact refused approval_id target row names found covered

omit [Platform] in
/-- The result of work is found, or there is none, or it is of another action. -/
theorem run_storedResult (work : Work) (world : World) :
    (∃ work_id row, given work.id = some work_id ∧
        world.db.action_executions.find? work_id = some row ∧ row.task_type = work.task_type ∧
        row.result ≠ .null ∧ (storedResult work).run world = (.ok (some row.result), world)) ∨
      (work.Fresh world ∧ (storedResult work).run world = (.ok none, world)) ∨
      (∃ work_id row, given work.id = some work_id ∧
        world.db.action_executions.find? work_id = some row ∧ row.task_type ≠ work.task_type) ∧
        ∃ message, (storedResult work).run world = (.error (.validation message), world) := by
  rw [storedResult, Work.Fresh]
  -- There is nothing stored for work without a name, or under no key.
  cases named : given work.id with
  | none => exact .inr (.inl ⟨by nofun, rfl⟩)
  | some work_id =>
    dsimp only
    rw [completed_action_result, Prog.run_bind, Prog.run_read]
    dsimp only
    cases found : world.db.action_executions.find? work_id with
    | none =>
      refine .inr (.inl ⟨?_, rfl⟩)
      intro other row same there
      cases same
      rw [found] at there
      cases there
    | some row =>
      dsimp only
      -- What is stored for another task is refused, and nothing that is stored counts as nothing.
      by_cases other : row.task_type = work.task_type
      · rw [if_neg (by simpa using other)]
        by_cases null : row.result = .null
        · refine .inr (.inl ⟨?_, by rw [if_pos null]; rfl⟩)
          intro again item same there
          cases same
          rw [found] at there
          cases there
          exact ⟨other, null⟩
        · exact .inl ⟨work_id, row, rfl, found, other, null, by rw [if_neg null]; rfl⟩
      · rw [if_pos other]
        exact .inr (.inr ⟨⟨work_id, row, rfl, found, other⟩, _, rfl⟩)

/-- What a step after the handler was invoked leaves as it was, and where it only adds. -/
structure Recorded (world last : World) : Prop where
  approvals : last.db.approvals = world.db.approvals
  effects : last.effects = world.effects
  audit_log : ∃ events, last.db.audit_log = world.db.audit_log ++ events

namespace Recorded

variable {world middle last : World}

omit [Platform] in
/-- A world is recorded in itself. -/
theorem refl (world : World) : Recorded world world := ⟨rfl, rfl, [], by simp⟩

omit [Platform] in
/-- What two steps record is recorded by both. -/
theorem trans (before : Recorded world middle) (after : Recorded middle last) :
    Recorded world last := by
  -- The log of the second step goes behind the one of the first.
  obtain ⟨first, early⟩ := before.audit_log
  obtain ⟨second, late⟩ := after.audit_log
  refine ⟨after.approvals.trans before.approvals, after.effects.trans before.effects,
    first ++ second, ?_⟩
  rw [late, early, List.append_assoc]

end Recorded

/-- Storing a result only records. -/
theorem recorded_storeResult (actor : Actor) (work : Work) (name : String) (result : Json)
    (world : World) : Recorded world ((storeResult actor work name result).run world).2 := by
  refine Prog.Keeps.run Recorded.refl (fun _ _ _ => Recorded.trans) ?_ world
  -- The steps look, audit or insert, and no insertion touches the log or the approvals.
  have audited : ∀ (action : String) (outcome : AuditResult) (reason : String)
      (record_id : Option String) (details : List (String × Json)),
      Prog.Keeps (fun _ _ => True) (fun _ => Recorded)
        (_audit actor action outcome reason record_id details none) :=
    fun _ _ _ _ _ => .write fun world _ => ⟨rfl, rfl, _, rfl⟩
  unfold storeResult
  split
  case h_2 => exact trivial
  unfold record_action_result
  dsimp only
  split
  · exact Prog.Keeps.bind (audited _ _ _ _ _) fun _ => trivial
  refine Prog.Keeps.bind (.read fun world _ => .refl world) fun found => ?_
  refine Prog.Keeps.bind ?_ fun cost => ?_
  · cases recordedCost (found.map (·.payload)) <;> exact trivial
  refine Prog.Keeps.bind (.read fun world _ => .refl world) fun stamp => ?_
  refine Prog.Keeps.bind (.transact fun world _ => ?_) fun _ => audited _ _ _ _ _
  split
  · exact .refl world
  split
  · exact .refl world
  · exact ⟨rfl, rfl, [], by simp⟩

/-- An execution that passed its checks invokes the handler once, and then only records. -/
theorem run_execute_passed {registry : ActionRegistry} {store : Store} {actor : Actor} {work : Work}
    {world middle : World} {entry : ActionPolicy × Handler} {estimated : Number}
    {approval : Option (String × ApprovalRow)} {events : List AuditRow}
    (unstored : (storedResult work).run world = (.ok none, world))
    (permitted : (permitWork registry store actor work).run world =
      (.ok (entry, estimated, approval.map (·.1)), middle))
    (spent : Spent approval world middle events) :
    ∃ last, ((registry.execute store actor work).run world).2 = last ∧
      last.effects = .handled work.id entry.1.name (approval.map (·.1)) :: world.effects ∧
      last.db.approvals = middle.db.approvals ∧
      ∃ later, last.db.audit_log = world.db.audit_log ++ later ∧
        ∃ event ∈ later, event.decides actor work .ALLOWED := by
  obtain ⟨decided, decision, ran, audited, event, there, decides⟩ :=
    run_record_policy_decision actor work true "Registered action policy satisfied"
      [("task_type", .str entry.1.name), ("tool", .str "registered_handler"),
        ("cost_units", .float estimated), ("evidence", .arr (payloadEvidence work.payload)),
        ("rollback_status", .str (if entry.1.reversible then "AVAILABLE" else "NOT_AVAILABLE")),
        ("outcome", .str "AUTHORIZED")] middle
  refine ⟨_, rfl, ?_⟩
  rw [ActionRegistry.execute, Prog.run_bind, unstored]
  dsimp only
  rw [Prog.run_bind, Prog.run_catch, permitted]
  dsimp only
  rw [Prog.run_bind, ran]
  dsimp only
  rw [Prog.run_bind, invoke, Prog.run_bind, Prog.run_write]
  dsimp only
  rw [run_lift]
  -- The world in which the handler was invoked differs from that of the decision by the effect.
  have effects : decided.effects = world.effects := audited.effects.trans spent.effects
  have approvals : decided.db.approvals = middle.db.approvals := by rw [audited.database]
  have recorded : decided.db.audit_log = world.db.audit_log ++ (events ++ decision) := by
    rw [audited.database, ← List.append_assoc, ← spent.recorded]
  have found : event ∈ events ++ decision := List.mem_append_right _ there
  cases entry.2 work.payload with
  | error error =>
    dsimp only
    refine ⟨?_, approvals, _, recorded, event, found, decides⟩
    show _ :: decided.effects = _
    rw [effects]
  | ok result =>
    dsimp only
    rw [Prog.run_bind]
    have stored := recorded_storeResult actor work entry.1.name result { decided with
      effects := .handled work.id entry.1.name (approval.map (·.1)) :: decided.effects }
    obtain ⟨more, log⟩ := stored.audit_log
    have kept := stored.effects
    have same := stored.approvals
    -- Whether storing the result raises or not, the world it leaves is the last one.
    generalize (storeResult actor work entry.1.name result).run { decided with
      effects := .handled work.id entry.1.name (approval.map (·.1)) :: decided.effects } = ended
      at log kept same
    obtain ⟨outcome, last⟩ := ended
    have settled : last.effects =
          .handled work.id entry.1.name (approval.map (·.1)) :: world.effects ∧
        last.db.approvals = middle.db.approvals ∧
        ∃ later, last.db.audit_log = world.db.audit_log ++ later ∧
          ∃ event ∈ later, event.decides actor work .ALLOWED := by
      refine ⟨?_, same.trans approvals, events ++ decision ++ more, ?_, event,
        List.mem_append_left _ found, decides⟩
      · rw [kept, effects]
      · rw [log, recorded, List.append_assoc]
    cases outcome <;> exact settled

/-- An execution that a check stopped raises what the check raised, and records a refusal. -/
theorem run_execute_refused {registry : ActionRegistry} {store : Store} {actor : Actor}
    {work : Work} {world middle : World} {error : Error} {events : List AuditRow}
    (unstored : (storedResult work).run world = (.ok none, world))
    (refused : (permitWork registry store actor work).run world = (.error error, middle))
    (audited : OnlyAudited world middle events) :
    ∃ last later, (registry.execute store actor work).run world = (.error error, last) ∧
      OnlyAudited world last later ∧ (∀ reason required, error = .policy_denied reason required →
        ∃ event ∈ later, event.decides actor work .DENIED) := by
  rw [ActionRegistry.execute, Prog.run_bind, unstored]
  dsimp only
  rw [Prog.run_bind, Prog.run_catch, refused]
  dsimp only
  -- A refusal by the policy is recorded as a decision, and any other error is passed on.
  cases error with
  | policy_denied reason required =>
    obtain ⟨decided, decision, ran, recorded, event, there, decides⟩ :=
      run_record_policy_decision actor work false reason
        [("task_type", .str work.task_type), ("tool", .str "policy_registry"),
          ("rollback_status", .str "NOT_STARTED"), ("outcome", .str "DENIED")] middle
    refine ⟨decided, events ++ decision, ?_, audited.trans recorded,
      fun _ _ _ => ⟨event, List.mem_append_right _ there, decides⟩⟩
    rw [refuseWork, Prog.run_bind, ran]
    rfl
  | _ => exact ⟨middle, events, rfl, audited, by nofun⟩

/-- A stored result is returned with a decision. -/
theorem run_execute_replayed (registry : ActionRegistry) (store : Store) (actor : Actor)
    {work : Work} {world : World} {result : Json}
    (stored : (storedResult work).run world = (.ok (some result), world)) :
    ∃ last events, (registry.execute store actor work).run world = (.ok result, last) ∧
      OnlyAudited world last events ∧ ∃ event ∈ events, event.decides actor work .ALLOWED := by
  -- The result is stored, so only the decision is recorded and no handler runs.
  obtain ⟨decided, decision, ran, audited, event, there, decides⟩ :=
    run_record_policy_decision actor work true
      "Returning durable result; handler replay suppressed" [("task_type", .str work.task_type)]
      world
  refine ⟨decided, decision, ?_, audited, event, there, decides⟩
  rw [ActionRegistry.execute, Prog.run_bind, stored]
  dsimp only
  rw [Prog.run_bind, ran]
  rfl

/-- Work names one approval and one target. -/
theorem Work.Names.unique {work : Work} {one two : String} {near far : Json}
    (first : work.Names one near) (second : work.Names two far) : one = two ∧ near = far := by
  -- Both are read from the same members of the payload.
  obtain ⟨value, given, bound, aimed⟩ := first
  obtain ⟨again, there, same, target⟩ := second
  rw [given] at there
  cases there
  rw [bound] at same
  rw [aimed] at target
  cases same
  cases target
  exact ⟨rfl, rfl⟩

/-- The cost of a payload that declares a finite number, or none, is a number. -/
theorem estimatedCost_ne_nan {payload : List (String × Json)} {estimated : Number}
    (finite : DeclaresFinite payload) (declared : estimatedCost payload = .ok estimated) :
    estimated ≠ .nan := by
  -- Rounding makes a finite number or an infinite one.
  have rounded : ∀ value : ℚ, Double.round value ≠ .nan := by
    intro value
    rw [Double.round]
    split
    · simp
    dsimp only
    split
    · simp
    split
    · simp
    · simp
  -- A whole number is rounded, and a number that is too large is refused.
  have whole : ∀ value : ℤ, toFloat (.int value) = .ok estimated → estimated ≠ .nan := by
    intro value converted
    rw [toFloat] at converted
    split at converted
    next number kept =>
      cases converted
      rw [Double.ofInt] at kept
      split at kept
      · cases kept
      · cases kept
        exact rounded _
    next => cases converted
  rw [DeclaresFinite] at finite
  rw [estimatedCost] at declared
  split at finite
  next absent => rw [absent] at declared; exact whole 0 declared
  next value found =>
    rw [found] at declared
    cases declared
    simp
  next value found => rw [found] at declared; exact whole value declared
  next value found =>
    rw [found] at declared
    cases declared
    simp
  next found =>
    rw [found] at declared
    cases declared
    simp
  next => exact finite.elim

omit [Platform] in
/-- What a policy that permits work of some cost says: the cost is declared, and the approval due. -/
theorem permitted_of_policyRefusal {policy : ActionPolicy} {estimated : Number}
    (number : estimated ≠ .nan) (permitted : policyRefusal policy estimated = none) :
    (isAboveZero estimated = true ↔ policy.cost_bearing = true) ∧
      (policy.external_effect = true ∨ policy.reversible = false ∨ policy.approval_required = true →
        policy.approval_required = true) := by
  have above : isAtMostZero estimated = false → isAboveZero estimated = true := by
    cases estimated with
    | finite value =>
      intro greater
      simpa [isAtMostZero, isAboveZero] using greater
    | negZero => simp [isAtMostZero]
    | infinite negative => cases negative <;> simp [isAtMostZero, isAboveZero]
    | nan => exact absurd rfl number
  -- The four checks of the source are passed in turn.
  rw [policyRefusal] at permitted
  split at permitted
  · cases permitted
  next bearing =>
  split at permitted
  · cases permitted
  next estimate =>
  split at permitted
  · cases permitted
  next external =>
  split at permitted
  · cases permitted
  next reversible =>
  refine ⟨⟨fun positive => ?_, fun bears => ?_⟩, ?_⟩
  · simpa [positive] using bearing
  · exact above (by simpa [bears] using estimate)
  · rintro (effect | final | required)
    · simpa [effect] using external
    · simpa [final] using reversible
    · exact required

omit [Platform] in
/-- The text of a clock is read as its time. -/
theorem readsAs_clock (clock : Reading) : ReadsAs clock.utc.isoformat clock.utc :=
  ⟨fromisoformat_isoformat _, rfl⟩

omit [Platform] in
/-- An approval that covers a use by its texts is unexpired exactly where these sort as instants. -/
theorem unexpired_iff {store : Store} {actor : Actor} {use : Consumption} {row : ApprovalRow}
    {clock : Reading}
    (covered : consumeRefusal store actor use clock.utc.isoformat (some row) = none) :
    Unexpired row clock ↔ ∃ expires, ReadsAs row.expires_at expires ∧
      SortAsInstants clock.utc.isoformat row.expires_at clock.utc expires := by
  obtain ⟨_, _, _, _, early⟩ := covered_of_consumeRefusal covered
  -- Both sides read the end of the approval, so only the comparisons are left to compare.
  refine exists_congr fun expires => and_congr_right fun readable => ?_
  rw [← sortAsInstants_iff (readsAs_clock clock) readable]
  constructor
  · intro later
    exact ⟨fun late => absurd late early, fun ended => absurd ended (not_le.mpr later)⟩
  · intro agree
    exact not_le.mp fun ended => early (agree.mpr ended)

/-- The handler is allowed wherever the checks passed, if what the gate relies on is there. -/
theorem handlerAllowed_of_passed {registry : ActionRegistry} {store : Store} {actor : Actor}
    {work : Work} {world middle last : World} {entry : ActionPolicy × Handler} {estimated : Number}
    {approval : Option (String × ApprovalRow)} {events : List AuditRow}
    (finite : DeclaresFinite work.payload) (fresh : work.Fresh world)
    (relies : GateRelies registry store actor work world)
    (passed : Passed registry store actor work world entry estimated approval)
    (spent : Spent approval world middle events) (kept : last.db.approvals = middle.db.approvals) :
    HandlerAllowed work entry.1 world last := by
  -- What the gate does not check itself is what it relies on.
  obtain ⟨unexecuted, unexpired⟩ := relies fresh entry estimated approval passed
  obtain ⟨costed, due⟩ :=
    permitted_of_policyRefusal (estimatedCost_ne_nan finite passed.declared) passed.costed
  have scoping := passed.inScope
  rw [scopeRefusal] at scoping
  split at scoping
  · cases scoping
  next permitted =>
  split at scoping
  · cases scoping
  next inScope =>
  have named : entry.1.name = work.task_type := by
    have found := passed.registered
    rw [ActionRegistry.entry?] at found
    simpa using List.find?_some found
  refine ⟨unexecuted, passed.running, named, by simpa using permitted, by simpa using inScope,
    ⟨estimated, passed.declared, costed⟩, fun needed => ⟨due needed, ?_⟩⟩
  -- The approval that was consumed is the one the payload names.
  obtain ⟨approval_id, target, row, taken, names, found, covered⟩ := passed.approved (due needed)
  obtain ⟨sameScope, approved, sameAction, aimed, _⟩ := covered_of_consumeRefusal covered
  refine ⟨approval_id, row, ?_, found, sameAction, ?_, approved,
    (unexpired_iff covered).mpr (unexpired approval_id row taken), ?_⟩
  · rw [aimed]
    exact names
  · simpa [Work.use] using sameScope
  · have after := spent.approval approval_id row taken
    rw [approved] at after
    rw [Database.approval?, kept]
    exact after

/--
The gate holds for an execution exactly where what it relies on is there.

The registry, the work, the actor and the world are any ones, as long as a declared cost is finite.
-/
theorem execute_gate (registry : ActionRegistry) (store : Store) (actor : Actor) (work : Work)
    (world : World) (finite : DeclaresFinite work.payload) :
    PolicyGate registry store actor work world ↔
      GateRelies registry store actor work world := by
  constructor
  · intro gate fresh entry estimated approval passed
    have unstored : (storedResult work).run world = (.ok none, world) := by
      rcases run_storedResult work world with
        ⟨work_id, row, named, found, _, filled, _⟩ | ⟨_, none⟩ |
        ⟨⟨work_id, row, named, found, other⟩, _⟩
      · exact absurd (fresh work_id row named found).2 filled
      · exact none
      · exact absurd (fresh work_id row named found).1 other
    rcases run_permitWork registry store actor work world with
      ⟨taken, cost, _, middle, events, ran, spent, _⟩ | ⟨_, _, _, _, _, refused⟩
    case inr => exact absurd passed (refused entry estimated approval)
    -- The handler was invoked, so the gate says what held.
    obtain ⟨last, ended, effects, _, _⟩ := run_execute_passed unstored ran spent
    obtain ⟨other, _, registered, _, allowed⟩ := gate.handled (by
      rw [ended, effects]
      exact List.cons_ne_self _ _)
    rw [passed.registered] at registered
    cases registered
    refine ⟨allowed.unexecuted, ?_⟩
    intro approval_id row named
    have required : entry.1.approval_required = true := by
      by_contra unneeded
      rw [passed.unneeded (by simpa using unneeded)] at named
      cases named
    obtain ⟨_, again, item, names, found, _, _, _, unexpired, _⟩ :=
      allowed.approved (.inr (.inr required))
    obtain ⟨given, target, taken, same, namesToo, there, covered⟩ := passed.approved required
    rw [named] at same
    cases same
    obtain ⟨rfl, _⟩ := names.unique namesToo
    rw [there] at found
    cases found
    exact (unexpired_iff covered).mp unexpired
  · intro relies
    rcases run_storedResult work world with
      ⟨work_id, row, named, found, same, filled, stored⟩ | ⟨fresh, unstored⟩ |
      ⟨⟨work_id, row, named, found, other⟩, message, raised⟩
    · -- The stored result is returned, whatever the checks would have said.
      obtain ⟨last, events, ran, audited, decided⟩ :=
        run_execute_replayed registry store actor stored
      refine ⟨?_, ?_, ?_, ?_⟩
      · intro handled
        rw [ran] at handled
        exact absurd audited.effects handled
      · intro reason required denied
        rw [ran] at denied
        cases denied
      · intro reason required denied
        rw [ran] at denied
        cases denied
      · intro again item other there _ _
        rw [named] at other
        cases other
        rw [found] at there
        cases there
        rw [ran]
        exact ⟨rfl, events, audited, decided⟩
    · have unreplayed : ∀ work_id row, given work.id = some work_id →
          world.db.action_executions.find? work_id = some row → row.result ≠ .null → False :=
        fun work_id row named found filled => filled (fresh work_id row named found).2
      rcases run_permitWork registry store actor work world with
        ⟨entry, estimated, approval, middle, events, permitted, spent, passed⟩ |
        ⟨error, middle, events, refused, audited, _⟩
      · obtain ⟨last, ended, effects, kept, later, recorded, decided⟩ :=
          run_execute_passed unstored permitted spent
        obtain ⟨event, there, decides⟩ := decided
        refine ⟨?_, ?_, ?_, ?_⟩
        · intro _
          rw [ended]
          exact ⟨entry, _, passed.registered, effects,
            handlerAllowed_of_passed finite fresh relies passed spent kept⟩
        · intro reason required _ same
          rw [ended, effects] at same
          exact absurd same (List.cons_ne_self _ _)
        · intro reason required _
          rw [ended]
          exact ⟨later, recorded, event, there, _, decides⟩
        · intro work_id row named found _ filled
          exact (unreplayed work_id row named found filled).elim
      · obtain ⟨last, later, ran, recorded, denied⟩ :=
          run_execute_refused unstored refused audited
        refine ⟨?_, ?_, ?_, ?_⟩
        · intro handled
          rw [ran] at handled
          exact absurd recorded.effects handled
        · intro reason required raised _
          rw [ran] at raised ⊢
          exact ⟨later, recorded, denied reason required (Except.error.inj raised)⟩
        · intro reason required raised
          rw [ran] at raised ⊢
          obtain ⟨event, there, decides⟩ := denied reason required (Except.error.inj raised)
          exact ⟨later, by rw [recorded.database], event, there, _, decides⟩
        · intro work_id row named found _ filled
          exact (unreplayed work_id row named found filled).elim
    · -- A result of another action stops the execution before any check.
      have ran : (registry.execute store actor work).run world =
          (.error (.validation message), world) := by
        rw [ActionRegistry.execute, Prog.run_bind, raised]
      refine ⟨?_, ?_, ?_, ?_⟩
      · intro handled
        rw [ran] at handled
        exact absurd rfl handled
      · intro reason required denied
        rw [ran] at denied
        cases denied
      · intro reason required denied
        rw [ran] at denied
        cases denied
      · intro again item same there type _
        rw [named] at same
        cases same
        rw [found] at there
        cases there
        exact absurd type other

end Gate

section Examples

open Sample

local instance policyGatePlatform : Platform := platform []

/-- The sample work names the sample approval. -/
theorem Sample.work_names : work.Names "00000000-0000-4000-8000-000000000000" (.str "delivery") :=
  ⟨.str "00000000-0000-4000-8000-000000000000", rfl, rfl, rfl⟩

/-- Under an approval that ends in UTC the gate holds. -/
theorem execute_gate_utc :
    PolicyGate registry ⟨.IAC⟩ .sean work (approved "2030-01-01T12:00:00+00:00") := by
  refine (execute_gate _ _ _ _ _ (by decide +kernel)).mpr ?_
  -- Both times are written in UTC, so their texts sort as the instants do.
  intro _ entry estimated approval passed
  refine ⟨by nofun, ?_⟩
  intro approval_id row taken
  have required : entry.1.approval_required = true := by
    by_contra unneeded
    rw [passed.unneeded (by simpa using unneeded)] at taken
    cases taken
  obtain ⟨given, target, item, same, names, found, _⟩ := passed.approved required
  rw [taken] at same
  cases same
  obtain ⟨rfl, _⟩ := names.unique work_names
  have only : (approved "2030-01-01T12:00:00+00:00").db.approval?
      "00000000-0000-4000-8000-000000000000" =
        some (Sample.approval "2030-01-01T12:00:00+00:00") := by decide +kernel
  rw [only] at found
  cases found
  exact ⟨moment "2030-01-01T12:00:00+00:00" (by decide +kernel), by decide +kernel,
    by decide +kernel⟩

/-- An approval that ended an hour ago, two hours east of Greenwich, still lets the handler run. -/
theorem execute_gate_expired :
    ¬PolicyGate registry ⟨.IAC⟩ .sean work (approved "2030-01-01T01:00:00+02:00") := by
  -- The approval is over for an hour, but its text sorts behind the one of the clock.
  intro gate
  obtain ⟨entry, approval_id, registered, _, allowed⟩ := gate.handled (by decide +kernel)
  have first : registry.entry? work.task_type = registry.entries.head? := by rfl
  rw [first] at registered
  cases registered
  obtain ⟨_, again, row, names, found, _, _, _, ⟨expires, readable, later⟩, _⟩ :=
    allowed.approved (.inl rfl)
  obtain ⟨rfl, _⟩ := names.unique work_names
  have only : (approved "2030-01-01T01:00:00+02:00").db.approval?
      "00000000-0000-4000-8000-000000000000" =
        some (Sample.approval "2030-01-01T01:00:00+02:00") := by decide +kernel
  rw [only] at found
  cases found
  have read : fromisoformat "2030-01-01T01:00:00+02:00" =
      some (moment "2030-01-01T01:00:00+02:00" (by decide +kernel)) := by decide +kernel
  have same := readable.1
  rw [show (Sample.approval "2030-01-01T01:00:00+02:00").expires_at = "2030-01-01T01:00:00+02:00"
    from rfl, read] at same
  cases same
  have ended : ¬(approved "2030-01-01T01:00:00+02:00").clock.utc.instant <
      (moment "2030-01-01T01:00:00+02:00" (by decide +kernel)).instant := by decide +kernel
  exact ended later

end Examples

end SeanOs
