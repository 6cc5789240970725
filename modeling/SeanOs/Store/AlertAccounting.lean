import SeanOs.Lib.JsonParse
import SeanOs.Sample
import SeanOs.Store.AlertIncidents
import SeanOs.Store.Writes

/-! The counters of alerts agree with the whole history of the calls that maintain them. -/

namespace SeanOs

open Atomic Calendar

/-- The incident a key has. -/
def Database.incidentOf (db : Database) (key : AlertKey) : Option IncidentRow :=
  db.alert_incidents.find? (·.alertKey = key)

/-- The deliveries that were staged: the key of each, and what it delivers. -/
def World.deliveries (world : World) : List (String × DeliveryColumns) :=
  world.db.alert_delivery_outbox.map fun row => (row.key, row.columns)

/-- Neither the rows about alerts nor what is staged of them differ. -/
structure SameAlerts (world changed : World) : Prop where
  observations : changed.db.alert_observations = world.db.alert_observations
  incidents : changed.db.alert_incidents = world.db.alert_incidents
  deliveries : changed.deliveries = world.deliveries

/-- No alert was observed yet. -/
structure NoAlerts (world : World) : Prop where
  observations : world.db.alert_observations = []
  incidents : world.db.alert_incidents = []
  deliveries : world.deliveries = []

/-- A call on alerts. -/
inductive AlertCall where
  | record (plan : List (Wide × Json Wide))
  | resolve (incident_id reason : String)
  | stage (plan_id : String)

/-- What a plan says, where all its texts can be stored. -/
def AlertPlan.evidence? (alert : AlertPlan) : Option AlertEvidence := do
  let plan_id ← alert.plan_id.narrow?
  let route_id ← alert.route_id.narrow?
  let code ← alert.code.narrow?
  let summary ← alert.summary.narrow?
  return ⟨plan_id, ⟨alert.scope, route_id, code⟩, alert.severity, summary⟩

/-- A call that was made: on which connection, by whom, and in which world. -/
structure Turn where
  store : Store
  actor : Actor
  call : AlertCall
  before : World

section Accounting

variable [Platform]

/-- A plan passes the checks, can be observed, and is the one its identifier stands for, if any. -/
structure Observable (store : Store) (actor : Actor) (plan : List (Wide × Json Wide))
    (world : World) (alert : AlertPlan) (plan_id route_id : String) : Prop where
  accepted : checkAlertPlan store actor plan = .ok alert
  named : alert.plan_id = Wide.of plan_id
  routed : alert.route_id = Wide.of route_id
  agrees : (world.db.observation? plan_id).all (·.plan_payload = alertPayload plan) = true

namespace Turn

variable (turn : Turn)

/-- Whether the call returned, and the world it left. -/
def ran : Bool × World :=
  match turn.call with
  | .record plan =>
    let ran := (record_alert_observation turn.store turn.actor plan).run turn.before
    (ran.1.toBool, ran.2)
  | .resolve incident_id reason =>
    let ran := (resolve_alert_incident turn.store turn.actor incident_id reason).run turn.before
    (ran.1.toBool, ran.2)
  | .stage plan_id =>
    let ran := (stage_alert_delivery turn.store turn.actor plan_id).run turn.before
    (ran.1.toBool, ran.2)

/-- The world the call left. -/
def after : World := turn.ran.2

/-- What a recording was about, if its plan was accepted and can be stored. -/
def evidence : Option AlertEvidence :=
  match turn.call with
  | .record plan => (checkAlertPlan turn.store turn.actor plan).toOption.bind AlertPlan.evidence?
  | _ => none

/-- The call records a plan that can be observed, but there is a surrogate in its code or summary. -/
def Torn : Prop := ∃ plan alert plan_id route_id, turn.call = .record plan ∧
  Observable turn.store turn.actor plan turn.before alert plan_id route_id ∧
    (alert.code.narrow? = none ∨ alert.summary.narrow? = none)

/-- Whether a plan that is recorded has a code and a summary without surrogates. -/
def storable : Bool :=
  match turn.call with
  | .record plan => (checkAlertPlan turn.store turn.actor plan).toOption.all fun alert =>
    alert.code.narrow?.isSome && alert.summary.narrow?.isSome
  | _ => true

/-- What a recording that returned was about. -/
def recorded : Option AlertEvidence := if turn.ran.1 then turn.evidence else none

/-- Whether the call successfully recorded an alert of a key. -/
def records (key : AlertKey) : Bool := turn.recorded.any (·.alertKey = key)

/-- Whether the call successfully recorded a plan. -/
def observes (plan_id : String) : Bool := turn.recorded.any (·.plan_id = plan_id)

/-- Whether the incident of a key was resolved before the call and is active after it. -/
def reopens (key : AlertKey) : Bool :=
  (turn.before.db.incidentOf key).any (·.resolved) &&
    (turn.after.db.incidentOf key).any (!·.resolved)

/-- The call staged a delivery, whose incident was active in its generation then. -/
structure Staged (delivery : String × DeliveryColumns) : Prop where
  called : turn.call = .stage delivery.2.plan_id
  fresh : delivery ∉ turn.before.deliveries
  there : delivery ∈ turn.after.deliveries
  active : ∃ incident, turn.before.db.incident? delivery.2.incident_id = some incident ∧
    incident.resolved = false ∧ incident.reopen_count = delivery.2.reopen_generation

end Turn

/-- The calls made one at a time from some world on, latest first, and the world they lead to. -/
inductive AlertHistory (start : World) : List Turn → World → Prop where
  | nil : AlertHistory start [] start
  /-- Time passes, or other operations run, which leave the rows about alerts as they are. -/
  | pass {turns : List Turn} {world later : World} (earlier : AlertHistory start turns world)
      (same : SameAlerts world later) : AlertHistory start turns later
  | call {turns : List Turn} (turn : Turn) (earlier : AlertHistory start turns turn.before) :
      AlertHistory start (turn :: turns) turn.after

/-- The texts that are digested to the identifiers of the incidents of some calls. -/
def identities (turns : List Turn) : Set String :=
  {text | ∃ turn ∈ turns, ∃ evidence ∈ turn.evidence, text = evidence.alertKey.identity.canonical}

/-- The counters of alerts agree with the calls that were made. -/
structure AlertsAccounted (turns : List Turn) (world : World) : Prop where
  /-- No two incidents have the same scope, route and code. -/
  one_incident : (world.db.alert_incidents.map (·.alertKey)).Nodup
  /-- An incident counts the successful recordings of its key, and without any there is none. -/
  occurrences : ∀ key, ((world.db.incidentOf key).map (·.occurrence_count)).getD 0 =
    turns.countP (·.records key)
  counted : ∀ incident ∈ world.db.alert_incidents, 1 ≤ incident.occurrence_count
  /-- It also counts how often it turned from resolved to active. -/
  reopenings : ∀ key, ((world.db.incidentOf key).map (·.reopen_count)).getD 0 =
    turns.countP (·.reopens key)
  one_observation : (world.db.alert_observations.map (·.plan_id)).Nodup
  /-- An observation counts the recordings of its plan, and without any there is none. -/
  observations : ∀ plan_id, ((world.db.observation? plan_id).map (·.occurrence_count)).getD 0 =
    turns.countP (·.observes plan_id)
  observed : ∀ observation ∈ world.db.alert_observations, 1 ≤ observation.occurrence_count
  /-- No two deliveries have the same incident and generation. -/
  one_delivery :
    (world.deliveries.map fun row => (row.2.incident_id, row.2.reopen_generation)).Nodup
  /-- Every delivery was staged while its incident was active in its generation. -/
  staged : ∀ delivery ∈ world.deliveries, ∃ turn ∈ turns, turn.Staged delivery
  /-- What was staged once stays as it is. -/
  kept : ∀ turn ∈ turns, ∀ delivery ∈ turn.after.deliveries, delivery ∈ world.deliveries

section Keys

omit [Platform]

/-- The scope of a name is the one the name is of. -/
theorem Scope.text_injective {one two : Scope} (same : one.text = two.text) : one = two := by
  cases one <;> cases two <;> first | rfl | exact absurd same (by decide)

/-- The identity of a key with its members sorted. -/
theorem AlertKey.sorted_identity (key : AlertKey) : Json.sorted key.identity =
    .obj [("alert_code", .str key.alert_code), ("owner_scope", .str key.scope.text),
      ("route_id", .str key.route_id)] := by
  have first : "owner_scope" < "route_id" := by decide +kernel
  have second : "alert_code" < "owner_scope" := by decide +kernel
  have third : "alert_code" < "route_id" := by decide +kernel
  rw [identity]
  simp only [Json.sorted, Json.sortedMembers, Json.insertMember, if_pos third, if_pos second,
    if_neg (lt_asymm first)]

/-- Keys of which the identities have the same canonical text are the same. -/
theorem AlertKey.identity_injective {one two : AlertKey}
    (same : one.identity.canonical = two.identity.canonical) : one = two := by
  have plain_ (key : AlertKey) : Json.plain (Json.sorted key.identity) = true := by
    rw [key.sorted_identity]
    rfl
  have sorted := Json.canonical_injective (plain_ one) (plain_ two) same
  rw [one.sorted_identity, two.sorted_identity] at sorted
  simp only [Json.obj.injEq, List.cons.injEq, Prod.mk.injEq, Json.str.injEq, true_and, and_true]
    at sorted
  obtain ⟨code, scope, route⟩ := sorted
  cases one
  cases two
  cases code
  cases route
  cases Scope.text_injective scope
  rfl

end Keys

section Payloads

omit [Platform]

/-- The identity of an alert is the one of its key, where its texts can be stored. -/
theorem AlertPlan.canonical_identity {alert : AlertPlan} {route_id code : String}
    (routed : alert.route_id = Wide.of route_id) (coded : alert.code = Wide.of code) :
    alert.identity.canonical = (AlertKey.mk alert.scope route_id code).identity.canonical := by
  have first : Wide.of "owner_scope" < Wide.of "route_id" := by decide +kernel
  have second : Wide.of "alert_code" < Wide.of "owner_scope" := by decide +kernel
  have third : Wide.of "alert_code" < Wide.of "route_id" := by decide +kernel
  have sorted : Json.sorted alert.identity =
      .obj [("alert_code", .str code), ("owner_scope", .str alert.scope.text),
        ("route_id", .str route_id)] := by
    rw [identity, routed, coded]
    simp only [Json.sorted, Json.sortedMembers, Json.insertMember, if_pos third, if_pos second,
      if_neg (lt_asymm first)]
  rw [Json.canonical, sorted, Json.canonical, AlertKey.sorted_identity]
  rfl

/-- A text member of a plan is the same in its payload, where its name is read from no pairs. -/
theorem text?_alertPayload {plan : List (Wide × Json Wide)} {key text : String}
    (plane : ∀ character ∈ key.toList, character.toNat < 0x10000)
    (named : (Json.obj plan).getD (Wide.of key) = .str (Wide.of text)) :
    (alertPayload plan).text? (Wide.of key) = some (Wide.of text) := by
  have member := Json.get?_mapText
    (fun name (same : Wide.joined name = Wide.joined (Wide.of key)) =>
      Wide.eq_of_joined plane (same.trans (Wide.joined_of key)))
    (Json.sorted (.obj plan))
  rw [Wide.joined_of, Json.get?_sorted] at member
  rw [alertPayload, Json.text?, member]
  rw [Json.getD] at named
  cases found : (Json.obj plan).get? (Wide.of key) with
  | none =>
    rw [found] at named
    cases named
  | some value =>
    rw [found, Option.getD_some] at named
    rw [named]
    exact congrArg some (Wide.joined_of text)

theorem bindText_of (text : String) : bindText (Wide.of text) = .ok text := by
  rw [bindText, Wide.narrow?_of]
  rfl

/-- A text that cannot be bound has no text of characters. -/
theorem bindText_cases (text : Wide) :
    (text.narrow? = none ∧ ∃ error, bindText text = .error error) ∨
      ∃ own, text = Wide.of own ∧ bindText text = .ok own := by
  cases narrow : text.narrow? with
  | none => exact .inl ⟨rfl, _, by rw [bindText, narrow]; rfl⟩
  | some own => exact .inr ⟨own, Wide.of_narrow? narrow, Wide.of_narrow? narrow ▸ bindText_of own⟩

end Payloads

section Lookups

omit [Platform]

variable {db : Database} {change : IncidentRow → IncidentRow}

/-- What an identifier is searched by stays when rows are changed in place. -/
theorem find?_map_of_keeps {Row Key : Type} [DecidableEq Key] {key : Row → Key}
    {change : Row → Row} (keeps : ∀ row, key (change row) = key row) (at_ : Key)
    (rows : List Row) : (rows.map change).find? (key · = at_) =
      (rows.find? (key · = at_)).map change := by
  have same : ((fun row => decide (key row = at_)) ∘ change) = fun row => decide (key row = at_) := by
    funext row
    exact congrArg (fun other => decide (other = at_)) (keeps row)
  rw [List.find?_map, same]

/-- A row that is found among rows of different keys is the only one of its key. -/
theorem find?_of_mem_nodup {Row Key : Type} [DecidableEq Key] {key : Row → Key} {rows : List Row}
    (distinct : (rows.map key).Nodup) {row : Row} (there : row ∈ rows) :
    rows.find? (key · = key row) = some row := by
  cases found : rows.find? (key · = key row) with
  | none => exact absurd (List.find?_eq_none.mp found row there) (by simp)
  | some other =>
    have same : key other = key row := by simpa using List.find?_some found
    rw [List.inj_on_of_nodup_map distinct (List.mem_of_find?_eq_some found) there same]

/-- The row that is found has the key it was searched by. -/
theorem key_of_find?_eq {Row Key : Type} [DecidableEq Key] {key : Row → Key} {rows : List Row}
    {row : Row} {at_ : Key} (found : rows.find? (key · = at_) = some row) : key row = at_ := by
  simpa using List.find?_some found

end Lookups

section Runs

omit [Platform] in
/-- Who may write to a scope may read from it. -/
theorem authorized_read {store : Store} {actor : Actor} {scope : String} {principals : List String}
    (written : _authorize store actor scope principals "write" = .ok ()) :
    _authorize store actor scope principals "read" = .ok () := by
  unfold _authorize at written ⊢
  cases known : Scope.read scope with
  | none =>
    rw [known] at written
    cases written
  | some scope =>
    rw [known] at written
    dsimp only at written ⊢
    split at written
    · cases written
    next profile =>
    rw [if_neg profile]
    split at written
    next sean => rw [if_pos sean]
    next sean =>
    rw [if_neg sean]
    split at written
    · cases written
    next granted =>
    rw [if_neg granted]
    split at written
    · cases written
    next shared => rw [if_neg shared, if_neg (fun reads => absurd reads.1 (by decide))]

variable {store : Store} {actor : Actor} {world : World}

omit [Platform] in
theorem run_get_alert_observation (plan_id : String) :
    (get_alert_observation store actor plan_id).run world =
      match world.db.observation? plan_id with
      | none => (.error (.validation "Alert observation not found"), world)
      | some row => ((_authorize store actor row.owner_scope.text [] "read").map fun _ => row,
          world) := by
  rw [get_alert_observation, Prog.run_bind, select, Prog.run_read]
  show ((match world.db.observation? plan_id with
    | none => throw (.validation "Alert observation not found")
    | some row => do
      lift (_authorize store actor row.owner_scope.text [] "read")
      return row : Op ObservationRow).run world) = _
  cases world.db.observation? plan_id with
  | none => rfl
  | some row =>
    dsimp only
    rw [run_lift_bind]
    cases _authorize store actor row.owner_scope.text [] "read" <;> rfl

omit [Platform] in
theorem run_get_alert_incident (incident_id : String) :
    (get_alert_incident store actor incident_id).run world =
      match world.db.incident? incident_id with
      | none => (.error (.validation "Alert incident not found"), world)
      | some row => ((_authorize store actor row.owner_scope.text [] "read").map fun _ => row,
          world) := by
  rw [get_alert_incident, Prog.run_bind, select, Prog.run_read]
  show ((match world.db.incident? incident_id with
    | none => throw (.validation "Alert incident not found")
    | some row => do
      lift (_authorize store actor row.owner_scope.text [] "read")
      return row : Op IncidentRow).run world) = _
  cases world.db.incident? incident_id with
  | none => rfl
  | some row =>
    dsimp only
    rw [run_lift_bind]
    cases _authorize store actor row.owner_scope.text [] "read" <;> rfl

/-- The two statements of a recording: only the first is kept, or both are. -/
theorem recordAlert_cases {alert : AlertPlan} {plan_id route_id : String}
    (routed : alert.route_id = Wide.of route_id) (payload : Json Wide) (stamp : String) :
    ((alert.code.narrow? = none ∨ alert.summary.narrow? = none) ∧
      ∃ error, recordAlert alert plan_id route_id payload stamp world = (.error error,
        observePlan (observationRow plan_id alert.scope route_id payload stamp) world)) ∨
    ∃ evidence : AlertEvidence, (∃ code summary, alert.code = Wide.of code ∧
        alert.summary = Wide.of summary ∧
        evidence = ⟨plan_id, ⟨alert.scope, route_id, code⟩, alert.severity, summary⟩) ∧
      alert.incident_id = evidence.alertKey.incident_id ∧
      recordAlert alert plan_id route_id payload stamp world =
        match countIncident (evidence.incident stamp)
          (observePlan (observationRow plan_id alert.scope route_id payload stamp) world) with
        | .ok counted => (.ok (), counted)
        | .error error => (.error error,
          observePlan (observationRow plan_id alert.scope route_id payload stamp) world) := by
  rcases bindText_cases alert.code with ⟨lone, error, refused⟩ | ⟨code, coded, bound⟩
  · refine .inl ⟨.inl lone, error, ?_⟩
    rw [recordAlert, refused]
    rfl
  rcases bindText_cases alert.summary with ⟨lone, error, refused⟩ | ⟨summary, told, read⟩
  · refine .inl ⟨.inr lone, error, ?_⟩
    rw [recordAlert, bound, refused]
    rfl
  refine .inr ⟨_, ⟨code, summary, coded, told, rfl⟩, ?_, ?_⟩
  · exact congrArg Platform.sha256 (alert.canonical_identity routed coded)
  · have same : alert.incident_id = (AlertKey.mk alert.scope route_id code).incident_id :=
      congrArg Platform.sha256 (alert.canonical_identity routed coded)
    rw [recordAlert, bound, read, same]
    rfl

/-- A recording refuses and changes nothing, or its plan can be observed. -/
theorem record_alert_observation_cases (plan : List (Wide × Json Wide)) :
    (∃ error, (record_alert_observation store actor plan).run world = (.error error, world)) ∨
    ∃ alert plan_id route_id, Observable store actor plan world alert plan_id route_id := by
  rw [record_alert_observation, run_lift_bind]
  cases accepted : checkAlertPlan store actor plan with
  | error error => exact .inl ⟨error, rfl⟩
  | ok alert =>
    dsimp only
    rw [run_lift_bind]
    rcases bindText_cases alert.plan_id with ⟨-, error, refused⟩ | ⟨plan_id, named, bound⟩
    · rw [refused]
      exact .inl ⟨error, rfl⟩
    rw [bound]
    dsimp only
    rw [Prog.run_bind, select, Prog.run_read]
    dsimp only
    rw [run_lift_bind]
    cases mutated : (world.db.observation? plan_id).any (·.plan_payload ≠ alertPayload plan) with
    | true => exact .inl ⟨_, rfl⟩
    | false =>
      rw [refuseIf, if_neg Bool.false_ne_true]
      dsimp only
      rw [now, Prog.run_bind, Prog.run_read]
      dsimp only
      rw [Prog.run_bind, select, Prog.run_read]
      dsimp only
      rw [run_lift_bind]
      rcases bindText_cases alert.route_id with ⟨-, error, refused⟩ | ⟨route_id, routed, read⟩
      · rw [refused]
        exact .inl ⟨error, rfl⟩
      refine .inr ⟨alert, plan_id, route_id, accepted, named, routed, ?_⟩
      cases existing : world.db.observation? plan_id with
      | none => rfl
      | some row =>
        rw [existing, Option.any_some, decide_eq_false_iff_not, not_not] at mutated
        rw [Option.all_some, mutated]
        exact decide_eq_true rfl

/--
A recording of a plan that can be observed makes its two statements. Where both are carried out an
audit event follows, and what was written is read.
-/
theorem run_record_alert_observation {plan : List (Wide × Json Wide)} {alert : AlertPlan}
    {plan_id route_id : String}
    (observable : Observable store actor plan world alert plan_id route_id) :
    match recordAlert alert plan_id route_id (alertPayload plan) world.clock.utc.isoformat world with
    | (.error error, left) =>
      (record_alert_observation store actor plan).run world = (.error error, left)
    | (.ok (), counted) => ∃ audited : World,
      audited.db.alert_observations = counted.db.alert_observations ∧
      audited.db.alert_incidents = counted.db.alert_incidents ∧
      audited.db.alert_delivery_outbox = counted.db.alert_delivery_outbox ∧
      (record_alert_observation store actor plan).run world =
        (do
          let observation ← get_alert_observation store actor plan_id
          let incident ← get_alert_incident store actor alert.incident_id
          return (observation, incident) : Op _).run audited := by
  have agreed : (world.db.observation? plan_id).any (·.plan_payload ≠ alertPayload plan) =
      false := by
    have agrees := observable.agrees
    cases existing : world.db.observation? plan_id with
    | none => rfl
    | some row =>
      rw [existing, Option.all_some, decide_eq_true_eq] at agrees
      rw [Option.any_some, decide_eq_false_iff_not, not_not]
      exact agrees
  rw [record_alert_observation, run_lift_bind, observable.accepted]
  dsimp only
  rw [run_lift_bind, observable.named, bindText_of]
  dsimp only
  rw [Prog.run_bind, select, Prog.run_read]
  dsimp only
  rw [run_lift_bind, agreed, refuseIf, if_neg Bool.false_ne_true]
  dsimp only
  rw [now, Prog.run_bind, Prog.run_read]
  dsimp only
  rw [Prog.run_bind, select, Prog.run_read]
  dsimp only
  rw [run_lift_bind, observable.routed, bindText_of]
  dsimp only
  rw [Prog.run_bind, Prog.run_transact]
  cases recordAlert alert plan_id route_id (alertPayload plan) world.clock.utc.isoformat world with
  | mk outcome left =>
    cases outcome with
    | error error => rfl
    | ok =>
      dsimp only
      rw [_audit, Prog.run_bind, Prog.run_write]
      refine ⟨_, ?_, ?_, ?_, rfl⟩ <;> rfl

omit [Platform] in
theorem SameAlerts.refl (world : World) : SameAlerts world world := ⟨rfl, rfl, rfl⟩

omit [Platform] in
/-- What is only logged says nothing about alerts. -/
theorem SameAlerts.logged {changed : World} (logged : Logged world changed) :
    SameAlerts world changed := by
  obtain ⟨_, _, rfl⟩ := logged
  exact ⟨rfl, rfl, rfl⟩

omit [Platform] in
/-- A read of an observation leaves the world. -/
theorem get_alert_observation_ran {plan_id : String} {outcome : Except Error ObservationRow}
    {changed : World}
    (ran : (get_alert_observation store actor plan_id).run world = (outcome, changed)) :
    changed = world := by
  rw [run_get_alert_observation] at ran
  cases found : world.db.observation? plan_id with
  | none =>
    rw [found] at ran
    exact (Prod.mk.inj ran).2.symm
  | some row =>
    rw [found] at ran
    exact (Prod.mk.inj ran).2.symm

omit [Platform] in
/-- An incident that was read is the one under its identifier, and the world is as it was. -/
theorem get_alert_incident_ran {incident_id : String} {outcome : Except Error IncidentRow}
    {changed : World}
    (ran : (get_alert_incident store actor incident_id).run world = (outcome, changed)) :
    changed = world ∧ ∀ row, outcome = .ok row → world.db.incident? incident_id = some row := by
  rw [run_get_alert_incident] at ran
  cases found : world.db.incident? incident_id with
  | none =>
    rw [found] at ran
    obtain ⟨rfl, rfl⟩ := Prod.mk.inj ran
    exact ⟨rfl, fun _ read => nomatch read⟩
  | some row =>
    rw [found] at ran
    obtain ⟨rfl, rfl⟩ := Prod.mk.inj ran
    refine ⟨rfl, fun other read => ?_⟩
    cases allowed : _authorize store actor row.owner_scope.text [] "read" with
    | error error =>
      rw [allowed] at read
      cases read
    | ok =>
      rw [allowed] at read
      exact congrArg some (Except.ok.inj read)

omit [Platform] in
theorem logging_get_alert_incident (store : Store) (actor : Actor) (incident_id : String) :
    Logging (get_alert_incident store actor incident_id) := by
  refine Prog.Keeps.bind (logging_read _ _) fun found => ?_
  cases found with
  | none => exact trivial
  | some row => exact Prog.Keeps.bind (logging_lift _) fun _ => trivial

/-- What a resolution does to the world: nothing about alerts, or it resolves an active incident. -/
theorem resolve_alert_incident_leaves (incident_id reason : String) :
    Prog.Leaves (resolve_alert_incident store actor incident_id reason) world fun changed =>
      SameAlerts world changed ∨
      ∃ row stamp, world.db.incident? incident_id = some row ∧ row.resolved = false ∧
        SameAlerts (resolveIncident incident_id stamp actor.id reason world) changed := by
  unfold resolve_alert_incident
  generalize secret_findings (.obj [("reason", .str reason)]) "$" = findings
  have nothing : SameAlerts world world := .refl world
  split
  · exact .inl nothing
  split
  · exact .inl nothing
  split
  · exact .inl nothing
  refine Prog.Leaves.read ?_
  dsimp only
  cases found : world.db.incident? incident_id with
  | none => exact .inl nothing
  | some row =>
    dsimp only
    split
    · split
      · exact .inl (.logged (logged_audit _ _ _ _ _ _ _ world))
      · exact .inl nothing
    next active =>
      refine Prog.Leaves.read (Prog.Leaves.transact (fun _ changed written => ?_)
        fun _ changed refused => ?_)
      · split at written
        · obtain ⟨-, rfl⟩ := Prod.mk.inj written
          refine Prog.Leaves.write (.inr ⟨row, world.clock.utc.isoformat, rfl,
            Bool.eq_false_iff.mpr active, ?_⟩)
          exact .logged ((logged_audit _ _ _ _ _ _ _ _).trans
            ((logging_get_alert_incident _ _ _).run _))
        · cases written
      · split at refused
        · cases refused
        · obtain ⟨-, rfl⟩ := Prod.mk.inj refused
          exact .inl nothing

omit [Platform] in
/-- What a program that only logs leaves. -/
theorem leaves_of_logging {α : Type} {program : Op α} {holds : World → Prop}
    (logging : Logging program) (follows : ∀ last, Logged world last → holds last) :
    Prog.Leaves program world holds := follows _ (logging.run world)

/-- What a staging does to the world: nothing about alerts, or it adds one delivery. -/
structure Stages (plan_id : String) (world changed : World) (delivery : String × DeliveryColumns) :
    Prop where
  planned : delivery.2.plan_id = plan_id
  fresh : ∀ other ∈ world.deliveries, other.1 ≠ delivery.1 ∧
    (other.2.incident_id, other.2.reopen_generation) ≠
      (delivery.2.incident_id, delivery.2.reopen_generation)
  active : ∃ incident, world.db.incident? delivery.2.incident_id = some incident ∧
    incident.resolved = false ∧ incident.reopen_count = delivery.2.reopen_generation
  observations : changed.db.alert_observations = world.db.alert_observations
  incidents : changed.db.alert_incidents = world.db.alert_incidents
  deliveries : changed.deliveries = world.deliveries ++ [delivery]

omit [Platform] in
/-- An insertion of a delivery is ignored, or neither its key nor its generation were there. -/
theorem insertDelivery_cases (row : OutboxRow DeliveryColumns) (world : World) :
    insertDelivery row world = world ∨
    (insertDelivery row world).db.alert_observations = world.db.alert_observations ∧
      (insertDelivery row world).db.alert_incidents = world.db.alert_incidents ∧
      (insertDelivery row world).deliveries = world.deliveries ++ [(row.key, row.columns)] ∧
      ∀ other ∈ world.deliveries, other.1 ≠ row.key ∧
        (other.2.incident_id, other.2.reopen_generation) ≠
          (row.columns.incident_id, row.columns.reopen_generation) := by
  rw [insertDelivery]
  split
  · exact .inl rfl
  next free =>
    refine .inr ⟨rfl, rfl, List.map_append, fun other there => ?_⟩
    obtain ⟨taken, member, rfl⟩ := List.mem_map.mp there
    rw [List.any_eq_true] at free
    refine ⟨fun same => free ⟨taken, member, ?_⟩, fun same => free ⟨taken, member, ?_⟩⟩
    · rw [Bool.or_eq_true, beq_iff_eq]
      exact .inl same
    · rw [Bool.or_eq_true, Bool.and_eq_true, beq_iff_eq, beq_iff_eq, beq_iff_eq]
      exact .inr (Prod.mk.inj same)

theorem stage_alert_delivery_leaves (plan_id : String) :
    Prog.Leaves (stage_alert_delivery store actor plan_id) world fun changed =>
      SameAlerts world changed ∨ ∃ delivery, Stages plan_id world changed delivery := by
  have nothing : SameAlerts world world := .refl world
  unfold stage_alert_delivery
  refine Prog.Leaves.bind (fun observation changed ran => ?_) fun _ changed ran => ?_
  swap
  · exact .inl (get_alert_observation_ran ran ▸ nothing)
  obtain rfl := get_alert_observation_ran ran
  refine leaves_lift (fun _ _ => ?_) (.inl nothing)
  refine leaves_lift (fun route _ => ?_) (.inl nothing)
  refine leaves_lift (fun code _ => ?_) (.inl nothing)
  refine Prog.Leaves.bind (fun incident changed ran => ?_) fun _ changed ran => ?_
  swap
  · exact .inl ((get_alert_incident_ran ran).1 ▸ nothing)
  obtain ⟨rfl, known⟩ := get_alert_incident_ran ran
  refine leaves_lift (fun _ active => ?_) (.inl nothing)
  refine leaves_lift (fun alert _ => ?_) (.inl nothing)
  refine Prog.Leaves.read (leaves_lift (fun reference _ => ?_) (.inl nothing))
  refine Prog.Leaves.write ?_
  -- What follows the insertion only reads and logs.
  refine leaves_of_logging ?logs fun last logged => ?_
  case logs =>
    refine Prog.Keeps.bind (logging_get_alert_delivery _ _ _) fun delivery => ?_
    refine Prog.Keeps.bind (logging_lift _) fun _ => ?_
    exact Prog.Keeps.bind (logging_audit _ _ _ _ _ _ _) fun _ => trivial
  have rows := SameAlerts.logged logged
  rcases insertDelivery_cases _ changed with same | inserted
  · exact .inl (same ▸ rows)
  · refine .inr ⟨_, rfl, inserted.2.2.2, ⟨incident, known incident rfl, ?_, rfl⟩,
      rows.observations.trans inserted.1, rows.incidents.trans inserted.2.1,
      rows.deliveries.trans inserted.2.2.1⟩
    rw [refuseIf] at active
    split at active
    · cases active
    next unresolved => exact Bool.eq_false_iff.mpr unresolved

end Runs

section Incidents

/-- The rows of incidents agree with the calls that were made. -/
structure IncidentsSound (turns : List Turn) (world : World) : Prop where
  distinct : (world.db.alert_incidents.map (·.alertKey)).Nodup
  occurrences : ∀ key, ((world.db.incidentOf key).map (·.occurrence_count)).getD 0 =
    turns.countP (·.records key)
  counted : ∀ incident ∈ world.db.alert_incidents, 1 ≤ incident.occurrence_count
  reopenings : ∀ key, ((world.db.incidentOf key).map (·.reopen_count)).getD 0 =
    turns.countP (·.reopens key)
  /-- The identifier of an incident is the one of its key. -/
  named : ∀ incident ∈ world.db.alert_incidents, incident.incident_id = incident.alertKey.incident_id
  /-- A recording had the key of the incident. -/
  traced : ∀ incident ∈ world.db.alert_incidents, ∃ turn ∈ turns, ∃ evidence ∈ turn.evidence,
    evidence.alertKey = incident.alertKey

/-- What one more recording makes of the rows: the incident of its key counts on, or is new. -/
structure RecordingCounts (evidence : AlertEvidence) (world : World) (rows : List IncidentRow)
    (next : IncidentRow) : Prop where
  distinct : (rows.map (·.alertKey)).Nodup
  id_ : next.incident_id = evidence.alertKey.incident_id
  key_ : next.alertKey = evidence.alertKey
  lookup : ∀ key, rows.find? (·.alertKey = key) =
    if evidence.alertKey = key then some next else world.db.incidentOf key
  others : ∀ row ∈ rows, row = next ∨ row ∈ world.db.alert_incidents
  occurrences : next.occurrence_count =
    ((world.db.incidentOf evidence.alertKey).map (·.occurrence_count)).getD 0 + 1
  reopenings : next.reopen_count =
    ((world.db.incidentOf evidence.alertKey).map (·.reopen_count)).getD 0 +
      if (world.db.incidentOf evidence.alertKey).any (·.resolved) then 1 else 0
  active : next.resolved = false

variable {turn : Turn} {turns : List Turn}

namespace IncidentsSound

/-- Rows that stay the same keep agreeing with calls that recorded nothing since. -/
theorem same {world later : World} (sound : IncidentsSound turns world)
    (same : later.db.alert_incidents = world.db.alert_incidents) : IncidentsSound turns later := by
  have lookup (key : AlertKey) : later.db.incidentOf key = world.db.incidentOf key := by
    rw [Database.incidentOf, same, Database.incidentOf]
  constructor
  · rw [same]
    exact sound.distinct
  · intro key
    rw [lookup]
    exact sound.occurrences key
  · rw [same]
    exact sound.counted
  · intro key
    rw [lookup]
    exact sound.reopenings key
  · rw [same]
    exact sound.named
  · rw [same]
    exact sound.traced

/-- The incident that is found has the key, and its identifier too. -/
theorem found {world : World} (sound : IncidentsSound turns world) {key : AlertKey}
    {row : IncidentRow} (found : world.db.incidentOf key = some row) :
    row.alertKey = key ∧ row.incident_id = key.incident_id := by
  have named := key_of_find?_eq found
  refine ⟨named, ?_⟩
  rw [sound.named row (List.mem_of_find?_eq_some found), named]

/-- A call that recorded nothing and changed the rows in place, without counting, is accounted for. -/
theorem changed (sound : IncidentsSound turns turn.before)
    (silent : turn.recorded = none) {change : IncidentRow → IncidentRow}
    (rows : turn.after.db.alert_incidents = turn.before.db.alert_incidents.map change)
    (key_ : ∀ row, (change row).alertKey = row.alertKey)
    (id_ : ∀ row, (change row).incident_id = row.incident_id)
    (occurrences : ∀ row, (change row).occurrence_count = row.occurrence_count)
    (reopenings : ∀ row, (change row).reopen_count = row.reopen_count)
    (closed : ∀ row, row.resolved = true → (change row).resolved = true) :
    IncidentsSound (turn :: turns) turn.after := by
  have lookup (key : AlertKey) :
      turn.after.db.incidentOf key = (turn.before.db.incidentOf key).map change := by
    rw [Database.incidentOf, rows]
    exact find?_map_of_keeps key_ key _
  have none_ (key : AlertKey) : turn.records key = false := by
    rw [Turn.records, silent]
    rfl
  have stays (key : AlertKey) : turn.reopens key = false := by
    rw [Turn.reopens, lookup]
    cases turn.before.db.incidentOf key with
    | none => rfl
    | some row =>
      show (row.resolved && !(change row).resolved) = false
      cases resolved : row.resolved with
      | false => rfl
      | true =>
        rw [closed row resolved]
        rfl
  constructor
  · rw [rows, List.map_map]
    have same : (fun row : IncidentRow => row.alertKey) ∘ change = fun row => row.alertKey :=
      funext key_
    rw [same]
    exact sound.distinct
  · intro key
    rw [lookup, Option.map_map, List.countP_cons_of_neg (by rw [none_ key]; exact Bool.false_ne_true),
      ← sound.occurrences key]
    cases turn.before.db.incidentOf key with
    | none => rfl
    | some row => exact occurrences row
  · intro incident there
    rw [rows] at there
    obtain ⟨row, member, rfl⟩ := List.mem_map.mp there
    rw [occurrences]
    exact sound.counted row member
  · intro key
    rw [lookup, Option.map_map, List.countP_cons_of_neg (by rw [stays key]; exact Bool.false_ne_true),
      ← sound.reopenings key]
    cases turn.before.db.incidentOf key with
    | none => rfl
    | some row => exact reopenings row
  · intro incident there
    rw [rows] at there
    obtain ⟨row, member, rfl⟩ := List.mem_map.mp there
    rw [id_, key_]
    exact sound.named row member
  · intro incident there
    rw [rows] at there
    obtain ⟨row, member, rfl⟩ := List.mem_map.mp there
    rw [key_]
    obtain ⟨other, made, rest⟩ := sound.traced row member
    exact ⟨other, List.mem_cons_of_mem _ made, rest⟩

/-- A count in an incident that returns is one more recording of its key. -/
theorem countIncident_counts {world counted : World} (sound : IncidentsSound turns world)
    (evidence : AlertEvidence) {stamp : String}
    (apart : ∀ incident ∈ world.db.alert_incidents,
      incident.incident_id = evidence.alertKey.incident_id → incident.alertKey = evidence.alertKey)
    (ran : countIncident (evidence.incident stamp) world = .ok counted) :
    ∃ next, RecordingCounts evidence world counted.db.alert_incidents next := by
  rw [countIncident] at ran
  split at ran
  next taken =>
    cases ran
    obtain ⟨row, known⟩ := Option.isSome_iff_exists.mp taken
    unfold Database.incident? at known
    have there := List.mem_of_find?_eq_some known
    have found := List.find?_some known
    have same : row.incident_id = evidence.alertKey.incident_id := beq_iff_eq.mp found
    have key_ := apart row there same
    have before : world.db.incidentOf evidence.alertKey = some row := by
      rw [Database.incidentOf, ← key_]
      exact find?_of_mem_nodup sound.distinct there
    have keeps (other : IncidentRow) : (if other.incident_id = evidence.alertKey.incident_id then
        other.again evidence.severity evidence.summary stamp else other).alertKey =
          other.alertKey := by
      split <;> rfl
    refine ⟨row.again evidence.severity evidence.summary stamp, ?_, same, key_, fun key => ?_,
      fun other member => ?_, by rw [before]; rfl, by rw [before]; rfl, rfl⟩
    · dsimp only
      rw [List.map_map]
      exact (congrArg (fun f => (world.db.alert_incidents.map f).Nodup) (funext keeps)).mpr
        sound.distinct
    · refine (find?_map_of_keeps keeps key _).trans ?_
      by_cases same_ : evidence.alertKey = key
      · subst same_
        rw [if_pos rfl]
        show (world.db.incidentOf evidence.alertKey).map _ = _
        rw [before, Option.map_some, if_pos same]
      · rw [if_neg same_]
        show (world.db.incidentOf key).map _ = _
        cases found : world.db.incidentOf key with
        | none => rfl
        | some other =>
          -- The row of another key has another identifier.
          rw [Option.map_some, if_neg]
          intro equal
          exact same_ ((apart other (List.mem_of_find?_eq_some found) equal).symm.trans
            (sound.found found).1)
    · obtain ⟨old, was, rfl⟩ := List.mem_map.mp member
      by_cases equal : old.incident_id = evidence.alertKey.incident_id
      · have one : old = row := by
          have first := find?_of_mem_nodup sound.distinct was
          rw [apart old was equal] at first
          exact Option.some.inj (first.symm.trans before)
        exact .inl (by rw [one]; exact if_pos same)
      · have stays : ¬old.incident_id = (evidence.incident stamp).incident_id := equal
        exact .inr (by rw [if_neg stays]; exact was)
  split at ran
  · cases ran
  next fresh =>
    cases ran
    have before : world.db.incidentOf evidence.alertKey = none :=
      List.find?_eq_none.mpr fun other member same =>
        fresh (List.any_eq_true.mpr ⟨other, member, same⟩)
    refine ⟨evidence.incident stamp, ?_, rfl, rfl, fun key => ?_, fun other member => ?_,
      by rw [before]; rfl, by rw [before]; rfl, rfl⟩
    · rw [List.map_append, List.nodup_append]
      refine ⟨sound.distinct, List.nodup_singleton _, ?_⟩
      rintro one old two new rfl
      obtain ⟨other, member, same⟩ := List.mem_map.mp old
      rw [List.map_singleton, List.mem_singleton] at new
      exact List.find?_eq_none.mp before other member (decide_eq_true (same.trans new))
    · rw [List.find?_append]
      by_cases same : evidence.alertKey = key
      · subst same
        rw [if_pos rfl]
        show (world.db.incidentOf evidence.alertKey).or _ = _
        rw [before, Option.none_or]
        exact List.find?_cons_of_pos (decide_eq_true rfl)
      · rw [if_neg same]
        have apart_ : [evidence.incident stamp].find? (·.alertKey = key) = none :=
          List.find?_eq_none.mpr fun other member equal => same (by
            rw [List.mem_singleton.mp member] at equal
            exact of_decide_eq_true equal)
        rw [apart_, Option.or_none]
        rfl
    · exact (List.mem_append.mp member).symm.imp (List.mem_singleton.mp ·) id

/-- A call that recorded an alert is accounted for in the incident of its key. -/
theorem recorded (sound : IncidentsSound turns turn.before) {evidence : AlertEvidence}
    (accepted : evidence ∈ turn.evidence) (success : turn.recorded = some evidence)
    {next : IncidentRow}
    (counts : RecordingCounts evidence turn.before turn.after.db.alert_incidents next) :
    IncidentsSound (turn :: turns) turn.after := by
  have records (key : AlertKey) : turn.records key = decide (evidence.alertKey = key) := by
    rw [Turn.records, success]
    rfl
  have reopens (key : AlertKey) : turn.reopens key = (decide (evidence.alertKey = key) &&
      (turn.before.db.incidentOf key).any (·.resolved)) := by
    have after_ : turn.after.db.incidentOf key = if evidence.alertKey = key then some next
        else turn.before.db.incidentOf key := counts.lookup key
    rw [Turn.reopens, after_]
    by_cases same : evidence.alertKey = key
    · rw [if_pos same, decide_eq_true same, Bool.true_and, Option.any_some, counts.active]
      exact Bool.and_true _
    · rw [if_neg same, decide_eq_false same, Bool.false_and]
      cases turn.before.db.incidentOf key with
      | none => rfl
      | some row => exact Bool.and_not_self row.resolved
  constructor
  · exact counts.distinct
  · intro key
    rw [List.countP_cons, records, ← sound.occurrences key, Database.incidentOf, counts.lookup]
    by_cases same : evidence.alertKey = key
    · subst same
      rw [if_pos rfl, decide_eq_true rfl, if_pos rfl]
      exact counts.occurrences
    · rw [if_neg same, decide_eq_false same, if_neg Bool.false_ne_true]
      rfl
  · intro incident there
    rcases counts.others incident there with rfl | before
    · rw [counts.occurrences]
      exact Nat.le_add_left 1 _
    · exact sound.counted incident before
  · intro key
    rw [List.countP_cons, reopens, ← sound.reopenings key, Database.incidentOf, counts.lookup]
    by_cases same : evidence.alertKey = key
    · subst same
      rw [if_pos rfl, decide_eq_true rfl, Bool.true_and]
      exact counts.reopenings
    · rw [if_neg same, decide_eq_false same, Bool.false_and, if_neg Bool.false_ne_true]
      rfl
  · intro incident there
    rcases counts.others incident there with rfl | before
    · rw [counts.id_, counts.key_]
    · exact sound.named incident before
  · intro incident there
    rcases counts.others incident there with rfl | before
    · exact ⟨turn, List.mem_cons_self, evidence, accepted, counts.key_.symm⟩
    · obtain ⟨other, made, rest⟩ := sound.traced incident before
      exact ⟨other, List.mem_cons_of_mem _ made, rest⟩

end IncidentsSound

end Incidents

section Observations

/-- The row of the first observation of some evidence. -/
def AlertEvidence.observed (evidence : AlertEvidence) (payload : Json Wide) (stamp : String) :
    ObservationRow :=
  observationRow evidence.plan_id evidence.alertKey.scope evidence.alertKey.route_id payload stamp

/-- The rows of observations agree with the calls that were made. -/
structure ObservationsSound (turns : List Turn) (world : World) : Prop where
  distinct : (world.db.alert_observations.map (·.plan_id)).Nodup
  counts : ∀ plan_id, ((world.db.observation? plan_id).map (·.occurrence_count)).getD 0 =
    turns.countP (·.observes plan_id)
  counted : ∀ row ∈ world.db.alert_observations, 1 ≤ row.occurrence_count
  /-- The scope of an observation is the one its plan names. -/
  scopes : ∀ row ∈ world.db.alert_observations,
    row.plan_payload.text? (Wide.of "owner_scope") = some (Wide.of row.owner_scope.text)

variable {turn : Turn} {turns : List Turn}

namespace ObservationsSound

/-- Rows that stay the same keep agreeing with the calls. -/
theorem same {world later : World} (sound : ObservationsSound turns world)
    (same : later.db.alert_observations = world.db.alert_observations) :
    ObservationsSound turns later := by
  have lookup (plan_id : String) : later.db.observation? plan_id = world.db.observation? plan_id := by
    rw [Database.observation?, same, Database.observation?]
  refine ⟨?_, fun plan_id => ?_, ?_, ?_⟩
  · rw [same]
    exact sound.distinct
  · rw [lookup]
    exact sound.counts plan_id
  · rw [same]
    exact sound.counted
  · rw [same]
    exact sound.scopes

/-- A call that recorded nothing is accounted for where the rows stay. -/
theorem silent (sound : ObservationsSound turns turn.before) (silent : turn.recorded = none)
    (same : turn.after.db.alert_observations = turn.before.db.alert_observations) :
    ObservationsSound (turn :: turns) turn.after := by
  have kept := sound.same same
  refine ⟨kept.distinct, fun plan_id => ?_, kept.counted, kept.scopes⟩
  rw [List.countP_cons_of_neg (by rw [Turn.observes, silent]; exact Bool.false_ne_true)]
  exact kept.counts plan_id

/-- A call that recorded a plan is accounted for in the observation of the plan. -/
theorem recorded (sound : ObservationsSound turns turn.before) {evidence : AlertEvidence}
    (success : turn.recorded = some evidence) {payload : Json Wide} {stamp : String}
    (scope : payload.text? (Wide.of "owner_scope") = some (Wide.of evidence.alertKey.scope.text))
    (rows : turn.after.db.alert_observations =
      (observePlan (evidence.observed payload stamp) turn.before).db.alert_observations) :
    ObservationsSound (turn :: turns) turn.after := by
  have observes (plan_id : String) : turn.observes plan_id = decide (evidence.plan_id = plan_id) := by
    rw [Turn.observes, success]
    rfl
  rw [observePlan] at rows
  dsimp only at rows
  split at rows
  next taken =>
    generalize change_ : (fun other : ObservationRow =>
      if other.plan_id = (evidence.observed payload stamp).plan_id then
        { other with
          last_seen_at := (evidence.observed payload stamp).last_seen_at
          occurrence_count := other.occurrence_count + 1 }
      else other) = change at rows
    have keeps (row : ObservationRow) : (change row).plan_id = row.plan_id := by
      rw [← change_]
      dsimp only
      split <;> rfl
    have counts (row : ObservationRow) : (change row).occurrence_count =
        row.occurrence_count + if evidence.plan_id = row.plan_id then 1 else 0 := by
      rw [← change_]
      by_cases same : row.plan_id = evidence.plan_id
      · rw [if_pos same.symm]
        exact congrArg ObservationRow.occurrence_count (if_pos same)
      · rw [if_neg (Ne.symm same)]
        exact congrArg ObservationRow.occurrence_count (if_neg same)
    have lookup (plan_id : String) :
        turn.after.db.observation? plan_id = (turn.before.db.observation? plan_id).map change := by
      rw [Database.observation?, rows]
      exact find?_map_of_keeps keeps plan_id _
    refine ⟨?_, fun plan_id => ?_, fun row there => ?_, fun row there => ?_⟩
    · rw [rows, List.map_map]
      exact (congrArg (fun f => (turn.before.db.alert_observations.map f).Nodup)
        (funext keeps)).mpr sound.distinct
    · rw [lookup, List.countP_cons, observes, ← sound.counts plan_id, Option.map_map]
      cases found : turn.before.db.observation? plan_id with
      | none =>
        -- The plan of the call was observed before.
        rw [if_neg]
        · rfl
        · intro same
          rw [← of_decide_eq_true same] at found
          rw [show (evidence.observed payload stamp).plan_id = evidence.plan_id from rfl,
            found] at taken
          cases taken
      | some row =>
        have named : row.plan_id = plan_id := key_of_find?_eq found
        show (change row).occurrence_count = _
        rw [counts, named]
        congr 1
        exact if_congr (by rw [decide_eq_true_eq]) rfl rfl
    · rw [rows] at there
      obtain ⟨old, was, rfl⟩ := List.mem_map.mp there
      rw [counts]
      exact Nat.le_add_right_of_le (sound.counted old was)
    · rw [rows] at there
      obtain ⟨old, was, rfl⟩ := List.mem_map.mp there
      have same : (change old).plan_payload = old.plan_payload ∧
          (change old).owner_scope = old.owner_scope := by
        rw [← change_]
        dsimp only
        split <;> exact ⟨rfl, rfl⟩
      rw [same.1, same.2]
      exact sound.scopes old was
  next fresh =>
    have before : turn.before.db.observation? evidence.plan_id = none :=
      Option.not_isSome_iff_eq_none.mp fresh
    have lookup (plan_id : String) : turn.after.db.observation? plan_id =
        (turn.before.db.observation? plan_id).or
          (if evidence.plan_id = plan_id then some (evidence.observed payload stamp) else none) := by
      rw [Database.observation?, rows, List.find?_append]
      congr 1
      by_cases same : evidence.plan_id = plan_id
      · rw [if_pos same]
        exact List.find?_cons_of_pos (beq_iff_eq.mpr same)
      · rw [if_neg same]
        exact List.find?_cons_of_neg (fun equal => same (beq_iff_eq.mp equal))
    refine ⟨?_, fun plan_id => ?_, fun row there => ?_, fun row there => ?_⟩
    · rw [rows, List.map_append, List.nodup_append]
      refine ⟨sound.distinct, List.nodup_singleton _, ?_⟩
      rintro one old two new rfl
      obtain ⟨row, member, same⟩ := List.mem_map.mp old
      rw [List.map_singleton, List.mem_singleton] at new
      exact List.find?_eq_none.mp before row member (beq_iff_eq.mpr (same.trans new))
    · rw [lookup, List.countP_cons, observes, ← sound.counts plan_id]
      by_cases same : evidence.plan_id = plan_id
      · subst same
        rw [before, if_pos rfl, decide_eq_true rfl, if_pos rfl]
        rfl
      · rw [if_neg same, decide_eq_false same, if_neg Bool.false_ne_true, Option.or_none]
        rfl
    · rw [rows] at there
      rcases List.mem_append.mp there with old | new
      · exact sound.counted row old
      · rw [List.mem_singleton.mp new]
        exact le_rfl
    · rw [rows] at there
      rcases List.mem_append.mp there with old | new
      · exact sound.scopes row old
      · rw [List.mem_singleton.mp new]
        exact scope

end ObservationsSound

end Observations

section Deliveries

/-- The rows of deliveries agree with the calls that were made. -/
structure StagedSound (turns : List Turn) (world : World) : Prop where
  distinct : (world.deliveries.map fun row => (row.2.incident_id, row.2.reopen_generation)).Nodup
  staged : ∀ delivery ∈ world.deliveries, ∃ turn ∈ turns, turn.Staged delivery
  kept : ∀ turn ∈ turns, ∀ delivery ∈ turn.after.deliveries, delivery ∈ world.deliveries

variable {turn : Turn} {turns : List Turn}

namespace StagedSound

theorem same {world later : World} (sound : StagedSound turns world)
    (same : later.deliveries = world.deliveries) : StagedSound turns later := by
  refine ⟨?_, ?_, ?_⟩
  · rw [same]
    exact sound.distinct
  · rw [same]
    exact sound.staged
  · rw [same]
    exact sound.kept

/-- A call that staged nothing is accounted for. -/
theorem silent (sound : StagedSound turns turn.before)
    (same : turn.after.deliveries = turn.before.deliveries) :
    StagedSound (turn :: turns) turn.after := by
  have kept := sound.same same
  refine ⟨kept.distinct, fun delivery there => ?_, fun other made delivery there => ?_⟩
  · obtain ⟨other, made, staged⟩ := kept.staged delivery there
    exact ⟨other, List.mem_cons_of_mem _ made, staged⟩
  · rcases List.mem_cons.mp made with rfl | earlier
    · exact there
    · exact kept.kept other earlier delivery there

/-- A call that staged a delivery is accounted for. -/
theorem staged_ (sound : StagedSound turns turn.before) {plan_id : String}
    (called : turn.call = .stage plan_id) {delivery : String × DeliveryColumns}
    (stages : Stages plan_id turn.before turn.after delivery) :
    StagedSound (turn :: turns) turn.after := by
  have fresh : delivery ∉ turn.before.deliveries := fun there => (stages.fresh delivery there).1 rfl
  have there : delivery ∈ turn.after.deliveries := by
    rw [stages.deliveries]
    exact List.mem_append_right _ (List.mem_singleton_self _)
  have staged : turn.Staged delivery := ⟨by rw [stages.planned, called], fresh, there, stages.active⟩
  refine ⟨?_, fun other found => ?_, fun other made row found => ?_⟩
  · rw [stages.deliveries, List.map_append, List.nodup_append]
    refine ⟨sound.distinct, List.nodup_singleton _, ?_⟩
    rintro one old two new rfl
    obtain ⟨row, member, same⟩ := List.mem_map.mp old
    rw [List.map_singleton, List.mem_singleton] at new
    exact (stages.fresh row member).2 (same.trans new)
  · rw [stages.deliveries] at found
    rcases List.mem_append.mp found with old | new
    · obtain ⟨earlier, made, was⟩ := sound.staged other old
      exact ⟨earlier, List.mem_cons_of_mem _ made, was⟩
    · rw [List.mem_singleton.mp new]
      exact ⟨turn, List.mem_cons_self, staged⟩
  · rcases List.mem_cons.mp made with rfl | earlier
    · exact found
    · rw [stages.deliveries]
      exact List.mem_append_left _ (sound.kept other earlier row found)

end StagedSound

end Deliveries

section Turns

omit [Platform] in
/-- A scope that was accepted is named by the member it was read from. -/
theorem alertScope_ok {value : Json Wide} {scope : Scope} (accepted : alertScope value = .ok scope) :
    value = .str scope.text := by
  cases value with
  | str name =>
    rw [alertScope] at accepted
    split at accepted
    next same =>
      cases accepted
      rw [same]
      rfl
    split at accepted
    next same =>
      cases accepted
      rw [same]
      rfl
    · cases accepted
  | _ => cases accepted

/-- The plan of an accepted recording names its scope, which the caller may write to. -/
theorem checkAlertPlan_ok {store : Store} {actor : Actor} {plan : List (Wide × Json Wide)}
    {alert : AlertPlan} (accepted : checkAlertPlan store actor plan = .ok alert) :
    (alertPayload plan).text? (Wide.of "owner_scope") = some (Wide.of alert.scope.text) ∧
      _authorize store actor alert.scope.text [] "write" = .ok () := by
  unfold checkAlertPlan at accepted
  obtain ⟨scope, read, accepted⟩ := passed_of_bind accepted
  obtain ⟨_, allowed, accepted⟩ := passed_of_bind accepted
  obtain ⟨plan_id, _, accepted⟩ := passed_of_bind accepted
  obtain ⟨_, _, accepted⟩ := passed_of_bind accepted
  obtain ⟨_, _, accepted⟩ := passed_of_bind accepted
  obtain ⟨route_id, _, accepted⟩ := passed_of_bind accepted
  obtain ⟨_, _, accepted⟩ := passed_of_bind accepted
  obtain ⟨code, _, accepted⟩ := passed_of_bind accepted
  obtain ⟨summary, _, accepted⟩ := passed_of_bind accepted
  obtain ⟨severity, _, accepted⟩ := passed_of_bind accepted
  cases accepted
  exact ⟨text?_alertPayload (by simp) (alertScope_ok read), allowed⟩

/-- The observation a recording leaves has the scope of its plan. -/
theorem observePlan_scope {turns : List Turn} {world : World} (sound : ObservationsSound turns world)
    {evidence : AlertEvidence} {payload : Json Wide} (stamp : String)
    (scope : payload.text? (Wide.of "owner_scope") = some (Wide.of evidence.alertKey.scope.text))
    (agrees : (world.db.observation? evidence.plan_id).all (·.plan_payload = payload) = true) :
    ∃ row, (observePlan (evidence.observed payload stamp) world).db.observation?
      evidence.plan_id = some row ∧ row.owner_scope = evidence.alertKey.scope := by
  rw [observePlan, Database.observation?]
  dsimp only
  cases known : world.db.observation? evidence.plan_id with
  | some row =>
    rw [known, Option.all_some, decide_eq_true_eq] at agrees
    have there := List.mem_of_find?_eq_some known
    have named : row.plan_id = evidence.plan_id := key_of_find?_eq known
    -- The rows have the same payload, and with it the same scope.
    have same : row.owner_scope = evidence.alertKey.scope := by
      have read := sound.scopes row there
      rw [agrees, scope] at read
      exact (Scope.text_injective (Wide.of_injective (Option.some.inj read))).symm
    rw [show (evidence.observed payload stamp).plan_id = evidence.plan_id from rfl, known,
      Option.isSome_some, if_pos rfl]
    refine ⟨_, (find?_map_of_keeps (fun other => ?_) _ _).trans (congrArg _ known), ?_⟩
    · split <;> rfl
    · exact (congrArg ObservationRow.owner_scope (if_pos named)).trans same
  | none =>
    rw [show (evidence.observed payload stamp).plan_id = evidence.plan_id from rfl, known,
      Option.isSome_none, if_neg Bool.false_ne_true, List.find?_append]
    refine ⟨evidence.observed payload stamp, ?_, rfl⟩
    show (world.db.observation? evidence.plan_id).or _ = _
    rw [known, Option.none_or]
    exact List.find?_cons_of_pos (beq_iff_eq.mpr rfl)

omit [Platform] in
/-- A count in an incident leaves the observations and the deliveries. -/
theorem countIncident_frame {row : IncidentRow} {world counted : World}
    (ran : countIncident row world = .ok counted) :
    counted.db.alert_observations = world.db.alert_observations ∧
      counted.db.alert_delivery_outbox = world.db.alert_delivery_outbox := by
  rw [countIncident] at ran
  split at ran
  · cases ran
    exact ⟨rfl, rfl⟩
  split at ran
  · cases ran
  · cases ran
    exact ⟨rfl, rfl⟩

/-- The incident a recording leaves has the scope of its key. -/
theorem RecordingCounts.scope {evidence : AlertEvidence} {world : World} {rows : List IncidentRow}
    {next : IncidentRow} (counts : RecordingCounts evidence world rows next)
    (apart : ∀ incident ∈ world.db.alert_incidents,
      incident.incident_id = evidence.alertKey.incident_id → incident.alertKey = evidence.alertKey) :
    ∃ row, rows.find? (·.incident_id == evidence.alertKey.incident_id) = some row ∧
      row.owner_scope = evidence.alertKey.scope := by
  have there : next ∈ rows := List.mem_of_find?_eq_some
    ((counts.lookup evidence.alertKey).trans (if_pos rfl))
  cases found : rows.find? (·.incident_id == evidence.alertKey.incident_id) with
  | none => exact absurd (beq_iff_eq.mpr counts.id_) (List.find?_eq_none.mp found next there)
  | some row =>
    refine ⟨row, rfl, ?_⟩
    have named : row.alertKey = evidence.alertKey := by
      rcases counts.others row (List.mem_of_find?_eq_some found) with rfl | before
      · exact counts.key_
      · have same := List.find?_some found
        exact apart row before (beq_iff_eq.mp same)
    exact congrArg AlertKey.scope named

/-- What holds of the rows about alerts after some calls. -/
structure AlertsSound (turns : List Turn) (world : World) : Prop where
  incidents : IncidentsSound turns world
  observations : ObservationsSound turns world
  deliveries : StagedSound turns world

variable {turn : Turn} {turns : List Turn}

/-- A call that changed nothing about alerts is accounted for. -/
theorem AlertsSound.silent (sound : AlertsSound turns turn.before) (silent : turn.recorded = none)
    (same : SameAlerts turn.before turn.after) : AlertsSound (turn :: turns) turn.after := by
  refine ⟨?_, sound.observations.silent silent same.observations,
    sound.deliveries.silent same.deliveries⟩
  refine sound.incidents.changed silent (same.incidents.trans (List.map_id _).symm) ?_ ?_ ?_ ?_ ?_
  all_goals intros
  all_goals first | rfl | assumption

/-- A count in an incident is carried out where identifiers are the ones of their keys. -/
theorem IncidentsSound.countIncident_ok {world : World} (sound : IncidentsSound turns world)
    (evidence : AlertEvidence) (stamp : String) :
    ∃ counted, countIncident (evidence.incident stamp) world = .ok counted := by
  rw [countIncident]
  split
  · exact ⟨_, rfl⟩
  next fresh =>
    rw [if_neg]
    · exact ⟨_, rfl⟩
    · -- A row of the key would be the one of the identifier.
      intro taken
      obtain ⟨row, there, same⟩ := List.any_eq_true.mp taken
      have key_ : row.alertKey = evidence.alertKey := of_decide_eq_true same
      refine fresh (List.find?_isSome.mpr ⟨row, there, beq_iff_eq.mpr ?_⟩)
      rw [sound.named row there, key_]
      rfl

/-- A call that records an alert is accounted for, whether it succeeds or not. -/
theorem AlertsSound.record (sound : AlertsSound turns turn.before)
    {plan : List (Wide × Json Wide)} (called : turn.call = .record plan) (whole : ¬turn.Torn)
    (apart : ∀ evidence ∈ turn.evidence, ∀ incident ∈ turn.before.db.alert_incidents,
      incident.incident_id = evidence.alertKey.incident_id →
        incident.alertKey = evidence.alertKey) : AlertsSound (turn :: turns) turn.after := by
  have ran_ : turn.ran = (((record_alert_observation turn.store turn.actor plan).run
      turn.before).1.toBool, ((record_alert_observation turn.store turn.actor plan).run
        turn.before).2) := by
    rw [Turn.ran, called]
  have evidence_ : turn.evidence =
      (checkAlertPlan turn.store turn.actor plan).toOption.bind AlertPlan.evidence? := by
    rw [Turn.evidence, called]
  rcases @record_alert_observation_cases _ turn.store turn.actor turn.before plan with
    ⟨error, failed⟩ | ⟨alert, plan_id, route_id, observable⟩
  · rw [failed] at ran_
    refine sound.silent ?_ ?_
    · rw [Turn.recorded, ran_]
      rfl
    · rw [Turn.after, ran_]
      exact .refl _
  rcases recordAlert_cases observable.routed (alertPayload plan) turn.before.clock.utc.isoformat with
    ⟨lone, -⟩ | ⟨evidence, ⟨code, summary, coded, told, rfl⟩, incident_id, statements⟩
  · exact absurd ⟨plan, alert, plan_id, route_id, called, observable, lone⟩ whole
  · -- Both statements are carried out, and what they wrote can be read by who wrote it.
    let evidence : AlertEvidence :=
      ⟨plan_id, ⟨alert.scope, route_id, code⟩, alert.severity, summary⟩
    have evidence_there : evidence ∈ turn.evidence := by
      rw [evidence_, observable.accepted]
      show evidence ∈ alert.evidence?
      rw [AlertPlan.evidence?, observable.named, observable.routed, coded, told, Wide.narrow?_of,
        Wide.narrow?_of, Wide.narrow?_of, Wide.narrow?_of]
      rfl
    have apart_ := apart evidence evidence_there
    obtain ⟨named, allowed⟩ := checkAlertPlan_ok observable.accepted
    have readable := authorized_read allowed
    have planned : IncidentsSound turns (observePlan (evidence.observed (alertPayload plan)
        turn.before.clock.utc.isoformat) turn.before) := sound.incidents.same rfl
    obtain ⟨counted, ran⟩ := planned.countIncident_ok evidence turn.before.clock.utc.isoformat
    have written : recordAlert alert plan_id route_id (alertPayload plan)
        turn.before.clock.utc.isoformat turn.before = (.ok (), counted) := by
      have counts : countIncident
          ((AlertEvidence.mk plan_id ⟨alert.scope, route_id, code⟩ alert.severity summary).incident
            turn.before.clock.utc.isoformat)
          (observePlan (observationRow plan_id alert.scope route_id (alertPayload plan)
            turn.before.clock.utc.isoformat) turn.before) = .ok counted := ran
      rw [statements, counts]
    have carried := run_record_alert_observation observable
    rw [written] at carried
    obtain ⟨audited, observations, incidents, deliveries, last⟩ := carried
    obtain ⟨next, counts⟩ := planned.countIncident_counts evidence apart_ ran
    obtain ⟨frame, outbox⟩ := countIncident_frame ran
    have observed : ∃ row, audited.db.observation? plan_id = some row ∧
        row.owner_scope = alert.scope := by
      rw [Database.observation?, observations, frame]
      exact @observePlan_scope _ turns turn.before sound.observations evidence _
        turn.before.clock.utc.isoformat named observable.agrees
    have found : ∃ row, audited.db.incident? alert.incident_id = some row ∧
        row.owner_scope = alert.scope := by
      rw [Database.incident?, incidents, incident_id]
      exact counts.scope apart_
    obtain ⟨observation, observed, observation_scope⟩ := observed
    obtain ⟨incident, found, incident_scope⟩ := found
    rw [Prog.run_bind, run_get_alert_observation, observed] at last
    dsimp only at last
    rw [observation_scope, readable] at last
    dsimp only [Except.map] at last
    rw [Prog.run_bind, run_get_alert_incident, found] at last
    dsimp only at last
    rw [incident_scope, readable] at last
    dsimp only [Except.map] at last
    rw [last] at ran_
    have success : turn.recorded = some evidence := by
      rw [Turn.recorded, ran_]
      exact evidence_there
    have after_ : turn.after = audited := by
      rw [Turn.after, ran_]
      rfl
    refine ⟨?_, ?_, ?_⟩
    · -- The incidents before the count are the ones before the call.
      have here : RecordingCounts evidence turn.before turn.after.db.alert_incidents next := by
        rw [after_, incidents]
        exact ⟨counts.distinct, counts.id_, counts.key_, counts.lookup, counts.others,
          counts.occurrences, counts.reopenings, counts.active⟩
      exact sound.incidents.recorded evidence_there success here
    · have rows : turn.after.db.alert_observations = (observePlan
          (evidence.observed (alertPayload plan) turn.before.clock.utc.isoformat)
            turn.before).db.alert_observations := by
        rw [after_, observations, frame]
      exact sound.observations.recorded success named rows
    · refine sound.deliveries.silent ?_
      rw [World.deliveries, after_, deliveries, outbox]
      rfl

/-- A call that resolves an incident is accounted for, whether it succeeds or not. -/
theorem AlertsSound.resolve (sound : AlertsSound turns turn.before) {incident_id reason : String}
    (called : turn.call = .resolve incident_id reason) : AlertsSound (turn :: turns) turn.after := by
  have after_ : turn.after = ((resolve_alert_incident turn.store turn.actor incident_id reason).run
      turn.before).2 := by
    rw [Turn.after, Turn.ran, called]
  have silent : turn.recorded = none := by
    rw [Turn.recorded, Turn.evidence, called]
    exact ite_self _
  rcases resolve_alert_incident_leaves incident_id reason with same | ⟨row, stamp, _, _, same⟩
  · rw [← after_] at same
    exact sound.silent silent same
  · rw [← after_] at same
    refine ⟨?_, sound.observations.silent silent same.observations,
      sound.deliveries.silent same.deliveries⟩
    refine sound.incidents.changed silent same.incidents ?_ ?_ ?_ ?_ ?_
    all_goals intro row
    · split <;> rfl
    · split <;> rfl
    · split <;> rfl
    · split <;> rfl
    · intro resolved
      split
      · rfl
      · exact resolved

/-- A call that stages a delivery is accounted for, whether it succeeds or not. -/
theorem AlertsSound.stage (sound : AlertsSound turns turn.before) {plan_id : String}
    (called : turn.call = .stage plan_id) : AlertsSound (turn :: turns) turn.after := by
  have after_ : turn.after =
      ((stage_alert_delivery turn.store turn.actor plan_id).run turn.before).2 := by
    rw [Turn.after, Turn.ran, called]
  have silent : turn.recorded = none := by
    rw [Turn.recorded, Turn.evidence, called]
    exact ite_self _
  rcases stage_alert_delivery_leaves plan_id with same | ⟨delivery, stages⟩
  · rw [← after_] at same
    exact sound.silent silent same
  · rw [← after_] at stages
    refine ⟨?_, sound.observations.silent silent stages.observations,
      sound.deliveries.staged_ called stages⟩
    refine sound.incidents.changed silent (stages.incidents.trans (List.map_id _).symm) ?_ ?_ ?_ ?_ ?_
    all_goals intros
    all_goals first | rfl | assumption

/-- A call that records no surrogates is not torn. -/
theorem Turn.whole_of_storable (storable : turn.storable = true) : ¬turn.Torn := by
  rintro ⟨plan, alert, plan_id, route_id, called, observable, lone⟩
  rw [Turn.storable, called] at storable
  dsimp only at storable
  rw [observable.accepted] at storable
  obtain ⟨code, summary⟩ := Bool.and_eq_true_iff.mp storable
  rcases lone with none_ | none_
  · rw [none_] at code
    cases code
  · rw [none_] at summary
    cases summary

omit [Platform] in
/-- One more observation of a plan is counted, whether the plan was observed before or not. -/
theorem observePlan_count {row : ObservationRow} (once : row.occurrence_count = 1) (world : World) :
    (((observePlan row world).db.observation? row.plan_id).map (·.occurrence_count)).getD 0 =
      ((world.db.observation? row.plan_id).map (·.occurrence_count)).getD 0 + 1 := by
  rw [observePlan, Database.observation?]
  dsimp only
  cases known : world.db.observation? row.plan_id with
  | some old =>
    have named : old.plan_id = row.plan_id := key_of_find?_eq known
    rw [Option.isSome_some, if_pos rfl]
    refine (congrArg (fun found => (Option.map (·.occurrence_count) found).getD 0)
      ((find?_map_of_keeps (fun other => ?_) _ _).trans (congrArg _ known))).trans ?_
    · split <;> rfl
    · exact congrArg ObservationRow.occurrence_count (if_pos named)
  | none =>
    rw [Option.isSome_none, if_neg Bool.false_ne_true, List.find?_append]
    show (((world.db.observation? row.plan_id).or _).map _).getD 0 = 1
    have only : [row].find? (·.plan_id == row.plan_id) = some row :=
      List.find?_cons_of_pos (beq_iff_eq.mpr rfl)
    rw [known, Option.none_or, only]
    exact once

/-- A torn recording fails and leaves an observation that it counted. -/
theorem AlertsAccounted.torn (accounted : AlertsAccounted turns turn.before) (torn : turn.Torn) :
    ¬AlertsAccounted (turn :: turns) turn.after := by
  intro later
  obtain ⟨plan, alert, plan_id, route_id, called, observable, lone⟩ := torn
  have unrecorded : turn.evidence = none := by
    rw [Turn.evidence, called]
    dsimp only
    rw [observable.accepted]
    show alert.evidence? = none
    rw [AlertPlan.evidence?, observable.named, observable.routed, Wide.narrow?_of, Wide.narrow?_of]
    rcases lone with none_ | none_
    · rw [none_]
      rfl
    · rw [none_]
      cases alert.code.narrow? <;> rfl
  have left : turn.after = observePlan (observationRow plan_id alert.scope route_id
      (alertPayload plan) turn.before.clock.utc.isoformat) turn.before := by
    have ran := run_record_alert_observation observable
    rcases recordAlert_cases observable.routed (alertPayload plan)
      turn.before.clock.utc.isoformat with ⟨-, error, kept⟩ | ⟨_, ⟨code, summary, coded, told, -⟩, -⟩
    · rw [kept] at ran
      rw [Turn.after, Turn.ran, called]
      exact congrArg Prod.snd ran
    · rw [coded, told, Wide.narrow?_of, Wide.narrow?_of] at lone
      rcases lone with none_ | none_ <;> cases none_
  have counts := later.observations plan_id
  rw [List.countP_cons_of_neg, ← accounted.observations plan_id, left] at counts
  · exact absurd ((observePlan_count rfl turn.before).symm.trans counts) (Nat.succ_ne_self _)
  · rw [Turn.observes, Turn.recorded, unrecorded, ite_self]
    exact Bool.false_ne_true

/-- Incidents with one identifier have one key, where no two identities have the same digest. -/
theorem IncidentsSound.apart (sound : IncidentsSound turns turn.before)
    (distinct : Set.InjOn Platform.sha256 (identities (turn :: turns))) :
    ∀ evidence ∈ turn.evidence, ∀ incident ∈ turn.before.db.alert_incidents,
      incident.incident_id = evidence.alertKey.incident_id →
        incident.alertKey = evidence.alertKey := by
  intro evidence there incident member same
  obtain ⟨other, made, traced, known, key_⟩ := sound.traced incident member
  rw [sound.named incident member] at same
  -- Both identities were digested by a recording.
  have digests : Platform.sha256 incident.alertKey.identity.canonical =
      Platform.sha256 evidence.alertKey.identity.canonical := same
  refine AlertKey.identity_injective (distinct ?_ ?_ digests)
  · exact ⟨other, List.mem_cons_of_mem _ made, traced, known, by rw [key_]⟩
  · exact ⟨turn, List.mem_cons_self, evidence, there, rfl⟩

/-- After any calls, made one at a time, the rows agree with them. -/
theorem AlertsSound.history {start world : World} (fresh : NoAlerts start)
    (history : AlertHistory start turns world) (whole : ∀ turn ∈ turns, ¬turn.Torn)
    (distinct : Set.InjOn Platform.sha256 (identities turns)) : AlertsSound turns world := by
  induction history with
  | nil =>
    have incidents (key : AlertKey) : start.db.incidentOf key = none := by
      rw [Database.incidentOf, fresh.incidents]
      rfl
    have observations (plan_id : String) : start.db.observation? plan_id = none := by
      rw [Database.observation?, fresh.observations]
      rfl
    refine ⟨⟨?_, fun key => ?_, ?_, fun key => ?_, ?_, ?_⟩, ⟨?_, fun plan_id => ?_, ?_, ?_⟩,
      ⟨?_, ?_, ?_⟩⟩
    all_goals first
      | rw [fresh.incidents]
      | rw [fresh.observations]
      | rw [fresh.deliveries]
      | rw [incidents key]
      | rw [observations plan_id]
    all_goals simp
  | pass earlier same ih =>
    have sound := ih whole distinct
    exact ⟨sound.incidents.same same.incidents, sound.observations.same same.observations,
      sound.deliveries.same same.deliveries⟩
  | @call turns turn earlier ih =>
    have whole := List.forall_mem_cons.mp whole
    have sound := ih whole.2 (distinct.mono fun text there => by
      obtain ⟨other, made, rest⟩ := there
      exact ⟨other, List.mem_cons_of_mem _ made, rest⟩)
    cases called : turn.call with
    | record plan => exact sound.record called whole.1 (sound.incidents.apart distinct)
    | resolve incident_id reason => exact sound.resolve called
    | stage plan_id => exact sound.stage called

end Turns

/--
The counters of alerts agree with every sequence of calls that are made one at a time, where no
recording fails between its two statements.
-/
theorem alert_accounting {start world : World} {turns : List Turn} (fresh : NoAlerts start)
    (history : AlertHistory start turns world) (whole : ∀ turn ∈ turns, ¬turn.Torn)
    (distinct : Set.InjOn Platform.sha256 (identities turns)) : AlertsAccounted turns world := by
  obtain ⟨incidents, observations, deliveries⟩ := AlertsSound.history fresh history whole distinct
  exact {
    one_incident := incidents.distinct
    occurrences := incidents.occurrences
    counted := incidents.counted
    reopenings := incidents.reopenings
    one_observation := observations.distinct
    observations := observations.counts
    observed := observations.counted
    one_delivery := deliveries.distinct
    staged := deliveries.staged
    kept := deliveries.kept }

end Accounting

section Examples

open Sample

/-- What the alerts of one plan are about. -/
def Sample.alertKey : AlertKey := ⟨.IAC, "operations", "STALE_WORKER"⟩

local instance alertsPlatform : Platform :=
  platform [(alertKey.identity.canonical, "incident")]

/-- A plan that delivers nothing by itself, with one letter as its identifier and a summary. -/
def Sample.alertPlan (letter : Char) (summary : Wide) : List (Wide × Json Wide) :=
  [("plan_id", .str (String.ofList (List.replicate 64 letter))), ("owner_scope", .str "IAC"),
    ("action_target", .str "operations"), ("delivery_authorized", .bool false),
    ("approval_required", .bool true),
    ("alert", .obj [("code", .str "STALE_WORKER"), ("severity", .str "CRITICAL"),
      ("summary", .str summary)]),
    ("route", .obj [("route_id", .str "operations"), ("destination_kind", .str "EMAIL"),
      ("destination_ref", .str "on-call")])]

/-- The calls, latest first, of which each starts where the one before it ended. -/
def Sample.alertTurns (start : World) : List AlertCall → List Turn × World
  | [] => ([], start)
  | call :: calls =>
    let (turns, world) := alertTurns start calls
    let turn : Turn := ⟨⟨.IAC⟩, .sean, call, world⟩
    (turn :: turns, turn.after)

theorem Sample.alertTurns_history (start : World) (calls : List AlertCall) :
    AlertHistory start (alertTurns start calls).1 (alertTurns start calls).2 := by
  induction calls with
  | nil => exact .nil
  | cons call calls ih => exact .call _ ih

/-- Identities of one key have different digests, as there is one. -/
theorem Sample.distinct_of_alertKey {turns : List Turn}
    (only : turns.all (fun turn => turn.evidence.all (·.alertKey = alertKey)) = true) :
    Set.InjOn Platform.sha256 (identities turns) := by
  rw [List.all_eq_true] at only
  have same (text : String) (there : text ∈ identities turns) :
      text = alertKey.identity.canonical := by
    obtain ⟨turn, made, evidence, known, rfl⟩ := there
    have key_ := only turn made
    rw [known, Option.all_some, decide_eq_true_eq] at key_
    rw [key_]
  intro one first two second _
  rw [same one first, same two second]

/-- An alert that is recorded, resolved, recorded again and staged is counted twice and reopened once. -/
theorem alert_accounting_reopened : ∃ (turns : List Turn) (last : World),
    AlertHistory (world Database.empty) turns last ∧ AlertsAccounted turns last ∧
      (last.db.incidentOf alertKey).map (fun row => (row.occurrence_count, row.reopen_count)) =
        some (2, 1) ∧ last.deliveries.length = 1 := by
  let calls : List AlertCall := [.stage (String.ofList (List.replicate 64 'a')),
    .record (alertPlan 'a' "A worker is stale"), .resolve "incident" "Restarted",
    .record (alertPlan 'a' "A worker is stale")]
  have history := alertTurns_history (world Database.empty) calls
  have facts : (alertTurns (world Database.empty) calls).1.all (·.storable) = true ∧
      (alertTurns (world Database.empty) calls).1.all
        (fun turn => turn.evidence.all (·.alertKey = alertKey)) = true ∧
      ((alertTurns (world Database.empty) calls).2.db.incidentOf alertKey).map
        (fun row => (row.occurrence_count, row.reopen_count)) = some (2, 1) ∧
      (alertTurns (world Database.empty) calls).2.deliveries.length = 1 := by
    decide +kernel
  obtain ⟨storable, only, counts, staged⟩ := facts
  exact ⟨_, _, history, alert_accounting ⟨rfl, rfl, rfl⟩ history
    (fun turn made => Turn.whole_of_storable (List.all_eq_true.mp storable turn made))
    (distinct_of_alertKey only), counts, staged⟩

/-- A summary that is one half of a pair of surrogates. -/
def Sample.loneSummary : Wide := ⟨[0xD800], by decide⟩

/--
A recording whose summary cannot be stored fails, but its observation is kept by the recording of
another plan that follows, and counts a recording that never succeeded.
-/
theorem alert_accounting_torn : ∃ (turns : List Turn) (last : World),
    AlertHistory (world Database.empty) turns last ∧
      Set.InjOn Platform.sha256 (identities turns) ∧
      turns.map (·.ran.1) = [true, false] ∧ ¬AlertsAccounted turns last := by
  let calls : List AlertCall := [.record (alertPlan 'a' "A worker is stale"),
    .record (alertPlan 'b' loneSummary)]
  have facts : (alertTurns (world Database.empty) calls).1.all
        (fun turn => turn.evidence.all (·.alertKey = alertKey)) = true ∧
      (alertTurns (world Database.empty) calls).1.map (·.ran.1) = [true, false] ∧
      (((alertTurns (world Database.empty) calls).2.db.observation?
        (String.ofList (List.replicate 64 'b'))).map (·.occurrence_count)).getD 0 = 1 ∧
      (alertTurns (world Database.empty) calls).1.countP
        (·.observes (String.ofList (List.replicate 64 'b'))) = 0 := by
    decide +kernel
  obtain ⟨only, ran, observed, recorded⟩ := facts
  refine ⟨_, _, alertTurns_history (world Database.empty) calls, distinct_of_alertKey only, ran,
    fun accounted => ?_⟩
  have counts := accounted.observations (String.ofList (List.replicate 64 'b'))
  rw [observed, recorded] at counts
  cases counts

end Examples

end SeanOs
