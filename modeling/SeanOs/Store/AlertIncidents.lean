import SeanOs.Store.AlertDeliveries

/-! The observations of alerts and the incidents they are counted in, which open, resolve and reopen. -/

namespace SeanOs

open Atomic Calendar

namespace Database

/-- The observation of a plan. -/
def observation? (db : Database) (plan_id : String) : Option ObservationRow :=
  db.alert_observations.find? (·.plan_id == plan_id)

/-- The incident under an identifier. -/
def incident? (db : Database) (incident_id : String) : Option IncidentRow :=
  db.alert_incidents.find? (·.incident_id == incident_id)

end Database

/-- What an incident is about: a scope, a route and an alert code. -/
structure AlertKey where
  scope : Scope
  route_id : String
  alert_code : String
  deriving DecidableEq

/-- What an incident is about, as the object its identifier is the digest of. -/
def AlertKey.identity (key : AlertKey) : Json :=
  .obj [("owner_scope", .str key.scope.text), ("route_id", .str key.route_id),
    ("alert_code", .str key.alert_code)]

/-- What a row of `alert_incidents` is about. -/
def IncidentRow.alertKey (row : IncidentRow) : AlertKey :=
  ⟨row.owner_scope, row.route_id, row.alert_code⟩

/-- What a plan says that is recorded. -/
structure AlertEvidence where
  plan_id : String
  alertKey : AlertKey
  severity : String
  summary : String

/-- What a plan says that passed the checks, whose texts may hold surrogates. -/
structure AlertPlan where
  plan_id : Wide
  scope : Scope
  route_id : Wide
  code : Wide
  severity : String
  summary : Wide

/-- What an alert is about, as the object the identifier of its incident is the digest of. -/
def AlertPlan.identity (alert : AlertPlan) : Json Wide :=
  .obj [("owner_scope", .str alert.scope.text), ("route_id", .str alert.route_id),
    ("alert_code", .str alert.code)]

/-- The row of a first observation. -/
def observationRow (plan_id : String) (owner_scope : Scope) (route_id : String)
    (payload : Json Wide) (stamp : String) : ObservationRow where
  plan_id := plan_id
  owner_scope := owner_scope
  route_id := route_id
  plan_payload := payload
  first_seen_at := stamp
  last_seen_at := stamp
  occurrence_count := 1

/-- Count an observation, or insert it if its plan was not observed before. -/
def observePlan (row : ObservationRow) (world : World) : World :=
  let rows := world.db.alert_observations
  let alert_observations :=
    if (world.db.observation? row.plan_id).isSome then
      rows.map fun other => if other.plan_id = row.plan_id then
        { other with
          last_seen_at := row.last_seen_at, occurrence_count := other.occurrence_count + 1 }
      else other
    else rows ++ [row]
  { world with db := { world.db with alert_observations := alert_observations } }

/-- An incident after one more observation, which reopens it if it was resolved. -/
def IncidentRow.again (row : IncidentRow) (severity summary stamp : String) : IncidentRow :=
  { row with
    severity := severity, current_summary := summary, resolved := false, last_seen_at := stamp
    occurrence_count := row.occurrence_count + 1
    reopen_count := row.reopen_count + if row.resolved then 1 else 0
    resolved_at := none, resolved_by := none, resolution_reason := none }

/-- Count an observation in its incident, or insert the incident if there is none. -/
def countIncident (row : IncidentRow) (world : World) : Except Error World :=
  let rows := world.db.alert_incidents
  if (world.db.incident? row.incident_id).isSome then
    let counted := rows.map fun other =>
      if other.incident_id = row.incident_id then
        other.again row.severity row.current_summary row.last_seen_at
      else other
    .ok { world with db := { world.db with alert_incidents := counted } }
  -- The second key of the table is not the one the conflict clause names.
  else if rows.any (·.alertKey = row.alertKey) then
    .error (.integrity "UNIQUE constraint failed: alert_incidents.owner_scope, route_id, alert_code")
  else .ok { world with db := { world.db with alert_incidents := rows ++ [row] } }

/-- The column of a reason counts its characters up to the first null character. -/
def reasonCounts (reason : String) : Bool :=
  (reason.toList.dropWhile (· == ' ')).head?.any (·.toNat ≠ 0)

/-- Resolve an incident. -/
def resolveIncident (incident_id stamp resolved_by reason : String) (world : World) : World :=
  let alert_incidents := world.db.alert_incidents.map fun row =>
    if row.incident_id = incident_id then
      { row with
        resolved := true, resolved_at := some stamp, resolved_by := some resolved_by
        resolution_reason := some reason }
    else row
  { world with db := { world.db with alert_incidents := alert_incidents } }

/-- The scope of an alert, which a value that cannot be a member of a set has none of. -/
def alertScope : Json Wide → Except Error Scope
  | .arr _ => .error (.value "unhashable type: 'list'")
  | .obj _ => .error (.value "unhashable type: 'dict'")
  | .str name =>
    if name = Wide.of "PERSONAL" then .ok .PERSONAL
    else if name = Wide.of "IAC" then .ok .IAC
    else .error (.validation "Alert observation requires PERSONAL or IAC scope")
  | _ => .error (.validation "Alert observation requires PERSONAL or IAC scope")

/-- The severity of an alert, which is one of three. -/
def alertSeverity : Json Wide → Except Error String
  | .arr _ => .error (.value "unhashable type: 'list'")
  | .obj _ => .error (.value "unhashable type: 'dict'")
  | .str name =>
    (["ATTENTION", "HIGH", "CRITICAL"].find? fun severity : String => name = severity).elim
      (.error (.validation "Alert severity is unsupported")) .ok
  | _ => .error (.validation "Alert severity is unsupported")

variable [Platform]

/-- The identifier of the incident of a key. -/
def AlertKey.incident_id (key : AlertKey) : String := canonicalSha256 key.identity

/-- The identifier of the incident of an alert. -/
def AlertPlan.incident_id (alert : AlertPlan) : String := canonicalSha256 alert.identity

/-- The checks on a plan whose alert is recorded. -/
def checkAlertPlan (store : Store) (actor : Actor) (plan : List (Wide × Json Wide)) :
    Except Error AlertPlan := do
  let value := Json.obj plan
  let scope ← alertScope (value.getD "owner_scope")
  _authorize store actor scope.text [] "write"
  let plan_id ← ((value.text? (Wide.of "plan_id")).filter (·.points.length = 64)).elim
    (.error (.validation "Alert observation requires deterministic plan_id")) .ok
  refuseIf (value.get? (Wide.of "delivery_authorized") ≠ some (.bool false))
    (.validation "Only non-delivering alert plans may be recorded")
  refuseIf (secret_findings (asChecked value) "$" ≠ [])
    (.validation "Secret-like material is prohibited in alert evidence")
  let route_id ← (presentText "action_target" value).elim
    (.error (.validation "Alert observation requires a route ID")) .ok
  let alert : Json Wide := value.getD "alert"
  refuseIf alert.keys?.isNone (.validation "Alert observation requires alert evidence")
  let code ← (presentText "code" alert).elim
    (.error (.validation "Alert code and summary are required")) .ok
  let summary ← (presentText "summary" alert).elim
    (.error (.validation "Alert code and summary are required")) .ok
  let severity ← alertSeverity (alert.getD "severity")
  return ⟨plan_id, scope, route_id, code, severity, summary⟩

/-- The payload of a plan, as the text it is written as names its members. -/
def alertPayload (plan : List (Wide × Json Wide)) : Json Wide :=
  (Json.sorted (.obj plan)).mapText Wide.joined

namespace AlertEvidence

variable (evidence : AlertEvidence)

/-- The row of a new incident. -/
def incident (stamp : String) : IncidentRow where
  incident_id := evidence.alertKey.incident_id
  owner_scope := evidence.alertKey.scope
  route_id := evidence.alertKey.route_id
  alert_code := evidence.alertKey.alert_code
  severity := evidence.severity
  current_summary := evidence.summary
  resolved := false
  first_seen_at := stamp
  last_seen_at := stamp
  occurrence_count := 1
  reopen_count := 0
  resolved_at := none
  resolved_by := none
  resolution_reason := none

end AlertEvidence

/-- The statements that record an alert: its observation, its incident, and their commit. -/
def recordAlert (alert : AlertPlan) (plan_id route_id : String) (payload : Json Wide)
    (stamp : String) (world : World) : Except Error Unit × World :=
  let observed := observePlan (observationRow plan_id alert.scope route_id payload stamp) world
  let counted := do
    let code ← bindText alert.code
    let summary ← bindText alert.summary
    let evidence : AlertEvidence :=
      ⟨plan_id, ⟨alert.scope, route_id, code⟩, alert.severity, summary⟩
    countIncident { evidence.incident stamp with incident_id := alert.incident_id } observed
  match counted with
  | .ok changed => (.ok (), changed)
  -- What the first statement wrote stays, and is kept by the next commit.
  | .error error => (.error error, observed)

/-- Persist or count a scope-authorized, non-delivering alert plan. -/
def record_alert_observation (store : Store) (actor : Actor) (plan : List (Wide × Json Wide)) :
    Op (ObservationRow × IncidentRow) := do
  let alert ← lift (checkAlertPlan store actor plan)
  let incident_id := alert.incident_id
  -- Two payloads have the same text exactly where they are the same once they are sorted.
  let payload := alertPayload plan
  let plan_id ← lift (bindText alert.plan_id)
  let existing ← select (·.observation? plan_id)
  lift (refuseIf (existing.any (·.plan_payload ≠ payload))
    (.validation "Alert plan_id collision or payload mutation"))
  let stamp ← now
  let prior ← select (·.incident? incident_id)
  let route_id ← lift (bindText alert.route_id)
  Prog.transact .alerts (recordAlert alert plan_id route_id payload stamp)
  _audit actor "RECORD_ALERT_OBSERVATION" .ALLOWED "Scoped non-delivering alert evidence recorded"
    (some plan_id)
    [("scope", .str alert.scope.text), ("route_id", .str route_id),
      ("incident_id", .str incident_id), ("incident_reopened", .bool (prior.any (·.resolved)))] none
  let observation ← get_alert_observation store actor plan_id
  let incident ← get_alert_incident store actor incident_id
  return (observation, incident)

/-- Resolve an incident with a reason, which only Sean may do. -/
def resolve_alert_incident (store : Store) (actor : Actor) (incident_id reason : String) :
    Op IncidentRow :=
  if !actor.is_sean then
    throw (.authorization "Only Sean may resolve an alert incident in v0.1")
  else if strip reason = "" then throw (.validation "Alert resolution requires a reason")
  else if secret_findings (.obj [("reason", .str reason)]) "$" ≠ [] then
    throw (.validation "Secret-like material is prohibited in resolution evidence")
  else do
    match ← select (·.incident? incident_id) with
    | none => throw (.validation "Alert incident not found")
    | some row =>
      if row.resolved then
        if row.resolved_by = some actor.id ∧ row.resolution_reason = some reason then do
          _audit actor "RESOLVE_ALERT_INCIDENT" .ALLOWED "Idempotent resolution replay"
            (some incident_id)
            [("scope", .str row.owner_scope.text), ("outcome", .str "ALREADY_RESOLVED")] none
          return row
        else throw (.validation "Alert incident is already resolved with different evidence")
      else do
        let stamp ← now
        Prog.transact .alerts fun world =>
          if reasonCounts reason then
            (.ok (), resolveIncident incident_id stamp actor.id reason world)
          else (.error (.integrity "CHECK constraint failed: alert_incidents"), world)
        _audit actor "RESOLVE_ALERT_INCIDENT" .ALLOWED reason (some incident_id)
          [("scope", .str row.owner_scope.text), ("outcome", .str "RESOLVED")] none
        get_alert_incident store actor incident_id

end SeanOs
