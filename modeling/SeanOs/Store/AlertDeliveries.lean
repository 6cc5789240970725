import SeanOs.Store.Requests

/-! The outbox of alert deliveries: authorization, leases, synthetic completion and reset. -/

namespace SeanOs

open Atomic Calendar

/-- The rows of `alert_delivery_outbox`. -/
def alertDeliveryOutbox : OutboxTable DeliveryColumns where
  name := .alert_delivery
  rows db := db.alert_delivery_outbox
  put items db := { db with alert_delivery_outbox := items }
  rows_put _ _ := rfl
  approvalAt_self _ _ := rfl
  approvalAt_other _ _ other _ apart := by cases other <;> first | rfl | exact absurd rfl apart
  frame _ _ := ⟨rfl, rfl⟩

/-- What a read of a delivery says about its lease. -/
inductive LeaseState where
  | UNCLAIMED | EXPIRED | ACTIVE | NONE
  deriving DecidableEq

/-- A delivery as it is read: its row, the state of its lease, and the attempts it has left. -/
structure Delivery where
  row : OutboxRow DeliveryColumns
  lease_state : LeaseState
  attempts_remaining : ℕ

/-- The state of the lease of a row at one time. -/
def leaseState (row : OutboxRow DeliveryColumns) (clock : Reading) : Except Error LeaseState :=
  if row.status ≠ .AUTHORIZED then .ok .NONE
  else if (given row.lease_owner).isNone then .ok .UNCLAIMED
  else match given row.lease_expires_at with
    | none => .ok .ACTIVE
    | some lease_expires_at => (reached lease_expires_at clock).map fun expired =>
      if expired then .EXPIRED else .ACTIVE

variable [Platform]

/-- Read a delivery that the actor may read. -/
def get_alert_delivery (store : Store) (actor : Actor) (delivery_id : String) : Op Delivery := do
  let row ← getRow alertDeliveryOutbox "Alert delivery not found" store actor delivery_id
  let clock ← clockNow
  let lease_state ← lift (leaseState row clock)
  return ⟨row, lease_state, row.max_attempts - row.attempt_count⟩

/-- The observation of an alert, if the actor may read it. -/
def get_alert_observation (store : Store) (actor : Actor) (plan_id : String) :
    Op ObservationRow := do
  match ← select fun db => db.alert_observations.find? (·.plan_id == plan_id) with
  | none => throw (.validation "Alert observation not found")
  | some row => do
    lift (_authorize store actor row.owner_scope.text [] "read")
    return row

/-- An incident, if the actor may read it. -/
def get_alert_incident (store : Store) (actor : Actor) (incident_id : String) :
    Op IncidentRow := do
  match ← select fun db => db.alert_incidents.find? (·.incident_id == incident_id) with
  | none => throw (.validation "Alert incident not found")
  | some row => do
    lift (_authorize store actor row.owner_scope.text [] "read")
    return row

/-- The digest of the canonical text of a value. -/
def canonicalSha256 {τ : Type} [CodePoints τ] [LinearOrder τ] (value : Json τ) : String :=
  Platform.sha256 value.canonical

/-- A text as a statement binds it, which is encoded for it and holds no surrogates then. -/
def bindText (text : Wide) : Except Error String :=
  text.narrow?.elim (.error (.value "surrogates not allowed")) .ok

/-- A text that is there and not blank. -/
def presentText (name : Wide) (value : Json Wide) : Option Wide :=
  (value.text? name).filter fun text => strip (text.marked '!') ≠ ""

/-- The code of an alert, of which a value that is no object has none to ask for. -/
def alertCode : Json Wide → Except Error (Json Wide)
  | .obj members => .ok ((Json.obj members).getD "code")
  | _ => .error (.value "the alert has no attribute 'get'")

/-- The route of a plan that may be staged: its kind and its reference. -/
def checkStagedPlan (row : ObservationRow) (plan : Json Wide) : Except Error (String × Wide) := do
  refuseIf (plan.get? (Wide.of "delivery_authorized") ≠ some (.bool false) ||
      plan.get? (Wide.of "approval_required") ≠ some (.bool true))
    (.validation "Only approval-gated non-delivering plans may be staged")
  let route : Json Wide := plan.getD "route"
  refuseIf (route.keys?.isNone || route.text? (Wide.of "route_id") ≠ some (row.route_id : Wide))
    (.validation "Alert delivery route evidence is invalid")
  let kind ← (["EMAIL", "WEBHOOK"].find? fun kind : String =>
      route.text? (Wide.of "destination_kind") = some (kind : Wide)).elim
    (.error (.validation "Alert delivery destination kind is invalid")) .ok
  let reference ← (presentText "destination_ref" route).elim
    (.error (.validation "Alert delivery destination reference is invalid")) .ok
  return (kind, reference)

/-- Insert a delivery, unless its identifier or its incident and generation are taken. -/
def insertDelivery (row : OutboxRow DeliveryColumns) (world : World) : World :=
  let rows := world.db.alert_delivery_outbox
  if rows.any fun other => other.key == row.key || (other.columns.incident_id ==
      row.columns.incident_id && other.columns.reopen_generation == row.columns.reopen_generation)
  then world
  else { world with db := { world.db with alert_delivery_outbox := rows ++ [row] } }

/-- Stage the delivery of an alert that was observed, which awaits its approval then. -/
def stage_alert_delivery (store : Store) (actor : Actor) (plan_id : String) : Op Delivery := do
  let observation ← get_alert_observation store actor plan_id
  let plan := observation.plan_payload.reread
  let scope := observation.owner_scope
  lift (_authorize store actor scope.text [] "write")
  let (kind, destination_ref) ← lift (checkStagedPlan observation plan)
  let code ← lift (alertCode ((plan.get? (Wide.of "alert")).getD (.obj [])))
  let incident_id := canonicalSha256 (.obj [(Wide.of "owner_scope", .str scope.text),
    (Wide.of "route_id", .str observation.route_id), (Wide.of "alert_code", code)])
  let incident ← get_alert_incident store actor incident_id
  lift (refuseIf incident.resolved
    (.validation "Resolved incidents cannot stage alert delivery"))
  let delivery_id := canonicalSha256 (.obj [("incident_id", .str incident_id),
    ("reopen_generation", .int incident.reopen_count)])
  let alert ← lift ((plan.get? (Wide.of "alert")).elim (.error (.key "alert")) .ok)
  let payload_sha256 := canonicalSha256 alert
  let stamp ← now
  let reference ← lift (bindText destination_ref)
  Prog.write .outbox (insertDelivery {
    key := delivery_id, owner_scope := scope, status := .STAGED, approval_id := none
    attempt_count := 0, max_attempts := 3, available_at := stamp, lease_owner := none
    lease_expires_at := none, last_error := none, preflight_receipt_payload := none
    receipt_payload := none, created_at := stamp, updated_at := stamp, finished_at := none
    columns := {
      plan_id := plan_id, incident_id := incident_id
      reopen_generation := incident.reopen_count, route_id := observation.route_id
      destination_kind := kind, destination_ref := reference, alert_payload := alert.sorted
      payload_sha256 := payload_sha256 } })
  let delivery ← get_alert_delivery store actor delivery_id
  lift (refuseIf (delivery.row.columns.plan_id ≠ plan_id ||
      delivery.row.columns.payload_sha256 ≠ payload_sha256)
    (.validation "Alert delivery identity collision or payload mutation"))
  _audit actor "STAGE_ALERT_DELIVERY" .ALLOWED "Durable delivery awaiting exact approval"
    (some delivery_id)
    [("scope", .str scope.text), ("plan_id", .str plan_id), ("delivery_authorized", .bool false)]
    none
  return delivery

/-- What is recorded when a failed delivery was reset. -/
def recoveryReset : String := "Recovery reset; fresh approval required"

/-- Return a failed delivery to the state that awaits a fresh approval, which only Sean may do. -/
def reset_failed_alert_delivery (store : Store) (actor : Actor) (delivery_id reason : String) :
    Op Delivery :=
  if !actor.is_sean then throw (.authorization "Only Sean may reset failed alert delivery")
  else if strip reason = "" then throw (.validation "Alert delivery reset requires a reason")
  else if secret_findings (.obj [("reason", .str reason)]) "$" ≠ [] then
    throw (.validation "Secret-like material is prohibited in recovery evidence")
  else do
    match ← select (alertDeliveryOutbox.find? delivery_id) with
    | none => throw (.validation "Alert delivery not found")
    | some row => do
      lift (_authorize store actor row.owner_scope.text [] "write")
      if row.status = .STAGED ∧ row.approval_id = none ∧ row.attempt_count = 0 ∧
          row.last_error = some recoveryReset then
        get_alert_delivery store actor delivery_id
      else if row.status ≠ .FAILED then
        throw (.validation "Only failed alert delivery may be reset")
      else do
        let stamp ← now
        Prog.write .outbox (alertDeliveryOutbox.update
          (fun row => row.key == delivery_id && row.status == .FAILED) fun row =>
            { row.unleased with
              status := .STAGED, approval_id := none, attempt_count := 0, available_at := stamp
              last_error := some recoveryReset, receipt_payload := none, finished_at := none
              updated_at := stamp })
        _audit actor "RESET_ALERT_DELIVERY" .ALLOWED reason (some delivery_id)
          [("scope", .str row.owner_scope.text), ("next_status", .str "STAGED"),
            ("fresh_approval_required", .bool true),
            ("manual_execution_authorized", .bool false)] none
        get_alert_delivery store actor delivery_id

/-- Request the approval of a staged delivery, unless one is pending. -/
def request_alert_delivery_approval (store : Store) (actor : Actor)
    (delivery_id max_impact expires_at : String) : Op String := do
  let delivery ← get_alert_delivery store actor delivery_id
  let row := delivery.row
  lift (_authorize store actor row.owner_scope.text [] "write")
  lift (refuseIf (row.status ≠ .STAGED)
    (.validation "Only staged deliveries may request approval"))
  lift (refuseIf (strip max_impact = "")
    (.validation "Alert delivery approval requires a bounded impact"))
  requestOnce store actor {
    outbox := .alert_delivery, target := delivery_id, scope := row.owner_scope
    conditions := [("delivery_id", .str delivery_id),
      ("payload_sha256", .str row.columns.payload_sha256)]
    exact_ := false
    different := "A different alert delivery approval request is already pending" }
    max_impact expires_at

/-- Authorize a staged delivery with its exact approval, which only Sean may do. -/
def authorize_alert_delivery (store : Store) (actor : Actor) (delivery_id approval_id : String) :
    Op Delivery :=
  if !actor.is_sean then throw (.authorization "Only Sean may authorize alert delivery")
  else do
    let delivery ← get_alert_delivery store actor delivery_id
    let row := delivery.row
    if row.status ≠ .STAGED then
      if row.status = .AUTHORIZED ∧ row.approval_id = some approval_id then return delivery
      else throw (.validation "Alert delivery is not awaiting approval")
    else do
      authorizeRow alertDeliveryOutbox {
        awaiting := .STAGED
        raced := "Alert delivery authorization raced with another update"
        action := "AUTHORIZE_ALERT_DELIVERY"
        reason := "Exact delivery approval consumed"
        affected := delivery_id
        details := [("scope", .str row.owner_scope.text), ("approval_id", .str approval_id)] }
        store actor {
          approval_id := approval_id, action_type := "DELIVER_ALERT", target := .str delivery_id
          scope := some row.owner_scope }
        delivery_id none
      get_alert_delivery store actor delivery_id

/-- Lease the next authorized delivery of the actor's scopes, if the kill switch is off. -/
def claim_authorized_alert_delivery (store : Store) (actor : Actor) (worker_id : String)
    (lease_seconds : ℤ) : Op (Option Delivery) :=
  if strip worker_id = "" then throw (.validation "Alert delivery worker ID is required")
  else if lease_seconds < 1 ∨ 300 < lease_seconds then
    throw (.validation "Alert delivery lease must be between 1 and 300 seconds")
  else do
    let scopes := [Scope.IAC, Scope.PERSONAL].filter fun scope =>
      scope ∈ actor.scopes ∧ scope ∈ store.allowed_scopes
    if ← kill_switch_enabled then
      _audit actor "CLAIM_ALERT_DELIVERY" .DENIED "Kill switch is ON" none [] none
      return none
    else if scopes = [] then
      _audit actor "CLAIM_ALERT_DELIVERY" .DENIED "Worker has no authorized delivery scope" none []
        none
      return none
    else do
      let stamp ← now
      let lease ← later (← clockNow) lease_seconds.toNat
      let (terminal, chosen) ← claimRow alertDeliveryOutbox worker_id stamp lease fun row =>
        row.owner_scope ∈ scopes
      auditEach actor "FAIL_ALERT_DELIVERY" "Lease expired after maximum attempts"
        (fun row => [("scope", .str row.owner_scope.text), ("next_status", .str "FAILED"),
          ("network_used", .bool false), ("recovered_from_expired_lease", .bool true)]) terminal
      match chosen with
      | none => return none
      | some key => do
        let claimed ← get_alert_delivery store actor key
        _audit actor "CLAIM_ALERT_DELIVERY" .ALLOWED "Authorized synthetic delivery lease acquired"
          (some key)
          [("scope", .str claimed.row.owner_scope.text), ("worker_id", .str worker_id),
            ("attempt", .int claimed.row.attempt_count), ("network_used", .bool false)] none
        return some claimed

/-- The checks on a receipt, which must prove that a delivery used no network. -/
def checkSyntheticReceipt (delivery_id payload_sha256 : String) (receipt : Json) :
    Except Error Unit := do
  refuseIf (!Json.equal (receipt.getD "mode") (.str "SYNTHETIC") ||
      receipt.get? "network_used" ≠ some (.bool false))
    (.validation "Only no-network synthetic delivery receipts are accepted")
  refuseIf (receipt.get? "external_effect" ≠ some (.bool false))
    (.validation "Synthetic delivery receipt must prove no external effect")
  refuseIf (receipt.text? "delivery_id" ≠ some delivery_id ||
      receipt.text? "payload_sha256" ≠ some payload_sha256)
    (.validation "Synthetic delivery receipt does not match staged payload")

/-- The checks on the receipt of a worker, which must hold nothing secret either. -/
def checkDeliveryReceipt (delivery_id payload_sha256 : String) (receipt : Json) :
    Except Error Unit := do
  checkSyntheticReceipt delivery_id payload_sha256 receipt
  refuseIf (secret_findings receipt "$" ≠ [])
    (.validation "Secret-like material is prohibited in delivery receipts")

/-- Record the receipt of a delivery that was authorized, whoever holds its lease. -/
def record_synthetic_alert_delivery (store : Store) (actor : Actor) (delivery_id : String)
    (receipt : Json) : Op Delivery := do
  let delivery ← get_alert_delivery store actor delivery_id
  let row := delivery.row
  lift (_authorize store actor row.owner_scope.text [] "write")
  lift (checkSyntheticReceipt delivery_id row.columns.payload_sha256 receipt)
  if row.status = .SYNTHETIC_DELIVERED then
    if row.receipt_payload.any (Json.equal · receipt) then return delivery
    else throw (.validation "Alert delivery already has different receipt evidence")
  else if row.status ≠ .AUTHORIZED then
    throw (.authorization "Alert delivery lacks exact approval")
  else do
    let stamp ← now
    -- The lease of a worker is neither asked for nor ended.
    Prog.write .outbox (alertDeliveryOutbox.update
      (fun row => row.key == delivery_id && row.status == .AUTHORIZED) fun row =>
        { row with
          status := .SYNTHETIC_DELIVERED, attempt_count := row.attempt_count + 1
          receipt_payload := some receipt.sorted, finished_at := some (.str stamp)
          updated_at := stamp })
    _audit actor "SYNTHETIC_DELIVER_ALERT" .ALLOWED "No-network synthetic adapter completed"
      (some delivery_id)
      [("scope", .str row.owner_scope.text), ("network_used", .bool false)] none
    get_alert_delivery store actor delivery_id

/-- A value as a column of the database keeps it, which takes no lists and no objects. -/
def columnValue : Json → Except Error (Option Json)
  | .null => .ok none
  | .arr _ => .error (.integrity "Error binding parameter: type 'list' is not supported")
  | .obj _ => .error (.integrity "Error binding parameter: type 'dict' is not supported")
  | value => .ok (some value)

/-- Complete a leased delivery with the receipt of its synthetic adapter. -/
def complete_claimed_synthetic_alert_delivery (store : Store) (actor : Actor)
    (delivery_id worker_id : String) (receipt : Json) : Op Delivery := do
  lift (refuseIf (← kill_switch_enabled)
    (.authorization "Kill switch is ON; delivery completion denied"))
  match ← select (alertDeliveryOutbox.find? delivery_id) with
  | none => throw (.validation "Alert delivery not found")
  | some row => do
    lift (_authorize store actor row.owner_scope.text [] "write")
    lift (checkDeliveryReceipt delivery_id row.columns.payload_sha256 receipt)
    if row.status = .SYNTHETIC_DELIVERED then
      if row.receipt_payload.any (Json.equal · receipt) then
        get_alert_delivery store actor delivery_id
      else throw (.validation "Alert delivery already has different receipt evidence")
    else do
      let stamp ← now
      let finished_at ← lift (columnValue (receipt.getD "delivered_at"))
      -- The end of the lease is not asked for, only its owner.
      Prog.transact (.complete .alert_delivery delivery_id worker_id) fun world =>
        if alertDeliveryOutbox.matches_ (·.heldBy delivery_id worker_id) world then
          (.ok (), alertDeliveryOutbox.update (·.heldBy delivery_id worker_id) (fun row =>
            { row.unleased with
              status := .SYNTHETIC_DELIVERED, receipt_payload := some receipt.sorted
              finished_at := finished_at, updated_at := stamp, last_error := none }) world)
        else
          (.error (.authorization "Worker does not hold the active alert delivery lease"), world)
      _audit actor "COMPLETE_ALERT_DELIVERY" .ALLOWED
        "Leased no-network synthetic delivery completed" (some delivery_id)
        [("scope", .str row.owner_scope.text), ("worker_id", .str worker_id),
          ("network_used", .bool false), ("external_effect", .bool false)] none
      get_alert_delivery store actor delivery_id

/-- End a failed attempt of a delivery. -/
def fail_claimed_alert_delivery :
    Store → Actor → (delivery_id worker_id error : String) → ℤ → Op OutboxStatus :=
  failClaimed {
    table := alertDeliveryOutbox
    missing := "Alert delivery failure requires an error"
    secret := "Secret-like material is prohibited in delivery failures"
    delay := "Alert delivery retry must be between 0 and 3600 seconds"
    unleased := "Worker does not hold the active alert delivery lease"
    scope := fun row => row.owner_scope.text
    action := "FAIL_ALERT_DELIVERY"
    details := fun row worker_id status => [("scope", .str row.owner_scope.text),
      ("worker_id", .str worker_id), ("next_status", .str status.text),
      ("network_used", .bool false)] }

end SeanOs
