import SeanOs.Store.Requests

/-! The outbox of backup transfers: authorization by an exact approval, leases, and their ends. -/

namespace SeanOs

open Atomic Calendar

/-- The rows of `backup_transfer_outbox`. -/
def backupTransferOutbox : OutboxTable TransferColumns where
  name := .backup_transfer
  rows db := db.backup_transfer_outbox
  put items db := { db with backup_transfer_outbox := items }
  rows_put _ _ := rfl
  approvalAt_self _ _ := rfl
  approvalAt_other _ _ other _ apart := by cases other <;> first | rfl | exact absurd rfl apart
  frame _ _ := ⟨rfl, rfl⟩

variable [Platform]

/-- Read a staged transfer. -/
def get_backup_transfer : Store → Actor → String → Op (OutboxRow TransferColumns) :=
  getRow backupTransferOutbox "Backup transfer plan not found"

/-- The members of an object under their names, all of which it must have. -/
def planFields (plan : Json) : List String → Except Error (List (String × Json))
  | [] => .ok []
  | name :: names => match plan.get? name with
    | none => .error (.key name)
    | some item => (planFields plan names).map ((name, item) :: ·)

/-- What an approval of a transfer must be conditional on. -/
def _backup_transfer_approval_conditions (row : OutboxRow TransferColumns) :
    Except Error (List (String × Json)) :=
  (planFields row.columns.plan_payload
    ["backup_sha256", "provider", "destination_ref", "data_region", "provider_endpoint",
      "provider_writer_identity_ref", "client_encryption_key_ref", "object_ref", "retention_mode",
      "retention_days", "window_start", "window_end", "max_cost_cad"]).map fun fields =>
    ("plan_sha256", .str row.key) :: ("proposal_sha256", .str row.columns.proposal_sha256) :: fields

/-- Request the exact approval of a transfer whose preflight was validated. -/
def request_backup_transfer_approval (store : Store) (actor : Actor)
    (plan_sha256 max_impact expires_at : String) : Op String := do
  let row ← get_backup_transfer store actor plan_sha256
  lift (_authorize store actor row.owner_scope.text [] "write")
  lift (refuseIf (row.status ≠ .PREFLIGHT_VALIDATED)
    (.validation "Backup transfer requires validated no-network preflight evidence"))
  let conditions ← lift (_backup_transfer_approval_conditions row)
  requestOnce store actor {
    outbox := .backup_transfer, target := row.columns.approval_target, scope := .IAC
    conditions := conditions, exact_ := true
    different := "A different backup drill approval request is already pending" }
    max_impact expires_at

/-- Authorize a transfer with its exact single-use approval, which only Sean may do. -/
def authorize_backup_transfer (store : Store) (actor : Actor) (plan_sha256 approval_id : String) :
    Op (OutboxRow TransferColumns) :=
  if !actor.is_sean then throw (.authorization "Only Sean may authorize a backup transfer")
  else do
    let row ← get_backup_transfer store actor plan_sha256
    if row.status = .AUTHORIZED ∧ row.approval_id = some approval_id then return row
    else if row.status ≠ .PREFLIGHT_VALIDATED then
      throw (.validation "Backup transfer is not awaiting exact approval")
    else do
      let conditions ← lift (_backup_transfer_approval_conditions row)
      authorizeRow backupTransferOutbox {
        awaiting := .PREFLIGHT_VALIDATED
        raced := "Backup transfer authorization raced with another update"
        action := "AUTHORIZE_BACKUP_TRANSFER"
        reason := "Exact single-use backup plan approval consumed"
        affected := approval_id
        details := [("scope", .str "IAC"), ("plan_sha256", .str plan_sha256),
          ("network_performed", .bool false), ("upload_performed", .bool false)] }
        store actor {
          approval_id := approval_id, action_type := "RUN_INDEPENDENT_BACKUP_RESTORE_DRILL"
          target := .str row.columns.approval_target, scope := some .IAC
          conditions := some conditions }
        plan_sha256 none
      get_backup_transfer store actor plan_sha256

/-- Lease the next authorized transfer, if there is one and the kill switch is off. -/
def claim_authorized_backup_transfer (store : Store) (actor : Actor) (worker_id : String)
    (lease_seconds : ℤ) : Op (Option (OutboxRow TransferColumns)) :=
  if store.scope_profile ≠ .IAC ∨ .IAC ∉ actor.scopes then
    throw (.authorization "Backup transfer worker requires the IAC database profile")
  else if strip worker_id = "" then
    throw (.validation "Backup transfer worker ID is required")
  else if lease_seconds < 1 ∨ 900 < lease_seconds then
    throw (.validation "Backup transfer lease must be between 1 and 900 seconds")
  else do
    if ← kill_switch_enabled then
      _audit actor "CLAIM_BACKUP_TRANSFER" .DENIED "Kill switch is ON" none [] none
      return none
    else do
      let stamp ← now
      let lease ← later (← clockNow) lease_seconds.toNat
      let (terminal, chosen) ← claimRow backupTransferOutbox worker_id stamp lease fun _ => true
      auditEach actor "FAIL_BACKUP_TRANSFER" "Lease expired after maximum attempts"
        (fun _ => [("scope", .str "IAC"), ("network_performed", .bool false),
          ("recovered_from_expired_lease", .bool true)]) terminal
      match chosen with
      | none => return none
      | some key => do
        let claimed ← get_backup_transfer store actor key
        _audit actor "CLAIM_BACKUP_TRANSFER" .ALLOWED "Authorized backup transfer lease acquired"
          (some key)
          [("scope", .str "IAC"), ("worker_id", .str worker_id),
            ("attempt", .int claimed.attempt_count), ("network_performed", .bool false)] none
        return some claimed

/-- End a failed attempt of a transfer. -/
def fail_claimed_backup_transfer :
    Store → Actor → (plan_sha256 worker_id error : String) → ℤ → Op OutboxStatus :=
  failClaimed {
    table := backupTransferOutbox
    missing := "Backup transfer failure requires an error"
    secret := "Secret-like material is prohibited in backup failures"
    delay := "Backup transfer retry must be between 0 and 3600 seconds"
    unleased := "Worker does not hold the active backup transfer lease"
    scope := fun _ => "IAC"
    action := "FAIL_BACKUP_TRANSFER"
    details := fun _ _ status => [("scope", .str "IAC"), ("next_status", .str status.text),
      ("network_performed", .bool false)] }

/-- Terminally hold an ambiguous provider write; it must never auto-retry. -/
def hold_claimed_backup_transfer_for_reconciliation :
    Store → Actor → (plan_sha256 worker_id error : String) → Op OutboxStatus :=
  holdClaimed {
    table := backupTransferOutbox
    missing := "Backup reconciliation hold requires an error"
    secret := "Secret-like material is prohibited in backup failures"
    unleased := "Worker does not hold the active backup transfer lease"
    action := "HOLD_BACKUP_TRANSFER_FOR_RECONCILIATION"
    details := [("scope", .str "IAC"), ("next_status", .str "RECONCILIATION_REQUIRED"),
      ("network_result", .str "AMBIGUOUS"), ("automatic_retry_permitted", .bool false)] }

/-- The values of the guard of a transfer, which does not ask for the window. -/
def transferGuard : Guard TransferColumns where
  table := backupTransferOutbox
  malformed := "Backup execution guard time must be ISO-8601"
  naive := "Backup execution guard time must include a timezone"
  missing := "Backup transfer plan not found"
  unauthorized := "Backup transfer is not authorized"
  unleased := "Worker does not hold the backup transfer lease"
  expired := "Backup transfer lease expired"
  inWindow _ _ := .ok true
  outside := ""
  action := "GUARD_BACKUP_TRANSFER"

/-- Recheck the live kill switch and lease before each irreversible stage. -/
def assert_backup_transfer_execution_allowed :
    Store → Actor → (plan_sha256 worker_id : String) → Option String →
      Op (OutboxRow TransferColumns) :=
  guardClaimed transferGuard

/-- Complete a transfer with the verified receipt of its upload. -/
def complete_claimed_backup_transfer (store : Store) (actor : Actor)
    (plan_sha256 worker_id : String) (receipt : Json) : Op (OutboxRow TransferColumns) :=
  completeClaimed {
    table := backupTransferOutbox
    done := .COMPLETED
    plan := fun columns => columns.plan_payload
    verify := verify_backup_upload_receipt
    finished := "uploaded_at"
    killed := "Kill switch is ON; backup completion denied"
    unleased := "Worker does not hold the active backup transfer lease"
    raced := "Backup transfer lease changed before completion"
    missing := "Backup transfer plan not found"
    action := "COMPLETE_BACKUP_TRANSFER"
    reason := "Encrypted retention-locked provider receipt verified"
    details := [("scope", .str "IAC"), ("provider", .str "BACKBLAZE_B2"), ("uploaded", .bool true),
      ("network_performed", .bool true), ("object_lock_verified", .bool true),
      ("encryption_verified", .bool true)] }
    store actor plan_sha256 worker_id receipt none

end SeanOs
