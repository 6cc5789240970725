import SeanOs.Backup.Restore
import SeanOs.Store.BackupTransfers

/-! The outbox of isolated restores: authorization inside the window, leases, and their ends. -/

namespace SeanOs

open Atomic Calendar

/-- The rows of `backup_restore_outbox`. -/
def backupRestoreOutbox : OutboxTable RestoreColumns where
  name := .backup_restore
  rows db := db.backup_restore_outbox
  put items db := { db with backup_restore_outbox := items }
  rows_put _ _ := rfl
  approvalAt_self _ _ := rfl
  approvalAt_other _ _ other _ apart := by cases other <;> first | rfl | exact absurd rfl apart
  frame _ _ := ⟨rfl, rfl⟩

/-- The time a call is judged at, which must be a time with an offset. -/
def judgedAt (malformed naive : String) (stamp : String) : Except Error DateTime :=
  match fromisoformat stamp with
  | none => .error (.validation malformed)
  | some moment => if moment.aware then .ok moment else .error (.validation naive)

/-- The datetime a member of a verified plan is read as. -/
def planInstant (plan : Json) (name : String) : Except Error DateTime :=
  match plan.get? name with
  | none => .error (.key name)
  | some (.str text) => match fromisoformat text with
    | none => .error (.value ("Invalid isoformat string: " ++ text))
    | some moment =>
      if moment.aware then .ok moment
      else .error (.value "can't compare offset-naive and offset-aware datetimes")
  | some _ => .error (.value "fromisoformat: argument must be str")

/-- Whether a time is in the window of a plan, its two ends included. -/
def inPlanWindow (plan : Json) (moment : DateTime) : Except Error Bool := do
  let start ← planInstant plan "window_start"
  if moment.instant < start.instant then return false
  let stop ← planInstant plan "window_end"
  return moment.instant ≤ stop.instant

variable [Platform]

/-- Read a staged restore. -/
def get_backup_restore : Store → Actor → String → Op (OutboxRow RestoreColumns) :=
  getRow backupRestoreOutbox "Backup restore plan not found"

/-- What an approval of a restore must be conditional on. -/
def _backup_restore_approval_conditions (row : OutboxRow RestoreColumns) :
    Except Error (List (String × Json)) :=
  (planFields row.columns.plan_payload
    ["provider", "data_region", "provider_endpoint", "destination_ref", "object_ref",
      "provider_version_ref", "provider_restore_identity_ref", "client_encryption_key_ref",
      "ciphertext_sha256", "expected_plaintext_sha256", "restore_target_ref", "window_start",
      "window_end", "max_cost_cad"]).map fun fields =>
    [("restore_plan_sha256", .str row.key),
      ("upload_plan_sha256", .str row.columns.upload_plan_sha256),
      ("upload_receipt_sha256", .str row.columns.upload_receipt_sha256),
      ("restore_key_proposal_sha256", .str row.columns.restore_key_proposal_sha256)] ++
        fields ++ [("overwrite_permitted", .bool false)]

/-- Request the exact approval of a restore, which may not outlive its window. -/
def request_backup_restore_approval (store : Store) (actor : Actor)
    (plan_sha256 max_impact expires_at : String) : Op String := do
  let row ← get_backup_restore store actor plan_sha256
  lift (_authorize store actor row.owner_scope.text [] "write")
  lift (refuseIf (row.status ≠ .PREFLIGHT_VALIDATED)
    (.validation "Backup restore requires validated no-action preflight evidence"))
  let expiry ← lift (judgedAt "Backup restore approval expiry must be ISO-8601"
    "Backup restore approval expiry must include a timezone" expires_at)
  let stop ← lift (planInstant row.columns.plan_payload "window_end")
  lift (refuseIf (stop.instant < expiry.instant)
    (.validation "Backup restore approval cannot outlive the restore window"))
  let conditions ← lift (_backup_restore_approval_conditions row)
  requestOnce store actor {
    outbox := .backup_restore, target := row.columns.approval_target, scope := .IAC
    conditions := conditions, exact_ := true
    different := "A different isolated restore approval is already pending" }
    max_impact expires_at

/-- Authorize a restore inside its window with its exact approval, which only Sean may do. -/
def authorize_backup_restore (store : Store) (actor : Actor) (plan_sha256 approval_id : String)
    (at_ : Option String) : Op (OutboxRow RestoreColumns) :=
  if !actor.is_sean then
    throw (.authorization "Only Sean may authorize an isolated backup restore")
  else do
    let row ← get_backup_restore store actor plan_sha256
    if row.status = .AUTHORIZED ∧ row.approval_id = some approval_id then return row
    else if row.status ≠ .PREFLIGHT_VALIDATED then
      throw (.validation "Backup restore is not awaiting exact approval")
    else do
      let stamp ← timeOr at_
      let instant ← lift (judgedAt "Backup restore authorization time must be ISO-8601"
        "Backup restore authorization time must include a timezone" stamp)
      if !(← lift (inPlanWindow row.columns.plan_payload instant)) then
        throw (.validation "Backup restore authorization is outside the exact window")
      else do
        let conditions ← lift (_backup_restore_approval_conditions row)
        authorizeRow backupRestoreOutbox {
          awaiting := .PREFLIGHT_VALIDATED
          raced := "Backup restore authorization raced with another update"
          action := "AUTHORIZE_BACKUP_RESTORE"
          reason := "Exact single-use isolated restore approval consumed"
          affected := plan_sha256
          details := [("scope", .str "IAC"), ("network_performed", .bool false),
            ("downloaded", .bool false), ("decrypted", .bool false), ("restored", .bool false)] }
          store actor {
            approval_id := approval_id, action_type := "RUN_ISOLATED_BACKUP_RESTORE"
            target := .str row.columns.approval_target, at_ := some stamp, scope := some .IAC
            conditions := some conditions }
          plan_sha256 (some stamp)
        get_backup_restore store actor plan_sha256

/-- The rows that a claim fails, each with the reason, and the row it leases if there is one. -/
def selectRestore (instant : DateTime) :
    List (OutboxRow RestoreColumns) →
      Except Error (List (String × String) × Option (OutboxRow RestoreColumns))
  | [] => .ok ([], none)
  | row :: rows => do
    let plan ← verify_isolated_backup_restore_plan row.columns.plan_payload
    if row.max_attempts ≤ row.attempt_count then
      (selectRestore instant rows).map fun rest => ((row.key, "maximum attempts") :: rest.1, rest.2)
    else do
      let stop ← planInstant plan "window_end"
      if stop.instant ≤ instant.instant then
        (selectRestore instant rows).map fun rest =>
          ((row.key, "approved window expired") :: rest.1, rest.2)
      else do
        let start ← planInstant plan "window_start"
        if start.instant ≤ instant.instant then return ([], some row)
        else selectRestore instant rows

/-- What a worker is told about a restore it cannot lease. -/
def restoreUnavailable (reason : String) : String := "Restore lease unavailable: " ++ reason

/-- Fail the rows a claim found unavailable. -/
def failRestores (stamp : String) (terminal : List (String × String)) (world : World) : World :=
  terminal.foldl (fun world item =>
    backupRestoreOutbox.update (fun row => row.key == item.1 && row.status == .AUTHORIZED)
      (fun row => { row.unleased with
        status := .FAILED, last_error := some (restoreUnavailable item.2), updated_at := stamp })
      world) world

/-- The end of a lease: some seconds ahead, or the end of the window if that comes first. -/
def restoreLease (instant : DateTime) (lease_seconds : ℕ) (plan : Json) : Except Error String := do
  let stop ← planInstant plan "window_end"
  if inRange : instant.wall + second * lease_seconds < span then
    let ahead : DateTime := ⟨instant.wall + second * lease_seconds, instant.offset, inRange,
      instant.bounded⟩
    return (if stop.instant < ahead.instant then stop else ahead).isoformat
  else throw .overflow

/-- Lease the first restore whose window is open, in one transaction. -/
def claimRestore (worker_id stamp : String) (instant : DateTime) (lease_seconds : ℕ) :
    Op (List (String × String) × Option String) :=
  Prog.transact (.claim .backup_restore worker_id stamp) fun world =>
    let ready := fun row : OutboxRow RestoreColumns =>
      row.status == .AUTHORIZED && (row.available_at ≤ stamp && row.released stamp)
    let rows := (world.db.backup_restore_outbox.filter ready).insertionSort (·.before ·)
    match selectRestore instant rows with
    | .error error => (.error error, world)
    | .ok (terminal, chosen) =>
      let failed := failRestores stamp terminal world
      match chosen with
      | none => (.ok (terminal, none), failed)
      | some row =>
        match verify_isolated_backup_restore_plan row.columns.plan_payload >>=
            restoreLease instant lease_seconds with
        | .error error => (.error error, world)
        | .ok lease =>
          let free := fun item : OutboxRow RestoreColumns =>
            item.key == row.key && (item.status == .AUTHORIZED && item.released stamp)
          if backupRestoreOutbox.matches_ free failed then
            (.ok (terminal, some row.key), backupRestoreOutbox.update free (fun item =>
              { item with
                lease_owner := some worker_id, lease_expires_at := some lease
                attempt_count := item.attempt_count + 1, updated_at := stamp }) failed)
          -- The lease went elsewhere, so nothing is failed either.
          else (.ok ([], none), world)

/-- Record an audit event for each restore a claim failed. -/
def auditRestores (actor : Actor) : List (String × String) → Op Unit
  | [] => .ret ()
  | (key, reason) :: rest => do
    _audit actor "FAIL_BACKUP_RESTORE" .FAILED (restoreUnavailable reason) (some key)
      [("scope", .str "IAC"), ("network_performed", .bool false)] none
    auditRestores actor rest

/-- Lease the next authorized restore whose window is open, if the kill switch is off. -/
def claim_authorized_backup_restore (store : Store) (actor : Actor) (worker_id : String)
    (lease_seconds : ℤ) (at_ : Option String) : Op (Option (OutboxRow RestoreColumns)) :=
  if store.scope_profile ≠ .IAC ∨ .IAC ∉ actor.scopes then
    throw (.authorization "Backup restore worker requires the IAC database profile")
  else if strip worker_id = "" then
    throw (.validation "Backup restore worker ID is required")
  else if lease_seconds < 1 ∨ 900 < lease_seconds then
    throw (.validation "Backup restore lease must be between 1 and 900 seconds")
  else do
    let stamp ← timeOr at_
    let instant ← lift (judgedAt "Backup restore claim time must be ISO-8601"
      "Backup restore claim time must include a timezone" stamp)
    if ← kill_switch_enabled then
      _audit actor "CLAIM_BACKUP_RESTORE" .DENIED "Kill switch is ON" none [] none
      return none
    else do
      let (terminal, chosen) ← claimRestore worker_id stamp instant lease_seconds.toNat
      auditRestores actor terminal
      match chosen with
      | none => return none
      | some key => do
        let claimed ← get_backup_restore store actor key
        _audit actor "CLAIM_BACKUP_RESTORE" .ALLOWED "Authorized isolated restore lease acquired"
          (some key)
          [("scope", .str "IAC"), ("worker_id", .str worker_id),
            ("attempt", .int claimed.attempt_count), ("network_performed", .bool false)] none
        return some claimed

/-- The values of the guard of a restore. -/
def restoreGuard : Guard RestoreColumns where
  table := backupRestoreOutbox
  malformed := "Backup restore guard time must be ISO-8601"
  naive := "Backup restore guard time must include a timezone"
  missing := "Backup restore plan not found"
  unauthorized := "Backup restore is not authorized"
  unleased := "Worker does not hold the backup restore lease"
  expired := "Backup restore lease expired"
  inWindow row moment := do
    inPlanWindow (← verify_isolated_backup_restore_plan row.columns.plan_payload) moment
  outside := "Backup restore is outside the exact approved window"
  action := "GUARD_BACKUP_RESTORE"

/-- Recheck the kill switch, the lease and the window before each stage of a restore. -/
def assert_backup_restore_execution_allowed :
    Store → Actor → (plan_sha256 worker_id : String) → Option String →
      Op (OutboxRow RestoreColumns) :=
  guardClaimed restoreGuard

/-- End a failed attempt of a restore. -/
def fail_claimed_backup_restore :
    Store → Actor → (plan_sha256 worker_id error : String) → ℤ → Op OutboxStatus :=
  failClaimed {
    table := backupRestoreOutbox
    missing := "Backup restore failure requires an error"
    secret := "Secret-like material is prohibited in restore failures"
    delay := "Backup restore retry must be between 0 and 3600 seconds"
    unleased := "Worker does not hold the active backup restore lease"
    scope := fun _ => "IAC"
    action := "FAIL_BACKUP_RESTORE"
    details := fun _ _ status => [("scope", .str "IAC"), ("next_status", .str status.text),
      ("network_performed", .bool false)] }

/-- Complete a restore with the verified receipt of its isolation and integrity. -/
def complete_claimed_backup_restore : Store → Actor → (plan_sha256 worker_id : String) → Json →
    Option String → Op (OutboxRow RestoreColumns) :=
  completeClaimed {
    table := backupRestoreOutbox
    done := .RESTORED
    plan := fun columns => columns.plan_payload
    verify := verify_isolated_backup_restore_receipt
    finished := "restored_at"
    killed := "Kill switch is ON; backup restore completion denied"
    unleased := "Worker does not hold the active backup restore lease"
    raced := "Backup restore lease changed before completion"
    missing := "Backup restore plan not found"
    action := "COMPLETE_BACKUP_RESTORE"
    reason := "Authenticated isolated restore and database integrity evidence verified"
    details := [("scope", .str "IAC"), ("provider", .str "BACKBLAZE_B2"),
      ("downloaded", .bool true), ("decrypted", .bool true), ("restored", .bool true),
      ("isolated_restore", .bool true), ("overwrite_performed", .bool false)] }

/-- Hold a locally published restore artifact for explicit inspection. -/
def hold_claimed_backup_restore_for_reconciliation :
    Store → Actor → (plan_sha256 worker_id error : String) → Op OutboxStatus :=
  holdClaimed {
    table := backupRestoreOutbox
    missing := "Backup restore reconciliation requires an error"
    secret := "Secret-like material is prohibited in restore failures"
    unleased := "Worker does not hold the active backup restore lease"
    action := "HOLD_BACKUP_RESTORE_FOR_RECONCILIATION"
    details := [("scope", .str "IAC"), ("next_status", .str "RECONCILIATION_REQUIRED"),
      ("automatic_retry_permitted", .bool false)] }

end SeanOs
