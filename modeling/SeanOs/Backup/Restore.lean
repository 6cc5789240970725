import SeanOs.Backup.Adapter

/-! The contracts of an isolated restore: its plan and the receipt of its completion. -/

namespace SeanOs

variable [Platform]

open Calendar

def RESTORE_PLAN_FORMAT : String := "sean-os-independent-backup-restore-plan/v1"

def RESTORE_RECEIPT_FORMAT : String := "sean-os-isolated-backup-restore-receipt/v1"

def RESTORE_ACTION_TYPE : String := "RUN_ISOLATED_BACKUP_RESTORE"

/-- The members of a restore plan. -/
def RESTORE_PLAN_FIELDS : List String :=
  ["format", "owner_scope", "provider", "data_region", "provider_endpoint", "destination_ref",
    "object_ref", "provider_version_ref", "provider_writer_identity_ref",
    "provider_restore_identity_ref", "client_encryption_key_ref", "upload_plan_sha256",
    "upload_receipt_sha256", "ciphertext_sha256", "ciphertext_bytes", "expected_plaintext_sha256",
    "expected_plaintext_bytes", "expected_schema_version", "restore_target_ref", "window_start",
    "window_end", "retain_until", "max_cost_cad", "isolated_restore", "overwrite_permitted",
    "credentials_included", "network_enabled", "download_authorized", "decrypt_authorized",
    "restore_authorized", "approval_required", "approval_action_type", "approval_target",
    "restore_key_proposal_sha256", "plan_sha256"]

/-- The members of a restore receipt. -/
def RESTORE_RECEIPT_FIELDS : List String :=
  ["format", "evidence_mode", "restore_plan_sha256", "upload_receipt_sha256", "provider",
    "provider_region", "provider_endpoint", "provider_restore_identity_ref", "object_ref",
    "provider_version_ref", "ciphertext_sha256", "ciphertext_bytes", "client_encryption_key_ref",
    "plaintext_sha256", "plaintext_bytes", "schema_version", "restore_target_ref",
    "object_lock_mode", "object_lock_verified", "retain_until", "client_encryption_authenticated",
    "database_integrity_ok", "foreign_key_violations", "scope_profile", "network_performed",
    "downloaded", "decrypted", "restored", "isolated_restore", "overwrite_performed",
    "credentials_persisted", "source_path_included", "restored_at", "receipt_sha256"]

/-- Refuse a value that is not one bounded safe reference. -/
def _safe_ref (name : String) (value : Json) : Except Error Unit :=
  refuseIf (!isReference value || isEvasive value || secret_findings value "$" ≠ [])
    (.backup (name ++ " must be one bounded non-secret reference"))

/-- Refuse a value that is not in the form of a digest. -/
def _sha256 (name : String) (value : Json) : Except Error Unit :=
  refuseIf (!isSha256 value) (.backup (name ++ " must be one SHA-256 digest"))

/-- The datetime a member of a restore plan or receipt is read as. -/
def _aware (name : String) (value : Json) : Except Error DateTime :=
  boundedInstant "one" name value

/-- The members a restore plan must have with exactly these values. -/
def requiredRestorePlan : List (String × Json) :=
  [("format", .str RESTORE_PLAN_FORMAT), ("owner_scope", .str "IAC"),
    ("provider", .str "BACKBLAZE_B2"), ("data_region", .str "CA_EAST"),
    ("isolated_restore", .bool true), ("overwrite_permitted", .bool false),
    ("credentials_included", .bool false), ("network_enabled", .bool false),
    ("download_authorized", .bool false), ("decrypt_authorized", .bool false),
    ("restore_authorized", .bool false), ("approval_required", .bool true),
    ("approval_action_type", .str RESTORE_ACTION_TYPE)]

/-- The approval target of a restore plan: a digest of everything else in it. -/
def restoreTarget (plan : Json) : String :=
  let identity := (plan.without "approval_target").without "plan_sha256"
  "ISOLATED_BACKUP_RESTORE:" ++
    String.ofList ((Platform.sha256 identity.canonical).toList.take 24)

/-- Verify a restore plan on its own. -/
def verify_isolated_backup_restore_plan (plan : Json) : Except Error Json := do
  refuseIf (!plan.hasExactly RESTORE_PLAN_FIELDS)
    (.backup "Isolated backup restore plan fields are incomplete")
  refuseIf (secret_findings plan "$" ≠ [] || !plan.meets requiredRestorePlan)
    (.backup "Isolated backup restore plan violates the safety boundary")
  -- The errors of the endpoint keep their message under this module's class.
  verify_backblaze_endpoint (plan.getD "provider_endpoint") "CA_EAST"
  for field in ["destination_ref", "object_ref", "provider_version_ref",
      "provider_writer_identity_ref", "provider_restore_identity_ref",
      "client_encryption_key_ref", "restore_target_ref", "approval_target"] do
    _safe_ref field (plan.getD field)
  for field in ["upload_plan_sha256", "upload_receipt_sha256", "ciphertext_sha256",
      "expected_plaintext_sha256", "restore_key_proposal_sha256", "plan_sha256"] do
    _sha256 field (plan.getD field)
  for field in ["ciphertext_bytes", "expected_plaintext_bytes", "expected_schema_version"] do
    refuseIf (!isPositive (plan.getD field)) (.backup (field ++ " must be a positive integer"))
  let start ← _aware "window_start" (plan.getD "window_start")
  let stop ← _aware "window_end" (plan.getD "window_end")
  refuseWindow start stop
    (.backup "Restore window must be positive and no longer than four hours")
  let retain_until ← _aware "retain_until" (plan.getD "retain_until")
  refuseIf (retain_until.instant < stop.instant)
    (.backup "Restore window exceeds the verified retention period")
  let cost ← costCeiling (.backup "Restore cost ceiling must be between CAD 0 and CAD 15")
    (plan.getD "max_cost_cad")
  let value := withMember "max_cost_cad" (.float cost) plan
  refuseIf (Json.equal (value.getD "provider_restore_identity_ref")
      (value.getD "provider_writer_identity_ref"))
    (.backup "Restore identity must be distinct from the writer identity")
  refuseIf (value.text? "approval_target" ≠ some (restoreTarget value))
    (.backup "Isolated backup restore approval target is invalid")
  refuseIf (value.text? "plan_sha256" ≠ some (_digest_envelope value "plan_sha256"))
    (.backup "Isolated backup restore plan is invalid or modified")
  return value.sorted

/-- The members a restore receipt must have with the values its plan has or the contract sets. -/
def requiredRestore (plan : Json) : List (String × Json) :=
  [("format", .str RESTORE_RECEIPT_FORMAT), ("evidence_mode", .str "PRODUCTION"),
    ("restore_plan_sha256", plan.getD "plan_sha256"),
    ("upload_receipt_sha256", plan.getD "upload_receipt_sha256"),
    ("provider", plan.getD "provider"), ("provider_region", plan.getD "data_region"),
    ("provider_endpoint", plan.getD "provider_endpoint"),
    ("provider_restore_identity_ref", plan.getD "provider_restore_identity_ref"),
    ("object_ref", plan.getD "object_ref"),
    ("provider_version_ref", plan.getD "provider_version_ref"),
    ("ciphertext_sha256", plan.getD "ciphertext_sha256"),
    ("ciphertext_bytes", plan.getD "ciphertext_bytes"),
    ("client_encryption_key_ref", plan.getD "client_encryption_key_ref"),
    ("plaintext_sha256", plan.getD "expected_plaintext_sha256"),
    ("plaintext_bytes", plan.getD "expected_plaintext_bytes"),
    ("schema_version", plan.getD "expected_schema_version"),
    ("restore_target_ref", plan.getD "restore_target_ref"),
    ("object_lock_mode", .str "COMPLIANCE"), ("object_lock_verified", .bool true),
    ("retain_until", plan.getD "retain_until"),
    ("client_encryption_authenticated", .bool true), ("database_integrity_ok", .bool true),
    ("foreign_key_violations", .int 0), ("scope_profile", .str "IAC"),
    ("network_performed", .bool true), ("downloaded", .bool true), ("decrypted", .bool true),
    ("restored", .bool true), ("isolated_restore", .bool true),
    ("overwrite_performed", .bool false), ("credentials_persisted", .bool false),
    ("source_path_included", .bool false)]

/-- Verify the receipt of an isolated restore against its plan. -/
def verify_isolated_backup_restore_receipt (receipt plan : Json) : Except Error Json := do
  let plan ← verify_isolated_backup_restore_plan plan
  refuseIf (!receipt.hasExactly RESTORE_RECEIPT_FIELDS)
    (.backup "Isolated restore receipt fields are incomplete")
  refuseIf (secret_findings receipt "$" ≠ [] || !receipt.meets (requiredRestore plan))
    (.backup "Isolated restore receipt violates the exact plan")
  let restored_at ← _aware "restored_at" (receipt.getD "restored_at")
  let start ← _aware "window_start" (plan.getD "window_start")
  let stop ← _aware "window_end" (plan.getD "window_end")
  refuseIf (!(start.instant ≤ restored_at.instant && restored_at.instant ≤ stop.instant))
    (.backup "Isolated restore receipt is outside the approved window")
  _sha256 "receipt_sha256" (receipt.getD "receipt_sha256")
  refuseIf (receipt.text? "receipt_sha256" ≠ some (_digest_envelope receipt "receipt_sha256"))
    (.backup "Isolated restore receipt is invalid or modified")
  return receipt.sorted

end SeanOs
