import SeanOs.Errors
import SeanOs.Security
import SeanOs.Lib.IsoText
import SeanOs.Lib.JsonText

/-! The contracts of a backup transfer: its stored plan, its preflight receipt, its upload receipt. -/

namespace SeanOs

variable [Platform]

open Calendar Pattern

/-- The schema version this release works on. -/
def LATEST_SCHEMA_VERSION : ℕ := 18

/-- The regions a backup may be kept in. -/
def DATA_REGIONS : List String := ["US_EAST", "US_WEST", "EU_CENTRAL", "CA_EAST"]

def TRANSFER_PLAN_FORMAT : String := "sean-os-independent-backup-transfer-plan/v3"

def SYNTHETIC_RECEIPT_FORMAT : String := "sean-os-synthetic-backup-adapter-receipt/v1"

def UPLOAD_RECEIPT_FORMAT : String := "sean-os-independent-backup-upload-receipt/v3"

def PROVIDER_INTERFACE : String := "S3_COMPATIBLE_OBJECT_STORAGE_V1"

/-- The algorithms a backup may be encrypted with. -/
def CLIENT_ENCRYPTION_ALGORITHMS : List String := ["AES_256_GCM", "XCHACHA20_POLY1305"]

/-- What the endpoint of each region begins with. -/
def REGION_ENDPOINT_PREFIX : List (String × String) :=
  [("US_EAST", "s3.us-east-"), ("US_WEST", "s3.us-west-"), ("EU_CENTRAL", "s3.eu-central-"),
    ("CA_EAST", "s3.ca-east-")]

/-- The members of a transfer plan. -/
def TRANSFER_PLAN_FIELDS : List String :=
  ["format", "owner_scope", "approval_target", "proposal_sha256", "destination_kind", "provider",
    "destination_ref", "data_region", "provider_endpoint", "provider_writer_identity_ref",
    "client_encryption_key_ref", "provider_interface", "object_ref", "backup_sha256",
    "backup_bytes", "schema_version", "retention_mode", "retention_days", "window_start",
    "window_end", "max_cost_cad", "provider_encryption_required", "client_encryption_required",
    "object_lock_required", "credentials_included", "network_enabled", "execution_authorized",
    "plan_sha256"]

/-- The members of a preflight receipt. -/
def SYNTHETIC_RECEIPT_FIELDS : List String :=
  ["format", "plan_sha256", "adapter", "validated", "artifact_encrypted", "uploaded",
    "network_performed", "execution_authorized", "provider_receipt_included", "status",
    "receipt_sha256"]

/-- The members of an upload receipt. -/
def UPLOAD_RECEIPT_FIELDS : List String :=
  ["format", "evidence_mode", "provider", "provider_region", "provider_endpoint",
    "provider_writer_identity_ref", "plan_sha256", "destination_ref", "object_ref",
    "backup_sha256", "backup_bytes", "ciphertext_sha256", "ciphertext_bytes",
    "client_encryption_algorithm", "client_encryption_key_ref", "provider_request_ref",
    "provider_version_ref", "encryption_mode", "encryption_verified", "object_lock_mode",
    "object_lock_verified", "retention_days", "uploaded_at", "retain_until", "network_performed",
    "uploaded", "overwrite_performed", "restore_authorized", "credentials_persisted",
    "source_path_included", "receipt_sha256"]

/-- A lower-case hexadecimal digest. -/
def sha256Pattern : Regex := .run (fun c => c.isDigit || ('a' ≤ c && c ≤ 'f')) 64 (some 64)

/-- Whether a value is a text in the form of a digest. -/
def isSha256 : Json → Bool
  | .str text => fullmatch sha256Pattern text
  | _ => false

/-- Whether a value is a whole number above zero, which a truth value is not. -/
def isPositive : Json → Bool
  | .int value => 0 < value
  | _ => false

/-- A reference: letters, digits and a few marks, at most two hundred in all. -/
def referencePattern : Regex :=
  .seq (one Char.isAlphanum) (.run (fun c => c.isAlphanum || c ∈ "._:/-".toList) 0 (some 199))

/-- An endpoint of the provider in one of the four regions. -/
def backblazeEndpointPattern : Regex :=
  .seq (literal "s3.".toList) (.seq
    (.alt (literal "us-east".toList) (.alt (literal "us-west".toList)
      (.alt (literal "eu-central".toList) (literal "ca-east".toList))))
    (.seq (literal "-".toList) (.seq (.run (fun c => c.isLower || c.isDigit || c == '-') 1 none)
      (literal ".backblazeb2.com".toList))))

/-- Whether one text contains another. -/
def containsText (part : String) (text : String) : Bool :=
  text.toList.tails.any (part.toList.isPrefixOf ·)

/-- The digest of an object without its own digest. -/
def _digest_envelope (value : Json) (digest_field : String) : String :=
  Platform.sha256 (Json.canonical (value.without digest_field))

/-- Refuse a value that the library cannot look up in a set of texts, or that is not in it. -/
def refuseUnlisted (listed : List String) (error : Error) : Json → Except Error String
  | .arr _ => .error (.value "unhashable type: 'list'")
  | .obj _ => .error (.value "unhashable type: 'dict'")
  | .str text => if text ∈ listed then .ok text else .error error
  | _ => .error error

/-- Whether a value is a bounded text without blanks around it or control characters in it. -/
def isBoundedText : Json → Bool
  | .str text => text ≠ "" && strip text == text && text.length ≤ 200 &&
      text.toList.all (32 ≤ ·.toNat)
  | _ => false

/-- Refuse a value that is no bounded text, or that looks secret. -/
def _safe_provider_ref (name : String) (value : Json) : Except Error Unit := do
  refuseIf (!isBoundedText value) (.backup (name ++ " must be a bounded non-secret reference"))
  refuseIf (secret_findings value "$" ≠ [])
    (.backup (name ++ " must not contain secret-like material"))

/-- Whether a value is a text in the form of a reference. -/
def isReference : Json → Bool
  | .str text => fullmatch referencePattern text
  | _ => false

/-- Whether a reference could name another place than the one it seems to. -/
def isEvasive : Json → Bool
  | .str text => "/".isPrefixOf text || containsText ".." text || text.toList.contains '\\'
  | _ => false

/-- Refuse an object reference that is malformed or unsafe. -/
def _validate_object_ref (value : Json) : Except Error Unit := do
  refuseIf (!isReference value)
    (.backup "Backup object reference must be one bounded opaque identifier")
  refuseIf (isEvasive value || secret_findings value "$" ≠ [])
    (.backup "Backup object reference is unsafe")

/-- Refuse an endpoint that is not one of the approved region. -/
def verify_backblaze_endpoint (value : Json) (data_region : String) : Except Error Unit := do
  _safe_provider_ref "provider_endpoint" value
  let inRegion := match value, REGION_ENDPOINT_PREFIX.lookup data_region with
    | .str endpoint, some start =>
      fullmatch backblazeEndpointPattern endpoint && start.isPrefixOf endpoint
    | _, _ => false
  refuseIf (!inRegion) (.backup "Backblaze endpoint does not match the approved data region")

/-- The datetime a bounded text is read as, which must have an offset. -/
def boundedInstant (article name : String) : Json → Except Error DateTime
  | .str text =>
    if text = "" ∨ 100 < text.length then
      .error (.backup (name ++ " must be " ++ article ++ " bounded ISO-8601 timestamp"))
    else match fromisoformat text with
      | none => .error (.backup (name ++ " must be ISO-8601"))
      | some moment =>
        if moment.aware then .ok moment
        else .error (.backup (name ++ " must include a timezone"))
  | _ => .error (.backup (name ++ " must be " ++ article ++ " bounded ISO-8601 timestamp"))

/-- The datetime a member of a plan or a receipt is read as. -/
def _aware_instant (name : String) (value : Json) : Except Error DateTime :=
  boundedInstant "a" name value

/-- The float of a cost ceiling, which must be between zero and fifteen. -/
def costCeiling (error : Error) : Json → Except Error Number
  | .int value => match Double.ofInt value with
    | none => .error .overflow
    | some cost => if 0 ≤ value ∧ value ≤ 15 then .ok cost else .error error
  | .float .negZero => .ok .negZero
  | .float (.finite value) => if 0 ≤ value ∧ value ≤ 15 then .ok (.finite value) else .error error
  | _ => .error error

/-- Set a member of an object that has it. -/
def withMember {τ : Type} [DecidableEq τ] (key : τ) (item : Json τ) : Json τ → Json τ
  | .obj members => .obj (Json.setMember key item members)
  | value => value

/-- The members a transfer plan must have with exactly these values. -/
def requiredPlan : List (String × Json) :=
  [("format", .str TRANSFER_PLAN_FORMAT), ("owner_scope", .str "IAC"),
    ("destination_kind", .str "ENCRYPTED_OBJECT_STORAGE"), ("provider", .str "BACKBLAZE_B2"),
    ("provider_interface", .str PROVIDER_INTERFACE), ("retention_mode", .str "COMPLIANCE"),
    ("provider_encryption_required", .str "AES256"),
    ("client_encryption_required", .str "IAC_MANAGED_AUTHENTICATED_ENCRYPTION"),
    ("object_lock_required", .bool true), ("credentials_included", .bool false),
    ("network_enabled", .bool false), ("execution_authorized", .bool false)]

/-- Whether a value is a retention of at least a week and at most ten years, in days. -/
def isRetention : Json → Bool
  | .int days => 7 ≤ days ∧ days ≤ 3650
  | _ => false

/-- Refuse a window that is empty or longer than four hours. -/
def refuseWindow (start stop : DateTime) (error : Error) : Except Error Unit :=
  refuseIf (stop.instant ≤ start.instant || (4 * hour : ℕ) < stop.instant - start.instant) error

/-- Revalidate a durable path-free plan before any execution port is called. -/
def verify_stored_backup_transfer_plan (plan : Json) : Except Error Json := do
  refuseIf (!plan.hasExactly TRANSFER_PLAN_FIELDS)
    (.backup "Stored backup transfer plan is invalid")
  refuseIf (secret_findings plan "$" ≠ [] || !plan.meets requiredPlan)
    (.backup "Stored backup transfer plan violates the safety contract")
  let data_region ← refuseUnlisted DATA_REGIONS
    (.backup "Stored backup transfer data region is unsupported") (plan.getD "data_region")
  _safe_provider_ref "destination_ref" (plan.getD "destination_ref")
  verify_backblaze_endpoint (plan.getD "provider_endpoint") data_region
  _safe_provider_ref "provider_writer_identity_ref" (plan.getD "provider_writer_identity_ref")
  _safe_provider_ref "client_encryption_key_ref" (plan.getD "client_encryption_key_ref")
  _validate_object_ref (plan.getD "object_ref")
  for field in ["approval_target", "proposal_sha256", "backup_sha256", "plan_sha256"] do
    refuseIf ((plan.text? field).getD "" == "")
      (.backup "Stored backup transfer identity is incomplete")
  refuseIf (["proposal_sha256", "backup_sha256", "plan_sha256"].any fun field =>
      !isSha256 (plan.getD field))
    (.backup "Stored backup transfer hash is malformed")
  refuseIf (!isPositive (plan.getD "backup_bytes"))
    (.backup "Stored backup transfer size is invalid")
  refuseIf (!Json.equal (plan.getD "schema_version") (.int LATEST_SCHEMA_VERSION))
    (.backup "Stored backup transfer schema version is unsupported")
  refuseIf (!isRetention (plan.getD "retention_days"))
    (.backup "Stored backup transfer retention is invalid")
  let start ← _aware_instant "window_start" (plan.getD "window_start")
  let stop ← _aware_instant "window_end" (plan.getD "window_end")
  refuseWindow start stop (.backup "Stored backup transfer execution window is invalid")
  let cost ← costCeiling (.backup "Stored backup transfer cost ceiling is invalid")
    (plan.getD "max_cost_cad")
  let value := withMember "max_cost_cad" (.float cost) plan
  refuseIf (value.text? "plan_sha256" ≠ some (_digest_envelope value "plan_sha256"))
    (.backup "Stored backup transfer plan is invalid or modified")
  return value.sorted

/-- The members a preflight receipt must have with exactly these values. -/
def requiredPreflight : List (String × Json) :=
  [("format", .str SYNTHETIC_RECEIPT_FORMAT), ("adapter", .str "SYNTHETIC_NO_NETWORK"),
    ("validated", .bool true), ("artifact_encrypted", .bool false), ("uploaded", .bool false),
    ("network_performed", .bool false), ("execution_authorized", .bool false),
    ("provider_receipt_included", .bool false),
    ("status", .str "READY_FOR_ENCRYPTION_AND_EXACT_APPROVAL")]

/-- Verify the receipt of a preflight that used no network. -/
def verify_synthetic_backup_adapter_receipt (receipt : Json) : Except Error Json := do
  refuseIf (!receipt.hasExactly SYNTHETIC_RECEIPT_FIELDS)
    (.backup "Synthetic backup receipt fields are incomplete or unsupported")
  refuseIf (secret_findings receipt "$" ≠ [] || !receipt.meets requiredPreflight)
    (.backup "Synthetic backup receipt violates its no-network contract")
  refuseIf (!isSha256 (receipt.getD "plan_sha256"))
    (.backup "Synthetic backup receipt plan hash is malformed")
  refuseIf (receipt.text? "receipt_sha256" ≠ some (_digest_envelope receipt "receipt_sha256"))
    (.backup "Synthetic backup receipt is invalid or has been modified")
  return receipt.sorted

/-- The members an upload receipt must have with the values its plan has or the contract sets. -/
def requiredUpload (plan : Json) : List (String × Json) :=
  [("format", .str UPLOAD_RECEIPT_FORMAT), ("evidence_mode", .str "PRODUCTION"),
    ("provider", .str "BACKBLAZE_B2"), ("provider_region", plan.getD "data_region"),
    ("provider_endpoint", plan.getD "provider_endpoint"),
    ("provider_writer_identity_ref", plan.getD "provider_writer_identity_ref"),
    ("plan_sha256", plan.getD "plan_sha256"), ("destination_ref", plan.getD "destination_ref"),
    ("object_ref", plan.getD "object_ref"), ("backup_sha256", plan.getD "backup_sha256"),
    ("backup_bytes", plan.getD "backup_bytes"),
    ("encryption_mode", .str "IAC_MANAGED_AUTHENTICATED_ENCRYPTION_PLUS_PROVIDER_AES256"),
    ("encryption_verified", .bool true), ("object_lock_mode", .str "COMPLIANCE"),
    ("object_lock_verified", .bool true), ("retention_days", plan.getD "retention_days"),
    ("network_performed", .bool true), ("uploaded", .bool true),
    ("overwrite_performed", .bool false), ("restore_authorized", .bool false),
    ("credentials_persisted", .bool false), ("source_path_included", .bool false)]

/-- The number of days of a retention. -/
def retentionDays : Json → ℤ
  | .int days => days
  | _ => 0

/-- Verify real provider evidence; this performs no network action. -/
def verify_backup_upload_receipt (receipt plan : Json) : Except Error Json := do
  let plan ← verify_stored_backup_transfer_plan plan
  refuseIf (!receipt.hasExactly UPLOAD_RECEIPT_FIELDS)
    (.backup "Backup upload receipt fields are incomplete or unsupported")
  refuseIf (secret_findings receipt "$" ≠ [])
    (.backup "Secret-like material is prohibited in backup upload receipts")
  refuseIf (!receipt.meets (requiredUpload plan))
    (.backup "Backup upload receipt violates the exact transfer plan")
  _safe_provider_ref "provider_request_ref" (receipt.getD "provider_request_ref")
  _safe_provider_ref "provider_version_ref" (receipt.getD "provider_version_ref")
  verify_backblaze_endpoint (receipt.getD "provider_endpoint")
    ((receipt.text? "provider_region").getD "")
  _safe_provider_ref "provider_writer_identity_ref" (receipt.getD "provider_writer_identity_ref")
  refuseIf (!Json.equal (receipt.getD "client_encryption_key_ref")
      (plan.getD "client_encryption_key_ref"))
    (.backup "Backup encryption key reference violates the exact transfer plan")
  refuseIf (!isSha256 (receipt.getD "ciphertext_sha256"))
    (.backup "Encrypted backup SHA-256 is malformed")
  refuseIf (!isPositive (receipt.getD "ciphertext_bytes"))
    (.backup "Encrypted backup size is invalid")
  let _ ← refuseUnlisted CLIENT_ENCRYPTION_ALGORITHMS
    (.backup "Client encryption algorithm is unsupported")
    (receipt.getD "client_encryption_algorithm")
  let uploaded_at ← _aware_instant "uploaded_at" (receipt.getD "uploaded_at")
  let retain_until ← _aware_instant "retain_until" (receipt.getD "retain_until")
  let start ← _aware_instant "window_start" (plan.getD "window_start")
  let stop ← _aware_instant "window_end" (plan.getD "window_end")
  refuseIf (!(start.instant ≤ uploaded_at.instant && uploaded_at.instant ≤ stop.instant))
    (.backup "Provider upload occurred outside the approved window")
  refuseIf (retain_until.instant - uploaded_at.instant <
      retentionDays (plan.getD "retention_days") * (day : ℕ))
    (.backup "Provider retention evidence is shorter than the approved period")
  refuseIf (receipt.text? "receipt_sha256" ≠ some (_digest_envelope receipt "receipt_sha256"))
    (.backup "Backup upload receipt is invalid or has been modified")
  return receipt.sorted

end SeanOs
