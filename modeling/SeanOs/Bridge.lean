import SeanOs.Commands
import SeanOs.SecretScan
import SeanOs.Shown
import SeanOs.Lib.DoubleText

/-! The bridge over which the separately owned runtime sends commands, and what it lets through. -/

namespace SeanOs

open Atomic

variable [Platform]

/-- The version of the contract of the bridge. -/
def VERSION : String := "sean-os-iac-bridge/v1"

/-- The commands that may cross. -/
def ALLOWED_COMMANDS : List String :=
  ["CREATE_IAC_GOAL", "CREATE_PROJECT", "REVIEW_PORTFOLIO", "QUALIFY_REVENUE",
    "COMPARE_REVENUE_PORTFOLIO", "GENERATE_REPORT", "REQUEST_CUSTOMER_CONTACT_APPROVAL"]

/-- Object keys that count as personal. -/
def PERSONAL_KEYS : List String :=
  ["personal", "family", "health", "medical", "bank", "rbc", "wealth", "home_address"]

/-- The members of an envelope. -/
def ENVELOPE_FIELDS : List String :=
  ["contract_version", "request_id", "issued_at", "target", "command_type", "payload",
    "personal_data_included", "payload_sha256"]

mutual

/-- Where a value has personal keys. -/
def _personal_paths : Json → String → List String
  | .obj members, path => personalMembers members path
  | .arr items, path => personalItems items 0 path
  | _, _ => []

/-- Where the members of an object have personal keys. -/
def personalMembers : List (String × Json) → String → List String
  | [], _ => []
  | (key, item) :: members, path =>
    (if normalizedKey key ∈ PERSONAL_KEYS then [path ++ "." ++ key] else []) ++
      (_personal_paths item (path ++ "." ++ key) ++ personalMembers members path)

/-- Where the items of a list have personal keys. -/
def personalItems : List Json → ℕ → String → List String
  | [], _, _ => []
  | item :: items, index, path =>
    _personal_paths item (path ++ "[" ++ toString index ++ "]") ++
      personalItems items (index + 1) path

end

/-- The command and the payload of an envelope that meets the contract. -/
def checkEnvelope (envelope : List (String × Json)) :
    Except Error (String × List (String × Json)) := do
  let value := Json.obj envelope
  refuseIf (!value.hasExactly ENVELOPE_FIELDS)
    (.bridge "Bridge envelope fields do not match the contract")
  refuseIf (!Json.equal (value.getD "contract_version") (.str VERSION) ||
      !Json.equal (value.getD "target") (.str "IAC"))
    (.bridge "Bridge version or target mismatch")
  refuseIf (value.getD "personal_data_included" ≠ .bool false)
    (.bridge "PERSONAL data is prohibited on the IAC bridge")
  let command := upper (str (value.getD "command_type"))
  match value.getD "payload" with
  | .obj payload => do
    refuseIf (command ∉ ALLOWED_COMMANDS)
      (.bridge "Command is not exposed across the ownership bridge")
    refuseIf (_personal_paths (.obj payload) "$" ≠ [] || secret_findings (.obj payload) "$" ≠ [])
      (.bridge "Bridge payload contains prohibited PERSONAL or secret material")
    refuseIf (!Json.equal (value.getD "payload_sha256")
        (.str (Platform.sha256 (Json.canonical (.obj payload)))))
      (.bridge "Bridge command integrity check failed")
    return (command, payload)
  | _ => .error (.bridge "Command is not exposed across the ownership bridge")

/-- What an accepted envelope is answered with. -/
structure BridgeReply where
  contract_version : String
  request_id : String
  iac_work_id : String
  status : String

/-- Fail-closed receiver for commands from the separately owned Sean OS. -/
structure IACBridgeReceiver where
  store : Store

namespace IACBridgeReceiver

variable (receiver : IACBridgeReceiver)

/-- The gateway of a receiver, which acts for the bridge. -/
def gateway : CommandGateway := ⟨receiver.store, ⟨"sean-os-bridge", [.IAC], false⟩⟩

/-- Accept an envelope, or refuse it. -/
def accept (envelope : List (String × Json)) : Op BridgeReply := do
  let (command, payload) ← lift (checkEnvelope envelope)
  let request_id := str ((Json.obj envelope).getD "request_id")
  let submitted ← receiver.gateway.submit ("bridge:" ++ request_id) command payload "IAC"
  return ⟨VERSION, request_id, submitted.work_id, submitted.status⟩

end IACBridgeReceiver

section Scans

mutual

/-- Whether a value has personal keys does not depend on where it stands. -/
theorem personal_paths_path : ∀ (value : Json) (one two : String),
    _personal_paths value one = [] ↔ _personal_paths value two = []
  -- The path is only written down, so no branch of the scan depends on it.
  | .obj members, one, two => by
    rw [_personal_paths, _personal_paths]
    exact personalMembers_path members one two
  | .arr items, one, two => by
    rw [_personal_paths, _personal_paths]
    exact personalItems_path items 0 one two
  | .null, _, _ | .bool _, _, _ | .int _, _, _ | .float _, _, _ | .str _, _, _ => Iff.rfl

/-- Whether items hold personal keys does not depend on the path they are found under. -/
theorem personalItems_path : ∀ (items : List Json) (index : ℕ) (one two : String),
    personalItems items index one = [] ↔ personalItems items index two = []
  -- Each item is scanned under a path of its own.
  | [], _, _, _ => Iff.rfl
  | item :: items, index, one, two => by
    rw [personalItems, personalItems, List.append_eq_nil_iff, List.append_eq_nil_iff,
      personal_paths_path item _ (two ++ "[" ++ toString index ++ "]"),
      personalItems_path items (index + 1) one two]

/-- Whether members hold personal keys does not depend on the path they are found under. -/
theorem personalMembers_path : ∀ (members : List (String × Json)) (one two : String),
    personalMembers members one = [] ↔ personalMembers members two = []
  | [], _, _ => Iff.rfl
  | (key, item) :: members, one, two => by
    rw [personalMembers, personalMembers, List.append_eq_nil_iff, List.append_eq_nil_iff,
      List.append_eq_nil_iff, List.append_eq_nil_iff,
      personal_paths_path item _ (two ++ "." ++ key), personalMembers_path members one two]
    -- The name of a member counts wherever the member stands.
    split <;> simp

end

/-- The scan for personal keys goes everywhere inside a value. -/
theorem thorough_personal :
    Json.Thorough (fun value => _personal_paths value "$" = []) (NoKeyOf PERSONAL_KEYS) where
  scalar value scalar := by
    cases value with
    | arr | obj => cases scalar
    | _ => exact ⟨fun _ => trivial, fun _ => rfl⟩
  arr items := by
    rw [_personal_paths]
    -- The index is only written down, and counts up on the way.
    generalize 0 = index
    induction items generalizing index with
    | nil => exact ⟨fun _ => ⟨trivial, nofun⟩, fun _ => rfl⟩
    | cons item items ih =>
      rw [personalItems, List.append_eq_nil_iff, ih, List.forall_mem_cons,
        personal_paths_path item _ "$", ← and_assoc, ← and_assoc, and_comm (a := _ = _)]
      exact Iff.rfl
  obj members := by
    rw [_personal_paths, NoKeyOf]
    induction members with
    | nil => exact ⟨fun _ => ⟨nofun, nofun⟩, fun _ => rfl⟩
    | cons member members ih =>
      obtain ⟨key, item⟩ := member
      rw [personalMembers, List.append_eq_nil_iff, List.append_eq_nil_iff, ih,
        List.forall_mem_cons, List.forall_mem_cons, personal_paths_path item _ "$"]
      -- The name is a finding itself where it is a personal one.
      by_cases named : normalizedKey key ∈ PERSONAL_KEYS
      · simp [named]
      · simp [named, and_left_comm]

end Scans

end SeanOs
