import SeanOs.Errors
import SeanOs.Text
import SeanOs.Lib.Json
import SeanOs.Lib.Pattern

/-! The scan for secret-like material, and text that is safe to keep as operational evidence. -/

namespace SeanOs

variable [Platform]

open Pattern

/-- Object keys whose value counts as a secret, whatever it is. -/
def SENSITIVE_KEYS : List String :=
  ["password", "passphrase", "secret", "client_secret", "api_key", "access_token",
    "refresh_token", "recovery_code", "recovery_codes", "private_key", "account_number",
    "routing_number", "credential", "credentials"]

/-- The letters that letter ranges also match without regard to case, beyond ASCII. -/
def isFoldedLetter (character : Char) : Bool :=
  character.val ∈ [0x130, 0x131, 0x17F, 0x212A]

/-- The patterns of secret-like text, under the names findings give them. -/
def SECRET_PATTERNS : List (String × Regex) :=
  [("private_key_block",
      .seq (literal "-----BEGIN ".toList)
        (.seq (.run (fun c => c.isUpper || c == ' ') 0 none)
          (literal "PRIVATE KEY-----".toList))),
    ("openai_style_key",
      .seq (.edge isWord) (.seq (literal "sk-".toList)
        (.seq (.run (fun c => c.isAlphanum || c == '_' || c == '-') 20 none) (.edge isWord)))),
    ("aws_access_key",
      .seq (.edge isWord) (.seq (literal "AKIA".toList)
        (.seq (.run (fun c => c.isUpper || c.isDigit) 16 (some 16)) (.edge isWord)))),
    ("bearer_token",
      .seq (.edge isWord) (.seq
        ("bearer".toList.foldr (fun letter rest => .seq (one (·.toLower == letter)) rest)
          (.run isSpace 1 none))
        (.seq (.run (fun c => c.isAlphanum || isFoldedLetter c || c ∈ "._~+/-".toList) 20 none)
          (.seq (.run (· == '=') 0 (some 2)) (.edge isWord)))))]

/-- One finding: where in a value it is, and what kind of secret it looks like. -/
structure Finding where
  path : String
  type : String
  deriving DecidableEq

/-- The key a scan compares with the sensitive ones. -/
def normalizedKey (key : String) : String :=
  replace ' ' '_' (replace '-' '_' (lower (strip key)))

/-- The findings in one text. -/
def textFindings (text : String) (path : String) : List Finding :=
  (SECRET_PATTERNS.filter fun pattern => search pattern.2 text).map fun pattern =>
    ⟨path, pattern.1⟩

mutual

/-- Return secret classifications and paths, never secret values. -/
def secret_findings : Json → String → List Finding
  | .obj members, path => memberFindings members path
  | .arr items, path => itemFindings items 0 path
  | .str text, path => textFindings text path
  | _, _ => []

/-- The findings in the members of an object, under their keys. -/
def memberFindings : List (String × Json) → String → List Finding
  | [], _ => []
  | (key, item) :: members, path =>
    (if normalizedKey key ∈ SENSITIVE_KEYS then [⟨path ++ "." ++ key, "sensitive_key"⟩] else []) ++
      (secret_findings item (path ++ "." ++ key) ++ memberFindings members path)

/-- The findings in the items of a list, under their positions. -/
def itemFindings : List Json → ℕ → String → List Finding
  | [], _, _ => []
  | item :: items, index, path =>
    secret_findings item (path ++ "[" ++ toString index ++ "]") ++
      itemFindings items (index + 1) path

end

-- Proofs about programs never evaluate a scan, only what is done with its findings.
attribute [irreducible] secret_findings

/--
A value as the checks of its texts see it. A surrogate is no letter, no blank and no digit of base
64, and has no place in a pattern or among the control characters, as an exclamation mark has none.
-/
def asChecked (value : Json Wide) : Json := value.mapText (Wide.marked '!')

omit [Platform] in
/-- A text of characters is checked as it is. -/
@[simp] theorem asChecked_of (text : String) : asChecked (.str (Wide.of text)) = .str text :=
  congrArg Json.str (Wide.marked_of '!' text)

/-- Return bounded single-line text that is safe for durable operational evidence. -/
def safe_persisted_text (value : String) (fallback : String) (max_length : ℕ) : String :=
  let text := strip (joined value)
  if text = "" ∨ secret_findings (.str text) "$" ≠ [] then fallback
  else String.ofList (text.toList.take max_length)

end SeanOs
