import SeanOs.Lib.Json

/-! What the runtime takes from its platform: hashes, random identifiers and characters. -/

namespace SeanOs

/-- The library functions the runtime calls whose results depend on tables or on chance. -/
class Platform where
  /-- The hexadecimal SHA-256 digest of the UTF-8 bytes of a text. -/
  sha256 : String → String
  /-- The identifiers drawn one after another. -/
  uuid4 : ℕ → String
  /-- Whether a character beyond ASCII is a letter or a digit. -/
  alnum : Char → Bool
  /-- The value of a character beyond ASCII that is a decimal digit. -/
  decimal : Char → Option ℕ
  /-- The lower case of a character beyond ASCII. -/
  lower : Char → String
  /-- The upper case of a character beyond ASCII. -/
  upper : Char → String
  /-- Whether a character beyond ASCII is displayed as it is. -/
  printable : Char → Bool
  /-- The text the database compares a number with a column of texts as. -/
  realText : Number → String

end SeanOs
