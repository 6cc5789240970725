import SeanOs.Lib.DoubleRound
import SeanOs.Text

/-! Values as the language displays them, and numbers with a fixed number of decimal places. -/

namespace SeanOs

variable [Platform]

/-- A text in quotes, as the language displays it. -/
def quoted (text : String) : List Char :=
  let single := Char.ofNat 0x27
  -- Double quotes are taken where only single ones are inside.
  let mark := if single ∈ text.toList ∧ Json.quote ∉ text.toList then Json.quote else single
  mark :: (text.toList.flatMap (displayedChar mark) ++ [mark])

mutual

/-- A value as the language displays it. -/
def shown : Json → List Char
  | .null => "None".toList
  | .bool value => (if value then "True" else "False").toList
  | .float .nan => "nan".toList
  | .float (.infinite negative) => (if negative then "-inf" else "inf").toList
  | .str text => quoted text
  | .arr items => '[' :: (shownItems items ++ [']'])
  | .obj members => '{' :: (shownMembers members ++ ['}'])
  -- Integers and finite floats are displayed as they are written.
  | value => Json.compact value

/-- The items of a list as the language displays them. -/
def shownItems : List Json → List Char
  | [] => []
  | [item] => shown item
  | item :: next :: items => shown item ++ ", ".toList ++ shownItems (next :: items)

/-- The members of an object as the language displays them. -/
def shownMembers : List (String × Json) → List Char
  | [] => []
  | [(name, item)] => quoted name ++ ": ".toList ++ shown item
  | (name, item) :: next :: members =>
    quoted name ++ ": ".toList ++ shown item ++ ", ".toList ++ shownMembers (next :: members)

end

/-- A value as a text: a text as it is, and anything else as it is displayed. -/
def str : Json → String
  | .str text => text
  | value => String.ofList (shown value)

omit [Platform] in
/-- A float with two decimal places. -/
def fixedTwo : Number → String
  | .finite value =>
    let size := Nat.toDigits 10 (Double.nearest (|value| * 100))
    let padded := List.replicate (3 - size.length) '0' ++ size
    let whole := padded.take (padded.length - 2)
    String.ofList ((if value < 0 then ['-'] else []) ++ whole ++ '.' :: padded.drop whole.length)
  | .negZero => "-0.00"
  | .infinite negative => if negative then "-inf" else "inf"
  | .nan => "nan"

end SeanOs
