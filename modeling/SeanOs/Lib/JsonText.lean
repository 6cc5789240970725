import SeanOs.Lib.Double

/-! JSON values as compact ASCII texts, with the members of objects sorted by name. -/

namespace Json

/-- The four hexadecimal digits of a code unit, with the escape before them. -/
def unitText (unit : ℕ) : List Char :=
  ['\\', 'u', Nat.digitChar (unit / 4096 % 16), Nat.digitChar (unit / 256 % 16),
    Nat.digitChar (unit / 16 % 16), Nat.digitChar (unit % 16)]

/-- A code point inside a text, escaped unless it is printable ASCII and needs no escape. -/
def pointText (point : ℕ) : List Char :=
  if point = 0x22 ∨ point = 0x5C then ['\\', Char.ofNat point]
  else if point = 0x0A then ['\\', 'n']
  else if point = 0x0D then ['\\', 'r']
  else if point = 0x09 then ['\\', 't']
  else if point = 0x0C then ['\\', 'f']
  else if point = 0x08 then ['\\', 'b']
  else if 0x20 ≤ point ∧ point ≤ 0x7E then [Char.ofNat point]
  else if point < 0x10000 then unitText point
  -- Code points beyond the first plane are written as two surrogates.
  else unitText (0xD800 + (point - 0x10000) / 0x400) ++
    unitText (0xDC00 + (point - 0x10000) % 0x400)

/-- The mark around texts. -/
def quote : Char := Char.ofNat 0x22

/-- A surrogate is written as its code unit. -/
theorem pointText_unit {point : ℕ} (surrogate : 0xD800 ≤ point ∧ point < 0xE000) :
    pointText point = unitText point := by
  -- A surrogate is none of the characters with an escape of their own, and not plain either.
  unfold pointText
  rw [if_neg (by omega), if_neg (by omega), if_neg (by omega), if_neg (by omega), if_neg (by omega),
    if_neg (by omega), if_neg (by omega), if_pos (by omega)]

/-- A pair of surrogates is written as the code point it stands for is. -/
theorem pointText_pair {high low : ℕ} (pair : isHigh high = true ∧ isLow low = true) :
    pointText (pairPoint high low) = pointText high ++ pointText low := by
  have first := of_decide_eq_true pair.1
  have second := of_decide_eq_true pair.2
  have bounds := pairPoint_bounds pair
  -- The halves a code point is split into are the two it was made up of.
  have one : 0xD800 + (pairPoint high low - 0x10000) / 0x400 = high := by unfold pairPoint; omega
  have two : 0xDC00 + (pairPoint high low - 0x10000) % 0x400 = low := by unfold pairPoint; omega
  rw [@pointText_unit high (by omega), @pointText_unit low (by omega)]
  unfold pointText
  rw [if_neg (by omega), if_neg (by omega), if_neg (by omega), if_neg (by omega), if_neg (by omega),
    if_neg (by omega), if_neg (by omega), if_neg (by omega), one, two]

/-- It cannot be told from a text whether the halves of its pairs were apart. -/
theorem flatMap_paired (points : List ℕ) :
    (paired points).flatMap pointText = points.flatMap pointText := by
  -- A pair is passed in one step, and any other code point by itself.
  induction points using paired.induct with
  | case1 high low rest pair ih =>
    rw [paired, if_pos pair, List.flatMap_cons, ih, pointText_pair pair, List.flatMap_cons,
      List.flatMap_cons, List.append_assoc]
  | case2 high low rest apart ih =>
    rw [paired, if_neg apart, List.flatMap_cons, ih]
    rfl
  | case3 points short => rw [paired.eq_2 points short]

section Written

variable {τ : Type} [CodePoints τ]

/-- A text in quotes. -/
def stringText (text : τ) : List Char :=
  quote :: ((CodePoints.points text).flatMap pointText ++ [quote])

omit [CodePoints τ] in
/-- A pair of surrogates is written as the code point it stands for. -/
theorem stringText_joined (text : Wide) : stringText text.joined = stringText text :=
  congrArg (fun written => quote :: (written ++ [quote])) (flatMap_paired text.points)

mutual

/-- A value as a compact text, with the members of objects in the order they have. -/
def compact : Json τ → List Char
  | .null => "null".toList
  | .bool value => (if value then "true" else "false").toList
  | .int value => (if value < 0 then ['-'] else []) ++ Nat.toDigits 10 value.natAbs
  | .float value => Double.text value
  | .str text => stringText text
  | .arr items => '[' :: (compactItems items ++ [']'])
  | .obj members => '{' :: (compactMembers members ++ ['}'])

/-- The items of a list, with commas between them. -/
def compactItems : List (Json τ) → List Char
  | [] => []
  | [item] => compact item
  | item :: next :: items => compact item ++ ',' :: compactItems (next :: items)

/-- The members of an object, with commas between them. -/
def compactMembers : List (τ × Json τ) → List Char
  | [] => []
  | [(name, item)] => stringText name ++ ':' :: compact item
  | (name, item) :: next :: members =>
    stringText name ++ ':' :: (compact item ++ ',' :: compactMembers (next :: members))

end

/-- A value as its canonical text: compact, with the members of every object sorted. -/
def canonical [LinearOrder τ] (value : Json τ) : String := String.ofList (compact (sorted value))

end Written

section Members

variable {τ : Type} [DecidableEq τ]

/-- An object without one of its members. -/
def without (key : τ) : Json τ → Json τ
  | .obj members => .obj (members.filter (·.1 ≠ key))
  | value => value

/-- The names of the members of an object, if the value is one. -/
def keys? : Json τ → Option (List τ)
  | .obj members => some (members.map (·.1))
  | _ => none

/-- Whether a value is an object that has exactly the members of a list of names. -/
def hasExactly (names : List τ) (value : Json τ) : Bool :=
  value.keys?.any fun keys => keys.all (· ∈ names) && names.all (· ∈ keys)

/-- The value of a member that may be missing, and counts as null then. -/
def getD (key : τ) (value : Json τ) : Json τ := (value.get? key).getD .null

/-- Whether every listed member has a value equal to the listed one. -/
def meets (required : List (τ × Json τ)) (value : Json τ) : Bool :=
  required.all fun member => equal (value.getD member.1) member.2

end Members

end Json
