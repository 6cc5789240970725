import SeanOs.Lib.Decimal
import SeanOs.Lib.Json

/-! Binary floating point: numbers rounded to doubles, read from texts and written as texts. -/

namespace Double

/-- A power with an exponent of either sign. -/
def power (base : ℕ) (exponent : ℤ) : ℚ :=
  if 0 ≤ exponent then (Nat.pow base exponent.toNat : ℕ) else 1 / (Nat.pow base (-exponent).toNat : ℕ)

/-- The exponent of the greatest power of two that is at most a positive number. -/
def exponentOf (value : ℚ) : ℤ :=
  let estimate : ℤ := value.num.natAbs.log2 - value.den.log2
  if power 2 estimate ≤ value then estimate else estimate - 1

/-- The nearest natural number, and of two nearest ones the even one. -/
def nearest (value : ℚ) : ℕ :=
  let floor := value.num.natAbs / value.den
  let rest := value - floor
  if rest < 1 / 2 ∨ rest = 1 / 2 ∧ floor % 2 = 0 then floor else floor + 1

/-- A positive number rounded to 53 significant bits, with fewer of them at the lower end. -/
def roundMagnitude (value : ℚ) : ℚ :=
  let unit := power 2 (max (exponentOf value - 52) (-1074))
  nearest (value / unit) * unit

/-- The double nearest to a number. -/
def round (value : ℚ) : Number :=
  if value = 0 then .finite 0
  else
    let magnitude := roundMagnitude |value|
    if power 2 1024 ≤ magnitude then .infinite (value < 0)
    else if magnitude = 0 ∧ value < 0 then .negZero
    else .finite (if value < 0 then -magnitude else magnitude)

/-- An integer as a double, unless it is beyond all of them. -/
def ofInt (value : ℤ) : Option Number :=
  match round value with
  | .infinite _ => none
  | rounded => some rounded

/-- How many digits a positive number has before its point, not positive for small ones. -/
def pointOf (value : ℚ) : ℤ :=
  -- The decimal exponent is estimated from the binary one, and is off by at most one either way.
  let estimate := exponentOf value * 30103 / 100000
  if value < power 10 estimate then estimate
  else if value < power 10 (estimate + 1) then estimate + 1
  else estimate + 2

/-- The shortest digits that are rounded back to a double, with the place of the point. -/
def shortest (value : ℚ) : List Char × ℤ :=
  let point := pointOf value
  let digitsOf := fun count : ℕ => nearest (value / power 10 (point - count))
  let found := ((List.range 17).map (· + 1)).find? fun count =>
    roundMagnitude (digitsOf count * power 10 (point - count)) = value
  let text := Nat.toDigits 10 (digitsOf (found.getD 17))
  -- Rounding up to the next power of ten gives one digit more, and only zeros behind the first.
  let carried := if found.getD 17 < text.length then point + 1 else point
  ((text.reverse.dropWhile (· == '0')).reverse, carried)

/-- The exponent of a text in scientific form: a sign and at least two digits. -/
def exponentText (exponent : ℤ) : List Char :=
  let size := Nat.toDigits 10 exponent.natAbs
  'e' :: (if exponent < 0 then '-' else '+') :: (if size.length < 2 then '0' :: size else size)

/-- The text of a positive double: plain near one, and scientific far from it. -/
def magnitudeText (value : ℚ) : List Char :=
  let (digits, point) := shortest value
  if point ≤ -4 ∨ 16 < point then
    digits.take 1 ++ (if digits.length = 1 then [] else '.' :: digits.drop 1) ++
      exponentText (point - 1)
  else if point ≤ 0 then
    '0' :: '.' :: (List.replicate (-point).toNat '0' ++ digits)
  else if digits.length ≤ point.toNat then
    digits ++ List.replicate (point.toNat - digits.length) '0' ++ ['.', '0']
  else
    digits.take point.toNat ++ '.' :: digits.drop point.toNat

/-- The text of a double, as JSON texts of the language write it. -/
def text : Number → List Char
  | .finite value =>
    if value = 0 then ['0', '.', '0']
    else if value < 0 then '-' :: magnitudeText (-value)
    else magnitudeText value
  | .negZero => ['-', '0', '.', '0']
  | .infinite negative => (if negative then ['-'] else []) ++ "Infinity".toList
  | .nan => "NaN".toList

/-- Digits without the underscores between them, if underscores stand nowhere else. -/
def withoutMarks : Option Char → List Char → Option (List Char)
  | _, [] => some []
  | before, first :: rest =>
    if first = '_' then
      if before.any Char.isDigit ∧ rest.head?.any Char.isDigit then withoutMarks (some first) rest
      else none
    else (withoutMarks (some first) rest).map (first :: ·)

/-- The exponent behind the digits of a number, which is zero when nothing stands there. -/
def exponentAfter (text : List Char) : Option ℤ :=
  if text = [] then some 0
  else if text.head?.map Char.toLower = some 'e' then
    if text.tail.head? = some '-' then (Decimal.read text.tail.tail).map fun size => -(size : ℤ)
    else (Decimal.read (if text.tail.head? = some '+' then text.tail.tail else text.tail)).map (↑)
  else none

/-- Read a number without a sign. -/
def unsigned (text : List Char) : Option Number :=
  if text.map Char.toLower ∈ ["inf".toList, "infinity".toList] then some (.infinite false)
  else if text.map Char.toLower = "nan".toList then some .nan
  else
    let whole := text.takeWhile Char.isDigit
    let rest := text.dropWhile Char.isDigit
    let fraction := if rest.head? = some '.' then rest.tail.takeWhile Char.isDigit else []
    let behind := if rest.head? = some '.' then rest.tail.dropWhile Char.isDigit else rest
    if whole = [] ∧ fraction = [] then none
    else (exponentAfter behind).map fun exponent =>
      round (Decimal.weigh (whole ++ fraction) * power 10 (exponent - fraction.length))

/-- A number with the other sign. -/
def negate : Number → Number
  | .finite value => if value = 0 then .negZero else .finite (-value)
  | .negZero => .finite 0
  | .infinite negative => .infinite !negative
  | .nan => .nan

/-- Read a number as the language reads floats, from a text without blanks around it. -/
def parse (text : List Char) : Option Number :=
  (withoutMarks none text).bind fun text =>
    if text.head? = some '-' then (unsigned text.tail).map negate
    else unsigned (if text.head? = some '+' then text.tail else text)

/-- The sum of two floats. -/
def add : Number → Number → Number
  | .finite one, .finite two => round (one + two)
  | .finite one, .negZero => .finite one
  | .negZero, .finite two => .finite two
  | .negZero, .negZero => .negZero
  | .infinite one, .infinite two => if one = two then .infinite one else .nan
  | .infinite one, .finite _ | .infinite one, .negZero => .infinite one
  | .finite _, .infinite two | .negZero, .infinite two => .infinite two
  | .nan, _ | _, .nan => .nan

/-- The difference of two floats. -/
def sub (one two : Number) : Number := add one (negate two)

/-- Whether one float is above another, which what is no number never is. -/
def exceeds : Number → Number → Bool
  | .nan, _ | _, .nan => false
  | .infinite one, .infinite two => !one && two
  | .infinite negative, _ => !negative
  | _, .infinite negative => negative
  | one, two => valueOf two < valueOf one
where
  /-- The value of a float that is finite. -/
  valueOf : Number → ℚ
    | .finite value => value
    | _ => 0

/-- Whether a float can be stored where a number of at least zero must be. -/
def storable : Number → Bool
  | .finite value => 0 ≤ value
  | .negZero => true
  | .infinite negative => !negative
  | .nan => false

/-- What is no number makes every sum no number. -/
@[simp] theorem add_nan (one : Number) : add one .nan = .nan := by
  cases one <;> rfl

/-- A power of a positive base is not negative. -/
theorem power_nonneg (base : ℕ) (exponent : ℤ) : 0 ≤ power base exponent := by
  rw [power]
  -- A power of a natural number, or one divided by it.
  split
  · exact Nat.cast_nonneg _
  · exact div_nonneg zero_le_one (Nat.cast_nonneg _)

/-- A magnitude stays at least zero when it is rounded. -/
theorem roundMagnitude_nonneg (value : ℚ) : 0 ≤ roundMagnitude value :=
  mul_nonneg (Nat.cast_nonneg _) (power_nonneg _ _)

/-- A number of at least zero can be stored once it is rounded. -/
theorem storable_round {value : ℚ} (least : 0 ≤ value) : storable (round value) = true := by
  -- The sign is only ever taken from the value.
  have sign : ¬value < 0 := not_lt.mpr least
  rw [round]
  split
  · rfl
  dsimp only
  split
  · simpa [storable] using least
  split
  next tiny => exact absurd tiny.2 sign
  next => exact decide_eq_true (roundMagnitude_nonneg _)

end Double
