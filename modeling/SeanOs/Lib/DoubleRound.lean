import SeanOs.Lib.Double

/-! Products of floats, and floats rounded to decimal places. -/

namespace Double

/-- Whether a float is below zero, where a zero with a sign counts as well. -/
def negative : Number → Bool
  | .finite value => value < 0
  | .negZero => true
  | .infinite negative => negative
  | .nan => false

/-- A zero with a sign. -/
def zero (negative : Bool) : Number := if negative then .negZero else .finite 0

/-- The product of two floats. -/
def mul : Number → Number → Number
  | .nan, _ | _, .nan => .nan
  | .infinite one, two =>
    match two with
    | .finite value => if value = 0 then .nan else .infinite (one != decide (value < 0))
    | .negZero => .nan
    | other => .infinite (one != negative other)
  | one, .infinite two =>
    match one with
    | .finite value => if value = 0 then .nan else .infinite (two != decide (value < 0))
    | _ => .nan
  | .negZero, two => zero (!negative two)
  | one, .negZero => zero (!negative one)
  | .finite one, .finite two =>
    -- The sign of a zero is that of the factors.
    if one = 0 ∨ two = 0 then zero (decide (one < 0) != decide (two < 0)) else round (one * two)

/-- A float rounded to some decimal places, to the even last digit between two. -/
def roundPlaces (places : ℕ) : Number → Number
  | .finite value =>
    if value = 0 then .finite 0
    else
      let rounded : ℚ := nearest (|value| * 10 ^ places) / 10 ^ places
      if rounded = 0 then zero (value < 0)
      else round (if value < 0 then -rounded else rounded)
  | other => other

end Double
