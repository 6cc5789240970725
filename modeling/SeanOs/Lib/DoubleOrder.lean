import SeanOs.Lib.DoubleRound
import SeanOs.Lib.DoubleText
import Mathlib.Order.WithBot

/-! The order of floats, and how large the result of an operation on floats can be. -/

namespace Double

/-- A finite float between a power of two and its negative. -/
def Within (exponent : ℕ) : Number → Prop
  | .finite value => |value| ≤ 2 ^ exponent
  | .negZero => True
  | _ => False

instance (exponent : ℕ) : DecidablePred (Within exponent)
  | .finite value => inferInstanceAs (Decidable (|value| ≤ 2 ^ exponent))
  | .negZero => isTrue trivial
  | .infinite _ => isFalse id
  | .nan => isFalse id

section Within

variable {small large : ℕ} {one two : Number}

theorem Within.mono (within : Within small one) (order : small ≤ large) : Within large one := by
  cases one with
  | finite value =>
    -- Only a finite number is compared with the bound.
    have grows : (2 : ℚ) ^ small ≤ 2 ^ large := pow_le_pow_right₀ one_le_two order
    exact le_trans within grows
  | negZero => trivial
  | infinite negative => exact within
  | nan => exact within

/-- A number within a bound is a number. -/
theorem Within.ne_nan (within : Within small one) : one ≠ .nan := by
  rintro rfl
  exact within

/-- A magnitude is rounded up to less than its double, or to less than two. -/
theorem roundMagnitude_le {value : ℚ} (positive : 0 < value) (bounded : value ≤ 2 ^ small) :
    roundMagnitude value ≤ 2 ^ (small + 1) := by
  have bit : (0 : ℚ) < 2 ^ unitOf value := by positivity
  have least : (1 : ℚ) ≤ 2 ^ small := one_le_pow₀ one_le_two
  -- The last bit is that of the value, or the smallest one there is.
  have unit : (2 : ℚ) ^ unitOf value ≤ 2 ^ small := by
    rcases max_choice (exponentOf value - 52) (-1074) with same | same
    · rw [unitOf, same]
      have below : (2 : ℚ) ^ (exponentOf value - 52) ≤ 2 ^ exponentOf value :=
        zpow_le_zpow_right₀ one_le_two (by omega)
      exact (below.trans (exponentOf_bounds positive).1).trans bounded
    · rw [unitOf, same]
      have tiny : (2 : ℚ) ^ (-1074 : ℤ) ≤ 2 ^ (0 : ℤ) := zpow_le_zpow_right₀ one_le_two (by omega)
      exact tiny.trans (by simpa using least)
  have close := (abs_le.mp (nearest_close (div_nonneg positive.le bit.le))).2
  calc roundMagnitude value
      = nearest (value / 2 ^ unitOf value) * 2 ^ unitOf value := roundMagnitude_eq value
    _ ≤ (value / 2 ^ unitOf value + 1 / 2) * 2 ^ unitOf value := by gcongr; linarith
    _ = value + 2 ^ unitOf value / 2 := by field_simp
    _ ≤ 2 ^ small + 2 ^ small / 2 := by gcongr
    _ ≤ 2 ^ (small + 1) := by rw [pow_succ]; linarith

/-- A number between bounds that are no more than doubles is rounded to a float between their doubles. -/
theorem within_round {value : ℚ} (bounded : |value| ≤ 2 ^ small) (fits : small + 1 < 1024) :
    Within (small + 1) (round value) := by
  rw [round]
  split
  · simp [Within]
  next some_ =>
    -- Rounding at most doubles the bound, which is still far below the greatest number.
    have rounded : roundMagnitude |value| ≤ 2 ^ (small + 1) :=
      roundMagnitude_le (abs_pos.mpr some_) bounded
    have finite : ¬power 2 1024 ≤ roundMagnitude |value| := by
      have below : (2 : ℚ) ^ (small + 1) < 2 ^ 1024 := pow_lt_pow_right₀ one_lt_two fits
      rw [power_eq, not_le]
      exact rounded.trans_lt (by exact_mod_cast below)
    dsimp only
    rw [if_neg finite]
    split
    · trivial
    · rw [Within]
      split
      · rw [abs_neg, abs_of_nonneg (roundMagnitude_nonneg _)]
        exact rounded
      · rw [abs_of_nonneg (roundMagnitude_nonneg _)]
        exact rounded

/-- A number is within the bounds of its opposite. -/
theorem Within.negate (within : Within small one) : Within small (negate one) := by
  cases one with
  | finite value =>
    rw [Double.negate]
    -- The opposite of zero is the negative zero, which is within every bound.
    split
    · trivial
    · rw [Within, abs_neg]
      exact within
  | negZero => simp [Double.negate, Within]
  | infinite negative => exact within
  | nan => exact within

/-- A sum is within a bound that is two powers above the one of both numbers. -/
theorem Within.add (first : Within small one) (second : Within small two)
    (fits : small + 2 < 1024) : Within (small + 2) (add one two) := by
  cases one with
  | finite value =>
    cases two with
    | finite other =>
      -- One power is for the exact sum and the other one for its rounding.
      refine within_round ?_ fits
      calc |value + other| ≤ |value| + |other| := abs_add_le value other
        _ ≤ 2 ^ small + 2 ^ small := add_le_add first second
        _ = 2 ^ (small + 1) := by rw [pow_succ]; ring
    | negZero => exact first.mono (by omega)
    | infinite negative => exact second.elim
    | nan => exact second.elim
  | negZero =>
    cases two with
    | finite other => exact second.mono (by omega)
    | negZero => trivial
    | infinite negative => exact second.elim
    | nan => exact second.elim
  | infinite negative => exact first.elim
  | nan => exact first.elim

/-- A difference is within a bound that is two powers above the one of both numbers. -/
theorem Within.sub (first : Within small one) (second : Within small two)
    (fits : small + 2 < 1024) : Within (small + 2) (sub one two) := first.add second.negate fits

/-- Either zero is within every bound. -/
theorem within_zero (negative : Bool) : Within small (zero negative) := by
  -- The negative zero is no finite number of the model, so it is looked at by itself.
  cases negative with
  | true => trivial
  | false => simp [zero, Within]

/-- A product is within a bound that is one power above the bounds of both numbers together. -/
theorem Within.mul (first : Within small one) (second : Within large two)
    (fits : small + large + 1 < 1024) : Within (small + large + 1) (mul one two) := by
  cases one with
  | finite value =>
    cases two with
    | finite other =>
      rw [Double.mul]
      split
      · exact within_zero _
      -- The exact product is within the bounds together, and its rounding within one power more.
      · refine within_round ?_ fits
        rw [abs_mul, pow_add]
        exact mul_le_mul first second (abs_nonneg _) (by positivity)
    | negZero => exact within_zero _
    | infinite negative => exact second.elim
    | nan => exact second.elim
  | negZero =>
    cases two with
    | finite other => exact within_zero _
    | negZero => exact within_zero _
    | infinite negative => exact second.elim
    | nan => exact second.elim
  | infinite negative => exact first.elim
  | nan => exact first.elim

/-- Rounding to decimal places moves a float by less than one. -/
theorem Within.roundPlaces (within : Within small one) (places : ℕ) (fits : small + 2 < 1024) :
    Within (small + 2) (roundPlaces places one) := by
  cases one with
  | finite value =>
    rw [Double.roundPlaces]
    split
    · simp [Within]
    have scale : (1 : ℚ) ≤ 10 ^ places := one_le_pow₀ (by norm_num)
    have least : (1 : ℚ) ≤ 2 ^ small := one_le_pow₀ one_le_two
    -- The nearest multiple of the last place is at most half a place away.
    have close := (abs_le.mp (nearest_close (mul_nonneg (abs_nonneg value)
      (by positivity : (0 : ℚ) ≤ 10 ^ places)))).2
    have rounded : (nearest (|value| * 10 ^ places) / 10 ^ places : ℚ) ≤ 2 ^ (small + 1) := by
      rw [div_le_iff₀ (by positivity), pow_succ]
      have bounded : |value| ≤ 2 ^ small := within
      nlinarith
    have positive : (0 : ℚ) ≤ nearest (|value| * 10 ^ places) / 10 ^ places := by positivity
    dsimp only
    split
    · exact within_zero _
    · refine within_round ?_ fits
      split
      · rw [abs_neg, abs_of_nonneg positive]
        exact rounded
      · rw [abs_of_nonneg positive]
        exact rounded
  | negZero => trivial
  | infinite negative => exact within.elim
  | nan => exact within.elim

end Within

/-- The place of a float among the others, where both zeros have the same one. -/
def place : Number → WithBot (WithTop ℚ)
  | .finite value => ((value : WithTop ℚ) : WithBot (WithTop ℚ))
  | .negZero => (((0 : ℚ) : WithTop ℚ) : WithBot (WithTop ℚ))
  | .infinite true => ⊥
  | .infinite false => ⊤
  | .nan => ⊥

/-- A finite number stands below infinity. -/
theorem place_lt_top (value : ℚ) : ((value : WithTop ℚ) : WithBot (WithTop ℚ)) < ⊤ :=
  WithBot.coe_lt_coe.mpr (WithTop.coe_lt_top value)

/-- Finite numbers stand in their own order. -/
theorem place_lt_place {one two : ℚ} :
    ((one : WithTop ℚ) : WithBot (WithTop ℚ)) < ((two : WithTop ℚ) : WithBot (WithTop ℚ)) ↔ one < two :=
  WithBot.coe_lt_coe.trans WithTop.coe_lt_coe

/-- Finite numbers stand in one place where they are the same. -/
theorem place_eq_place {one two : ℚ} :
    ((one : WithTop ℚ) : WithBot (WithTop ℚ)) = ((two : WithTop ℚ) : WithBot (WithTop ℚ)) ↔ one = two :=
  WithBot.coe_inj.trans WithTop.coe_inj

/-- One float is above another by their places, unless one of them is no number. -/
theorem exceeds_iff {one two : Number} (first : one ≠ .nan) (second : two ≠ .nan) :
    exceeds one two = true ↔ place two < place one := by
  -- An infinite float is above or below all others, and the finite ones are compared by value.
  rcases one with value | _ | (_ | _) | _ <;> rcases two with other | _ | (_ | _) | _ <;>
    first
    | exact absurd rfl first
    | exact absurd rfl second
    | exact decide_eq_true_iff.trans place_lt_place.symm
    | simp only [exceeds, place, place_lt_top, not_lt_bot, not_top_lt, WithBot.bot_lt_coe,
        bot_lt_top, lt_irrefl, decide_false, Bool.not_true, Bool.not_false, Bool.false_and,
        Bool.true_and, Bool.false_eq_true]

/-- Two floats are equal where they have the same place, unless one of them is no number. -/
theorem equal_float_iff {one two : Number} (first : one ≠ .nan) (second : two ≠ .nan) :
    Json.equal (.float one) (.float two : Json) = true ↔ place one = place two := by
  -- Each kind of number is compared with each other kind.
  rcases one with value | _ | (_ | _) | _ <;> rcases two with other | _ | (_ | _) | _ <;>
    first
    | exact absurd rfl first
    | exact absurd rfl second
    | simp only [Json.equal, Json.numeric, place, place_eq_place, (place_lt_top _).ne,
        (place_lt_top _).ne', bot_ne_top, top_ne_bot, WithBot.bot_ne_coe, WithBot.coe_ne_bot,
        Number.finite.injEq, Number.infinite.injEq, reduceCtorEq, ne_eq, not_false_eq_true,
        decide_true, decide_false, decide_eq_true_eq, Bool.and_true, Bool.false_eq_true]

end Double
