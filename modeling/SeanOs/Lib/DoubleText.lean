import SeanOs.Lib.JsonParse

/-! The texts of doubles: each is read back as the double it was written from. -/

namespace Double

/-- Whether a number is one of those that doubles stand for. -/
def Representable : Number → Prop
  | .finite value => round value = .finite value
  | _ => True

instance : DecidablePred Representable
  | .finite value => inferInstanceAs (Decidable (round value = .finite value))
  | .negZero | .infinite _ | .nan => inferInstanceAs (Decidable True)

section Rounding

/-- A power as the model computes it is the power of rational numbers. -/
theorem power_eq (base : ℕ) (exponent : ℤ) : power base exponent = (base : ℚ) ^ exponent := by
  rw [power]
  -- The model divides by the power of the opposite where the exponent is negative.
  split
  · next least =>
    obtain ⟨size, rfl⟩ := Int.eq_ofNat_of_zero_le least
    simp
  · next negative =>
    obtain ⟨size, opposite⟩ := Int.eq_ofNat_of_zero_le (Int.neg_nonneg.mpr (not_le.mp negative).le)
    obtain rfl : exponent = -(size : ℤ) := by omega
    simp

/-- A number of at least zero is its numerator's size over its denominator. -/
theorem sizes_of_nonneg {value : ℚ} (least : 0 ≤ value) :
    value = (value.num.natAbs : ℚ) / value.den := by
  conv_lhs => rw [← Rat.num_div_den value]
  rw [← Int.cast_natCast value.num.natAbs, Int.natAbs_of_nonneg (Rat.num_nonneg.mpr least)]

/-- The binary exponent of a positive number places it between two powers of two. -/
theorem exponentOf_bounds {value : ℚ} (positive : 0 < value) :
    (2 : ℚ) ^ exponentOf value ≤ value ∧ value < (2 : ℚ) ^ (exponentOf value + 1) := by
  rw [exponentOf, power_eq]
  have num : 0 < value.num := Rat.num_pos.mpr positive
  have some_ : value.num.natAbs ≠ 0 := by omega
  have den : (0 : ℚ) < value.den := Nat.cast_pos.mpr value.den_pos
  have sizes := sizes_of_nonneg positive.le
  -- Numerator and denominator each lie between two powers.
  have above : (value.num.natAbs : ℚ) < 2 ^ ((value.num.natAbs.log2 : ℤ) + 1) := by
    exact_mod_cast Nat.lt_log2_self (n := value.num.natAbs)
  have below : (2 : ℚ) ^ (value.num.natAbs.log2 : ℤ) ≤ value.num.natAbs := by
    exact_mod_cast Nat.log2_self_le some_
  have over_ : (value.den : ℚ) < 2 ^ ((value.den.log2 : ℤ) + 1) := by
    exact_mod_cast Nat.lt_log2_self (n := value.den)
  have under : (2 : ℚ) ^ (value.den.log2 : ℤ) ≤ value.den := by
    exact_mod_cast Nat.log2_self_le value.den_nz
  generalize (value.num.natAbs.log2 : ℤ) = large at *
  generalize (value.den.log2 : ℤ) = small at *
  have upper : value < (2 : ℚ) ^ (large - small + 1) := by
    rw [sizes, div_lt_iff₀ den, sub_add_eq_add_sub, zpow_sub₀ two_ne_zero, div_mul_eq_mul_div,
      lt_div_iff₀ (by positivity)]
    exact mul_lt_mul above under (by positivity) (by positivity)
  have lower : (2 : ℚ) ^ (large - small - 1) ≤ value := by
    rw [sizes, le_div_iff₀ den, sub_sub, zpow_sub₀ two_ne_zero, div_mul_eq_mul_div,
      div_le_iff₀ (by positivity)]
    exact mul_le_mul below over_.le den.le (by positivity)
  split
  · next reached => exact ⟨reached, upper⟩
  · next short =>
    rw [sub_add_cancel]
    exact ⟨lower, not_le.mp short⟩

/-- A number between two powers of two has the lower one's exponent. -/
theorem exponentOf_eq {value : ℚ} {exponent : ℤ} (lower : (2 : ℚ) ^ exponent ≤ value)
    (upper : value < (2 : ℚ) ^ (exponent + 1)) : exponentOf value = exponent := by
  have positive : 0 < value := lt_of_lt_of_le (by positivity) lower
  obtain ⟨least, most⟩ := exponentOf_bounds positive
  -- The value lies between two neighbouring powers twice, so both times the powers are the same.
  have one := (zpow_lt_zpow_iff_right₀ one_lt_two).mp (least.trans_lt upper)
  have two := (zpow_lt_zpow_iff_right₀ one_lt_two).mp (lower.trans_lt most)
  omega

/-- The nearest natural number is at most a half away. -/
theorem nearest_close {value : ℚ} (least : 0 ≤ value) : |(nearest value : ℚ) - value| ≤ 1 / 2 := by
  -- What is computed first is the whole part, and then it is or is not counted up by one.
  have floor : value.num.natAbs / value.den = ⌊value⌋₊ := by
    conv_rhs => rw [sizes_of_nonneg least]
    exact (Rat.natFloor_natCast_div_natCast _ _).symm
  have low := Nat.floor_le least
  have high := Nat.lt_floor_add_one value
  rw [nearest, floor]
  split
  · next below =>
    rw [abs_le]
    rcases below with below | ⟨below, -⟩ <;> constructor <;> linarith
  · next above =>
    have half : 1 / 2 ≤ value - ⌊value⌋₊ := not_lt.mp fun below => above (.inl below)
    rw [abs_le, Nat.cast_add_one]
    constructor <;> linarith

/-- A natural number less than a half away is the nearest one. -/
theorem nearest_eq {value : ℚ} {number : ℕ} (least : 0 ≤ value) (close : |value - number| < 1 / 2) :
    nearest value = number := by
  -- Both numbers are within a half of the value, one of them strictly, so less than one is
  -- between them.
  have near := abs_le.mp (nearest_close least)
  have far := abs_lt.mp close
  have above : (nearest value : ℚ) < number + 1 := by linarith
  have below : (number : ℚ) < nearest value + 1 := by linarith
  have one : nearest value < number + 1 := by exact_mod_cast above
  have two : number < nearest value + 1 := by exact_mod_cast below
  omega

/-- The place of the last bit of a number. -/
def unitOf (value : ℚ) : ℤ := max (exponentOf value - 52) (-1074)

/-- A magnitude is rounded to the nearest multiple of its last bit. -/
theorem roundMagnitude_eq (value : ℚ) :
    roundMagnitude value = nearest (value / 2 ^ unitOf value) * 2 ^ unitOf value := by
  rw [roundMagnitude, power_eq, unitOf]
  rfl

/-- What rounds to itself is a whole number of last bits. -/
theorem whole_of_rounded {value : ℚ} (same : roundMagnitude value = value) :
    ∃ number : ℕ, value = number * 2 ^ unitOf value :=
  ⟨_, (same.symm.trans (roundMagnitude_eq value))⟩

/-- A number less than half a last bit from a whole number of them rounds to that. -/
theorem roundMagnitude_whole {value : ℚ} {number : ℕ} {place : ℤ} (least : 0 ≤ value)
    (unit : unitOf value = place) (close : |value - number * 2 ^ place| < 2 ^ place / 2) :
    roundMagnitude value = number * 2 ^ place := by
  have bit : (0 : ℚ) < 2 ^ place := by positivity
  -- Divided by the last bit, the value is within a half of the number.
  have near : |value / 2 ^ place - number| < 1 / 2 := by
    rw [div_sub' bit.ne', abs_div, abs_of_pos bit, div_lt_iff₀ bit]
    calc |value - 2 ^ place * number| = |value - number * 2 ^ place| := by rw [mul_comm]
      _ < 2 ^ place / 2 := close
      _ = 1 / 2 * 2 ^ place := by ring
  rw [roundMagnitude_eq, unit, nearest_eq (by positivity) near]

/-- A greater power of two is a whole number of lesser ones. -/
theorem whole_power {place exponent : ℤ} (order : place ≤ exponent) :
    ∃ number : ℕ, (2 : ℚ) ^ exponent = number * 2 ^ place := by
  -- The quotient of both powers is a power with the difference as its exponent.
  obtain ⟨size, same⟩ := Int.eq_ofNat_of_zero_le (Int.sub_nonneg.mpr order)
  refine ⟨2 ^ size, ?_⟩
  rw [Nat.cast_pow, Nat.cast_ofNat, ← zpow_natCast, ← zpow_add₀ two_ne_zero]
  congr 1
  omega

/-- Of two different multiples of a bit the greater is at least the bit above the other. -/
theorem multiples_apart {one two : ℕ} {bit : ℚ} (positive : 0 < bit)
    (order : (one : ℚ) * bit < two * bit) : (one : ℚ) * bit + bit ≤ two * bit := by
  have less : (one : ℚ) < two := lt_of_mul_lt_mul_right order positive.le
  -- Of two whole numbers the greater one is greater by one at least.
  have step : (one : ℚ) + 1 ≤ two := by exact_mod_cast less
  calc (one : ℚ) * bit + bit = (one + 1) * bit := by ring
    _ ≤ two * bit := mul_le_mul_of_nonneg_right step positive.le

/-- What is close enough to a double rounds to it. -/
theorem roundMagnitude_near {value other : ℚ} (positive : 0 < value)
    (same : roundMagnitude value = value) (close : |other - value| < value / 2 ^ 54) :
    roundMagnitude other = value := by
  obtain ⟨number, multiple⟩ := whole_of_rounded same
  obtain ⟨lower, upper⟩ := exponentOf_bounds positive
  have unit : unitOf value = max (exponentOf value - 52) (-1074) := rfl
  generalize exponentOf value = exponent at *
  generalize unitOf value = place at *
  have bit : (0 : ℚ) < 2 ^ place := by positivity
  -- The last bit lies within the number, and a half of it is more than the distance.
  have some_ : 0 < number := by
    rw [multiple] at positive
    exact_mod_cast (pos_iff_pos_of_mul_pos positive).mpr bit
  have within_ : place ≤ exponent := by
    have least : (2 : ℚ) ^ place < 2 ^ (exponent + 1) := by
      refine lt_of_le_of_lt ?_ upper
      rw [multiple]
      exact le_mul_of_one_le_left bit.le (by exact_mod_cast some_)
    have := (zpow_lt_zpow_iff_right₀ one_lt_two).mp least
    omega
  have far : value / 2 ^ 54 < 2 ^ place / 2 := by
    have small : (2 : ℚ) ^ (exponent + 1) ≤ 2 ^ (place + 53) :=
      zpow_le_zpow_right₀ one_le_two (by omega)
    rw [zpow_add₀ two_ne_zero place] at small
    calc value / 2 ^ 54 < 2 ^ (exponent + 1) / 2 ^ 54 := by gcongr
      _ ≤ 2 ^ place * 2 ^ (53 : ℤ) / 2 ^ 54 := by gcongr
      _ = 2 ^ place / 2 := by norm_num; ring
  have near := abs_lt.mp close
  have least : 0 ≤ other := by
    have : value / 2 ^ 54 ≤ value := div_le_self positive.le (by norm_num)
    linarith
  have close_ : |other - number * 2 ^ place| < 2 ^ place / 2 := by
    rw [← multiple]
    exact close.trans far
  by_cases reaches : (2 : ℚ) ^ exponent ≤ other
  · -- It has the same exponent, since the next power of two is a bit away.
    obtain ⟨limit, next⟩ := whole_power (show place ≤ exponent + 1 by omega)
    have room : value + 2 ^ place ≤ 2 ^ (exponent + 1) := by
      rw [multiple, next] at upper ⊢
      exact multiples_apart bit upper
    have exponents : exponentOf other = exponent := exponentOf_eq reaches (by linarith)
    rw [roundMagnitude_whole least (by rw [unitOf, exponents, unit]) close_, ← multiple]
  · -- Only a power of two has numbers of a lesser exponent so near.
    have short := not_le.mp reaches
    have power_ : value = 2 ^ exponent := by
      by_contra different
      obtain ⟨limit, next⟩ := whole_power within_
      have room : (2 : ℚ) ^ exponent + 2 ^ place ≤ value := by
        have order := lt_of_le_of_ne lower (Ne.symm different)
        rw [multiple, next] at order ⊢
        exact multiples_apart bit order
      linarith
    have exponents : exponentOf other = exponent - 1 := by
      refine exponentOf_eq ?_ (by rwa [sub_add_cancel])
      have half : value / 2 ^ 54 ≤ value / 2 := by gcongr; norm_num
      rw [zpow_sub_one₀ two_ne_zero, ← power_]
      linarith
    by_cases lowest : exponent - 52 ≤ -1074
    · rw [roundMagnitude_whole least (by rw [unitOf, exponents, unit]; omega) close_, ← multiple]
    · have twice : value = (2 * number : ℕ) * 2 ^ (place - 1) := by
        rw [zpow_sub_one₀ two_ne_zero, multiple]
        push_cast
        ring
      rw [@roundMagnitude_whole _ (2 * number) _ least
        (show unitOf other = place - 1 by rw [unitOf, exponents, unit]; omega), ← twice]
      rw [← twice]
      refine close.trans_le ?_
      have places : exponent = place - 1 + 53 := by omega
      rw [power_, places, zpow_add₀ two_ne_zero]
      norm_num
      linarith [show (0 : ℚ) < 2 ^ (place - 1) by positivity]

end Rounding

section Digits

/-- The decimal exponent that a binary one is estimated to stand for. -/
def decade (exponent : ℤ) : ℤ := exponent * 30103 / 100000

/-- The powers of ten around an estimate are around the powers of two. -/
def fitsDecade (exponent : ℤ) : Bool :=
  10 ^ (decade exponent - 1).toNat * 2 ^ (-exponent).toNat ≤
      2 ^ exponent.toNat * 10 ^ (1 - decade exponent).toNat &&
    2 ^ (exponent + 1).toNat * 10 ^ (-(decade exponent + 2)).toNat ≤
      10 ^ (decade exponent + 2).toNat * 2 ^ (-(exponent + 1)).toNat

/-- The estimate fits every exponent that doubles have. -/
theorem fitsDecade_all : ∀ count : ℕ, count < 2100 → fitsDecade ((count : ℤ) - 1075) = true := by
  decide +kernel

/-- A power is the quotient of two powers of which one is one. -/
theorem zpow_quotient {base : ℕ} (positive : 0 < base) (exponent : ℤ) :
    (base : ℚ) ^ exponent = base ^ exponent.toNat / base ^ (-exponent).toNat := by
  -- An exponent is what it has above zero less what it has below.
  rw [← zpow_natCast, ← zpow_natCast, ← zpow_sub₀ (by positivity)]
  congr 1
  omega

/-- The decade of a binary exponent, which the model looks up, is the right one or one too low. -/
theorem decade_bounds {exponent : ℤ} (least : -1075 ≤ exponent) (most : exponent < 1024) :
    (10 : ℚ) ^ (decade exponent - 1) ≤ 2 ^ exponent ∧
      (2 : ℚ) ^ (exponent + 1) ≤ 10 ^ (decade exponent + 2) := by
  -- The check was run for every exponent, on natural numbers without the division.
  have fits := fitsDecade_all (exponent + 1075).toNat (by omega)
  rw [show ((exponent + 1075).toNat : ℤ) - 1075 = exponent by omega, fitsDecade,
    Bool.and_eq_true, decide_eq_true_eq, decide_eq_true_eq] at fits
  have ten (place : ℤ) := @zpow_quotient 10 (by norm_num) place
  have two (place : ℤ) := @zpow_quotient 2 (by norm_num) place
  push_cast at ten two
  constructor
  · rw [ten, two, div_le_div_iff₀ (by positivity) (by positivity), neg_sub]
    exact_mod_cast fits.1
  · rw [ten, two, div_le_div_iff₀ (by positivity) (by positivity)]
    exact_mod_cast fits.2

/-- A double is not below the least one, and not above the greatest. -/
structure Magnitude (value : ℚ) : Prop where
  positive : 0 < value
  rounded : roundMagnitude value = value
  finite : value < 2 ^ (1024 : ℤ)

/-- The exponents of doubles are between two limits. -/
theorem Magnitude.exponent {value : ℚ} (magnitude : Magnitude value) :
    -1075 ≤ exponentOf value ∧ exponentOf value < 1024 := by
  obtain ⟨lower, upper⟩ := exponentOf_bounds magnitude.positive
  constructor
  · obtain ⟨number, multiple⟩ := whole_of_rounded magnitude.rounded
    have bit : (0 : ℚ) < 2 ^ unitOf value := by positivity
    -- A positive multiple of the last bit is that bit at least.
    have some_ : 0 < number := by
      have positive := magnitude.positive
      rw [multiple] at positive
      exact_mod_cast (pos_iff_pos_of_mul_pos positive).mpr bit
    have least : (2 : ℚ) ^ unitOf value < 2 ^ (exponentOf value + 1) := by
      refine lt_of_le_of_lt ?_ upper
      conv_rhs => rw [multiple]
      exact le_mul_of_one_le_left bit.le (by exact_mod_cast some_)
    have order := (zpow_lt_zpow_iff_right₀ one_lt_two).mp least
    rw [unitOf] at order
    omega
  · exact (zpow_lt_zpow_iff_right₀ one_lt_two).mp (lower.trans_lt magnitude.finite)

/-- The point stands behind the first power of ten that is above the number. -/
theorem pointOf_bounds {value : ℚ} (magnitude : Magnitude value) :
    (10 : ℚ) ^ (pointOf value - 1) ≤ value ∧ value < 10 ^ pointOf value := by
  obtain ⟨lower, upper⟩ := exponentOf_bounds magnitude.positive
  obtain ⟨least, most⟩ := decade_bounds magnitude.exponent.1 magnitude.exponent.2
  -- The point is the decade that was looked up, or one or two places to the right of it.
  have point : pointOf value = if value < 10 ^ decade (exponentOf value) then
      decade (exponentOf value)
    else if value < 10 ^ (decade (exponentOf value) + 1) then decade (exponentOf value) + 1
    else decade (exponentOf value) + 2 := by
    rw [pointOf, power_eq, power_eq]
    rfl
  rw [point]
  split
  · next below => exact ⟨least.trans lower, below⟩
  next above =>
  split
  · next below =>
    rw [add_sub_cancel_right]
    exact ⟨not_lt.mp above, below⟩
  next above =>
  refine ⟨?_, upper.trans_le most⟩
  rw [show decade (exponentOf value) + 2 - 1 = decade (exponentOf value) + 1 by ring]
  exact not_lt.mp above

/-- The digits of a number in some count, as the nearest whole number. -/
def digitsOf (value : ℚ) (count : ℕ) : ℕ := nearest (value / power 10 (pointOf value - count))

/-- The digits of a value are the nearest number at their last place. -/
theorem digitsOf_eq (value : ℚ) (count : ℕ) :
    digitsOf value count = nearest (value / 10 ^ (pointOf value - count)) := by
  rw [digitsOf, power_eq]
  rfl

/-- The count of digits that is found, if any is. -/
def countOf (value : ℚ) : Option ℕ :=
  ((List.range 17).map (· + 1)).find? fun count =>
    roundMagnitude (digitsOf value count * power 10 (pointOf value - count)) = value

/-- Seventeen digits are enough for every double. -/
theorem seventeen_digits {value : ℚ} (magnitude : Magnitude value) :
    roundMagnitude (digitsOf value 17 * 10 ^ (pointOf value - (17 : ℕ))) = value := by
  have least := (pointOf_bounds magnitude).1
  refine roundMagnitude_near magnitude.positive magnitude.rounded ?_
  have bit : (0 : ℚ) < 10 ^ (pointOf value - (17 : ℕ)) := by positivity
  have near := nearest_close (div_nonneg magnitude.positive.le bit.le)
  have scaled : |(digitsOf value 17 : ℚ) * 10 ^ (pointOf value - (17 : ℕ)) - value| ≤
      10 ^ (pointOf value - (17 : ℕ)) / 2 := by
    rw [← digitsOf_eq, sub_div' bit.ne', abs_div, abs_of_pos bit, div_le_iff₀ bit] at near
    calc _ ≤ 1 / 2 * (10 : ℚ) ^ (pointOf value - (17 : ℕ)) := near
      _ = 10 ^ (pointOf value - (17 : ℕ)) / 2 := by ring
  -- A half of the last digit is a smaller part of the number than a half of its last bit.
  have places : pointOf value - (17 : ℕ) = pointOf value - 1 - 16 := by push_cast; ring
  rw [places, zpow_sub₀ (by norm_num)] at scaled ⊢
  calc _ ≤ (10 : ℚ) ^ (pointOf value - 1) / 10 ^ (16 : ℤ) / 2 := scaled
    _ ≤ value / 10 ^ (16 : ℤ) / 2 := by gcongr
    _ < value / 2 ^ 54 := by
      rw [div_div, div_lt_div_iff_of_pos_left magnitude.positive (by norm_num) (by norm_num)]
      norm_num

/-- The digits in some count are that many, or one more where they are a power of ten. -/
theorem digitsOf_bounds {value : ℚ} (magnitude : Magnitude value) {count : ℕ} (some_ : 0 < count) :
    10 ^ (count - 1) ≤ digitsOf value count ∧ digitsOf value count ≤ 10 ^ count := by
  obtain ⟨lower, upper⟩ := pointOf_bounds magnitude
  have bit : (0 : ℚ) < 10 ^ (pointOf value - count) := by positivity
  have near := abs_le.mp (nearest_close (div_nonneg magnitude.positive.le bit.le))
  rw [← digitsOf_eq] at near
  -- Moved to the last place the value has as many digits, and rounding can add one place at most.
  have low : ((10 ^ (count - 1) : ℕ) : ℚ) ≤ value / 10 ^ (pointOf value - count) := by
    rw [le_div_iff₀ bit, Nat.cast_pow, Nat.cast_ofNat, ← zpow_natCast, ← zpow_add₀ (by norm_num),
      show ((count - 1 : ℕ) : ℤ) + (pointOf value - count) = pointOf value - 1 by omega]
    exact lower
  have high : value / 10 ^ (pointOf value - count) < ((10 ^ count : ℕ) : ℚ) := by
    rw [div_lt_iff₀ bit, Nat.cast_pow, Nat.cast_ofNat, ← zpow_natCast, ← zpow_add₀ (by norm_num),
      add_sub_cancel]
    exact upper
  have above : ((10 ^ (count - 1) : ℕ) : ℚ) < digitsOf value count + 1 := by linarith
  have below : (digitsOf value count : ℚ) < (10 ^ count : ℕ) + 1 := by linarith
  have one : 10 ^ (count - 1) < digitsOf value count + 1 := by exact_mod_cast above
  have two : digitsOf value count < 10 ^ count + 1 := by exact_mod_cast below
  omega

/-- What the digits of a double say: they are digits, do not start with a zero, and round to it. -/
structure Shown (value : ℚ) (digits : List Char) (point : ℤ) : Prop where
  some_ : digits ≠ []
  digit : ∀ c ∈ digits, c.isDigit = true
  head : digits.head? ≠ some '0'
  rounds : roundMagnitude (Decimal.weigh digits * 10 ^ (point - digits.length)) = value

/-- The weight of digits is the number they are read as. -/
theorem weigh_eq (digits : List Char) : Decimal.weigh digits = Nat.ofDigitChars 10 digits 0 := by
  rw [Decimal.weigh, Nat.ofDigitChars]
  -- Only the two factors of each step stand the other way round.
  congr 1
  funext total digit
  rw [mul_comm]

/-- Digits weigh more by the places that stand behind them. -/
theorem weigh_append (digits others : List Char) : Decimal.weigh (digits ++ others) =
    10 ^ others.length * Decimal.weigh digits + Decimal.weigh others := by
  rw [weigh_eq, weigh_eq, weigh_eq, Nat.ofDigitChars_append, Nat.ofDigitChars_eq_ofDigitChars_zero]

/-- Zeros weigh nothing. -/
theorem weigh_replicate (count : ℕ) : Decimal.weigh (List.replicate count '0') = 0 := by
  rw [weigh_eq, Nat.ofDigitChars_replicate_zero, mul_zero]

/-- A text is what is left of it without the zeros at its end, and these zeros. -/
theorem without_zeros (digits : List Char) : ∃ count : ℕ,
    digits = (digits.reverse.dropWhile (· == '0')).reverse ++ List.replicate count '0' := by
  refine ⟨(digits.reverse.takeWhile (· == '0')).length, ?_⟩
  -- What is dropped from the end are zeros only.
  have zeros : digits.reverse.takeWhile (· == '0') =
      List.replicate (digits.reverse.takeWhile (· == '0')).length '0' := by
    refine List.eq_replicate_of_mem fun c there => ?_
    have same := List.all_takeWhile (l := digits.reverse) (p := (· == '0'))
    exact beq_iff_eq.mp (List.all_eq_true.mp same c there)
  have whole := congrArg List.reverse
    (List.takeWhile_append_dropWhile (p := (· == '0')) (l := digits.reverse))
  rw [List.reverse_append, List.reverse_reverse] at whole
  rw [← List.reverse_replicate, ← zeros, whole]

/-- The shortest digits of a double show it. -/
theorem shown_shortest {value : ℚ} (magnitude : Magnitude value) :
    Shown value (shortest value).1 (shortest value).2 := by
  -- Some count of digits is found, since seventeen would do.
  obtain ⟨count, some_, rounds, written⟩ : ∃ count : ℕ, 0 < count ∧
      roundMagnitude (digitsOf value count * 10 ^ (pointOf value - count)) = value ∧
      shortest value =
        (((Nat.toDigits 10 (digitsOf value count)).reverse.dropWhile (· == '0')).reverse,
          if count < (Nat.toDigits 10 (digitsOf value count)).length then pointOf value + 1
          else pointOf value) := by
    have search : shortest value =
        (((Nat.toDigits 10 (digitsOf value ((countOf value).getD 17))).reverse.dropWhile
            (· == '0')).reverse,
          if (countOf value).getD 17 <
              (Nat.toDigits 10 (digitsOf value ((countOf value).getD 17))).length then
            pointOf value + 1
          else pointOf value) := rfl
    cases found : countOf value with
    | none =>
      rw [found] at search
      exact ⟨17, by norm_num, seventeen_digits magnitude, search⟩
    | some count =>
      rw [found] at search
      rw [countOf] at found
      obtain ⟨less, -, rfl⟩ := List.mem_map.mp (List.mem_of_find?_eq_some found)
      have tested := List.find?_some found
      have rounds := of_decide_eq_true tested
      rw [power_eq] at rounds
      exact ⟨less + 1, by omega, rounds, search⟩
  rw [written]
  obtain ⟨least, most⟩ := digitsOf_bounds magnitude some_
  have positive : 0 < digitsOf value count := lt_of_lt_of_le (by positivity) least
  obtain ⟨zeros, whole⟩ := without_zeros (Nat.toDigits 10 (digitsOf value count))
  have weight : Decimal.weigh (Nat.toDigits 10 (digitsOf value count)) = digitsOf value count := by
    rw [weigh_eq, Nat.ofDigitChars_ten_toDigits]
  have places : (if count < (Nat.toDigits 10 (digitsOf value count)).length then pointOf value + 1
      else pointOf value) - (Nat.toDigits 10 (digitsOf value count)).length =
        pointOf value - count := by
    have reached : count ≤ (Nat.toDigits 10 (digitsOf value count)).length := by
      by_contra less
      rcases Nat.eq_zero_or_pos (count - 1) with single | more
      · have := Nat.length_toDigits_pos (b := 10) (n := digitsOf value count)
        omega
      · have := (Nat.length_toDigits_le_iff (by norm_num) more).mp
          (show (Nat.toDigits 10 (digitsOf value count)).length ≤ count - 1 by omega)
        omega
    have limited : (Nat.toDigits 10 (digitsOf value count)).length ≤ count + 1 := by
      rw [Nat.length_toDigits_le_iff (by norm_num) (by omega), pow_succ]
      have : 0 < 10 ^ count := by positivity
      omega
    split <;> omega
  have unzeroed : Nat.toDigits 10 (digitsOf value count) ≠ ['0'] := by
    intro zero
    rw [zero] at weight
    exact positive.ne weight
  have shown : ((Nat.toDigits 10 (digitsOf value count)).reverse.dropWhile (· == '0')).reverse ≠
      [] := by
    intro none_
    rw [none_, List.nil_append] at whole
    rw [whole, weigh_replicate] at weight
    exact positive.ne weight
  have head : (Nat.toDigits 10 (digitsOf value count)).head? =
      ((Nat.toDigits 10 (digitsOf value count)).reverse.dropWhile (· == '0')).reverse.head? := by
    conv_lhs => rw [whole]
    rw [List.head?_append_of_ne_nil _ shown]
  generalize ((Nat.toDigits 10 (digitsOf value count)).reverse.dropWhile (· == '0')).reverse =
    digits at *
  refine ⟨shown, fun c there => ?_, fun zero => ?_, ?_⟩
  · refine Nat.isDigit_of_mem_toDigits (b := 10) (n := digitsOf value count) (by norm_num) le_rfl ?_
    rw [whole]
    exact List.mem_append_left _ there
  · exact unzeroed (Json.toDigits_head _ (head.trans zero))
  · -- The zeros at the end are made up for by the place of the point.
    have length := congrArg List.length whole
    rw [List.length_append, List.length_replicate] at length
    have scaled : (digitsOf value count : ℚ) = Decimal.weigh digits * 10 ^ (zeros : ℤ) := by
      rw [← weight, whole, weigh_append, List.length_replicate, weigh_replicate]
      push_cast
      rw [zpow_natCast]
      ring
    refine Eq.trans ?_ rounds
    rw [← places, scaled, mul_assoc, ← zpow_add₀ (by norm_num), length]
    dsimp only
    congr 3
    push_cast
    ring

end Digits

/-- A decimal in its parts: the digits on both sides of its point, and its exponent. -/
structure Spelling where
  whole : List Char
  fraction : List Char
  exponent : Option ℤ

namespace Spelling

variable (spelling : Spelling)

/-- The point and what stands behind it. -/
def pointed : List Char := if spelling.fraction = [] then [] else '.' :: spelling.fraction

/-- The exponent as it is written. -/
def powered : List Char := spelling.exponent.elim [] exponentText

/-- The text of a decimal. -/
def text : List Char := spelling.whole ++ (spelling.pointed ++ spelling.powered)

/-- The number that a decimal stands for. -/
def value : ℚ :=
  Decimal.weigh (spelling.whole ++ spelling.fraction) *
    10 ^ (spelling.exponent.getD 0 - spelling.fraction.length)

/-- A decimal that is read as a float: digits that start with a zero have no other one. -/
structure Proper : Prop where
  some_ : spelling.whole ≠ []
  digit : ∀ c ∈ spelling.whole ++ spelling.fraction, c.isDigit = true
  single : spelling.whole.head? = some '0' → spelling.whole = ['0']
  float : spelling.fraction ≠ [] ∨ spelling.exponent.isSome

end Spelling

section Reading

/-- The digits of an exponent. -/
def sizeText (exponent : ℤ) : List Char :=
  let size := Nat.toDigits 10 exponent.natAbs
  if size.length < 2 then '0' :: size else size

/-- The text of an exponent is a letter, a sign and the digits of its size. -/
theorem exponentText_eq (exponent : ℤ) : exponentText exponent =
    'e' :: (if exponent < 0 then '-' else '+') :: sizeText exponent := rfl

/-- The size of an exponent is written in digits, and they weigh what it is. -/
theorem sizeText_digits (exponent : ℤ) : sizeText exponent ≠ [] ∧
    (∀ c ∈ sizeText exponent, c.isDigit = true) ∧
      Decimal.weigh (sizeText exponent) = exponent.natAbs := by
  have digit : ∀ c ∈ Nat.toDigits 10 exponent.natAbs, c.isDigit = true := fun c there =>
    Nat.isDigit_of_mem_toDigits (by norm_num) le_rfl there
  have weight : Decimal.weigh (Nat.toDigits 10 exponent.natAbs) = exponent.natAbs := by
    rw [weigh_eq, Nat.ofDigitChars_ten_toDigits]
  rw [sizeText]
  -- A size of one digit is written with a zero in front, which weighs nothing.
  split
  · refine ⟨List.cons_ne_nil _ _, List.forall_mem_cons.mpr ⟨rfl, digit⟩, ?_⟩
    have zero : Decimal.weigh ['0'] = 0 := rfl
    rw [← List.singleton_append, weigh_append, weight, zero, mul_zero, zero_add]
  · exact ⟨Nat.toDigits_ne_nil, digit, weight⟩

/-- An exponent is read back from its text. -/
theorem exponentAfter_text (exponent : ℤ) : exponentAfter (exponentText exponent) = some exponent := by
  obtain ⟨some_, digit, weight⟩ := sizeText_digits exponent
  -- The letter and the sign are passed, and behind them stands the size.
  have read : Decimal.read (sizeText exponent) = some exponent.natAbs := by
    rw [Decimal.read, if_pos ⟨some_, List.all_eq_true.mpr digit⟩, weight]
  have letter : Char.toLower 'e' = 'e' := rfl
  rw [exponentText_eq, exponentAfter, if_neg (List.cons_ne_nil _ _)]
  by_cases negative : exponent < 0
  · simp [negative, letter, read, abs_of_neg negative]
  · have size : (exponent.natAbs : ℤ) = exponent := by omega
    simp [negative, letter, read, size]

/-- A text without underscores is read as it is. -/
theorem withoutMarks_plain {text : List Char} (plain : '_' ∉ text) (before : Option Char) :
    withoutMarks before text = some text := by
  -- Each character is no mark, so it is kept, whatever stands before it.
  induction text generalizing before with
  | nil => rfl
  | cons first rest ih =>
    obtain ⟨different, others⟩ := not_or.mp (mt List.mem_cons.mpr plain)
    rw [withoutMarks, if_neg (Ne.symm different), ih others]
    rfl

variable {spelling : Spelling}

/-- No mark stands in a number that is written. -/
theorem no_mark (proper : spelling.Proper) : '_' ∉ spelling.text := by
  -- Digits are no marks, and neither are the point, the letter and the signs between them.
  have digits : ∀ text : List Char, (∀ c ∈ text, c.isDigit = true) → '_' ∉ text :=
    fun text digit there => absurd (digit _ there) (by decide)
  have whole := digits _ fun c there => proper.digit c (List.mem_append_left _ there)
  have fraction := digits _ fun c there => proper.digit c (List.mem_append_right _ there)
  rw [Spelling.text, List.mem_append, List.mem_append, Spelling.pointed, Spelling.powered]
  rintro (there | there | there)
  · exact whole there
  · split at there
    · cases there
    · exact fraction ((List.mem_cons.mp there).resolve_left (by decide))
  · cases exponent : spelling.exponent with
    | none =>
      rw [exponent] at there
      cases there
    | some exponent_ =>
      rw [exponent] at there
      have rest := digits _ (sizeText_digits exponent_).2.1
      rw [Option.elim_some, exponentText_eq] at there
      rcases List.mem_cons.mp there with same | there
      · cases same
      · rcases List.mem_cons.mp there with same | there
        · split at same <;> cases same
        · exact rest there

/-- What stands behind the whole digits starts with none. -/
theorem takeWhile_whole (proper : spelling.Proper) {rest : List Char}
    (ends : rest.takeWhile Char.isDigit = []) :
    (spelling.whole ++ (spelling.pointed ++ (spelling.powered ++ rest))).takeWhile Char.isDigit =
      spelling.whole := by
  rw [List.takeWhile_append_of_pos fun c there => proper.digit c (List.mem_append_left _ there)]
  -- Behind the whole digits stands a point, a letter or what ends the number.
  have none_ : (spelling.pointed ++ (spelling.powered ++ rest)).takeWhile Char.isDigit = [] := by
    rw [Spelling.pointed, Spelling.powered]
    split
    · cases spelling.exponent with
      | none => exact ends
      | some exponent => rfl
    · rfl
  rw [none_, List.append_nil]

/-- The exponent that is written is read back, or zero where none is. -/
theorem exponentAfter_powered : exponentAfter spelling.powered = some (spelling.exponent.getD 0) := by
  rw [Spelling.powered]
  -- Without an exponent nothing is written, and nothing is read as zero.
  cases spelling.exponent with
  | none => rfl
  | some exponent => exact exponentAfter_text exponent

/-- An exponent starts with no digit, and with no point. -/
theorem powered_head : spelling.powered.head?.all (fun c => !c.isDigit && c ≠ '.') = true := by
  rw [Spelling.powered]
  -- An exponent starts with its letter.
  cases spelling.exponent with
  | none => rfl
  | some exponent => rfl

/-- The fraction stands behind the point, and the exponent behind the fraction. -/
theorem split_pointed (proper : spelling.Proper) :
    (if (spelling.pointed ++ spelling.powered).head? = some '.' then
        (spelling.pointed ++ spelling.powered).tail.takeWhile Char.isDigit else []) =
      spelling.fraction ∧
    (if (spelling.pointed ++ spelling.powered).head? = some '.' then
        (spelling.pointed ++ spelling.powered).tail.dropWhile Char.isDigit
      else spelling.pointed ++ spelling.powered) = spelling.powered := by
  have head := @powered_head spelling
  rw [Spelling.pointed]
  -- Without a fraction no point is written, and the letter that may follow is none.
  split
  · next none_ =>
    rw [List.nil_append, if_neg, if_neg, none_]
    · exact ⟨rfl, rfl⟩
    all_goals
      intro point
      rw [point] at head
      cases head
  · have digit : ∀ c ∈ spelling.fraction, c.isDigit = true := fun c there =>
      proper.digit c (List.mem_append_right _ there)
    have stops : spelling.powered.takeWhile Char.isDigit = [] ∧
        spelling.powered.dropWhile Char.isDigit = spelling.powered := by
      cases written : spelling.powered with
      | nil => exact ⟨rfl, rfl⟩
      | cons first others =>
        rw [written, List.head?_cons, Option.all_some, Bool.and_eq_true] at head
        have other : ¬first.isDigit = true := by simpa using head.1
        exact ⟨List.takeWhile_cons_of_neg other, List.dropWhile_cons_of_neg other⟩
    rw [List.cons_append, List.head?_cons, if_pos rfl, if_pos rfl, List.tail_cons,
      List.takeWhile_append_of_pos digit, List.dropWhile_append_of_pos digit, stops.1, stops.2,
      List.append_nil]
    exact ⟨rfl, rfl⟩

/-- A decimal is read as the double nearest to the number that it stands for. -/
theorem unsigned_text (proper : spelling.Proper) :
    unsigned spelling.text = some (round spelling.value) := by
  obtain ⟨first, others, written⟩ := List.exists_cons_of_ne_nil proper.some_
  have digit : first.isDigit = true := proper.digit first (by rw [written]; exact List.mem_cons_self)
  -- A name starts with a letter, and the number starts with a digit.
  have letter : ∀ special ∈ ["inf".toList, "infinity".toList, "nan".toList],
      spelling.text.map Char.toLower ≠ special := by
    intro special member same
    have start : special.head? = some first.toLower := by
      rw [← same, Spelling.text, written]
      rfl
    have lowered : first.toLower = first := by
      simp only [Char.isDigit, Bool.and_eq_true, decide_eq_true_eq, UInt32.le_iff_toNat_le] at digit
      rw [Char.toLower, dif_neg]
      rintro ⟨upper, -⟩
      have := UInt32.le_iff_toNat_le.mp upper
      have := digit.2
      simp at *
      omega
    rw [lowered] at start
    have letters : ∀ special ∈ ["inf".toList, "infinity".toList, "nan".toList],
        special.head?.all (!·.isDigit) = true := by decide
    have known := letters special member
    rw [start] at known
    simp [digit] at known
  -- The text falls into its parts again at the first character that is no digit.
  have whole : spelling.text.takeWhile Char.isDigit = spelling.whole := by
    have same := @takeWhile_whole _ proper [] rfl
    rwa [List.append_nil] at same
  have behind : spelling.text.dropWhile Char.isDigit = spelling.pointed ++ spelling.powered := by
    have split_ := List.takeWhile_append_dropWhile (p := Char.isDigit) (l := spelling.text)
    rw [whole] at split_
    exact List.append_cancel_left split_
  obtain ⟨fraction, power_⟩ := split_pointed proper
  rw [unsigned, if_neg fun there => ?_, if_neg (letter _ (by decide))]
  · dsimp only
    rw [whole, behind, fraction, power_, if_neg fun none_ => proper.some_ none_.1, exponentAfter_powered,
      Option.map_some, power_eq]
    rfl
  · rcases List.mem_cons.mp there with same | there
    · exact letter _ (by decide) same
    · exact letter _ (by decide) (List.mem_singleton.mp there)

/-- The text of a double is a decimal whose number rounds to it. -/
theorem magnitudeText_spelling {value : ℚ} (magnitude : Magnitude value) :
    ∃ spelling : Spelling, spelling.Proper ∧ magnitudeText value = spelling.text ∧
      roundMagnitude spelling.value = value := by
  have shown := shown_shortest magnitude
  rw [magnitudeText]
  generalize shortest value = both at *
  obtain ⟨digits, point⟩ := both
  obtain ⟨some_, digit, head, rounds⟩ := shown
  dsimp only at some_ digit head rounds ⊢
  have long : 0 < digits.length := List.length_pos_of_ne_nil some_
  obtain ⟨first, others, written⟩ := List.exists_cons_of_ne_nil some_
  have lead : first ≠ '0' := by
    rw [written] at head
    exact fun zero => head (congrArg some zero)
  -- Each form stands for the digits, moved to the same place.
  suffices forms : ∃ spelling : Spelling, spelling.Proper ∧
      (if point ≤ -4 ∨ 16 < point then
        digits.take 1 ++ (if digits.length = 1 then [] else '.' :: digits.drop 1) ++
          exponentText (point - 1)
      else if point ≤ 0 then '0' :: '.' :: (List.replicate (-point).toNat '0' ++ digits)
      else if digits.length ≤ point.toNat then
        digits ++ List.replicate (point.toNat - digits.length) '0' ++ ['.', '0']
      else digits.take point.toNat ++ '.' :: digits.drop point.toNat) = spelling.text ∧
      spelling.value = Decimal.weigh digits * 10 ^ (point - digits.length) by
    obtain ⟨spelling, proper, text, same⟩ := forms
    exact ⟨spelling, proper, text, by rw [same, rounds]⟩
  split
  · next far =>
    refine ⟨⟨digits.take 1, digits.drop 1, some (point - 1)⟩, ⟨?_, ?_, ?_, .inr rfl⟩, ?_, ?_⟩
    · rw [written]
      exact List.cons_ne_nil _ _
    · rwa [List.take_append_drop]
    · rw [written]
      exact fun zero => absurd (Option.some.inj zero) lead
    · rw [Spelling.text, Spelling.pointed, Spelling.powered, List.append_assoc]
      have single : digits.drop 1 = [] ↔ digits.length = 1 := by
        rw [List.drop_eq_nil_iff]
        omega
      simp only [single]
      rfl
    · rw [Spelling.value, List.take_append_drop, Option.getD_some, List.length_drop]
      congr 2
      omega
  split
  · next low =>
    refine ⟨⟨['0'], List.replicate (-point).toNat '0' ++ digits, none⟩,
      ⟨List.cons_ne_nil _ _, ?_, fun _ => rfl, .inl ?_⟩, ?_, ?_⟩
    · rw [List.singleton_append]
      refine List.forall_mem_cons.mpr ⟨rfl, List.forall_mem_append.mpr ⟨fun c there => ?_, digit⟩⟩
      rw [List.eq_of_mem_replicate there]
      rfl
    · exact List.append_ne_nil_of_right_ne_nil _ some_
    · rw [Spelling.text, Spelling.pointed,
        if_neg (List.append_ne_nil_of_right_ne_nil _ some_), Spelling.powered]
      simp
    · rw [Spelling.value, weigh_append, weigh_append, weigh_replicate, List.length_append,
        List.length_replicate, Option.getD_none, show Decimal.weigh ['0'] = 0 from rfl, mul_zero,
        mul_zero, zero_add, zero_add]
      congr 2
      push_cast
      omega
  split
  · next whole =>
    refine ⟨⟨digits ++ List.replicate (point.toNat - digits.length) '0', ['0'], none⟩,
      ⟨List.append_ne_nil_of_left_ne_nil some_ _, ?_, ?_, .inl (List.cons_ne_nil _ _)⟩, ?_, ?_⟩
    · refine List.forall_mem_append.mpr ⟨List.forall_mem_append.mpr ⟨digit, fun c there => ?_⟩, ?_⟩
      · rw [List.eq_of_mem_replicate there]
        rfl
      · exact fun c there => by rw [List.mem_singleton.mp there]; rfl
    · rw [written]
      exact fun zero => absurd (Option.some.inj zero) lead
    · rw [Spelling.text, Spelling.pointed, if_neg (List.cons_ne_nil _ _), Spelling.powered]
      simp
    · rw [Spelling.value, List.append_assoc, ← List.replicate_succ', weigh_append,
        List.length_replicate, weigh_replicate, add_zero, Option.getD_none, Nat.cast_mul,
        Nat.cast_pow, Nat.cast_ofNat, ← zpow_natCast, mul_comm ((10 : ℚ) ^ _), mul_assoc,
        ← zpow_add₀ (by norm_num)]
      congr 2
      rw [List.length_singleton]
      push_cast
      omega
  · next parts =>
    have inside : 0 < point.toNat := by omega
    refine ⟨⟨digits.take point.toNat, digits.drop point.toNat, none⟩, ⟨?_, ?_, ?_, .inl ?_⟩, ?_, ?_⟩
    · rw [Ne, List.take_eq_nil_iff]
      exact not_or.mpr ⟨inside.ne', some_⟩
    · rwa [List.take_append_drop]
    · intro zero
      rw [List.head?_take, if_neg inside.ne'] at zero
      exact absurd zero head
    · rw [Ne, List.drop_eq_nil_iff]
      exact parts
    · rw [Spelling.text, Spelling.pointed, if_neg, Spelling.powered, Option.elim_none,
        List.append_nil]
      rw [List.drop_eq_nil_iff]
      exact parts
    · rw [Spelling.value, List.take_append_drop, Option.getD_none, List.length_drop]
      congr 2
      omega

end Reading

/-- A representable number that is not zero has the size of a double. -/
theorem Representable.magnitude {value : ℚ} (representable : Representable (.finite value))
    (some_ : value ≠ 0) : Magnitude |value| := by
  rw [Representable, round, if_neg some_] at representable
  dsimp only at representable
  -- A finite number did not overflow, so its rounding is the last branch.
  split at representable
  · cases representable
  next below =>
  split at representable
  · cases representable
  have same : roundMagnitude |value| = |value| := by
    rw [Number.finite.injEq] at representable
    split at representable
    · next negative => rw [abs_of_neg negative] at representable ⊢; linarith
    · next positive => rw [abs_of_nonneg (not_lt.mp positive)] at representable ⊢; exact representable
  refine ⟨abs_pos.mpr some_, same, ?_⟩
  rw [same, power_eq] at below
  exact_mod_cast not_le.mp below

/-- The number nearest to a double's own is the double. -/
theorem round_of_magnitude {value other : ℚ} (magnitude : Magnitude value)
    (same : roundMagnitude other = value) (least : 0 ≤ other) : round other = .finite value := by
  -- Zero would have been rounded to zero, which is no magnitude.
  have some_ : other ≠ 0 := by
    rintro rfl
    rw [roundMagnitude_eq, zero_div] at same
    have zero : nearest 0 = 0 := by decide +kernel
    rw [zero, Nat.cast_zero, zero_mul] at same
    exact magnitude.positive.ne same
  have sign : ¬other < 0 := not_lt.mpr least
  have below : ¬power 2 1024 ≤ value := by
    rw [power_eq]
    exact not_le.mpr (by exact_mod_cast magnitude.finite)
  rw [round, if_neg some_]
  simp only [abs_of_nonneg least, same, below, sign, and_false, if_false]

end Double

namespace Json

open Double

section Reading

variable {spelling : Spelling}

/-- The parts of a decimal are read one after another, up to where it ends. -/
theorem reads_parts (proper : spelling.Proper) {rest : List Char} (ends : Ends rest) :
    wholeDigits (spelling.text ++ rest) = spelling.whole ∧
      fractionDigits (spelling.pointed ++ (spelling.powered ++ rest)) = spelling.pointed ∧
        exponentDigits (spelling.powered ++ rest) = spelling.powered := by
  obtain ⟨stops, unpointed, unpowered⟩ := ends.stops
  refine ⟨?_, ?_, ?_⟩
  · rw [wholeDigits, Spelling.text, List.append_assoc, List.append_assoc]
    -- A whole part that starts with a zero is that zero alone.
    split
    · next zero =>
      rw [List.head?_append_of_ne_nil _ proper.some_] at zero
      exact (proper.single zero).symm
    · exact takeWhile_whole proper stops
  · rw [Spelling.pointed]
    split
    · rw [List.nil_append, Spelling.powered]
      cases spelling.exponent with
      | none => exact unpointed
      | some exponent => rfl
    · next some_ =>
      -- The fraction ends at the letter of the exponent, or where the number ends.
      have digit : ∀ c ∈ spelling.fraction, c.isDigit = true := fun c there =>
        proper.digit c (List.mem_append_right _ there)
      have behind : (spelling.powered ++ rest).takeWhile Char.isDigit = [] := by
        rw [Spelling.powered]
        cases spelling.exponent with
        | none => exact stops
        | some exponent => rfl
      rw [fractionDigits, List.cons_append, List.tail_cons, List.takeWhile_append_of_pos digit,
        behind, List.append_nil, if_pos ⟨rfl, some_⟩]
  · rw [Spelling.powered]
    cases spelling.exponent with
    | none => exact unpowered
    | some exponent =>
      obtain ⟨some_, digit, -⟩ := sizeText_digits exponent
      have size : (sizeText exponent ++ rest).takeWhile Char.isDigit = sizeText exponent := by
        rw [List.takeWhile_append_of_pos digit, stops, List.append_nil]
      rw [Option.elim_some, exponentText_eq, exponentDigits]
      by_cases negative : exponent < 0
      · simp [negative, size, some_]
      · simp [negative, size, some_]

variable {τ : Type}

/-- A number is read from a decimal, with the sign that stands in front of it. -/
theorem readNumber_spelling (proper : spelling.Proper) (negative : Bool) {rest : List Char}
    (ends : Ends rest) :
    readNumber ((if negative then ['-'] else []) ++ (spelling.text ++ rest)) =
      some ((.float (if negative then negate (round spelling.value)
        else round spelling.value) : Json τ), rest) := by
  obtain ⟨whole, fraction, exponent⟩ := reads_parts proper ends
  obtain ⟨first, others, written⟩ := List.exists_cons_of_ne_nil proper.some_
  have digit : first.isDigit = true := proper.digit first (by rw [written]; exact List.mem_cons_self)
  -- The sign is told from the first digit.
  have unsigned_ : first ≠ '-' := by
    rintro rfl
    cases digit
  have text : spelling.text = first :: (others ++ (spelling.pointed ++ spelling.powered)) := by
    rw [Spelling.text, written, List.cons_append]
  have behind : (spelling.text ++ rest).drop spelling.whole.length =
      spelling.pointed ++ (spelling.powered ++ rest) := by
    rw [Spelling.text, List.append_assoc, List.append_assoc, List.drop_left]
  -- A number with a fraction or an exponent is no integer.
  have float : ¬(spelling.pointed = [] ∧ spelling.powered = []) := by
    rintro ⟨unpointed, unpowered⟩
    rw [Spelling.pointed] at unpointed
    rw [Spelling.powered] at unpowered
    rcases proper.float with some_ | some_
    · rw [if_neg some_] at unpointed
      cases unpointed
    · obtain ⟨exponent, written⟩ := Option.isSome_iff_exists.mp some_
      rw [written] at unpowered
      cases unpowered
  have left : (spelling.pointed ++ (spelling.powered ++ rest)).drop
      (spelling.pointed.length + spelling.powered.length) = rest := by
    rw [← List.append_assoc, ← List.length_append, List.drop_left]
  have sign : ((if negative then ['-'] else []) ++ (spelling.text ++ rest)).head?.toList.filter
      (· == '-') = if negative then ['-'] else [] := by
    cases negative
    · rw [if_neg Bool.false_ne_true, List.nil_append, text]
      simp [unsigned_]
    · rfl
  -- What was taken together is parsed by the rules of the language's own numbers.
  have parsed : Double.parse ((if negative then ['-'] else []) ++ spelling.text) =
      some (if negative then negate (round spelling.value) else round spelling.value) := by
    have plain_ := no_mark proper
    cases negative
    · rw [if_neg Bool.false_ne_true, if_neg Bool.false_ne_true, List.nil_append, Double.parse,
        withoutMarks_plain plain_, Option.bind_some, text, List.head?_cons,
        if_neg fun same => unsigned_ (Option.some.inj same), if_neg, ← text, unsigned_text proper]
      rintro same
      rw [Option.some.inj same] at digit
      cases digit
    · have marked : '_' ∉ '-' :: spelling.text := fun there =>
        (List.mem_cons.mp there).elim (by decide) plain_
      rw [if_pos rfl, if_pos rfl, List.singleton_append, Double.parse, withoutMarks_plain marked,
        Option.bind_some, List.head?_cons, if_pos rfl, List.tail_cons, unsigned_text proper,
        Option.map_some]
  rw [readNumber]
  dsimp only
  rw [sign, List.drop_left, whole, behind, fraction, List.drop_left, exponent,
    if_neg proper.some_, if_neg float, left]
  have whole_text : (if negative then ['-'] else []) ++ spelling.whole ++ spelling.pointed ++
      spelling.powered = (if negative then ['-'] else []) ++ spelling.text := by
    rw [Spelling.text, List.append_assoc, List.append_assoc]
  rw [whole_text, parsed, Option.map_some]

/-- No word starts as a decimal does. -/
theorem readScalar_spelling (proper : spelling.Proper) (negative : Bool) {rest : List Char}
    (ends : Ends rest) :
    readScalar ((if negative then ['-'] else []) ++ (spelling.text ++ rest)) =
      some ((.float (if negative then negate (round spelling.value)
        else round spelling.value) : Json τ), rest) := by
  obtain ⟨first, others, written⟩ := List.exists_cons_of_ne_nil proper.some_
  have digit : first.isDigit = true := proper.digit first (by rw [written]; exact List.mem_cons_self)
  -- No name of a value starts with a digit or with a sign and a digit.
  have apart : ∀ letter ∈ ['n', 't', 'f', 'N', 'I'], letter ≠ first := by
    rintro letter there rfl
    have others : ∀ letter ∈ ['n', 't', 'f', 'N', 'I'], letter.isDigit = false := by simp
    rw [others letter there] at digit
    cases digit
  simp only [List.forall_mem_cons, List.not_mem_nil, false_implies, implies_true, and_true] at apart
  have none_ : (WORDS : List (List Char × Json τ)).find? (fun word => word.1.isPrefixOf
      ((if negative then ['-'] else []) ++ (spelling.text ++ rest))) = none := by
    have minus : '-' ≠ first := by
      rintro rfl
      cases digit
    rw [Spelling.text, written]
    cases negative <;> simp [WORDS, apart, minus]
  rw [readScalar, none_]
  exact readNumber_spelling proper negative ends

variable [CodePoints τ] [DecidableEq τ]

/-- A decimal is read as a value, with the sign in front of it. -/
theorem reads_spelling (proper : spelling.Proper) (negative : Bool) {number : Number}
    (text : Double.text number = (if negative then ['-'] else []) ++ spelling.text)
    (same : (if negative then negate (round spelling.value) else round spelling.value) = number) :
    Reads (.float number : Json τ) := by
  obtain ⟨first, others, written⟩ := List.exists_cons_of_ne_nil proper.some_
  have digit : first.isDigit = true := proper.digit first (by rw [written]; exact List.mem_cons_self)
  -- The first character decides which rule of the reader is used.
  obtain ⟨lead, behind, starts, own⟩ : ∃ lead behind, Double.text number = lead :: behind ∧
      (lead.isDigit = true ∨ lead = '-') := by
    rw [text, Spelling.text, written]
    cases negative
    · exact ⟨first, _, rfl, .inl digit⟩
    · exact ⟨'-', _, rfl, .inr rfl⟩
  have apart : lead ∉ FOLLOWERS ∧ lead ≠ quote ∧ lead ≠ '[' ∧ lead ≠ '{' := by
    rcases own with digit | rfl
    · refine ⟨fun there => ?_, ?_, ?_, ?_⟩
      · have none_ : ∀ letter ∈ FOLLOWERS, letter.isDigit = false := by simp [FOLLOWERS]
        rw [none_ lead there] at digit
        cases digit
      all_goals
        rintro rfl
        cases digit
    · decide
  refine ⟨⟨lead, behind, by rw [compact, starts], apart.1⟩, fun fuel rest enough ends => ?_⟩
  obtain ⟨fuel, rfl⟩ : ∃ less, fuel = less + 1 := ⟨fuel - 1, by
    rw [compact, starts, List.length_cons] at enough
    omega⟩
  rw [compact, starts, List.cons_append, readValue, if_neg apart.2.1, if_neg apart.2.2.1,
    if_neg apart.2.2.2, ← List.cons_append, ← starts, text, List.append_assoc,
    readScalar_spelling proper negative ends, same]

/-- Every double is read back from its text. -/
theorem Reads.float {number : Number} (representable : Representable number) :
    Reads (.float number : Json τ) := by
  -- Both zeros are written alike but for their sign.
  have zero : Spelling.Proper ⟨['0'], ['0'], none⟩ :=
    ⟨List.cons_ne_nil _ _, by simp, fun _ => rfl, .inl (List.cons_ne_nil _ _)⟩
  have nought : Double.round (Spelling.value ⟨['0'], ['0'], none⟩) = .finite 0 := by decide +kernel
  cases number with
  | finite value =>
    -- A finite number is written as its magnitude, with a sign in front or without.
    rcases lt_trichotomy value 0 with negative | rfl | positive
    · have magnitude := representable.magnitude negative.ne
      obtain ⟨spelling, proper, written, rounds⟩ := magnitudeText_spelling magnitude
      have own := round_of_magnitude magnitude rounds (by rw [Spelling.value]; positivity)
      rw [abs_of_neg negative] at written own
      refine reads_spelling proper true ?_ ?_
      · rw [Double.text, if_neg negative.ne, if_pos negative, written]
        rfl
      · rw [if_pos rfl, own, negate, if_neg (by linarith), neg_neg]
    · exact reads_spelling zero false rfl nought
    · have magnitude := representable.magnitude positive.ne'
      obtain ⟨spelling, proper, written, rounds⟩ := magnitudeText_spelling magnitude
      have own := round_of_magnitude magnitude rounds (by rw [Spelling.value]; positivity)
      rw [abs_of_pos positive] at written own
      refine reads_spelling proper false ?_ own
      rw [Double.text, if_neg positive.ne', if_neg positive.not_gt, written]
      rfl
  | negZero =>
    refine reads_spelling zero true rfl ?_
    rw [if_pos rfl, nought]
    rfl
  | infinite negative =>
    refine ⟨?_, fun fuel rest enough _ => ?_⟩
    · cases negative <;> exact ⟨_, _, rfl, by decide⟩
    · cases negative <;> obtain ⟨fuel, rfl⟩ := Nat.exists_eq_add_of_le' enough <;> rfl
  | nan =>
    refine ⟨⟨_, _, rfl, by decide⟩, fun fuel rest enough _ => ?_⟩
    obtain ⟨fuel, rfl⟩ := Nat.exists_eq_add_of_le' enough
    rfl

end Reading

section Values

mutual

/-- Whether the language can hold a value: floats are doubles, and no object has a name twice. -/
def held : Json → Bool
  | .float number => decide (Representable number)
  | .arr items => heldItems items
  | .obj members => (members.map (·.1)).Nodup && heldMembers members
  | _ => true

/-- Whether the language can hold all items of a list. -/
def heldItems : List Json → Bool
  | [] => true
  | item :: items => held item && heldItems items

/-- Whether the language can hold the values of all members. -/
def heldMembers : List (String × Json) → Bool
  | [] => true
  | (_, item) :: members => held item && heldMembers members

end

/-- Items are held where each of them is. -/
theorem heldItems_iff (items : List Json) :
    heldItems items = true ↔ ∀ item ∈ items, held item = true := by
  -- The loop over the items is unrolled once for each.
  induction items with
  | nil => exact ⟨fun _ _ there => absurd there List.not_mem_nil, fun _ => rfl⟩
  | cons item items ih => rw [heldItems, Bool.and_eq_true, ih, List.forall_mem_cons]

/-- Members are held where the value of each is. -/
theorem heldMembers_iff (members : List (String × Json)) :
    heldMembers members = true ↔ ∀ member ∈ members, held member.2 = true := by
  -- The loop over the members is unrolled once for each.
  induction members with
  | nil => exact ⟨fun _ _ there => absurd there List.not_mem_nil, fun _ => rfl⟩
  | cons member members ih => rw [heldMembers, Bool.and_eq_true, ih, List.forall_mem_cons]

/-- An object is held where its names differ and its values are held. -/
theorem held_obj (members : List (String × Json)) : held (.obj members) = true ↔
    (members.map (·.1)).Nodup ∧ ∀ member ∈ members, held member.2 = true := by
  rw [held, Bool.and_eq_true, decide_eq_true_eq, heldMembers_iff]

mutual

/-- What the language holds is read back from its compact text. -/
theorem Reads.of_held : ∀ value : Json, held value = true → Reads value
  -- The recursion is the one of the value, with its two loops below.
  | .null, _ => .of_plain .null rfl
  | .bool truth, _ => .of_plain (.bool truth) rfl
  | .int value, _ => .int value
  | .float _, held_ => .float (of_decide_eq_true held_)
  | .str text, _ => .str (unpaired_string text)
  | .arr items, held_ => .arr (Reads.of_heldItems items (by rwa [held] at held_))
  | .obj members, held_ => by
    rw [held, Bool.and_eq_true, decide_eq_true_eq] at held_
    exact .obj held_.1 (fun member _ => unpaired_string member.1)
      (Reads.of_heldMembers members held_.2)

/-- Items that are held are read back. -/
theorem Reads.of_heldItems : ∀ items : List Json, heldItems items = true →
    ∀ item ∈ items, Reads item
  -- The recursion goes through the items and into each of them.
  | [], _ => fun _ there => absurd there List.not_mem_nil
  | item :: items, held_ => by
    rw [heldItems, Bool.and_eq_true] at held_
    exact List.forall_mem_cons.mpr ⟨Reads.of_held item held_.1, Reads.of_heldItems items held_.2⟩

/-- Members that are held are read back. -/
theorem Reads.of_heldMembers : ∀ members : List (String × Json), heldMembers members = true →
    ∀ member ∈ members, Reads member.2
  -- The recursion goes through the members and into each of them.
  | [], _ => fun _ there => absurd there List.not_mem_nil
  | (_, item) :: members, held_ => by
    rw [heldMembers, Bool.and_eq_true] at held_
    exact List.forall_mem_cons.mpr
      ⟨Reads.of_held item held_.1, Reads.of_heldMembers members held_.2⟩

end

mutual

/-- What the language holds it also holds with its members sorted. -/
theorem held_sorted : ∀ value : Json, held value = true → held (sorted value) = true
  | .null, held_ | .bool _, held_ | .int _, held_ | .float _, held_ | .str _, held_ => held_
  | .arr items, held_ => by
    rw [held, heldItems_iff] at held_
    rw [sorted, held, heldItems_iff]
    exact heldItems_sorted items held_
  | .obj members, held_ => by
    rw [held_obj] at held_
    -- Sorting moves the members about, so their names still differ.
    have perm := sortedMembers_perm members
    have names : (members.map sortedMember).map (·.1) = members.map (·.1) := by
      rw [List.map_map]
      rfl
    rw [sorted, held_obj]
    refine ⟨?_, fun member there => ?_⟩
    · rw [(perm.map (·.1)).nodup_iff, names]
      exact held_.1
    · obtain ⟨own, member_, rfl⟩ := List.mem_map.mp (perm.mem_iff.mp there)
      exact heldMembers_sorted members held_.2 own member_

/-- Items that are held are held once they are sorted. -/
theorem heldItems_sorted : ∀ items : List Json, (∀ item ∈ items, held item = true) →
    ∀ item ∈ sortedItems items, held item = true
  -- The items keep their places, and each is sorted inside.
  | [], _ => fun _ there => absurd there List.not_mem_nil
  | item :: items, held_ => by
    rw [List.forall_mem_cons] at held_
    rw [sortedItems]
    exact List.forall_mem_cons.mpr
      ⟨held_sorted item held_.1, heldItems_sorted items held_.2⟩

/-- Members that are held are held once they are sorted. -/
theorem heldMembers_sorted : ∀ members : List (String × Json),
    (∀ member ∈ members, held member.2 = true) →
      ∀ member ∈ members, held (sorted member.2) = true
  -- Only the value of a member is sorted here, not its place.
  | [], _ => fun _ there => absurd there List.not_mem_nil
  | (_, item) :: members, held_ => by
    rw [List.forall_mem_cons] at held_
    exact List.forall_mem_cons.mpr
      ⟨held_sorted item held_.1, heldMembers_sorted members held_.2⟩

end

/-- What the language holds is read from its canonical text, with its members sorted. -/
theorem loads_of_held {value : Json} (held_ : held value = true) :
    loads (canonical value) = some (sorted value) :=
  (Reads.of_held _ (held_sorted value held_)).loads

/-- Values with one canonical text are the same, up to the order of their members. -/
theorem sorted_of_canonical {one two : Json} (first : held one = true) (second : held two = true)
    (same : canonical one = canonical two) : sorted one = sorted two := by
  -- Both texts are the same, so they are read as the same value.
  have read := loads_of_held first
  rw [same, loads_of_held second] at read
  exact (Option.some.inj read).symm

end Values

end Json
