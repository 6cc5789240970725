import Mathlib

/-! Fixed-width decimals, how they are read back, and the order of the texts they are written in. -/

namespace Decimal

/-- The digits of a number in a fixed width, most significant first. -/
def digits : ℕ → ℕ → List Char
  | 0, _ => []
  | width + 1, value => digits width (value / 10) ++ [Nat.digitChar (value % 10)]

/-- How many numbers a width has digits for. -/
def limit : ℕ → ℕ
  | 0 => 1
  | width + 1 => 10 * limit width

/-- The number a text of decimal digits stands for, each digit weighing ten times the next. -/
def weigh (text : List Char) : ℕ :=
  text.foldl (fun total digit => total * 10 + (digit.toNat - '0'.toNat)) 0

/-- Read a nonempty text of decimal digits. -/
def read (text : List Char) : Option ℕ :=
  if text ≠ [] ∧ text.all (·.isDigit) then some (weigh text) else none

/-- A number is written with as many digits as are asked for. -/
@[simp] theorem length_digits (width value : ℕ) : (digits width value).length = width := by
  -- Each step writes one digit more behind the others.
  induction width generalizing value with
  | zero => rfl
  | succ width ih => simp [digits, ih]

/-- Every character of a fixed-width decimal is a digit. -/
theorem isDigit_of_mem_digits {width value : ℕ} {digit : Char}
    (member : digit ∈ digits width value) : digit.isDigit := by
  induction width generalizing value with
  | zero => simp [digits] at member
  | succ width ih =>
    -- A digit is the last one, or one of those written before it.
    rcases List.mem_append.mp member with front | last
    · exact ih front
    · rw [List.mem_singleton.mp last, Nat.isDigit_digitChar]
      simpa using Nat.mod_lt value (by omega)

/-- The character of a one-digit number weighs that number. -/
theorem digitChar_weight {value : ℕ} (small : value < 10) :
    (Nat.digitChar value).toNat - '0'.toNat = value := by
  -- Ten digits, each at its own distance from the zero.
  interval_cases value <;> rfl

/-- A fixed-width decimal weighs the number it was written from. -/
theorem weigh_digits {width value : ℕ} (fits : value < limit width) :
    weigh (digits width value) = value := by
  -- The last digit is weighed last, on top of ten times what the others weigh.
  induction width generalizing value with
  | zero =>
    have : value = 0 := by simpa [limit] using fits
    simp [digits, weigh, this]
  | succ width ih =>
    have front : weigh (digits width (value / 10)) = value / 10 := ih (by
      rw [limit] at fits
      omega)
    rw [weigh] at front
    rw [weigh, digits, List.foldl_append, List.foldl_cons, List.foldl_nil, front,
      digitChar_weight (Nat.mod_lt value (by omega))]
    omega

/-- A fixed-width decimal reads back as the number it was written from. -/
theorem read_digits {width value : ℕ} (wide : 0 < width) (fits : value < limit width) :
    read (digits width value) = some value := by
  -- The reader asks for a digit at least, and for digits only.
  have nonempty : digits width value ≠ [] := by
    intro empty
    have := congrArg List.length empty
    simp at this
    omega
  have decimal : (digits width value).all (·.isDigit) = true :=
    List.all_eq_true.mpr fun _ => isDigit_of_mem_digits
  rw [read, if_pos ⟨nonempty, decimal⟩, weigh_digits fits]

/-- Texts that start with parts of one length are ordered by these parts first. -/
theorem append_lt_append {front other : List Char} (rest tail : List Char)
    (even : front.length = other.length) :
    front ++ rest < other ++ tail ↔ front < other ∨ front = other ∧ rest < tail := by
  -- The two fronts are walked together until their first difference.
  induction front generalizing other with
  | nil =>
    have : other = [] := List.length_eq_zero_iff.mp even.symm
    simp [this]
  | cons head front ih =>
    cases other with
    | nil => simp at even
    | cons first other =>
      simp only [List.cons_append, List.cons_lt_cons_iff, List.cons.injEq,
        ih (by simpa using even)]
      tauto

/-- The characters of one-digit numbers are ordered as these numbers. -/
theorem digitChar_lt {one two : ℕ} (small : one < 10) (low : two < 10) :
    Nat.digitChar one < Nat.digitChar two ↔ one < two := by
  interval_cases one <;> interval_cases two <;> decide

/-- Fixed-width decimals are ordered as the numbers they were written from. -/
theorem digits_lt {width one two : ℕ} (fits : one < limit width) (also : two < limit width) :
    digits width one < digits width two ↔ one < two := by
  -- The leading digits decide unless they agree, and then the last digit does.
  induction width generalizing one two with
  | zero =>
    have : one = two := by
      simp only [limit] at fits also
      omega
    simp [digits, this]
  | succ width ih =>
    rw [limit] at fits also
    have lead := ih (by omega : one / 10 < limit width) (by omega : two / 10 < limit width)
    have same : digits width (one / 10) = digits width (two / 10) ↔ one / 10 = two / 10 := by
      constructor
      · intro equal
        rw [← weigh_digits (by omega : one / 10 < limit width), equal, weigh_digits (by omega)]
      · intro equal
        rw [equal]
    rw [digits, digits, append_lt_append _ _ (by simp), lead, same, List.cons_lt_cons_iff,
      digitChar_lt (Nat.mod_lt _ (by omega)) (Nat.mod_lt _ (by omega))]
    simp only [List.not_lt_nil, and_false, or_false]
    omega

/-- Fixed-width decimals of one width are equal exactly when the numbers are. -/
theorem digits_inj {width one two : ℕ} (fits : one < limit width) (also : two < limit width) :
    digits width one = digits width two ↔ one = two := by
  constructor
  -- What the digits weigh is the number that was written.
  · intro equal
    rw [← weigh_digits fits, equal, weigh_digits also]
  · intro equal
    rw [equal]

/-- The characters at which two texts first part, where a text that ends there has none. -/
def parting : List Char → List Char → Option (Option Char × Option Char)
  | [], [] => none
  | [], second :: _ => some (none, some second)
  | first :: _, [] => some (some first, none)
  | first :: rest, second :: tail =>
    if first = second then parting rest tail else some (some first, some second)

/-- Whether two texts are equal, or the first has the greater character where they part. -/
def partsLater (one two : List Char) : Bool :=
  match parting one two with
  | none => true
  | some (none, _) => false
  | some (some _, none) => true
  | some (some first, some second) => second < first

/-- Texts are ordered by the characters at which they first part. -/
theorem not_lt_iff_partsLater (one two : List Char) :
    ¬one < two ↔ partsLater one two = true := by
  -- Equal characters are skipped on both sides, and the first difference decides.
  induction one generalizing two with
  | nil =>
    cases two with
    | nil => simp [partsLater, parting]
    | cons second tail => simp [partsLater, parting]
  | cons first rest ih =>
    cases two with
    | nil => simp [partsLater, parting]
    | cons second tail =>
      by_cases same : first = second
      · subst same
        have step := ih tail
        rw [partsLater] at step ⊢
        rw [parting, if_pos rfl, ← step, List.cons_lt_cons_self]
      · rw [partsLater, parting, if_neg same, List.cons_lt_cons_iff]
        simp only [same, false_and, or_false, decide_eq_true_eq]
        exact ⟨fun order => lt_of_le_of_ne (not_lt.mp order) (Ne.symm same),
          fun order => not_lt.mpr order.le⟩

end Decimal
