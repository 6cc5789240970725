import SeanOs.Lib.IsoLaws

/-! The order of datetime texts: by wall clock first, and by the text of the offset after it. -/

namespace Calendar

open Decimal

/-- Days of the era are ordered as their dates, by year, then month, then day. -/
theorem days_lt_iff {one two : ℕ} :
    one < two ↔ yearOf one < yearOf two ∨ yearOf one = yearOf two ∧
      (monthOfDay one < monthOfDay two ∨ monthOfDay one = monthOfDay two ∧
        dayOfMonth one < dayOfMonth two) := by
  -- In one year the months are ordered as the days, and in one month the days are.
  have inYear : ∀ {early late : ℕ}, yearOf early = yearOf late → early ≤ late →
      monthOfDay early ≤ monthOfDay late := by
    intro early late year order
    unfold monthOfDay
    rw [year]
    exact monthOf_mono (by unfold dayOfYear; rw [year]; omega) (dayOfYear_lt late)
  have inMonth : ∀ {early late : ℕ}, yearOf early = yearOf late →
      monthOfDay early = monthOfDay late →
      (early < late ↔ dayOfMonth early < dayOfMonth late) := by
    intro early late year month
    have first := yearOf_spec early
    have second := yearOf_spec late
    have before := monthOf_spec (dayOfYear_lt early)
    have after := monthOf_spec (dayOfYear_lt late)
    unfold dayOfMonth
    unfold monthOfDay at *
    rw [← month, ← year]
    rw [← year] at after month second
    unfold dayOfYear at *
    rw [← year] at *
    omega
  constructor
  · intro order
    have years := yearOf_mono order.le
    rcases Nat.lt_or_eq_of_le years with earlier | year
    · exact .inl earlier
    rcases Nat.lt_or_eq_of_le (inYear year order.le) with earlier | month
    · exact .inr ⟨year, .inl earlier⟩
    · exact .inr ⟨year, .inr ⟨month, (inMonth year month).mp order⟩⟩
  · rintro (earlier | ⟨year, earlier | ⟨month, earlier⟩⟩)
    · by_contra order
      have := yearOf_mono (by omega : two ≤ one)
      omega
    · by_contra order
      have := inYear year.symm (by omega)
      omega
    · exact (inMonth year month).mpr earlier

/-- Date texts are ordered as the days they were written from. -/
theorem dateText_lt {one two : ℕ} (inEra : one < daysOfEra) (also : two < daysOfEra) :
    dateText one < dateText two ↔ one < two := by
  have years : yearOf one < limit 4 ∧ yearOf two < limit 4 := by
    have := yearOf_le inEra
    have := yearOf_le also
    constructor <;> show _ < 10000 <;> omega
  -- Each field has a fixed width, so the first field that differs decides.
  rw [days_lt_iff, dateText, dateText, append_lt_append _ _ (by simp),
    digits_lt years.1 years.2, digits_inj years.1 years.2, List.cons_lt_cons_self,
    append_lt_append _ _ (by simp), digits_lt (monthOfDay_lt one) (monthOfDay_lt two),
    digits_inj (monthOfDay_lt one) (monthOfDay_lt two), List.cons_lt_cons_self,
    digits_lt (dayOfMonth_lt one) (dayOfMonth_lt two)]

/-- Texts of times of day are ordered as the seconds they were written from. -/
theorem timeText_lt {one two : ℕ} (within : one < 86400) (also : two < 86400) :
    timeText one < timeText two ↔ one < two := by
  have hours : one / 3600 < limit 2 ∧ two / 3600 < limit 2 :=
    ⟨lt_sixty (by omega), lt_sixty (by omega)⟩
  have minutes : one / 60 % 60 < limit 2 ∧ two / 60 % 60 < limit 2 :=
    ⟨lt_sixty (by omega), lt_sixty (by omega)⟩
  have seconds : one % 60 < limit 2 ∧ two % 60 < limit 2 :=
    ⟨lt_sixty (by omega), lt_sixty (by omega)⟩
  -- Each field has a fixed width, so the first field that differs decides.
  rw [timeText, timeText, append_lt_append _ _ (by simp), digits_lt hours.1 hours.2,
    digits_inj hours.1 hours.2, List.cons_lt_cons_self, append_lt_append _ _ (by simp),
    digits_lt minutes.1 minutes.2, digits_inj minutes.1 minutes.2, List.cons_lt_cons_self,
    digits_lt seconds.1 seconds.2]
  omega

/-- Wall clock texts are ordered as the seconds they were written from. -/
theorem wallText_lt {one two : ℕ} (inEra : one / 86400 < daysOfEra)
    (also : two / 86400 < daysOfEra) : wallText one < wallText two ↔ one < two := by
  -- Dates of one text are one date, as neither text is before the other.
  have sameDate : dateText (one / 86400) = dateText (two / 86400) ↔ one / 86400 = two / 86400 := by
    constructor
    · intro same
      have forward := dateText_lt inEra also
      have backward := dateText_lt also inEra
      rw [same] at forward backward
      simp only [List.lt_irrefl, false_iff] at forward backward
      omega
    · intro same
      rw [same]
  rw [wallText, wallText, append_lt_append _ _ (by simp [dateText]), dateText_lt inEra also,
    sameDate, List.cons_lt_cons_self, timeText_lt (Nat.mod_lt _ (by omega))
    (Nat.mod_lt _ (by omega))]
  omega

/-- Wall clock texts are equal exactly for one second. -/
theorem wallText_inj {one two : ℕ} (inEra : one / 86400 < daysOfEra)
    (also : two / 86400 < daysOfEra) : wallText one = wallText two ↔ one = two := by
  constructor
  -- Equal texts are in neither order, so the times are in neither order.
  · intro same
    have forward := wallText_lt inEra also
    have backward := wallText_lt also inEra
    rw [same] at forward backward
    simp only [List.lt_irrefl, false_iff] at forward backward
    omega
  · intro same
    rw [same]

/-- Fractions are ordered as their microseconds, the one left out being the smallest. -/
theorem fractionText_lt {one two : ℕ} (fits : one < limit 6) (also : two < limit 6) :
    fractionText one < fractionText two ↔ one < two := by
  unfold fractionText
  -- The empty text of zero is before every other one, as zero is before every other fraction.
  split <;> split
  · simp only [List.lt_irrefl, false_iff]
    omega
  · simp only [List.nil_lt_cons, true_iff]
    omega
  · simp only [List.not_lt_nil, false_iff]
    omega
  · rw [List.cons_lt_cons_self, digits_lt fits also]

/-- Sizes of offsets are ordered as the texts they are written as. -/
theorem magnitudeText_lt {one two : ℕ} (within : one < day) (also : two < day) :
    magnitudeText one < magnitudeText two ↔ one < two := by
  have hours : one / hour < limit 2 ∧ two / hour < limit 2 := by
    simp only [day, hour, minute, second] at *
    exact ⟨lt_sixty (by omega), lt_sixty (by omega)⟩
  have minutes : one / minute % 60 < limit 2 ∧ two / minute % 60 < limit 2 :=
    ⟨lt_sixty (by omega), lt_sixty (by omega)⟩
  have seconds : one / second % 60 < limit 2 ∧ two / second % 60 < limit 2 :=
    ⟨lt_sixty (by omega), lt_sixty (by omega)⟩
  have fractions : one % second < limit 6 ∧ two % second < limit 6 :=
    ⟨Nat.mod_lt _ (by decide), Nat.mod_lt _ (by decide)⟩
  -- Behind the minutes the text that ends names the smaller rest.
  have rest : (if one % minute = 0 then []
        else ':' :: (digits 2 (one / second % 60) ++ fractionText (one % second))) <
      (if two % minute = 0 then []
        else ':' :: (digits 2 (two / second % 60) ++ fractionText (two % second))) ↔
      one % minute < two % minute := by
    split <;> split
    · simp only [List.lt_irrefl, false_iff]
      omega
    · simp only [List.nil_lt_cons, true_iff]
      omega
    · simp only [List.not_lt_nil, false_iff]
      omega
    · rw [List.cons_lt_cons_self, append_lt_append _ _ (by simp),
        digits_lt seconds.1 seconds.2, digits_inj seconds.1 seconds.2,
        fractionText_lt fractions.1 fractions.2]
      simp only [minute, second]
      omega
  rw [magnitudeText, magnitudeText, append_lt_append _ _ (by simp), digits_lt hours.1 hours.2,
    digits_inj hours.1 hours.2, List.cons_lt_cons_self, append_lt_append _ _ (by simp),
    digits_lt minutes.1 minutes.2, digits_inj minutes.1 minutes.2, rest]
  simp only [hour, minute, second]
  omega

/-- Offsets behind UTC sort after the others, and within each kind the larger size sorts last. -/
theorem zoneText_lt {one two : ℤ} (within : one.natAbs < day) (also : two.natAbs < day) :
    zoneText one < zoneText two ↔
      0 ≤ one ∧ two < 0 ∨ 0 ≤ one ∧ 0 ≤ two ∧ one < two ∨ one < 0 ∧ two < 0 ∧ two < one := by
  -- The plus sign comes before the minus sign.
  have plus : ('+' : Char) < '-' := by decide
  have minus : ¬('-' : Char) < '+' := by decide
  unfold zoneText
  split <;> split <;>
    simp only [List.cons_lt_cons_iff, magnitudeText_lt within also, plus, minus,
      Char.lt_irrefl, false_or, true_and, false_and, or_false, true_iff, false_iff,
      show ('-' : Char) ≠ '+' by decide, show ('+' : Char) ≠ '-' by decide] <;>
    omega

/-- Behind one second the fraction decides, and the offset decides between equal fractions. -/
theorem fraction_zone_lt {one two : ℕ} (near far : ℤ) (fits : one < limit 6)
    (also : two < limit 6) :
    fractionText one ++ zoneText near < fractionText two ++ zoneText far ↔
      one < two ∨ one = two ∧ zoneText near < zoneText far := by
  -- A fraction begins with a point, which comes after either sign.
  have signs : ∀ zone : ℤ, (if zone < 0 then '-' else '+') < '.' := by
    intro zone
    split <;> decide
  have points : ∀ zone : ℤ, ¬ '.' < (if zone < 0 then '-' else '+') := by
    intro zone
    split <;> decide
  have apart : ∀ zone : ℤ, '.' ≠ (if zone < 0 then '-' else '+') := by
    intro zone
    split <;> decide
  by_cases first : one = 0 <;> by_cases second : two = 0
  · simp [fractionText, first, second]
  · simp only [fractionText, if_pos first, if_neg second, List.nil_append, List.cons_append,
      zoneText, List.cons_lt_cons_iff, signs, true_or, true_iff]
    omega
  · simp only [fractionText, if_neg first, if_pos second, List.nil_append, List.cons_append,
      zoneText, List.cons_lt_cons_iff, points, apart, false_and, or_self, false_iff]
    omega
  · simp only [fractionText, if_neg first, if_neg second, List.cons_append,
      List.cons_lt_cons_self]
    rw [append_lt_append _ _ (by simp), digits_lt fits also, digits_inj fits also]

/-- Texts of datetimes with an offset are ordered by wall clock first and by offset text second. -/
theorem isoformat_lt {one two : DateTime} {near far : ℤ} (here : one.offset = some near)
    (there : two.offset = some far) :
    one.isoformat < two.isoformat ↔
      one.wall < two.wall ∨ one.wall = two.wall ∧ zoneText near < zoneText far := by
  have inEra : one.wall / second / 86400 < daysOfEra ∧ two.wall / second / 86400 < daysOfEra := by
    have first := one.inRange
    have last := two.inRange
    simp only [span, day, hour, minute, second] at *
    omega
  have fits : one.wall % second < limit 6 ∧ two.wall % second < limit 6 :=
    ⟨Nat.mod_lt _ (by decide), Nat.mod_lt _ (by decide)⟩
  -- The wall clocks are written with one width, and only behind them the widths differ.
  rw [String.lt_iff, DateTime.isoformat, DateTime.isoformat, String.toList_ofList,
    String.toList_ofList, isoChars, isoChars,
    append_lt_append _ _ (by rw [length_wallText, length_wallText]), wallText_lt inEra.1 inEra.2,
    wallText_inj inEra.1 inEra.2, here, there, Option.elim_some, Option.elim_some,
    fraction_zone_lt near far fits.1 fits.2]
  simp only [second]
  by_cases later : zoneText near < zoneText far
  · simp only [later, and_true]
    omega
  · simp only [later, and_false, or_false]
    omega

/-- Two datetimes whose wall clocks differ by more than their offsets do, and the same way. -/
def TextsAgree (one two : DateTime) : Prop :=
  let gap : ℤ := one.wall - two.wall
  let shift : ℤ := one.offset.getD 0 - two.offset.getD 0
  (0 < gap → shift ≤ gap) ∧ (gap < 0 → gap < shift) ∧
    -- At one wall clock the offset texts decide, which sort as instants do only behind UTC.
    (gap = 0 → shift = 0 ∨ one.offset.getD 0 < 0 ∨ two.offset.getD 0 < 0)

/-- Whether the texts agree can be computed. -/
instance (one two : DateTime) : Decidable (TextsAgree one two) :=
  inferInstanceAs (Decidable (_ ∧ _ ∧ _))

/-- Texts of datetimes with an offset compare as their instants exactly under that condition. -/
theorem texts_agree_iff {one two : DateTime} (here : one.aware = true)
    (there : two.aware = true) :
    (two.isoformat ≤ one.isoformat ↔ two.instant ≤ one.instant) ↔ TextsAgree one two := by
  obtain ⟨near, near_eq⟩ := Option.isSome_iff_exists.mp here
  obtain ⟨far, far_eq⟩ := Option.isSome_iff_exists.mp there
  have near_bound := one.bounded near near_eq
  have far_bound := two.bounded far far_eq
  -- The texts are compared by wall clock and zone, the instants by their difference.
  have order : two.isoformat ≤ one.isoformat ↔ ¬one.isoformat < two.isoformat := Iff.rfl
  rw [order, isoformat_lt near_eq far_eq, zoneText_lt (by omega) (by omega)]
  simp only [TextsAgree, DateTime.instant, near_eq, far_eq, Option.getD_some]
  omega

/-- UTC texts are ordered as the clock readings they were written from. -/
theorem utc_isoformat_lt (one two : Reading) :
    one.utc.isoformat < two.utc.isoformat ↔ one < two := by
  have here : one.utc.offset = some 0 := rfl
  have there : two.utc.offset = some 0 := rfl
  -- Both zones are the same, so the wall clocks decide.
  rw [isoformat_lt here there]
  simp only [Reading.utc, List.lt_irrefl, and_false, or_false]
  exact Iff.rfl

end Calendar
