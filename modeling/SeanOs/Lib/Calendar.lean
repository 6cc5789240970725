import Mathlib

/-! The proleptic Gregorian calendar of the years 1 to 9999, and datetimes on it. -/

namespace Calendar

/-- Microseconds of one second. -/
def second : ℕ := 1000000

/-- Microseconds of one minute. -/
def minute : ℕ := 60 * second

/-- Microseconds of one hour. -/
def hour : ℕ := 60 * minute

/-- Microseconds of one day. -/
def day : ℕ := 24 * hour

/-- Whether a year has a leap day. -/
def isLeap (year : ℕ) : Bool :=
  year % 4 == 0 && (year % 100 != 0 || year % 400 == 0)

/-- Days of all years before one year. -/
def daysBeforeYear (year : ℕ) : ℕ :=
  (year - 1) * 365 + (year - 1) / 4 - (year - 1) / 100 + (year - 1) / 400

/-- Days of all months before one month of a year. -/
def daysBeforeMonth (leap : Bool) (month : ℕ) : ℕ :=
  [0, 0, 31, 59, 90, 120, 151, 181, 212, 243, 273, 304, 334, 365].getD month 0 +
    if leap ∧ 2 < month then 1 else 0

/-- Days of one month of a year. -/
def daysInMonth (leap : Bool) (month : ℕ) : ℕ :=
  daysBeforeMonth leap (month + 1) - daysBeforeMonth leap month

/-- The year of a day counted from the first day of year one. -/
def yearOf (days : ℕ) : ℕ :=
  let inCycle := days % 146097
  let inCentury := inCycle % 36524
  let inFour := inCentury % 1461
  let year := days / 146097 * 400 + inCycle / 36524 * 100 + inCentury / 1461 * 4 + inFour / 365 + 1
  -- The leap day that ends a cycle of four or four hundred years starts no year of its own.
  if inFour / 365 = 4 ∨ inCycle / 36524 = 4 then year - 1 else year

/-- The day of its year, counted from zero. -/
def dayOfYear (days : ℕ) : ℕ :=
  days - daysBeforeYear (yearOf days)

/-- The month of a day of the year, found from an estimate that is at most one too high. -/
def monthOf (leap : Bool) (ordinal : ℕ) : ℕ :=
  let estimate := (ordinal + 50) / 32
  if ordinal < daysBeforeMonth leap estimate then estimate - 1 else estimate

/-- The number of a day counted from the first day of year one, if the date exists. -/
def dayNumber (year month dayOfMonth : ℕ) : Option ℕ :=
  if 1 ≤ year ∧ year ≤ 9999 ∧ 1 ≤ month ∧ month ≤ 12 ∧
      1 ≤ dayOfMonth ∧ dayOfMonth ≤ daysInMonth (isLeap year) month then
    some (daysBeforeYear year + daysBeforeMonth (isLeap year) month + (dayOfMonth - 1))
  else
    none

/-- Days of the years 1 to 9999. -/
def daysOfEra : ℕ := daysBeforeYear 10000

/-- Microseconds of the years 1 to 9999. -/
def span : ℕ := daysOfEra * day

/-- A datetime: the wall clock it shows, and its offset from UTC when it has one. -/
structure DateTime where
  /-- Microseconds from the start of year one to the wall clock. -/
  wall : ℕ
  /-- Microseconds the wall clock is ahead of UTC. -/
  offset : Option ℤ
  /-- The wall clock shows a year up to 9999. -/
  inRange : wall < span
  /-- An offset is less than a day either way. -/
  bounded : ∀ zone ∈ offset, -(day : ℤ) < zone ∧ zone < day
  deriving DecidableEq

namespace DateTime

/-- Whether the datetime has an offset. -/
def aware (moment : DateTime) : Bool := moment.offset.isSome

/-- The instant a datetime names, in microseconds of UTC. -/
def instant (moment : DateTime) : ℤ := moment.wall - moment.offset.getD 0

/-- Two datetimes are equal when they show the same wall clock at the same offset. -/
theorem ext_parts {one two : DateTime} (wall : one.wall = two.wall)
    (offset : one.offset = two.offset) : one = two := by
  -- The other two fields are proofs about these.
  cases one
  cases two
  simp_all

end DateTime

/-- A reading of a UTC clock. -/
abbrev Reading : Type := Fin span

namespace Reading

/-- A clock reading as a datetime in UTC. -/
def utc (reading : Reading) : DateTime where
  wall := reading.val
  offset := some 0
  inRange := reading.isLt
  bounded := by
    intro zone member
    simp only [Option.mem_def, Option.some.injEq] at member
    subst member
    decide

/-- The reading some microseconds later, unless the calendar ends before. -/
def plus (reading : Reading) (micros : ℕ) : Option Reading :=
  if fits : reading.val + micros < span then some ⟨reading.val + micros, fits⟩ else none

/-- The reading some microseconds later or earlier, unless it is beyond the calendar. -/
def shift (reading : Reading) (micros : ℤ) : Option Reading :=
  if fits : 0 ≤ reading.val + micros ∧ (reading.val + micros).toNat < span then
    some ⟨(reading.val + micros).toNat, fits.2⟩
  else none

/-- A reading some microseconds ahead is not behind. -/
theorem le_of_plus {reading ahead : Reading} {micros : ℕ}
    (plus : reading.plus micros = some ahead) : reading ≤ ahead := by
  rw [Reading.plus] at plus
  -- A clock that went past its end gave no reading.
  split at plus
  · cases plus
    exact Fin.le_def.mpr (Nat.le_add_right _ _)
  · cases plus

/-- A reading in UTC is the instant it was taken at. -/
@[simp] theorem instant_utc (reading : Reading) : reading.utc.instant = reading.val := by
  simp [DateTime.instant, utc]

/-- A reading in UTC has an offset. -/
@[simp] theorem aware_utc (reading : Reading) : reading.utc.aware = true := rfl

end Reading

/-- The days before a year, by the four cycles of leap years its number is made of. -/
theorem daysBeforeYear_parts {cycles centuries fours years : ℕ} (century : centuries ≤ 3)
    (four : fours ≤ 24) (year : years ≤ 3) :
    daysBeforeYear (400 * cycles + 100 * centuries + 4 * fours + years + 1) =
      146097 * cycles + 36524 * centuries + 1461 * fours + 365 * years := by
  -- The parts below each period are too small to make up another one of it.
  have byFour : (400 * cycles + 100 * centuries + 4 * fours + years) / 4 =
      100 * cycles + 25 * centuries + fours := by omega
  have byCentury : (400 * cycles + 100 * centuries + 4 * fours + years) / 100 =
      4 * cycles + centuries := by omega
  have byCycle : (400 * cycles + 100 * centuries + 4 * fours + years) / 400 = cycles := by omega
  rw [daysBeforeYear, Nat.add_sub_cancel, byFour, byCentury, byCycle]
  omega

/-- Every year has its parts. -/
theorem year_parts {year : ℕ} (first : 1 ≤ year) :
    ∃ cycles centuries fours years, centuries ≤ 3 ∧ fours ≤ 24 ∧ years ≤ 3 ∧
      year = 400 * cycles + 100 * centuries + 4 * fours + years + 1 :=
  ⟨(year - 1) / 400, (year - 1) % 400 / 100, (year - 1) % 100 / 4, (year - 1) % 4,
    by omega, by omega, by omega, by omega⟩

/-- A leap year ends its four years, unless these end a century and not a cycle. -/
theorem isLeap_parts {cycles centuries fours years : ℕ} (century : centuries ≤ 3)
    (four : fours ≤ 24) (last : years ≤ 3) :
    isLeap (400 * cycles + 100 * centuries + 4 * fours + years + 1) = true ↔
      years = 3 ∧ (fours = 24 → centuries = 3) := by
  simp only [isLeap, Bool.and_eq_true, Bool.or_eq_true, beq_iff_eq, bne_iff_ne]
  omega

/-- A year has 365 days, or 366 when it is a leap year. -/
theorem daysBeforeYear_succ {year : ℕ} (first : 1 ≤ year) :
    daysBeforeYear (year + 1) = daysBeforeYear year + 365 + if isLeap year then 1 else 0 := by
  -- The next year carries in the first of the four cycles that is not at its end.
  obtain ⟨cycles, centuries, fours, years, century, four, last, rfl⟩ := year_parts first
  have carry : ∀ {a b c d}, b ≤ 3 → c ≤ 24 → d ≤ 3 →
      400 * cycles + 100 * centuries + 4 * fours + years + 1 + 1 =
        400 * a + 100 * b + 4 * c + d + 1 →
      daysBeforeYear (400 * cycles + 100 * centuries + 4 * fours + years + 1 + 1) =
        146097 * a + 36524 * b + 1461 * c + 365 * d := by
    intro a b c d hundred quarter single next
    rw [next, daysBeforeYear_parts hundred quarter single]
  rw [daysBeforeYear_parts century four last]
  simp only [isLeap_parts century four last]
  by_cases inFour : years < 3
  · rw [carry (a := cycles) (d := years + 1) century four (by omega) (by omega),
      if_neg (by omega)]
    omega
  obtain rfl : years = 3 := by omega
  by_cases inCentury : fours < 24
  · rw [carry (a := cycles) (c := fours + 1) (d := 0) century (by omega) (by omega) (by omega),
      if_pos (by omega)]
    omega
  obtain rfl : fours = 24 := by omega
  by_cases inCycle : centuries < 3
  · rw [carry (a := cycles) (b := centuries + 1) (c := 0) (d := 0) (by omega) (by omega)
      (by omega) (by omega), if_neg (by omega)]
    omega
  · rw [carry (a := cycles + 1) (b := 0) (c := 0) (d := 0) (by omega) (by omega) (by omega)
      (by omega), if_pos (by omega)]
    omega

/-- The year of a day begins on or before that day, and the next one begins after it. -/
theorem yearOf_spec (days : ℕ) :
    daysBeforeYear (yearOf days) ≤ days ∧ days < daysBeforeYear (yearOf days + 1) := by
  -- The quotients by the cycles are the parts of the year, with the two leap days put back.
  have parts : ∃ cycles centuries fours years, centuries ≤ 3 ∧ fours ≤ 24 ∧ years ≤ 3 ∧
      yearOf days = 400 * cycles + 100 * centuries + 4 * fours + years + 1 ∧
      146097 * cycles + 36524 * centuries + 1461 * fours + 365 * years ≤ days ∧
      days < 146097 * cycles + 36524 * centuries + 1461 * fours + 365 * years + 365 +
        if years = 3 ∧ (fours ≠ 24 ∨ centuries = 3) then 1 else 0 := by
    by_cases cycle : days % 146097 / 36524 = 4
    · have year : yearOf days = 400 * (days / 146097) + 100 * 3 + 4 * 24 + 3 + 1 := by
        unfold yearOf
        dsimp only
        split <;> omega
      exact ⟨days / 146097, 3, 24, 3, by omega, by omega, by omega, year, by omega, by simp; omega⟩
    by_cases four : days % 146097 % 36524 % 1461 / 365 = 4
    · have year : yearOf days = 400 * (days / 146097) + 100 * (days % 146097 / 36524) +
          4 * (days % 146097 % 36524 / 1461) + 3 + 1 := by
        unfold yearOf
        dsimp only
        split <;> omega
      refine ⟨_, _, _, 3, by omega, by omega, by omega, year, by omega, ?_⟩
      split <;> omega
    · have year : yearOf days = 400 * (days / 146097) + 100 * (days % 146097 / 36524) +
          4 * (days % 146097 % 36524 / 1461) + days % 146097 % 36524 % 1461 / 365 + 1 := by
        unfold yearOf
        dsimp only
        split <;> omega
      exact ⟨_, _, _, _, by omega, by omega, by omega, year, by omega, by split <;> omega⟩
  obtain ⟨cycles, centuries, fours, years, century, four, last, named, begins, ends⟩ := parts
  rw [daysBeforeYear_succ (by omega), named, daysBeforeYear_parts century four last]
  simp only [isLeap_parts century four last]
  refine ⟨begins, ?_⟩
  split at ends
  · rw [if_pos (by omega)]
    exact ends
  · omega

/-- A day has a year of at least one. -/
theorem one_le_yearOf (days : ℕ) : 1 ≤ yearOf days := by
  unfold yearOf
  dsimp only
  -- The first year is counted as one, whichever part of a cycle the day is in.
  split <;> omega

/-- Later years begin no earlier. -/
theorem daysBeforeYear_mono {early late : ℕ} (order : early ≤ late) :
    daysBeforeYear early ≤ daysBeforeYear late := by
  -- Each year adds its own days, and year zero stands for the start of year one.
  refine monotone_nat_of_le_succ (f := daysBeforeYear) (fun year => ?_) order
  rcases Nat.eq_zero_or_pos year with zero | first
  · simp [zero, daysBeforeYear]
  · rw [daysBeforeYear_succ first]
    omega

/-- A later day has no earlier year. -/
theorem yearOf_mono {early late : ℕ} (order : early ≤ late) : yearOf early ≤ yearOf late := by
  -- An earlier year would have ended before the earlier day began it.
  by_contra later
  have ends := (yearOf_spec late).2
  have begins := (yearOf_spec early).1
  have := daysBeforeYear_mono (by omega : yearOf late + 1 ≤ yearOf early)
  omega

/-- A day of the era has a year of four digits. -/
theorem yearOf_le {days : ℕ} (inEra : days < daysOfEra) : yearOf days ≤ 9999 := by
  -- The first day of a year after 9999 would lie beyond the era.
  by_contra later
  have begins := (yearOf_spec days).1
  have := daysBeforeYear_mono (by omega : 10000 ≤ yearOf days)
  unfold daysOfEra at inEra
  omega

/-- A day of its year is within the year's length. -/
theorem dayOfYear_lt (days : ℕ) :
    dayOfYear days < 365 + if isLeap (yearOf days) then 1 else 0 := by
  -- The day lies between the first day of its year and the first day of the next one.
  have bounds := yearOf_spec days
  have length := daysBeforeYear_succ (one_le_yearOf days)
  unfold dayOfYear
  omega

/-- A day of the year falls in its month. -/
theorem monthOf_spec {leap : Bool} {ordinal : ℕ}
    (within : ordinal < 365 + if leap then 1 else 0) :
    1 ≤ monthOf leap ordinal ∧ monthOf leap ordinal ≤ 12 ∧
      daysBeforeMonth leap (monthOf leap ordinal) ≤ ordinal ∧
      ordinal < daysBeforeMonth leap (monthOf leap ordinal + 1) := by
  -- The estimate is one of twelve months, and is too high by at most one.
  have low : 1 ≤ (ordinal + 50) / 32 := by omega
  have high : (ordinal + 50) / 32 ≤ 12 := by split at within <;> omega
  unfold monthOf
  generalize estimated : (ordinal + 50) / 32 = estimate at low high
  cases leap <;> interval_cases estimate <;> simp [daysBeforeMonth] at within ⊢
  all_goals first | omega | (split <;> simp <;> omega)

/-- Later months begin no earlier. -/
theorem daysBeforeMonth_mono (leap : Bool) {early late : ℕ} (order : early ≤ late)
    (last : late ≤ 13) : daysBeforeMonth leap early ≤ daysBeforeMonth leap late := by
  -- There are thirteen months to look at, so they are looked through.
  have every : ∀ leap : Bool, ∀ late ≤ 13, ∀ early ≤ late,
      daysBeforeMonth leap early ≤ daysBeforeMonth leap late := by
    decide +kernel
  exact every leap late last early order

/-- A later day of the year has no earlier month. -/
theorem monthOf_mono {leap : Bool} {early late : ℕ} (order : early ≤ late)
    (within : late < 365 + if leap then 1 else 0) : monthOf leap early ≤ monthOf leap late := by
  -- An earlier month would have ended before the earlier day began it.
  by_contra later
  have ends := monthOf_spec within
  have begins := monthOf_spec (by omega : early < 365 + if leap then 1 else 0)
  have := daysBeforeMonth_mono leap
    (by omega : monthOf leap late + 1 ≤ monthOf leap early) (by omega)
  omega

/-- The month of a day. -/
def monthOfDay (days : ℕ) : ℕ := monthOf (isLeap (yearOf days)) (dayOfYear days)

/-- The day of its month, counted from one. -/
def dayOfMonth (days : ℕ) : ℕ :=
  dayOfYear days - daysBeforeMonth (isLeap (yearOf days)) (monthOfDay days) + 1

/-- A month has at most 31 days. -/
theorem daysInMonth_le (leap : Bool) {month : ℕ} (last : month ≤ 12) :
    daysInMonth leap month ≤ 31 := by
  have every : ∀ leap : Bool, ∀ month ≤ 12, daysInMonth leap month ≤ 31 := by decide
  exact every leap month last

/-- The date of a day of the era names that day. -/
theorem dayNumber_date {days : ℕ} (inEra : days < daysOfEra) :
    dayNumber (yearOf days) (monthOfDay days) (dayOfMonth days) = some days := by
  -- The year, then the month, then the day of the month account for all days before this one.
  have year := yearOf_spec days
  have month := monthOf_spec (dayOfYear_lt days)
  have last := yearOf_le inEra
  have first := one_le_yearOf days
  have within : dayOfMonth days ≤ daysInMonth (isLeap (yearOf days)) (monthOfDay days) := by
    unfold dayOfMonth daysInMonth monthOfDay
    omega
  rw [dayNumber, if_pos ⟨first, last, month.1, month.2.1, by unfold dayOfMonth; omega, within⟩]
  congr 1
  have total : days = daysBeforeYear (yearOf days) + dayOfYear days := by
    unfold dayOfYear
    omega
  unfold dayOfMonth monthOfDay
  omega

end Calendar
