import SeanOs.Lib.IsoText

/-! A datetime is read back from the text it is written as, and these texts are in time order. -/

namespace Calendar

open Decimal

/-- A fixed-width number is read back from the front of a text. -/
theorem number_digits {width value : ℕ} (rest : List Char) (wide : 0 < width)
    (fits : value < limit width) :
    number width (digits width value ++ rest) = some (value, rest) := by
  -- As many characters are taken as were written.
  have front : (digits width value ++ rest).take width = digits width value :=
    List.take_left' (length_digits width value)
  have back : (digits width value ++ rest).drop width = rest :=
    List.drop_left' (length_digits width value)
  rw [number, if_pos (by simp), front, back, read_digits wide fits]
  rfl

/-- A month is a number of two digits. -/
theorem monthOfDay_lt (days : ℕ) : monthOfDay days < limit 2 := by
  -- There are twelve months, so two digits are enough.
  have := monthOf_spec (dayOfYear_lt days)
  show monthOfDay days < 100
  unfold monthOfDay
  omega

/-- A day of the month is a number of two digits. -/
theorem dayOfMonth_lt (days : ℕ) : dayOfMonth days < limit 2 := by
  -- The month's length bounds it, and no month is longer than 31 days.
  have month := monthOf_spec (dayOfYear_lt days)
  have length := daysInMonth_le (isLeap (yearOf days)) month.2.1
  show dayOfMonth days < 100
  unfold dayOfMonth monthOfDay
  unfold daysInMonth at length
  omega

/-- No digit is a character that is not one. -/
theorem digitChar_ne {value : ℕ} {character : Char} (other : character.isDigit = false)
    (small : value < 10) : Nat.digitChar value ≠ character := by
  -- A digit is a digit, and the character is none.
  intro same
  have digit := Nat.isDigit_digitChar (n := value)
  rw [same, other] at digit
  simp [small] at digit

/-- A two-digit number begins with its tens. -/
theorem digits_two (value : ℕ) (rest : List Char) : digits 2 value ++ rest =
    Nat.digitChar (value / 10 % 10) :: Nat.digitChar (value % 10) :: rest := by
  simp [digits]

/-- A separator that is there is read. -/
theorem skip_separator (separator : Char) (rest : List Char) :
    skip separator true (separator :: rest) = some rest := by
  rw [skip, if_pos rfl, List.head?_cons, if_pos rfl, List.tail_cons]

/-- A date of the era is read back as the day it was written from. -/
theorem parseDate_dateText {days : ℕ} (inEra : days < daysOfEra) :
    parseDate (dateText days) = some days := by
  have year : yearOf days < limit 4 := by
    have := yearOf_le inEra
    show yearOf days < 10000
    omega
  have last := number_digits [] (by omega : 0 < 2) (dayOfMonth_lt days)
  rw [List.append_nil] at last
  -- Behind the year a dash follows, and a digit follows the dash, so this is no week date.
  have noWeek : ¬(digits 2 (monthOfDay days) ++ '-' :: digits 2 (dayOfMonth days)).head? =
      some 'W' := by
    rw [digits_two, List.head?_cons]
    intro same
    exact digitChar_ne rfl (Nat.mod_lt _ (by omega)) (Option.some.inj same)
  rw [parseDate, dateText, number_digits _ (by omega) year, Option.bind_some]
  simp only [List.head?_cons, beq_self_eq_true]
  rw [skip_separator, Option.bind_some, if_neg noWeek,
    number_digits _ (by omega) (monthOfDay_lt days), Option.bind_some, skip_separator,
    Option.bind_some, last, Option.bind_some, if_pos rfl]
  exact dayNumber_date inEra

/-- A sixtieth is a number of two digits. -/
theorem lt_sixty {value : ℕ} (small : value < 60) : value < limit 2 := by
  show value < 100
  omega

/-- A fraction of a second is read back as the number it was written from. -/
theorem parseFraction_fractionText {micros : ℕ} (fits : micros < limit 6) :
    parseFraction (fractionText micros) = some micros := by
  unfold fractionText
  -- A fraction of zero is not written.
  split
  case isTrue zero => rw [zero]; rfl
  case isFalse =>
    -- Six digits are written, so none is cut off and none has to be filled in.
    have whole : (digits 6 micros).take 6 = digits 6 micros := List.take_of_length_le (by simp)
    have filled : '.' :: digits 6 micros ≠ [] := List.cons_ne_nil _ _
    have marked : ('.' :: digits 6 micros).head? = some '.' := rfl
    rw [parseFraction, if_neg filled, if_pos (.inl marked), List.tail_cons, whole,
      read_digits (by omega : 0 < 6) fits, length_digits, Option.bind_some, Option.map_some]
    exact congrArg some (Nat.mul_one micros)

/-- A time of day to the second, with any fraction behind it, is read back in its components. -/
theorem parseClock_timeText {seconds micros : ℕ} (within : seconds < 86400)
    (fits : micros < limit 6) :
    parseClock (timeText seconds ++ fractionText micros) =
      some (seconds / 3600, seconds / 60 % 60, seconds % 60, micros) := by
  have hours : seconds / 3600 < limit 2 := by
    show seconds / 3600 < 100
    omega
  have minutes : seconds / 60 % 60 < limit 2 := lt_sixty (Nat.mod_lt _ (by omega))
  have last : seconds % 60 < limit 2 := lt_sixty (Nat.mod_lt _ (by omega))
  -- Both separators are there, so the fraction is what follows the third number.
  rw [parseClock, timeText]
  simp only [List.append_assoc, List.cons_append]
  rw [number_digits _ (by omega) hours, Option.bind_some, if_neg (List.cons_ne_nil _ _)]
  simp only [List.head?_cons, beq_self_eq_true]
  rw [skip_separator, Option.bind_some, number_digits _ (by omega) minutes, Option.bind_some,
    if_neg (List.cons_ne_nil _ _), skip_separator, Option.bind_some,
    number_digits _ (by omega) last, Option.bind_some, parseFraction_fractionText fits]
  rfl

/-- The size of an offset is read back in its components. -/
theorem parseClock_magnitudeText {micros : ℕ} (within : micros < day) :
    parseClock (magnitudeText micros) =
      some (micros / hour, micros / minute % 60, micros / second % 60, micros % second) := by
  have hours : micros / hour < limit 2 := by
    show micros / hour < 100
    simp only [day, hour, minute, second] at *
    omega
  have minutes : micros / minute % 60 < limit 2 := lt_sixty (Nat.mod_lt _ (by omega))
  have seconds : micros / second % 60 < limit 2 := lt_sixty (Nat.mod_lt _ (by omega))
  have fits : micros % second < limit 6 := Nat.mod_lt _ (by decide)
  rw [parseClock, magnitudeText, number_digits _ (by omega) hours, Option.bind_some,
    if_neg (List.cons_ne_nil _ _)]
  simp only [List.head?_cons, beq_self_eq_true]
  rw [skip_separator, Option.bind_some]
  -- The seconds and their fraction are there exactly when they are not zero.
  split
  case isTrue whole =>
    have noSeconds : micros / second % 60 = 0 := by
      simp only [minute, second] at *
      omega
    have noFraction : micros % second = 0 := by
      simp only [minute, second] at *
      omega
    rw [number_digits [] (by omega) minutes, Option.bind_some, if_pos rfl, noSeconds, noFraction]
  case isFalse =>
    rw [number_digits _ (by omega) minutes, Option.bind_some, if_neg (List.cons_ne_nil _ _),
      skip_separator, Option.bind_some, number_digits _ (by omega) seconds, Option.bind_some,
      parseFraction_fractionText fits]
    rfl

/-- Components taken off a number of microseconds add up to it. -/
theorem clockMicros_parts (micros : ℕ) :
    clockMicros (micros / hour) (micros / minute % 60) (micros / second % 60) (micros % second) =
      micros := by
  unfold clockMicros hour minute second
  omega

/-- Behind a sign an offset is the size its clock components add up to. -/
theorem parseZone_sign {sign : Char} {rest : List Char} {hours minutes seconds micros : ℕ}
    (signed : sign ≠ 'Z') (clock : parseClock rest = some (hours, minutes, seconds, micros))
    (within : clockMicros hours minutes seconds micros < day) :
    parseZone (sign :: rest) = some (some (if sign = '-'
      then -(clockMicros hours minutes seconds micros : ℤ)
      else clockMicros hours minutes seconds micros)) := by
  -- The sign is not the letter of UTC, and behind it stands a clock time.
  have notUtc : ¬(sign :: rest).head? = some 'Z' := by
    rw [List.head?_cons]
    exact fun same => signed (Option.some.inj same)
  rw [parseZone, if_neg (List.cons_ne_nil _ _), if_neg notUtc, List.tail_cons, clock,
    Option.bind_some]
  simp only [List.head?_cons, Option.some.injEq]
  rw [if_pos within]

/-- An offset of less than a day is read back from its text. -/
theorem parseZone_zoneText {zone : ℤ} (above : -(day : ℤ) < zone) (below : zone < day) :
    parseZone (zoneText zone) = some (some zone) := by
  have within : zone.natAbs < day := by omega
  have clock := parseClock_magnitudeText within
  rw [← clockMicros_parts zone.natAbs] at within
  -- The sign is the first character, and neither sign is the letter for UTC.
  by_cases negative : zone < 0
  · have signed : -(zone.natAbs : ℤ) = zone := by omega
    rw [zoneText, if_pos negative, parseZone_sign (by decide) clock within, clockMicros_parts,
      if_pos rfl, signed]
  · have signed : (zone.natAbs : ℤ) = zone := by omega
    rw [zoneText, if_neg negative, parseZone_sign (by decide) clock within, clockMicros_parts,
      if_neg (by decide), signed]

/-- No digit starts an offset. -/
theorem not_startsZone_digits {width value : ℕ} {character : Char}
    (member : character ∈ digits width value) : startsZone character = false := by
  -- The three characters that do are no digits.
  have digit := isDigit_of_mem_digits member
  by_contra starts
  simp only [startsZone, Bool.not_eq_false, Bool.or_eq_true, beq_iff_eq] at starts
  rcases starts with (rfl | rfl) | rfl <;> exact absurd digit (by decide)

/-- No character of a time of day starts an offset. -/
theorem not_startsZone_time {seconds micros : ℕ} {character : Char}
    (member : character ∈ timeText seconds ++ fractionText micros) :
    startsZone character = false := by
  unfold timeText fractionText at member
  -- The characters are digits, colons and a point.
  split at member <;> simp only [List.mem_append, List.mem_cons, List.not_mem_nil, or_false] at member
  · rcases member with digit | rfl | digit | rfl | digit
    all_goals first | rfl | exact not_startsZone_digits digit
  · rcases member with (digit | rfl | digit | rfl | digit) | rfl | digit
    all_goals first | rfl | exact not_startsZone_digits digit

/-- An offset text is empty or begins with a sign. -/
theorem startsZone_zoneText (offset : Option ℤ) :
    offset.elim [] zoneText = [] ∨
      ∃ sign rest, offset.elim [] zoneText = sign :: rest ∧ startsZone sign = true := by
  -- An offset is written with a sign in front.
  cases offset with
  | none => exact .inl rfl
  | some zone =>
    refine .inr ⟨_, _, rfl, ?_⟩
    split <;> rfl

/-- A time text is cut into its time of day and its offset where the offset begins. -/
theorem cut_time (seconds micros : ℕ) (offset : Option ℤ) :
    (timeText seconds ++ (fractionText micros ++ offset.elim [] zoneText)).takeWhile
        (!startsZone ·) = timeText seconds ++ fractionText micros ∧
      (timeText seconds ++ (fractionText micros ++ offset.elim [] zoneText)).dropWhile
        (!startsZone ·) = offset.elim [] zoneText := by
  -- The zone starts at the first character that can start one, and the time has none.
  have quiet : ∀ character ∈ timeText seconds ++ fractionText micros,
      (!startsZone character) = true := by
    intro character member
    rw [not_startsZone_time member]
    rfl
  rw [← List.append_assoc, List.takeWhile_append_of_pos quiet, List.dropWhile_append_of_pos quiet]
  rcases startsZone_zoneText offset with empty | ⟨sign, rest, text, starts⟩
  · simp [empty]
  · simp [text, starts]

/-- A datetime text is as long as a date and a time to the second, and what follows these. -/
theorem length_wallText (seconds : ℕ) : (wallText seconds).length = 19 := by
  simp [wallText, dateText, timeText]

/-- The date of a datetime text ends at its tenth character. -/
theorem separatorAt_dateText (days : ℕ) (rest : List Char) :
    separatorAt (dateText days ++ 'T' :: rest) = 10 := by
  -- A dash follows the year, and a digit follows the dash.
  have fourth : (dateText days ++ 'T' :: rest)[4]? = some '-' := by
    simp [dateText, digits]
  have fifth : (dateText days ++ 'T' :: rest)[5]? =
      some (Nat.digitChar (monthOfDay days / 10 % 10)) := by
    simp [dateText, digits]
  have noWeek : some (Nat.digitChar (monthOfDay days / 10 % 10)) ≠ some 'W' := by
    intro same
    exact digitChar_ne rfl (Nat.mod_lt _ (by omega)) (Option.some.inj same)
  have longer : (dateText days ++ 'T' :: rest).length ≠ 7 := by
    simp [dateText]
    omega
  rw [separatorAt, if_neg longer, if_pos fourth, fifth, if_neg noWeek]

/-- A datetime in range is made of the day, the time of that day and the offset it has. -/
theorem make_parts (moment : DateTime) :
    DateTime.make (moment.wall / day) (moment.wall % day) moment.offset = some moment := by
  -- The wall clock falls into whole days and what is left of the last one.
  have whole : moment.wall / day * day + moment.wall % day = moment.wall := by
    rw [Nat.mul_comm]
    exact Nat.div_add_mod _ _
  rw [DateTime.make, dif_pos (by rw [whole]; exact moment.inRange), dif_pos moment.bounded]
  exact congrArg some (DateTime.ext_parts whole rfl)

/-- The time of day of a wall clock is what its components add up to. -/
theorem clockMicros_wall (wall : ℕ) :
    clockMicros (wall / second % 86400 / 3600) (wall / second % 86400 / 60 % 60)
      (wall / second % 86400 % 60) (wall % second) = wall % day := by
  simp only [clockMicros, day, hour, minute, second]
  omega

/-- The time of day and the offset of a datetime are read back from the end of its text. -/
theorem parseTime_text (moment : DateTime) :
    parseTime (timeText (moment.wall / second % 86400) ++
      (fractionText (moment.wall % second) ++ moment.offset.elim [] zoneText)) =
        some (moment.wall % day, moment.offset) := by
  -- The three parts of the time are within their bounds, so each is read back.
  have within : moment.wall / second % 86400 < 86400 := Nat.mod_lt _ (by omega)
  have fits : moment.wall % second < limit 6 := Nat.mod_lt _ (by decide)
  have zone : parseZone (moment.offset.elim [] zoneText) = some moment.offset := by
    cases known : moment.offset with
    | none => rfl
    | some zone =>
      have bounded := moment.bounded zone known
      exact parseZone_zoneText bounded.1 bounded.2
  rw [parseTime, (cut_time _ _ _).1, (cut_time _ _ _).2, parseClock_timeText within fits]
  simp only [Option.bind_some, zone]
  rw [if_pos (by omega), clockMicros_wall]

/-- A text with a time is read as the datetime its date, its time and its offset make. -/
theorem fromisoformat_of_time {text : String} {days micros : ℕ} {offset : Option ℤ}
    (long : ¬text.toList.length < 7)
    (date : parseDate (text.toList.take (separatorAt text.toList)) = some days)
    (filled : text.toList.drop (separatorAt text.toList) ≠ [])
    (time : parseTime (text.toList.drop (separatorAt text.toList + 1)) = some (micros, offset)) :
    fromisoformat text = DateTime.make days micros offset := by
  rw [fromisoformat, if_neg long, date, Option.bind_some, if_neg filled, time, Option.bind_some]

/-- A datetime is read back from the text it is written as. -/
theorem fromisoformat_isoformat (moment : DateTime) :
    fromisoformat moment.isoformat = some moment := by
  have dayOf : moment.wall / second / 86400 = moment.wall / day := by
    simp only [day, hour, minute, second]
    omega
  have days : moment.wall / second / 86400 < daysOfEra := by
    have inRange := moment.inRange
    simp only [span, day, hour, minute, second] at *
    omega
  have chars : isoChars moment = dateText (moment.wall / second / 86400) ++
      'T' :: (timeText (moment.wall / second % 86400) ++
        (fractionText (moment.wall % second) ++ moment.offset.elim [] zoneText)) := by
    simp [isoChars, wallText]
  have dateLength : (dateText (moment.wall / second / 86400)).length = 10 := by
    simp [dateText]
  have long : ¬(isoChars moment).length < 7 := by
    simp [chars, dateLength]
    omega
  -- The text splits into its date, the separator, the time of day and the offset.
  have front : (isoChars moment).take 10 = dateText (moment.wall / second / 86400) := by
    rw [chars]
    exact List.take_left' dateLength
  have back : (isoChars moment).drop 11 = timeText (moment.wall / second % 86400) ++
      (fractionText (moment.wall % second) ++ moment.offset.elim [] zoneText) := by
    rw [chars, ← List.drop_drop (i := 1) (j := 10), List.drop_left' dateLength]
    rfl
  have time := parseTime_text moment
  rw [← back] at time
  have filled : (isoChars moment).drop 10 ≠ [] := by
    rw [chars, List.drop_left' dateLength]
    exact List.cons_ne_nil _ _
  have cut : separatorAt (isoChars moment) = 10 := by
    rw [chars]
    exact separatorAt_dateText _ _
  have text : moment.isoformat.toList = isoChars moment := String.toList_ofList
  rw [← text] at long front time filled cut
  have date : parseDate (moment.isoformat.toList.take (separatorAt moment.isoformat.toList)) =
      some (moment.wall / day) := by
    rw [cut, front, parseDate_dateText days, dayOf]
  rw [fromisoformat_of_time long date (by rw [cut]; exact filled) (by rw [cut]; exact time)]
  exact make_parts moment

end Calendar
