import SeanOs.Lib.Calendar
import SeanOs.Lib.Decimal

/-! Datetimes written as ISO 8601 texts, and the texts that are read back as datetimes. -/

namespace Calendar

open Decimal

/-- A date as its text, from the day it is. -/
def dateText (days : ℕ) : List Char :=
  digits 4 (yearOf days) ++ '-' :: (digits 2 (monthOfDay days) ++
    '-' :: digits 2 (dayOfMonth days))

/-- A time of day as its text, to the second. -/
def timeText (seconds : ℕ) : List Char :=
  digits 2 (seconds / 3600) ++ ':' :: (digits 2 (seconds / 60 % 60) ++ ':' :: digits 2 (seconds % 60))

/-- A wall clock as its text, to the second. -/
def wallText (seconds : ℕ) : List Char :=
  dateText (seconds / 86400) ++ 'T' :: timeText (seconds % 86400)

/-- A fraction of a second, left out when it is zero. -/
def fractionText (micros : ℕ) : List Char :=
  if micros = 0 then [] else '.' :: digits 6 micros

/-- The size of an offset as its text, to the last part that is not zero. -/
def magnitudeText (micros : ℕ) : List Char :=
  digits 2 (micros / hour) ++ ':' :: (digits 2 (micros / minute % 60) ++
    if micros % minute = 0 then []
    else ':' :: (digits 2 (micros / second % 60) ++ fractionText (micros % second)))

/-- An offset as its text, sign first. -/
def zoneText (zone : ℤ) : List Char :=
  (if zone < 0 then '-' else '+') :: magnitudeText zone.natAbs

/-- The characters a datetime is written in. -/
def isoChars (moment : DateTime) : List Char :=
  wallText (moment.wall / second) ++
    (fractionText (moment.wall % second) ++ moment.offset.elim [] zoneText)

/-- The text a datetime is written as. -/
def DateTime.isoformat (moment : DateTime) : String := String.ofList (isoChars moment)

/-- Read a number of a fixed width from the front of a text. -/
def number (width : ℕ) (text : List Char) : Option (ℕ × List Char) :=
  if width ≤ text.length then (read (text.take width)).map (·, text.drop width) else none

/-- Read the fraction behind a second, of which six digits count. -/
def parseFraction (text : List Char) : Option ℕ :=
  if text = [] then some 0
  else if text.head? = some '.' ∨ text.head? = some ',' then
    -- Digits beyond the sixth are checked and dropped.
    (read text.tail).bind fun _ =>
      (read (text.tail.take 6)).map (· * limit (6 - text.tail.length))
  else
    none

/-- Read a separator, where a text with separators has one. -/
def skip (separator : Char) (separated : Bool) (text : List Char) : Option (List Char) :=
  if separated then
    if text.head? = some separator then some text.tail else none
  else
    some text

/-- Read hours, minutes, seconds and a fraction, all with separators or all without. -/
def parseClock (text : List Char) : Option (ℕ × ℕ × ℕ × ℕ) :=
  (number 2 text).bind fun hours =>
    if hours.2 = [] then some (hours.1, 0, 0, 0)
    else
      let separated := hours.2.head? == some ':'
      (skip ':' separated hours.2).bind fun rest => (number 2 rest).bind fun minutes =>
        if minutes.2 = [] then some (hours.1, minutes.1, 0, 0)
        else
          (skip ':' separated minutes.2).bind fun rest => (number 2 rest).bind fun seconds =>
            (parseFraction seconds.2).map fun micros => (hours.1, minutes.1, seconds.1, micros)

/-- The microseconds four clock components add up to. -/
def clockMicros (hours minutes seconds micros : ℕ) : ℕ :=
  hours * hour + minutes * minute + seconds * second + micros

/-- The day of a week date. -/
def weekDay (year week weekday : ℕ) : Option ℕ :=
  let firstWeekday := daysBeforeYear year % 7
  let monday := daysBeforeYear year - firstWeekday + if 3 < firstWeekday then 7 else 0
  let long := firstWeekday = 3 ∨ firstWeekday = 2 ∧ isLeap year
  if 1 ≤ year ∧ year ≤ 9999 ∧ 1 ≤ week ∧ (week < 53 ∨ week = 53 ∧ long) ∧
      1 ≤ weekday ∧ weekday ≤ 7 ∧ monday + (week - 1) * 7 + (weekday - 1) < daysOfEra then
    some (monday + (week - 1) * 7 + (weekday - 1))
  else
    none

/-- Read a calendar date or a week date, with dashes or without. -/
def parseDate (text : List Char) : Option ℕ :=
  (number 4 text).bind fun year =>
    let dashed := year.2.head? == some '-'
    (skip '-' dashed year.2).bind fun rest =>
      if rest.head? = some 'W' then
        (number 2 rest.tail).bind fun week =>
          if week.2 = [] then weekDay year.1 week.1 1
          else
            (skip '-' dashed week.2).bind fun rest => (number 1 rest).bind fun weekday =>
              if weekday.2 = [] then weekDay year.1 week.1 weekday.1 else none
      else
        (number 2 rest).bind fun month =>
          (skip '-' dashed month.2).bind fun rest => (number 2 rest).bind fun dayOfMonth =>
            if dayOfMonth.2 = [] then dayNumber year.1 month.1 dayOfMonth.1 else none

/-- Where the date of a datetime text ends. -/
def separatorAt (text : List Char) : ℕ :=
  if text.length = 7 then 7
  else if text[4]? = some '-' then
    if text[5]? = some 'W' then
      if text[8]? = some '-' then
        -- A digit behind the dash is taken for a time, and the dash for its separator.
        if (text[10]?.map Char.isDigit).getD false then 8 else 10
      else 8
    else 10
  else if text[4]? = some 'W' then
    let run := 7 + ((text.drop 7).takeWhile Char.isDigit).length
    if run < 9 then run else if run % 2 = 0 then 7 else 8
  else 8

/-- Whether a character begins an offset. -/
def startsZone (character : Char) : Bool :=
  character == '+' || character == '-' || character == 'Z'

/-- Read an offset from UTC, which must be less than a day. -/
def parseZone (text : List Char) : Option (Option ℤ) :=
  if text = [] then some none
  else if text.head? = some 'Z' then
    if text.tail = [] then some (some 0) else none
  else
    (parseClock text.tail).bind fun clock =>
      let size := clockMicros clock.1 clock.2.1 clock.2.2.1 clock.2.2.2
      if size < day then
        some (some (if text.head? = some '-' then -(size : ℤ) else size))
      else
        none

/-- Read a time of day with its offset. -/
def parseTime (text : List Char) : Option (ℕ × Option ℤ) :=
  (parseClock (text.takeWhile (!startsZone ·))).bind fun clock =>
    (parseZone (text.dropWhile (!startsZone ·))).bind fun zone =>
      if clock.1 < 24 ∧ clock.2.1 < 60 ∧ clock.2.2.1 < 60 then
        some (clockMicros clock.1 clock.2.1 clock.2.2.1 clock.2.2.2, zone)
      else
        none

/-- A datetime from a day, a time of that day and an offset, when all are in range. -/
def DateTime.make (days micros : ℕ) (offset : Option ℤ) : Option DateTime :=
  if inRange : days * day + micros < span then
    if bounded : ∀ zone ∈ offset, -(day : ℤ) < zone ∧ zone < day then
      some ⟨days * day + micros, offset, inRange, bounded⟩
    else
      none
  else
    none

/--
Read a datetime text in the ISO 8601 forms the language's library accepts.

Any one character may separate the date from the time, which is midnight where the date stands alone.
-/
def fromisoformat (text : String) : Option DateTime :=
  let chars := text.toList
  let time := chars.drop (separatorAt chars + 1)
  if chars.length < 7 then none
  else
    (parseDate (chars.take (separatorAt chars))).bind fun days =>
      if chars.drop (separatorAt chars) = [] then DateTime.make days 0 none
      else (parseTime time).bind fun parts => DateTime.make days parts.1 parts.2

end Calendar
