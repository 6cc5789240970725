import SeanOs.Lib.JsonOrder

/-! JSON texts read as values, and the compact texts of values read back. -/

namespace Json

/-- Whether a character may stand between the parts of a text. -/
def isBlank (character : Char) : Bool := character ∈ [' ', '\t', '\n', '\r']

/-- A text without the blanks it starts with. -/
def skip (text : List Char) : List Char := text.dropWhile isBlank

/-- The value of a hexadecimal digit. -/
def hexDigit (digit : Char) : Option ℕ :=
  let code := digit.toNat
  if 0x30 ≤ code ∧ code ≤ 0x39 then some (code - 0x30)
  else if 0x61 ≤ code ∧ code ≤ 0x66 then some (code - 0x61 + 10)
  else if 0x41 ≤ code ∧ code ≤ 0x46 then some (code - 0x41 + 10)
  else none

/-- The code unit that four hexadecimal digits stand for. -/
def readUnit : List Char → Option (ℕ × List Char)
  | first :: second :: third :: fourth :: rest => do
    let one ← hexDigit first
    let two ← hexDigit second
    let three ← hexDigit third
    let four ← hexDigit fourth
    return (one * 4096 + two * 256 + three * 16 + four, rest)
  | _ => none

/-- The characters that one letter behind a backslash stands for. -/
def ESCAPES : List (Char × ℕ) :=
  [(Char.ofNat 0x22, 0x22), ('\\', 0x5C), ('/', 0x2F), ('b', 0x08), ('f', 0x0C), ('n', 0x0A),
    ('r', 0x0D), ('t', 0x09)]

/-- The low surrogate that is escaped at the start of a text, and what stands behind it. -/
def readLow : List Char → Option (ℕ × List Char)
  | '\\' :: 'u' :: rest => (readUnit rest).filter (isLow ·.1)
  | _ => none

/-- The code point of a code unit, which a high surrogate makes up with a low one behind it. -/
def unitPoint (unit : ℕ) (rest : List Char) : ℕ × List Char :=
  match if isHigh unit then readLow rest else none with
  | some (low, rest) => (pairPoint unit low, rest)
  -- A surrogate without its other half is a code point of its own.
  | none => (unit, rest)

/-- The code point behind a backslash. -/
def readEscape : List Char → Option (ℕ × List Char)
  | [] => none
  | 'u' :: rest => (readUnit rest).map fun (unit, rest) => unitPoint unit rest
  | letter :: rest => (ESCAPES.lookup letter).map fun point => (point, rest)

/-- The code points of a text behind its opening quote. -/
def readText : ℕ → List Char → Option (List ℕ × List Char)
  | 0, _ | _, [] => none
  | fuel + 1, first :: rest =>
    if first = quote then some ([], rest)
    else if first = '\\' then do
      let (point, rest) ← readEscape rest
      let (points, rest) ← readText fuel rest
      return (point :: points, rest)
    -- Control characters must be escaped.
    else if first.toNat < 0x20 then none
    else do
      let (points, rest) ← readText fuel rest
      return (first.toNat :: points, rest)

/-- The digits before the point: a zero alone, or digits that start with another one. -/
def wholeDigits (text : List Char) : List Char :=
  if text.head? = some '0' then ['0'] else text.takeWhile Char.isDigit

/-- The point and the digits behind it, where a point has any. -/
def fractionDigits (text : List Char) : List Char :=
  let digits := text.tail.takeWhile Char.isDigit
  if text.head? = some '.' ∧ digits ≠ [] then '.' :: digits else []

/-- The exponent and its digits, where it has any. -/
def exponentDigits (text : List Char) : List Char :=
  let sign := text.tail.head?.toList.filter (· ∈ ['+', '-'])
  let digits := (text.tail.drop sign.length).takeWhile Char.isDigit
  if text.head?.any (· ∈ ['e', 'E']) ∧ digits ≠ [] then text.take 1 ++ sign ++ digits else []

section Reading

variable {τ : Type}

/-- A number, which is an integer where it has neither a fraction nor an exponent. -/
def readNumber (text : List Char) : Option (Json τ × List Char) :=
  let sign := text.head?.toList.filter (· == '-')
  let body := text.drop sign.length
  let whole := wholeDigits body
  let behind := body.drop whole.length
  let fraction := fractionDigits behind
  let exponent := exponentDigits (behind.drop fraction.length)
  if whole = [] then none
  else if fraction = [] ∧ exponent = [] then
    let size : ℤ := Nat.ofDigitChars 10 whole 0
    some (.int (if sign = [] then size else -size), behind)
  else (Double.parse (sign ++ whole ++ fraction ++ exponent)).map fun number =>
    (.float number, behind.drop (fraction.length + exponent.length))

/-- The words that stand for values, the ones for special floats among them. -/
def WORDS : List (List Char × Json τ) :=
  [("null".toList, .null), ("true".toList, .bool true), ("false".toList, .bool false),
    ("NaN".toList, .float .nan), ("Infinity".toList, .float (.infinite false)),
    ("-Infinity".toList, .float (.infinite true))]

/-- A value that has neither brackets nor quotes. -/
def readScalar (text : List Char) : Option (Json τ × List Char) :=
  match WORDS.find? fun word => word.1.isPrefixOf text with
  | some word => some (word.2, text.drop word.1.length)
  | none => readNumber text

variable [CodePoints τ]

/-- The text behind an opening quote, where there is one of its kind. -/
def readString (fuel : ℕ) (text : List Char) : Option (τ × List Char) :=
  (readText fuel text).bind fun read => (CodePoints.ofPoints read.1).map fun own => (own, read.2)

variable [DecidableEq τ]

mutual

/-- The value a text starts with, and what stands behind it. -/
def readValue : ℕ → List Char → Option (Json τ × List Char)
  | 0, _ | _, [] => none
  | fuel + 1, first :: rest =>
    if first = quote then (readString fuel rest).map fun read => (.str read.1, read.2)
    else if first = '[' then
      match skip rest with
      | ']' :: rest => some (.arr [], rest)
      | text => (readItems fuel text).map fun read => (.arr read.1, read.2)
    else if first = '{' then
      match skip rest with
      | '}' :: rest => some (.obj [], rest)
      -- A name that occurs again gives its value to the member that is there.
      | text => (readMembers fuel text).map fun read => (.obj (update [] read.1), read.2)
    else readScalar (first :: rest)

/-- The items of a list from one of them to its end. -/
def readItems : ℕ → List Char → Option (List (Json τ) × List Char)
  | 0, _ => none
  | fuel + 1, text => do
    let (item, rest) ← readValue fuel text
    match skip rest with
    | ',' :: rest => do
      let (items, rest) ← readItems fuel (skip rest)
      return (item :: items, rest)
    | ']' :: rest => return ([item], rest)
    | _ => none

/-- The members of an object from one of them to its end. -/
def readMembers : ℕ → List Char → Option (List (τ × Json τ) × List Char)
  | 0, _ | _, [] => none
  | fuel + 1, first :: rest =>
    if first ≠ quote then none
    else do
      let (name, rest) ← readString fuel rest
      match skip rest with
      | ':' :: rest => do
        let (item, rest) ← readValue fuel (skip rest)
        match skip rest with
        | ',' :: rest => do
          let (members, rest) ← readMembers fuel (skip rest)
          return ((name, item) :: members, rest)
        | '}' :: rest => return ([(name, item)], rest)
        | _ => none
      | _ => none

end

variable (τ) in
/-- The value a whole text stands for, with texts of one kind. -/
def loadsAs (text : String) : Option (Json τ) :=
  match readValue (text.toList.length + 1) (skip text.toList) with
  | some (value, rest) => if skip rest = [] then some value else none
  | none => none

end Reading

/-- The value a whole text stands for, with texts of characters. -/
abbrev loads (text : String) : Option Json := loadsAs String text

section Texts

/-- Each of the sixteen digits has its own value. -/
theorem hexDigit_digitChar {value : ℕ} (small : value < 16) :
    hexDigit (Nat.digitChar value) = some value := by
  interval_cases value <;> rfl

/-- The four digits of a code unit stand for it. -/
theorem readUnit_digits {unit : ℕ} (small : unit < 0x10000) (rest : List Char) :
    readUnit ((unitText unit).drop 2 ++ rest) = some (unit, rest) := by
  -- Each of the four digits is read back, and together they weigh what was written.
  have digit (place : ℕ) : hexDigit (Nat.digitChar (unit / place % 16)) =
      some (unit / place % 16) := hexDigit_digitChar (Nat.mod_lt _ (by omega))
  have last : hexDigit (Nat.digitChar (unit % 16)) = some (unit % 16) :=
    hexDigit_digitChar (Nat.mod_lt _ (by omega))
  have weighed : unit / 4096 % 16 * 4096 + unit / 256 % 16 * 256 + unit / 16 % 16 * 16 +
      unit % 16 = unit := by omega
  show (do
    let one ← hexDigit (Nat.digitChar (unit / 4096 % 16))
    let two ← hexDigit (Nat.digitChar (unit / 256 % 16))
    let three ← hexDigit (Nat.digitChar (unit / 16 % 16))
    let four ← hexDigit (Nat.digitChar (unit % 16))
    return (one * 4096 + two * 256 + three * 16 + four, rest)) = _
  rw [digit, digit, digit, last]
  show some (unit / 4096 % 16 * 4096 + unit / 256 % 16 * 256 + unit / 16 % 16 * 16 + unit % 16,
    rest) = _
  rw [weighed]

/-- A code point of the first plane is read from its code unit, unless it starts a pair. -/
theorem readEscape_unit {point : ℕ} (small : point < 0x10000) {rest : List Char}
    (apart : isHigh point = true → readLow rest = none) :
    readEscape ('u' :: ((unitText point).drop 2 ++ rest)) = some (point, rest) := by
  -- A surrogate that starts a pair has none behind it to end the pair with.
  have alone : (if isHigh point then readLow rest else none) = none := by
    split
    · next high => exact apart high
    · rfl
  rw [readEscape, readUnit_digits small, Option.map_some]
  show some (unitPoint point rest) = _
  rw [unitPoint, alone]

/-- A code point beyond the first plane is read from its two surrogates. -/
theorem readEscape_pair {point : ℕ} (high : 0x10000 ≤ point) (bounded : point < 0x110000)
    (rest : List Char) :
    readEscape ('u' :: ((unitText (0xD800 + (point - 0x10000) / 0x400)).drop 2 ++
      '\\' :: 'u' :: ((unitText (0xDC00 + (point - 0x10000) % 0x400)).drop 2 ++
        rest))) = some (point, rest) := by
  generalize first_ : 0xD800 + (point - 0x10000) / 0x400 = first
  generalize second_ : 0xDC00 + (point - 0x10000) % 0x400 = second
  -- The two units are the halves the code point was split into.
  have joined : pairPoint first second = point := by unfold pairPoint; omega
  have starts : isHigh first = true := decide_eq_true (by omega)
  have ends : isLow second = true := decide_eq_true (by omega)
  have low : readLow ('\\' :: 'u' :: ((unitText second).drop 2 ++ rest)) = some (second, rest) := by
    rw [readLow, readUnit_digits (by omega), Option.filter_some, if_pos ends]
  rw [readEscape, readUnit_digits (by omega), Option.map_some]
  show some (unitPoint first _) = _
  rw [unitPoint, if_pos starts, low]
  dsimp only
  rw [joined]

/-- A printable ASCII character has its code point. -/
theorem toNat_plain {point : ℕ} (plain : 0x20 ≤ point ∧ point ≤ 0x7E) :
    (Char.ofNat point).toNat = point := by
  rw [Char.toNat_ofNat, if_pos (Or.inl (by omega))]

/-- Nothing that does not start with a low surrogate is read as one. -/
theorem readLow_flatMap {points : List ℕ} (bounded : ∀ point ∈ points, point < 0x110000)
    (apart : ∀ first ∈ points.head?, isLow first = false) (rest : List Char) :
    readLow (points.flatMap pointText ++ quote :: rest) = none := by
  cases points with
  | nil => rfl
  | cons point points =>
    have own := apart point rfl
    have small := bounded point List.mem_cons_self
    rw [List.flatMap_cons, List.append_assoc]
    generalize points.flatMap pointText ++ quote :: rest = behind
    -- Only an escaped code unit can be read, and it is the one that was written.
    have unit {written : ℕ} (first : written < 0x10000) (other : isLow written = false)
        (behind : List Char) : readLow (unitText written ++ behind) = none := by
      show (readUnit ((unitText written).drop 2 ++ behind)).filter _ = none
      rw [readUnit_digits first, Option.filter_some, if_neg (by rw [other]; exact Bool.false_ne_true)]
    unfold pointText
    split
    next marked => rcases marked with rfl | rfl <;> rfl
    next unmarked =>
    split
    · rfl
    split
    · rfl
    split
    · rfl
    split
    · rfl
    split
    · rfl
    split
    next plain =>
      have slash : Char.ofNat point ≠ '\\' := fun same =>
        unmarked (.inr ((toNat_plain plain).symm.trans (congrArg Char.toNat same)))
      show readLow (Char.ofNat point :: behind) = none
      unfold readLow
      split
      · next same => exact absurd (List.cons.inj same).1 slash
      · rfl
    split
    next first => exact unit first own behind
    next =>
      rw [List.append_assoc]
      exact unit (by omega) (decide_eq_false (by omega)) _

/-- A code point is read from what it is written as, unless it starts a pair. -/
theorem readText_pointText (fuel : ℕ) {point : ℕ} (bounded : point < 0x110000) {rest : List Char}
    (apart : isHigh point = true → readLow rest = none) :
    readText (fuel + 1) (pointText point ++ rest) =
      (readText fuel rest).map fun read => (point :: read.1, read.2) := by
  -- An escape is read behind its backslash, and anything else as it is.
  have escaped {text : List Char} (read : readEscape (text ++ rest) = some (point, rest)) :
      readText (fuel + 1) ('\\' :: (text ++ rest)) =
        (readText fuel rest).map fun read => (point :: read.1, read.2) := by
    rw [readText, if_neg (by decide), if_pos rfl, read]
    show (do
      let (points, rest) ← readText fuel rest
      return (point :: points, rest)) = _
    cases readText fuel rest <;> rfl
  have short {letter : Char} {code : ℕ} (same : point = code)
      (known : readEscape (letter :: rest) = some (code, rest)) :
      readEscape ([letter] ++ rest) = some (point, rest) := same ▸ known
  unfold pointText
  split
  next marked => rcases marked with rfl | rfl <;> exact escaped (short rfl rfl)
  next unmarked =>
  split
  next same => exact escaped (short same rfl)
  split
  next same => exact escaped (short same rfl)
  split
  next same => exact escaped (short same rfl)
  split
  next same => exact escaped (short same rfl)
  split
  next same => exact escaped (short same rfl)
  split
  next plain =>
    have own := toNat_plain plain
    have other (mark : Char) (marked : mark.toNat = 0x22 ∨ mark.toNat = 0x5C) :
        Char.ofNat point ≠ mark := by
      rintro rfl
      rw [own] at marked
      exact unmarked marked
    show readText (fuel + 1) (Char.ofNat point :: rest) = _
    rw [readText, if_neg (other quote (.inl rfl)), if_neg (other '\\' (.inr rfl)),
      if_neg (by omega), own]
    cases readText fuel rest <;> rfl
  split
  next low => exact escaped (readEscape_unit low apart)
  next high => exact escaped (readEscape_pair (Nat.le_of_not_lt high) bounded rest)

/-- The code points of a text are read back up to the quote behind them. -/
theorem readText_flatMap {fuel : ℕ} {points : List ℕ} (enough : points.length < fuel)
    (bounded : ∀ point ∈ points, point < 0x110000) (unpaired : Unpaired points) (rest : List Char) :
    readText fuel (points.flatMap pointText ++ quote :: rest) = some (points, rest) := by
  induction points generalizing fuel with
  | nil =>
    obtain ⟨fuel, rfl⟩ := Nat.exists_eq_add_of_lt enough
    rw [show [].length + fuel + 1 = fuel + 1 by simp]
    exact if_pos rfl
  | cons point points ih =>
    obtain ⟨fuel, rfl⟩ : ∃ less, fuel = less + 1 := ⟨fuel - 1, by omega⟩
    have behind := fun other there => bounded other (List.mem_cons_of_mem point there)
    -- What stands behind a high surrogate is no low one.
    have apart : isHigh point = true → readLow (points.flatMap pointText ++ quote :: rest) = none := by
      intro high
      refine readLow_flatMap behind (fun first there => ?_) rest
      obtain ⟨more, rfl⟩ : ∃ more, points = first :: more := by
        cases points with
        | nil => cases there
        | cons other more => exact ⟨more, by rw [Option.mem_some.mp there]⟩
      exact Bool.eq_false_iff.mpr fun low => (List.isChain_cons_cons.mp unpaired).1 ⟨high, low⟩
    rw [List.flatMap_cons, List.append_assoc,
      readText_pointText fuel (bounded point List.mem_cons_self) apart,
      ih (by simpa using enough) behind unpaired.tail]
    rfl

end Texts

section Values

variable {τ : Type} [DecidableEq τ]

mutual

/-- Whether a value holds no float, and no object with a name twice. -/
def plain : Json τ → Bool
  | .float _ => false
  | .arr items => plainItems items
  | .obj members => (members.map (·.1)).Nodup && plainMembers members
  | _ => true

/-- Whether all items of a list are plain. -/
def plainItems : List (Json τ) → Bool
  | [] => true
  | item :: items => plain item && plainItems items

/-- Whether the values of all members are plain. -/
def plainMembers : List (τ × Json τ) → Bool
  | [] => true
  | (_, item) :: members => plain item && plainMembers members

end

/-- Nothing that stands behind a value belongs to it. -/
def Ends (rest : List Char) : Prop := ∀ next ∈ rest.head?, next ∈ [',', ']', '}']

/-- A value may end where the text does. -/
theorem ends_nil : Ends [] := fun _ there => by cases there

/-- A value may end before a comma or a bracket. -/
theorem ends_cons {next : Char} (known : next ∈ [',', ']', '}']) (rest : List Char) :
    Ends (next :: rest) := by
  -- Only the first character behind the value counts.
  intro other there
  rw [List.head?_cons, Option.mem_some] at there
  exact there ▸ known

/-- A value that ends has no further digits, no fraction and no exponent. -/
theorem Ends.stops {rest : List Char} (ends : Ends rest) :
    rest.takeWhile Char.isDigit = [] ∧ fractionDigits rest = [] ∧ exponentDigits rest = [] := by
  cases rest with
  | nil => exact ⟨rfl, rfl, rfl⟩
  | cons next rest =>
    have known := ends next rfl
    rw [fractionDigits, exponentDigits]
    simp only [List.mem_cons, List.not_mem_nil, or_false] at known
    -- None of the three characters goes on with a number.
    rcases known with rfl | rfl | rfl <;> simp

/-- The digits of a number start with a zero only where the number is zero. -/
theorem toDigits_head (size : ℕ) (zero : (Nat.toDigits 10 size).head? = some '0') :
    Nat.toDigits 10 size = ['0'] := by
  -- The leading digit is the one of a tenth of the number, until one digit is left.
  induction size using Nat.strong_induction_on with
  | h size ih =>
    by_cases small : size < 10
    · rw [Nat.toDigits_of_lt_base small] at zero ⊢
      rw [List.head?_cons, Option.some.injEq] at zero
      rw [zero]
    · rw [Nat.toDigits_of_base_le (by omega) (by omega), List.head?_append] at zero
      obtain ⟨first, rest, front⟩ := List.exists_cons_of_ne_nil
        (Nat.toDigits_ne_nil : Nat.toDigits 10 (size / 10) ≠ [])
      have lead : (Nat.toDigits 10 (size / 10)).head? = some '0' := by
        rw [front] at zero ⊢
        exact zero
      have tenth := Nat.ofDigitChars_ten_toDigits (n := size / 10)
      rw [ih (size / 10) (by omega) lead] at tenth
      have none_ : size / 10 = 0 := tenth.symm
      omega

/-- The digits of a number are read as they were written. -/
theorem wholeDigits_toDigits (size : ℕ) {rest : List Char} (ends : Ends rest) :
    wholeDigits (Nat.toDigits 10 size ++ rest) = Nat.toDigits 10 size := by
  rw [wholeDigits]
  split
  -- Only zero itself starts with a zero.
  next zero =>
    rw [toDigits_head]
    rw [List.head?_append] at zero
    obtain ⟨first, others, digits⟩ := List.exists_cons_of_ne_nil
      (Nat.toDigits_ne_nil : Nat.toDigits 10 size ≠ [])
    rw [digits] at zero ⊢
    exact zero
  · rw [List.takeWhile_append_of_pos fun digit there =>
      Nat.isDigit_of_mem_toDigits (by omega) (by omega) there, ends.stops.1, List.append_nil]

/-- A number of which no digit is a sign has none. -/
theorem toDigits_unsigned (size : ℕ) (rest : List Char) :
    (Nat.toDigits 10 size ++ rest).head?.toList.filter (· == '-') = [] := by
  obtain ⟨first, others, digits⟩ := List.exists_cons_of_ne_nil
    (Nat.toDigits_ne_nil : Nat.toDigits 10 size ≠ [])
  -- The first character is a digit, and so no sign.
  have digit : first.isDigit = true :=
    Nat.isDigit_of_mem_toDigits (by omega) (by omega) (digits ▸ List.mem_cons_self)
  rw [digits]
  refine List.filter_eq_nil_iff.mpr fun other there => ?_
  obtain rfl : other = first := by simpa using there
  rintro same
  rw [beq_iff_eq.mp same] at digit
  cases digit

section Numbers

variable {τ : Type} [CodePoints τ]

/-- An integer is read from its sign and its digits. -/
theorem readNumber_int (value : ℤ) {rest : List Char} (ends : Ends rest) :
    readNumber (compact (.int value : Json τ) ++ rest) = some ((.int value : Json τ), rest) := by
  -- The digits end where the number does, and no fraction or exponent follows.
  have whole := wholeDigits_toDigits value.natAbs ends
  have behind : (Nat.toDigits 10 value.natAbs ++ rest).drop (Nat.toDigits 10 value.natAbs).length =
      rest := List.drop_left
  rw [readNumber, compact]
  dsimp only
  -- A negative number has its sign taken first.
  by_cases negative : value < 0
  · have sign (digits : List Char) :
        ('-' :: digits).head?.toList.filter (· == '-') = ['-'] := rfl
    have size : -(value.natAbs : ℤ) = value := by omega
    rw [if_pos negative, List.append_assoc, List.singleton_append, sign, List.length_singleton,
      List.drop_one, List.tail_cons, whole, behind, ends.stops.2.1, List.length_nil, List.drop_zero,
      ends.stops.2.2, if_neg Nat.toDigits_ne_nil, if_pos ⟨rfl, rfl⟩,
      if_neg (List.cons_ne_nil _ _), Nat.ofDigitChars_ten_toDigits, size]
  · have size : (value.natAbs : ℤ) = value := by omega
    rw [if_neg negative, List.nil_append, toDigits_unsigned, List.length_nil, List.drop_zero,
      whole, behind, ends.stops.2.1, List.length_nil, List.drop_zero, ends.stops.2.2,
      if_neg Nat.toDigits_ne_nil, if_pos ⟨rfl, rfl⟩, if_pos rfl, Nat.ofDigitChars_ten_toDigits,
      size]

/-- No word starts as an integer does. -/
theorem readScalar_int (value : ℤ) {rest : List Char} (ends : Ends rest) :
    readScalar (compact (.int value : Json τ) ++ rest) = some ((.int value : Json τ), rest) := by
  obtain ⟨first, others, digits⟩ := List.exists_cons_of_ne_nil
    (Nat.toDigits_ne_nil : Nat.toDigits 10 value.natAbs ≠ [])
  have digit : first.isDigit = true :=
    Nat.isDigit_of_mem_toDigits (by omega) (by omega) (digits ▸ List.mem_cons_self)
  -- No name of a value starts with a digit or a sign and a digit.
  have apart : ∀ letter ∈ ['n', 't', 'f', 'N', 'I', '-'], letter ≠ first := by
    rintro letter there rfl
    have others : ∀ letter ∈ ['n', 't', 'f', 'N', 'I', '-'], letter.isDigit = false := by simp
    rw [others letter there] at digit
    cases digit
  simp only [List.forall_mem_cons, List.not_mem_nil, false_implies, implies_true, and_true] at apart
  have none_ : (WORDS : List (List Char × Json τ)).find?
      (fun word => word.1.isPrefixOf (compact (.int value : Json τ) ++ rest)) = none := by
    rw [compact, digits]
    by_cases negative : value < 0
    · rw [if_pos negative]
      simp [WORDS, apart]
    · rw [if_neg negative]
      simp [WORDS, apart]
  rw [readScalar, none_]
  exact readNumber_int value ends

/-- The first character of an integer is a digit or a sign. -/
theorem compact_int (value : ℤ) :
    ∃ first others, compact (.int value : Json τ) = first :: others ∧
      (first.isDigit = true ∨ first = '-') := by
  obtain ⟨first, others, digits⟩ := List.exists_cons_of_ne_nil
    (Nat.toDigits_ne_nil : Nat.toDigits 10 value.natAbs ≠ [])
  rw [compact]
  -- The sign is in front where the number is negative.
  split
  · exact ⟨'-', _, rfl, .inr rfl⟩
  · exact ⟨first, others, digits, .inl
      (Nat.isDigit_of_mem_toDigits (by omega) (by omega) (digits ▸ List.mem_cons_self))⟩

end Numbers

/-- A new member comes behind the others. -/
theorem setMember_new {key : τ} {members : List (τ × Json τ)}
    (fresh : key ∉ members.map (·.1)) (value : Json τ) :
    setMember key value members = members ++ [(key, value)] := by
  rw [setMember, if_neg]
  -- A member that would be replaced has the name, and none has it.
  intro taken
  obtain ⟨member, there, same⟩ := List.any_eq_true.mp taken
  exact fresh (List.mem_map.mpr ⟨member, there, beq_iff_eq.mp same⟩)

/-- Members with different names are kept as they are. -/
theorem update_distinct {members later : List (τ × Json τ)}
    (distinct : ((members ++ later).map (·.1)).Nodup) : update members later = members ++ later := by
  -- The members are added one after another, each behind the ones before it.
  induction later generalizing members with
  | nil => exact (List.append_nil _).symm
  | cons member later ih =>
    have fresh : member.1 ∉ members.map (·.1) := by
      intro there
      rw [List.map_append, List.nodup_append] at distinct
      exact distinct.2.2 _ there _ List.mem_cons_self rfl
    rw [update, List.foldl_cons, setMember_new fresh]
    have next := @ih (members ++ [member]) (by
      rw [List.append_assoc]
      exact distinct)
    rw [update] at next
    rw [next, List.append_assoc]
    rfl

/-- Characters no value starts with: blanks, and the marks that end a value. -/
def FOLLOWERS : List Char := [' ', '\t', '\n', '\r', ',', ']', '}']

/-- A member that is set has no name twice beside it. -/
theorem nodup_setMember {key : τ} {value : Json τ} {members : List (τ × Json τ)}
    (distinct : (members.map (·.1)).Nodup) : ((setMember key value members).map (·.1)).Nodup := by
  rw [setMember]
  split
  · -- The names are those that were there.
    have same : (members.map fun member => if member.1 == key then (key, value) else member).map
        (·.1) = members.map (·.1) := by
      rw [List.map_map]
      refine List.map_congr_left fun member _ => ?_
      show (if member.1 == key then (key, value) else member).1 = member.1
      split
      · next named => exact (beq_iff_eq.mp named).symm
      · rfl
    rwa [same]
  · next absent =>
    rw [List.map_append, List.nodup_append]
    refine ⟨distinct, List.nodup_singleton _, fun name there other last => ?_⟩
    obtain rfl := List.mem_singleton.mp last
    rintro rfl
    obtain ⟨member, inside, named⟩ := List.mem_map.mp there
    exact absent (List.any_eq_true.mpr ⟨member, inside, beq_iff_eq.mpr named⟩)

/-- Names that differ still differ when members are set one after another. -/
theorem nodup_update {members later : List (τ × Json τ)}
    (distinct : (members.map (·.1)).Nodup) : ((update members later).map (·.1)).Nodup := by
  rw [update]
  -- Each member that is set keeps the names different.
  induction later generalizing members with
  | nil => exact distinct
  | cons member later ih => exact ih (nodup_setMember distinct)

omit [DecidableEq τ] in
/-- What is read without brackets and quotes has no members. -/
theorem readScalar_distinct {text rest : List Char} {value : Json τ}
    (read : readScalar text = some (value, rest)) : value.Distinct := by
  rw [readScalar] at read
  split at read
  · next word found =>
    obtain ⟨rfl, -⟩ := Prod.mk.inj (Option.some.inj read)
    -- Neither a name nor a number is an object.
    have every : ∀ word ∈ (WORDS : List (List Char × Json τ)), isScalar word.2 = true := by
      simp [WORDS, isScalar]
    have scalar := every word (List.mem_of_find?_eq_some found)
    cases same : word.2 with
    | obj members =>
      rw [same] at scalar
      cases scalar
    | _ => exact trivial
  · rw [readNumber] at read
    dsimp only at read
    split at read
    · cases read
    · split at read
      · obtain ⟨rfl, -⟩ := Prod.mk.inj (Option.some.inj read)
        exact trivial
      · obtain ⟨number, -, same⟩ := Option.map_eq_some_iff.mp read
        obtain ⟨rfl, -⟩ := Prod.mk.inj same
        exact trivial

section Compact

variable [CodePoints τ]

/-- The text of a plain value starts with a character of its own. -/
theorem compact_head {value : Json τ} (plain_ : plain value = true) :
    ∃ first others, compact value = first :: others ∧ first ∉ FOLLOWERS := by
  -- Each kind of value starts with a character of its own.
  cases value with
  | null => exact ⟨_, _, rfl, by decide⟩
  | bool value => cases value <;> exact ⟨_, _, rfl, by decide⟩
  | int value =>
    obtain ⟨first, others, written, digit | rfl⟩ := @compact_int τ _ value
    · refine ⟨first, others, written, fun there => ?_⟩
      have none_ : ∀ letter ∈ FOLLOWERS, letter.isDigit = false := by simp [FOLLOWERS]
      rw [none_ first there] at digit
      cases digit
    · exact ⟨_, _, written, by decide⟩
  | float => cases plain_
  | str text => exact ⟨_, _, rfl, by decide⟩
  | arr items => exact ⟨_, _, rfl, by decide⟩
  | obj members => exact ⟨_, _, rfl, by decide⟩

/-- There is nothing to skip in front of a character that is no blank. -/
theorem skip_cons {first : Char} (own : first ∉ FOLLOWERS) (others : List Char) :
    skip (first :: others) = first :: others := by
  -- A blank is among the characters that may follow a value.
  have blank : isBlank first = false := by
    rw [isBlank, decide_eq_false_iff_not]
    intro there
    refine own ?_
    simp only [FOLLOWERS, List.mem_cons, List.not_mem_nil, or_false] at there ⊢
    tauto
  rw [skip, List.dropWhile_cons_of_neg (by rw [blank]; exact Bool.false_ne_true)]

omit [DecidableEq τ] in
/-- The text of items starts with that of the first one. -/
theorem compactItems_append (item : Json τ) (items : List (Json τ)) :
    ∃ others, compactItems (item :: items) = compact item ++ others := by
  -- The first item is written first, whether another one follows or not.
  cases items with
  | nil => exact ⟨[], (List.append_nil _).symm⟩
  | cons next items => exact ⟨_, rfl⟩

omit [DecidableEq τ] in
/-- The text of members starts with the quote of the first name. -/
theorem compactMembers_head (name : τ) (item : Json τ) (members : List (τ × Json τ)) :
    ∃ others, compactMembers ((name, item) :: members) = quote :: others := by
  cases members <;> exact ⟨_, rfl⟩

/-- No code point is written as nothing. -/
theorem length_le_flatMap (points : List ℕ) :
    points.length ≤ (points.flatMap pointText).length := by
  induction points with
  | nil => exact le_rfl
  | cons point points ih =>
    -- Each code point is written with one character at least.
    have one : 1 ≤ (pointText point).length := by
      unfold pointText
      repeat' split
      all_goals exact Nat.succ_pos _
    rw [List.flatMap_cons, List.length_append, List.length_cons]
    omega

omit [DecidableEq τ] in
/-- A text is read behind its opening quote. -/
theorem readString_stringText {text : τ} (unpaired : Unpaired (CodePoints.points text)) {fuel : ℕ}
    (enough : (stringText text).length ≤ fuel + 1) (rest : List Char) :
    readString fuel ((CodePoints.points text).flatMap pointText ++ quote :: rest) =
      some (text, rest) := by
  -- The fuel is measured by characters, of which each code point has one at least.
  have length := length_le_flatMap (CodePoints.points text)
  rw [stringText, List.length_cons, List.length_append, List.length_singleton] at enough
  rw [readString, readText_flatMap (by omega) (CodePoints.bounded text) unpaired, Option.bind_some,
    CodePoints.ofPoints_points]
  rfl

/-- A value is read back from its compact text, wherever that ends. -/
structure Reads (value : Json τ) : Prop where
  /-- The text starts with a character of its own. -/
  head : ∃ first others, compact value = first :: others ∧ first ∉ FOLLOWERS
  read : ∀ fuel rest, (compact value).length ≤ fuel → Ends rest →
    readValue fuel (compact value ++ rest) = some (value, rest)

/-- What starts a text is no part of what stands before it. -/
theorem Reads.skip {value : Json τ} (reads : Reads value) (rest : List Char) :
    Json.skip (compact value ++ rest) = compact value ++ rest := by
  obtain ⟨first, others, written, own⟩ := reads.head
  rw [written, List.cons_append, skip_cons own]

/-- Items are read from their texts with the commas between them. -/
theorem readItems_compact : ∀ (items : List (Json τ)) (fuel : ℕ) (rest : List Char), items ≠ [] →
    (∀ item ∈ items, Reads item) → (compactItems items).length < fuel →
      readItems fuel (compactItems items ++ ']' :: rest) = some (items, rest)
  -- The recursion is the one of the writer: the last item, or an item and a comma before others.
  | [], _, _, some_, _, _ => absurd rfl some_
  | [item], fuel, rest, _, reads, enough => by
    obtain ⟨fuel, rfl⟩ : ∃ less, fuel = less + 1 := ⟨fuel - 1, by omega⟩
    rw [compactItems] at enough ⊢
    rw [readItems, (reads item List.mem_cons_self).read fuel _ (by omega)
      (ends_cons (by decide) rest)]
    rfl
  | item :: next :: items, fuel, rest, _, reads, enough => by
    obtain ⟨fuel, rfl⟩ : ∃ less, fuel = less + 1 := ⟨fuel - 1, by omega⟩
    have behind := fun other there => reads other (List.mem_cons_of_mem item there)
    rw [compactItems, List.length_append, List.length_cons] at enough
    obtain ⟨others, written⟩ := compactItems_append next items
    have read := readItems_compact (next :: items) fuel rest (List.cons_ne_nil _ _) behind (by omega)
    rw [compactItems, List.append_assoc, List.cons_append, readItems,
      (reads item List.mem_cons_self).read fuel _ (by omega) (ends_cons (by decide) _)]
    show (do
      let (items, rest) ← readItems fuel (Json.skip (compactItems (next :: items) ++ ']' :: rest))
      return (item :: items, rest)) = _
    rw [written, List.append_assoc] at read ⊢
    rw [(behind next List.mem_cons_self).skip, read]
    rfl

/-- Members are read from their texts with the commas between them. -/
theorem readMembers_compact : ∀ (members : List (τ × Json τ)) (fuel : ℕ) (rest : List Char),
    members ≠ [] → (∀ member ∈ members, Unpaired (CodePoints.points member.1) ∧ Reads member.2) →
      (compactMembers members).length < fuel →
      readMembers fuel (compactMembers members ++ '}' :: rest) = some (members, rest)
  | [], _, _, some_, _, _ => absurd rfl some_
  | [(name, item)], fuel, rest, _, reads, enough => by
    obtain ⟨fuel, rfl⟩ : ∃ less, fuel = less + 1 := ⟨fuel - 1, by omega⟩
    obtain ⟨unpaired, own⟩ : Unpaired (CodePoints.points name) ∧ Reads item :=
      -- The recursion is the one of the writer: the last member, or a member and a comma
      -- before others.
      reads (name, item) List.mem_cons_self
    rw [compactMembers, List.length_append, List.length_cons] at enough
    rw [compactMembers, stringText, List.cons_append, List.cons_append, List.append_assoc,
      List.append_assoc, List.singleton_append, readMembers, if_neg (by decide),
      readString_stringText unpaired (by omega)]
    show (readValue fuel (Json.skip (compact item ++ '}' :: rest))).bind _ = _
    rw [own.skip, own.read fuel _ (by omega) (ends_cons (by decide) rest)]
    rfl
  | (name, item) :: next :: members, fuel, rest, _, reads, enough => by
    obtain ⟨fuel, rfl⟩ : ∃ less, fuel = less + 1 := ⟨fuel - 1, by omega⟩
    obtain ⟨unpaired, own⟩ : Unpaired (CodePoints.points name) ∧ Reads item :=
      reads (name, item) List.mem_cons_self
    rw [compactMembers, List.length_append, List.length_cons, List.length_append,
      List.length_cons] at enough
    obtain ⟨behind, named⟩ := compactMembers_head next.1 next.2 members
    have more := readMembers_compact (next :: members) fuel rest (List.cons_ne_nil _ _)
      (fun member there => reads member (List.mem_cons_of_mem _ there)) (by omega)
    rw [named, List.cons_append] at more
    rw [compactMembers, stringText, List.cons_append, List.cons_append, List.append_assoc,
      List.append_assoc, List.singleton_append, readMembers, if_neg (by decide),
      readString_stringText unpaired (by omega)]
    show (readValue fuel (Json.skip ((compact item ++ ',' ::
      compactMembers (next :: members)) ++ '}' :: rest))).bind _ = _
    rw [List.append_assoc, List.cons_append, own.skip,
      own.read fuel _ (by omega) (ends_cons (by decide) _)]
    show (do
      let (members, rest) ← readMembers fuel
        (Json.skip (compactMembers (next :: members) ++ '}' :: rest))
      return ((name, item) :: members, rest)) = _
    rw [named, List.cons_append, skip_cons (by decide), more]
    rfl

namespace Reads

/-- A whole number is read back. -/
theorem int (value : ℤ) : Reads (.int value : Json τ) := by
  obtain ⟨first, others, written, own⟩ := @compact_int τ _ value
  -- A number starts with a digit or a sign, which starts no other kind of value but a name.
  have apart : first ≠ quote ∧ first ≠ '[' ∧ first ≠ '{' := by
    rcases own with digit | rfl
    · refine ⟨?_, ?_, ?_⟩ <;> (rintro rfl; cases digit)
    · decide
  refine ⟨compact_head rfl, fun fuel rest enough ends => ?_⟩
  obtain ⟨fuel, rfl⟩ : ∃ less, fuel = less + 1 := ⟨fuel - 1, by
    rw [written, List.length_cons] at enough
    omega⟩
  rw [written, List.cons_append, readValue, if_neg apart.1, if_neg apart.2.1, if_neg apart.2.2,
    ← List.cons_append, ← written]
  exact readScalar_int value ends

/-- A text without pairs of surrogates is read back. -/
theorem str {text : τ} (unpaired : Unpaired (CodePoints.points text)) : Reads (.str text) := by
  -- The quote in front decides for the reader of texts.
  refine ⟨compact_head rfl, fun fuel rest enough _ => ?_⟩
  obtain ⟨fuel, rfl⟩ : ∃ less, fuel = less + 1 := ⟨fuel - 1, by
    rw [compact, stringText, List.length_cons] at enough
    omega⟩
  rw [compact, stringText, List.cons_append, List.append_assoc, readValue, if_pos rfl,
    List.singleton_append, readString_stringText unpaired enough]
  rfl

/-- An array is read back where its items are. -/
theorem arr {items : List (Json τ)} (reads : ∀ item ∈ items, Reads item) : Reads (.arr items) := by
  refine ⟨⟨'[', _, rfl, by decide⟩, fun fuel rest enough _ => ?_⟩
  cases items with
  | nil =>
    obtain ⟨fuel, rfl⟩ := Nat.exists_eq_add_of_le' enough
    rfl
  | cons item items =>
    rw [compact, List.length_cons, List.length_append, List.length_singleton] at enough
    obtain ⟨fuel, rfl⟩ : ∃ less, fuel = less + 1 := ⟨fuel - 1, by omega⟩
    have own := reads item List.mem_cons_self
    obtain ⟨others, written⟩ := compactItems_append item items
    have read := readItems_compact (item :: items) fuel rest (List.cons_ne_nil _ _) reads (by omega)
    obtain ⟨first, following, starts, apart⟩ := own.head
    rw [written, List.append_assoc] at read
    rw [compact, List.cons_append, List.append_assoc, List.singleton_append, readValue,
      if_neg (by decide), if_pos rfl, written, List.append_assoc, own.skip]
    rw [starts, List.cons_append] at read ⊢
    -- A closing bracket right behind the opening one would mean that there are no items.
    split
    next same => exact absurd (List.cons.inj same).1 fun same => apart (same ▸ by decide)
    next => rw [read]; rfl

/-- An object with names that differ is read back where its values are. -/
theorem obj {members : List (τ × Json τ)} (distinct : (members.map (·.1)).Nodup)
    (named : ∀ member ∈ members, Unpaired (CodePoints.points member.1))
    (reads : ∀ member ∈ members, Reads member.2) : Reads (.obj members) := by
  refine ⟨⟨'{', _, rfl, by decide⟩, fun fuel rest enough _ => ?_⟩
  cases members with
  | nil =>
    obtain ⟨fuel, rfl⟩ := Nat.exists_eq_add_of_le' enough
    rfl
  | cons member members =>
    obtain ⟨name, item⟩ := member
    rw [compact, List.length_cons, List.length_append, List.length_singleton] at enough
    obtain ⟨fuel, rfl⟩ : ∃ less, fuel = less + 1 := ⟨fuel - 1, by omega⟩
    obtain ⟨others, written⟩ := compactMembers_head name item members
    have read := readMembers_compact ((name, item) :: members) fuel rest (List.cons_ne_nil _ _)
      (fun member there => ⟨named member there, reads member there⟩) (by omega)
    rw [compact, List.cons_append, List.append_assoc, List.singleton_append, readValue,
      if_neg (by decide), if_neg (by decide), if_pos rfl, written, List.cons_append,
      skip_cons (by decide)]
    rw [written, List.cons_append] at read
    -- A closing brace right behind the opening one would mean that there are no members.
    split
    next same => exact absurd (List.cons.inj same).1 (by decide)
    next =>
      rw [read]
      show some (Json.obj (update [] ((name, item) :: members)), rest) = _
      rw [update_distinct distinct]
      rfl

mutual

/-- A plain value is read from its compact text. -/
theorem of_plain : ∀ value : Json, plain value = true → Reads value
  -- The recursion is the one of the value, with its two loops below.
  | .null, _ => ⟨compact_head rfl, fun fuel rest enough _ => by
    obtain ⟨fuel, rfl⟩ := Nat.exists_eq_add_of_le' enough
    rfl⟩
  | .bool truth, plain_ => ⟨compact_head plain_, fun fuel rest enough _ => by
    cases truth <;> obtain ⟨fuel, rfl⟩ := Nat.exists_eq_add_of_le' enough <;> rfl⟩
  | .int value, _ => int value
  | .float _, plain_ => by cases plain_
  | .str text, _ => str (unpaired_string text)
  | .arr items, plain_ => arr (of_plainItems items (by rwa [plain] at plain_))
  | .obj members, plain_ => by
    rw [plain, Bool.and_eq_true, decide_eq_true_eq] at plain_
    exact obj plain_.1 (fun member _ => unpaired_string member.1) (of_plainMembers members plain_.2)

/-- Items without floats are read back. -/
theorem of_plainItems : ∀ items : List Json, plainItems items = true →
    ∀ item ∈ items, Reads item
  -- The recursion goes through the items and into each of them.
  | [], _ => fun _ there => absurd there List.not_mem_nil
  | item :: items, plain_ => by
    rw [plainItems, Bool.and_eq_true] at plain_
    exact List.forall_mem_cons.mpr ⟨of_plain item plain_.1, of_plainItems items plain_.2⟩

/-- Members without floats are read back. -/
theorem of_plainMembers : ∀ members : List (String × Json), plainMembers members = true →
    ∀ member ∈ members, Reads member.2
  -- The recursion goes through the members and into each of them.
  | [], _ => fun _ there => absurd there List.not_mem_nil
  | (_, item) :: members, plain_ => by
    rw [plainMembers, Bool.and_eq_true] at plain_
    exact List.forall_mem_cons.mpr ⟨of_plain item plain_.1, of_plainMembers members plain_.2⟩

end

/-- A value that is read back is read from its canonical text, with its members sorted. -/
theorem loads [LinearOrder τ] {value : Json τ} (reads : Reads (sorted value)) :
    loadsAs τ (canonical value) = some (sorted value) := by
  -- The fuel is one more than the length of the text, which is always enough.
  have read := reads.read ((compact (sorted value)).length + 1) [] (by omega) ends_nil
  have same := reads.skip []
  rw [List.append_nil] at read same
  rw [loadsAs, canonical, String.toList_ofList, same, read]
  rfl

end Reads

/-- A plain value is read from its canonical text, with its members sorted. -/
theorem loads_canonical {value : Json} (plain_ : plain (sorted value) = true) :
    loads (canonical value) = some (sorted value) := (Reads.of_plain _ plain_).loads

/-- Plain values with one canonical text are the same, up to the order of their members. -/
theorem canonical_injective {one two : Json} (first : plain (sorted one) = true)
    (second : plain (sorted two) = true) (same : canonical one = canonical two) :
    sorted one = sorted two := by
  -- Both texts are the same, so they are read as the same value.
  have read := loads_canonical first
  rw [same, loads_canonical second] at read
  exact (Option.some.inj read).symm

/-- An object that is read has no name twice. -/
theorem loads_distinct {text : String} {value : Json τ} (read : loadsAs τ text = some value) :
    value.Distinct := by
  -- Only the reader of objects makes an object, and it sets its members one by one.
  have one {fuel : ℕ} {text rest : List Char} (found : readValue fuel text = some (value, rest)) :
      value.Distinct := by
    match fuel, text with
    | 0, _ => cases found
    | _ + 1, [] => cases found
    | fuel + 1, first :: others =>
      rw [readValue] at found
      split at found
      · obtain ⟨_, -, same⟩ := Option.map_eq_some_iff.mp found
        obtain ⟨rfl, -⟩ := Prod.mk.inj same
        exact trivial
      split at found
      · split at found
        · obtain ⟨rfl, -⟩ := Prod.mk.inj (Option.some.inj found)
          exact trivial
        · obtain ⟨_, -, same⟩ := Option.map_eq_some_iff.mp found
          obtain ⟨rfl, -⟩ := Prod.mk.inj same
          exact trivial
      split at found
      · split at found
        · obtain ⟨rfl, -⟩ := Prod.mk.inj (Option.some.inj found)
          exact List.nodup_nil
        · obtain ⟨_, -, same⟩ := Option.map_eq_some_iff.mp found
          obtain ⟨rfl, -⟩ := Prod.mk.inj same
          exact nodup_update List.nodup_nil
      · exact readScalar_distinct found
  rw [loadsAs] at read
  split at read
  · next found =>
    split at read
    · obtain rfl := Option.some.inj read
      exact one found
    · cases read
  · cases read

end Compact

end Values

end Json
