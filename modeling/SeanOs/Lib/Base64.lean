import Mathlib

/-! Bytes as texts of sixty-four characters, and which texts are read as bytes. -/

namespace Base64

/-- The characters of a text, by the six bits they stand for. -/
def ALPHABET : List Char :=
  "ABCDEFGHIJKLMNOPQRSTUVWXYZabcdefghijklmnopqrstuvwxyz0123456789+/".toList

/-- The character of six bits. -/
def digit (value : ℕ) : Char := ALPHABET.getD value '='

/-- The six bits a character stands for, above sixty-three where it stands for none. -/
def value (character : Char) : ℕ := ALPHABET.idxOf character

/-- Whether a character stands for six bits. -/
def isDigit (character : Char) : Bool := value character < 64

/-- Bytes as a text, three of them in four characters. -/
def encode : List UInt8 → List Char
  | [] => []
  | [one] => [digit (one.toNat / 4), digit (one.toNat % 4 * 16), '=', '=']
  | [one, two] => [digit (one.toNat / 4), digit (one.toNat % 4 * 16 + two.toNat / 16),
      digit (two.toNat % 16 * 4), '=']
  | one :: two :: three :: rest =>
    digit (one.toNat / 4) :: digit (one.toNat % 4 * 16 + two.toNat / 16) ::
      digit (two.toNat % 16 * 4 + three.toNat / 64) :: digit (three.toNat % 64) :: encode rest

/-- The bytes of groups of six bits, of which the last may be shorter. -/
def decodeValues : List ℕ → Option (List UInt8)
  | [] => some []
  | [_] => none
  | [one, two] => some [.ofNat (one * 4 + two / 16)]
  | [one, two, three] =>
    some [.ofNat (one * 4 + two / 16), .ofNat (two % 16 * 16 + three / 4)]
  | one :: two :: three :: four :: rest => (decodeValues rest).map fun bytes =>
    .ofNat (one * 4 + two / 16) :: .ofNat (two % 16 * 16 + three / 4) ::
      .ofNat (three % 4 * 64 + four) :: bytes

/-- The bytes of a text that holds nothing but its characters and the padding behind them. -/
def decode (text : List Char) : Option (List UInt8) :=
  let digits := text.takeWhile isDigit
  let padding := text.dropWhile isDigit
  if padding.any (· ≠ '=') then none
  -- Padding behind whole groups is passed over, however long it is, but not at the start.
  else if (digits.length % 4 = 0 ∧ (digits = [] → padding = [])) ∨
      padding.length = 4 - digits.length % 4 then
    decodeValues (digits.map value)
  else none

/-- The bits of a digit are read back from it. -/
theorem value_digit {bits : ℕ} (small : bits < 64) : value (digit bits) = bits := by
  have every : ∀ bits < 64, value (digit bits) = bits := by decide +kernel
  exact every bits small

/-- A digit is the one of its bits. -/
theorem digit_value {character : Char} (known : isDigit character = true) :
    digit (value character) = character := by
  -- A character of the alphabet is found where it stands.
  have small : ALPHABET.idxOf character < ALPHABET.length := of_decide_eq_true known
  rw [digit, value, List.getD_eq_getElem _ _ small]
  exact List.getElem_idxOf small

/-- Six bits are written as a character of the alphabet. -/
theorem isDigit_digit {bits : ℕ} (small : bits < 64) : isDigit (digit bits) = true := by
  rw [isDigit, value_digit small]
  exact decide_eq_true small

/-- Whole groups are written without padding. -/
theorem isDigit_encode : ∀ bytes : List UInt8, 3 ∣ bytes.length →
    ∀ character ∈ encode bytes, isDigit character = true
  -- Whole groups leave no rest of one or two bytes, so only the case of three is met.
  | [], _ => fun _ there => absurd there List.not_mem_nil
  | [_], whole | [_, _], whole => by
    have impossible := Nat.le_of_dvd (Nat.succ_pos _) whole
    simp at impossible
  | one :: two :: three :: rest, whole => by
    have behind : 3 ∣ rest.length := (Nat.dvd_add_left (dvd_refl 3)).mp whole
    have bounds := And.intro one.toNat_lt (And.intro two.toNat_lt three.toNat_lt)
    rw [encode, List.forall_mem_cons, List.forall_mem_cons, List.forall_mem_cons,
      List.forall_mem_cons]
    refine ⟨isDigit_digit (by omega), isDigit_digit (by omega), isDigit_digit (by omega),
      isDigit_digit (by omega), isDigit_encode rest behind⟩

/-- Whole groups are read back as they were written. -/
theorem decodeValues_encode : ∀ bytes : List UInt8, 3 ∣ bytes.length →
    decodeValues ((encode bytes).map value) = some bytes
  | [], _ => rfl
  | [_], whole | [_, _], whole => by
    have impossible := Nat.le_of_dvd (Nat.succ_pos _) whole
    simp at impossible
  | one :: two :: three :: rest, whole => by
    have behind : 3 ∣ rest.length := (Nat.dvd_add_left (dvd_refl 3)).mp whole
    have bounds := And.intro one.toNat_lt (And.intro two.toNat_lt three.toNat_lt)
    rw [encode, List.map_cons, List.map_cons, List.map_cons, List.map_cons,
      value_digit (by omega), value_digit (by omega), value_digit (by omega),
      value_digit (by omega), decodeValues, decodeValues_encode rest behind, Option.map_some]
    -- Each byte is made of the bits it was cut into.
    have byte {value : ℕ} {byte : UInt8} (same : value = byte.toNat) : UInt8.ofNat value = byte := by
      rw [same, UInt8.ofNat_toNat]
    rw [@byte _ one (by omega), @byte _ two (by omega), @byte _ three (by omega)]

/-- How many bytes groups of six bits hold, none of which is a single one. -/
theorem length_decodeValues : ∀ {values : List ℕ} {bytes : List UInt8},
    decodeValues values = some bytes →
      bytes.length = values.length / 4 * 3 + (values.length % 4 - 1) ∧ values.length % 4 ≠ 1
  | [], _, read => by obtain rfl := Option.some.inj read; simp
  | [_, _], _, read | [_, _, _], _, read => by obtain rfl := Option.some.inj read; simp
  | one :: two :: three :: four :: rest, bytes, read => by
    rw [decodeValues, Option.map_eq_some_iff] at read
    -- Each group of four adds three bytes to what the others give.
    obtain ⟨others, behind, rfl⟩ := read
    have length := length_decodeValues behind
    simp only [List.length_cons, length]
    omega

/-- The characters of whole groups are what their bytes are written as. -/
theorem encode_decodeValues : ∀ {digits : List Char} {bytes : List UInt8},
    (∀ character ∈ digits, isDigit character = true) → digits.length % 4 = 0 →
      decodeValues (digits.map value) = some bytes → encode bytes = digits
  | [], _, _, _, read => by obtain rfl := Option.some.inj read; rfl
  | [_], _, _, whole, _ | [_, _], _, _, whole, _ | [_, _, _], _, _, whole, _ => by
    simp at whole
  | one :: two :: three :: four :: rest, bytes, known, whole, read => by
    rw [List.forall_mem_cons, List.forall_mem_cons, List.forall_mem_cons, List.forall_mem_cons]
      at known
    obtain ⟨first, second, third, fourth, behind⟩ := known
    have shorter : rest.length % 4 = 0 := (Nat.add_mod_right _ 4).symm.trans whole
    rw [List.map_cons, List.map_cons, List.map_cons, List.map_cons, decodeValues,
      Option.map_eq_some_iff] at read
    obtain ⟨others, decoded, rfl⟩ := read
    have bounds := And.intro (of_decide_eq_true first) (And.intro (of_decide_eq_true second)
      (And.intro (of_decide_eq_true third) (of_decide_eq_true fourth)))
    have byte {value : ℕ} (small : value < 256) : (UInt8.ofNat value).toNat = value := by
      rw [UInt8.toNat_ofNat', Nat.mod_eq_of_lt small]
    rw [encode, byte (by omega), byte (by omega), byte (by omega),
      encode_decodeValues behind shorter decoded]
    -- Each character stands for the bits that were put into the bytes.
    have char {bits : ℕ} {character : Char} (known : isDigit character = true)
        (same : bits = value character) : digit bits = character := by
      rw [same, digit_value known]
    rw [char first (by omega), char second (by omega), char third (by omega),
      char fourth (by omega)]

/-- A text of padding is as many marks as it is long. -/
theorem eq_replicate {padding : List Char} (all : padding.any (· ≠ '=') = false) :
    padding = List.replicate padding.length '=' := by
  -- No character differs from the padding, so each is the padding.
  rw [List.eq_replicate_iff]
  refine ⟨rfl, fun character there => ?_⟩
  rw [List.any_eq_false] at all
  simpa using all character there

/-- The characters of a text and the padding behind them are told apart. -/
theorem span_padding {digits : List Char} (known : ∀ character ∈ digits, isDigit character = true)
    (extra : ℕ) :
    (digits ++ List.replicate extra '=').takeWhile isDigit = digits ∧
      (digits ++ List.replicate extra '=').dropWhile isDigit = List.replicate extra '=' := by
  -- Padding is no character of the alphabet, so the digits end where it starts.
  have mark : isDigit '=' = false := by decide +kernel
  have stops : (List.replicate extra '=').takeWhile isDigit = [] ∧
      (List.replicate extra '=').dropWhile isDigit = List.replicate extra '=' := by
    cases extra with
    | zero => exact ⟨rfl, rfl⟩
    | succ extra =>
      rw [List.replicate_succ, List.takeWhile_cons_of_neg (by rw [mark]; exact Bool.false_ne_true),
        List.dropWhile_cons_of_neg (by rw [mark]; exact Bool.false_ne_true)]
      exact ⟨rfl, rfl⟩
  rw [List.takeWhile_append_of_pos known, List.dropWhile_append_of_pos known, stops.1, stops.2,
    List.append_nil]
  exact ⟨rfl, rfl⟩

/-- A text is made of groups of four characters. -/
theorem length_encode : ∀ bytes : List UInt8, (encode bytes).length % 4 = 0
  | [] | [_] | [_, _] => by simp [encode]
  | _ :: _ :: _ :: rest => (Nat.add_mod_right _ 4).trans (length_encode rest)

/-- Whole groups are read back with any padding behind them, if there is a group at all. -/
theorem decode_encode {bytes : List UInt8} (whole : 3 ∣ bytes.length) (some_ : bytes ≠ [])
    (extra : ℕ) : decode (encode bytes ++ List.replicate extra '=') = some bytes := by
  -- The padding is cut off first, and the digits before it are whole groups.
  obtain ⟨taken, left⟩ := span_padding (isDigit_encode bytes whole) extra
  have written : encode bytes ≠ [] := by
    match bytes, some_ with
    | [_], _ | [_, _], _ | _ :: _ :: _ :: _, _ => exact List.cons_ne_nil _ _
  unfold decode
  rw [taken, left]
  dsimp only
  rw [if_neg (by simp), if_pos (.inl ⟨length_encode bytes, fun none_ => absurd none_ written⟩),
    decodeValues_encode bytes whole]

/-- Whole groups are read from what they are written as, with padding behind it. -/
theorem eq_encode_of_decode {text : List Char} {bytes : List UInt8}
    (read : decode text = some bytes) (whole : 3 ∣ bytes.length) :
    ∃ extra, text = encode bytes ++ List.replicate extra '=' := by
  unfold decode at read
  dsimp only at read
  split at read
  · cases read
  next padded =>
    split at read
    -- What is read back to whole groups of bytes was made of whole groups of digits.
    · have known : ∀ character ∈ text.takeWhile isDigit, isDigit character = true :=
        fun character there => List.mem_takeWhile_imp there
      have groups : (text.takeWhile isDigit).length % 4 = 0 := by
        have length := length_decodeValues read
        rw [List.length_map] at length
        omega
      refine ⟨(text.dropWhile isDigit).length, ?_⟩
      rw [encode_decodeValues known groups read,
        ← eq_replicate (Bool.eq_false_iff.mpr padded), List.takeWhile_append_dropWhile]
    · cases read

end Base64
