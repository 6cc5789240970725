import SeanOs.Lib.JsonText

/-! Texts of ASCII characters as bytes, one for each character, and JSON texts as such. -/

namespace Ascii

/-- Whether a text holds nothing but ASCII characters. -/
def Only (text : List Char) : Prop := ∀ character ∈ text, character.toNat < 128

/-- The bytes of a text in UTF-8. -/
def bytes (text : String) : List UInt8 := text.toList.flatMap String.utf8EncodeChar

/-- The text of bytes, if all of them are ASCII characters. -/
def read (raw : List UInt8) : Option String :=
  if raw.all (· < 128) then some (String.ofList (raw.map fun byte => Char.ofNat byte.toNat))
  else none

namespace Only

variable {one two : List Char}

/-- No character of an empty text is beyond ASCII. -/
theorem nil : Only [] := fun _ there => absurd there List.not_mem_nil

/-- A text that starts with an ASCII character is ASCII where the rest of it is. -/
theorem cons {first : Char} (small : first.toNat < 128) (behind : Only one) :
    Only (first :: one) := List.forall_mem_cons.mpr ⟨small, behind⟩

/-- Two ASCII texts make up another one. -/
theorem append (first : Only one) (second : Only two) : Only (one ++ two) :=
  List.forall_mem_append.mpr ⟨first, second⟩

/-- A text whose characters are among the ones of an ASCII text is ASCII. -/
theorem mono (all : Only two) (part : ∀ character ∈ one, character ∈ two) : Only one :=
  fun character there => all character (part character there)

/-- A text that is written out is ASCII where the test of its characters says so. -/
theorem word {text : List Char} (all : text.all (·.toNat < 128) = true) : Only text :=
  fun character there => of_decide_eq_true (List.all_eq_true.mp all character there)

/-- Digits are ASCII. -/
theorem digits {text : List Char} (all : ∀ character ∈ text, character.isDigit = true) :
    Only text := by
  intro character there
  -- The last of the digits is still below the bound.
  have known := all character there
  rw [Char.isDigit, Bool.and_eq_true, decide_eq_true_eq, decide_eq_true_eq] at known
  exact lt_of_le_of_lt (UInt32.le_iff_toNat_le.mp known.2) (by decide)

end Only

/-- An ASCII character is one byte. -/
theorem encode_char {character : Char} (small : character.toNat < 128) :
    String.utf8EncodeChar character = [UInt8.ofNat character.toNat] := by
  rw [String.utf8EncodeChar]
  exact if_pos (Nat.le_of_lt_succ small)

/-- The bytes of an ASCII text are the codes of its characters. -/
theorem bytes_eq {text : String} (only : Only text.toList) :
    bytes text = text.toList.map fun character => UInt8.ofNat character.toNat := by
  rw [bytes, List.flatMap_congr fun character there => encode_char (only character there)]
  exact List.flatMap_pure_eq_map _ _

/-- A text of ASCII characters is read back from its bytes. -/
theorem read_bytes {text : String} (only : Only text.toList) : read (bytes text) = some text := by
  -- A code below the bound fits into a byte, and comes back as it was.
  have back (character : Char) (there : character ∈ text.toList) :
      (UInt8.ofNat character.toNat).toNat = character.toNat := by
    have small := only character there
    rw [UInt8.toNat_ofNat', Nat.mod_eq_of_lt (by omega)]
  rw [read, bytes_eq only, if_pos ?_, List.map_map]
  · refine congrArg some ?_
    rw [List.map_congr_left (g := id) fun character there => ?_, List.map_id, String.ofList_toList]
    show Char.ofNat (UInt8.ofNat character.toNat).toNat = character
    rw [back character there, Char.ofNat_toNat]
  · rw [List.all_map, List.all_eq_true]
    intro character there
    refine decide_eq_true (UInt8.lt_iff_toNat_lt.mpr ?_)
    rw [back character there]
    exact only character there

end Ascii

namespace Json

open Ascii

/-- Code units are written in hexadecimal digits. -/
theorem only_unitText (unit : ℕ) : Only (unitText unit) := by
  -- Every one of the sixteen hexadecimal digits is ASCII, which can be looked through.
  have digit (value : ℕ) : (Nat.digitChar (value % 16)).toNat < 128 := by
    have every : ∀ value < 16, (Nat.digitChar value).toNat < 128 := by decide
    exact every _ (Nat.mod_lt _ (by decide))
  exact .cons (by decide) (.cons (by decide) (.cons (digit _) (.cons (digit _)
    (.cons (digit _) (.cons (digit _) .nil)))))

/-- Every code point of a text is written in ASCII. -/
theorem only_pointText (point : ℕ) : Only (pointText point) := by
  have escape (letter : Char) (small : letter.toNat < 128) : Only ['\\', letter] :=
    .cons (by decide) (.cons small .nil)
  -- The escapes are checked one by one, in the order in which they are tried.
  unfold pointText
  split
  · next special => rcases special with rfl | rfl <;> exact escape _ (by decide)
  split
  · exact escape 'n' (by decide)
  split
  · exact escape 'r' (by decide)
  split
  · exact escape 't' (by decide)
  split
  · exact escape 'f' (by decide)
  split
  · exact escape 'b' (by decide)
  split
  · next plain =>
    refine .cons ?_ .nil
    rw [Char.toNat_ofNat, if_pos (Or.inl (by omega))]
    omega
  split
  -- What is left is beyond ASCII and written as one unit or as two.
  · exact only_unitText _
  · exact (only_unitText _).append (only_unitText _)

/-- The decimal digits of a number are ASCII. -/
theorem only_toDigits (size : ℕ) : Only (Nat.toDigits 10 size) :=
  .digits fun _ there => Nat.isDigit_of_mem_toDigits (by decide) (by decide) there

/-- A double is written in digits, a point, an exponent and signs, or in a word. -/
theorem only_double (value : Number) : Only (Double.text value) := by
  -- The parts are ASCII one by one: the digits, the zeros and the exponent.
  have shortest (value : ℚ) : Only (Double.shortest value).1 := by
    unfold Double.shortest
    dsimp only
    intro character there
    rw [List.mem_reverse] at there
    exact only_toDigits _ _ (List.mem_reverse.mp ((List.dropWhile_sublist _).mem there))
  have zeros (count : ℕ) : Only (List.replicate count '0') := fun character there => by
    rw [List.eq_of_mem_replicate there]
    decide
  have exponent (value : ℤ) : Only (Double.exponentText value) := by
    unfold Double.exponentText
    dsimp only
    refine .cons (by decide) (.cons (by split <;> decide) ?_)
    split
    · exact .cons (by decide) (only_toDigits _)
    · exact only_toDigits _
  have magnitude (value : ℚ) : Only (Double.magnitudeText value) := by
    have digits := shortest value
    unfold Double.magnitudeText
    generalize Double.shortest value = found at digits ⊢
    obtain ⟨text, point⟩ := found
    dsimp only at digits ⊢
    have taken (count : ℕ) : Only (text.take count) :=
      digits.mono fun _ there => List.mem_of_mem_take there
    have left (count : ℕ) : Only (text.drop count) :=
      digits.mono fun _ there => List.mem_of_mem_drop there
    split
    · refine .append (.append (taken 1) ?_) (exponent _)
      split
      · exact .nil
      · exact .cons (by decide) (left 1)
    split
    · exact .cons (by decide) (.cons (by decide) (.append (zeros _) digits))
    split
    · exact .append (.append digits (zeros _)) (.cons (by decide) (.cons (by decide) .nil))
    · exact .append (taken _) (.cons (by decide) (left _))
  -- What is written around them is a sign, a point or a name.
  cases value with
  | finite value =>
    rw [Double.text]
    split
    · exact .cons (by decide) (.cons (by decide) (.cons (by decide) .nil))
    split
    · exact .cons (by decide) (magnitude _)
    · exact magnitude _
  | negZero => exact .cons (by decide) (.cons (by decide) (.cons (by decide) (.cons (by decide) .nil)))
  | infinite negative => cases negative <;> exact .word rfl
  | nan => exact .word rfl

section Written

variable {τ : Type} [CodePoints τ]

/-- A text in quotes is written in ASCII. -/
theorem only_stringText (text : τ) : Only (stringText text) := by
  refine .cons (by decide) (.append ?_ (.cons (by decide) .nil))
  -- Between the quotes stands what the code points are written as.
  intro character there
  obtain ⟨original, -, written⟩ := List.mem_flatMap.mp there
  exact only_pointText original character written

mutual

/-- Every value is written in ASCII. -/
theorem only_compact : ∀ value : Json τ, Only (compact value)
  -- The recursion is the one of the writer, with its two loops below.
  | .null => .word rfl
  | .bool truth => by cases truth <;> exact .word rfl
  | .int value => by
    rw [compact]
    refine .append ?_ (only_toDigits _)
    split
    · exact .cons (by decide) .nil
    · exact .nil
  | .float value => by rw [compact]; exact only_double value
  | .str text => by rw [compact]; exact only_stringText text
  | .arr items => by
    rw [compact]
    exact .cons (by decide) (.append (only_compactItems items) (.cons (by decide) .nil))
  | .obj members => by
    rw [compact]
    exact .cons (by decide) (.append (only_compactMembers members) (.cons (by decide) .nil))

/-- The items of an array are written in ASCII. -/
theorem only_compactItems : ∀ items : List (Json τ), Only (compactItems items)
  -- The last item is written without a comma behind it.
  | [] => .nil
  | [item] => by rw [compactItems]; exact only_compact item
  | item :: next :: items => by
    rw [compactItems]
    exact .append (only_compact item) (.cons (by decide) (only_compactItems (next :: items)))

/-- The members of an object are written in ASCII. -/
theorem only_compactMembers : ∀ members : List (τ × Json τ), Only (compactMembers members)
  -- The last member is written without a comma behind it.
  | [] => .nil
  | [(name, item)] => by
    rw [compactMembers]
    exact .append (only_stringText name) (.cons (by decide) (only_compact item))
  | (name, item) :: next :: members => by
    rw [compactMembers]
    exact .append (only_stringText name) (.cons (by decide) (.append (only_compact item)
      (.cons (by decide) (only_compactMembers (next :: members)))))

end

/-- A canonical text holds nothing but ASCII characters. -/
theorem only_canonical [LinearOrder τ] (value : Json τ) : Only (canonical value).toList := by
  rw [canonical, String.toList_ofList]
  exact only_compact _

end Written

end Json
