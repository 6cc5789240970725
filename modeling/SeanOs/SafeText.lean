import SeanOs.Lib.PatternCuts
import SeanOs.Sample
import SeanOs.SecurityLaws
import SeanOs.TextLaws

/-! What text is like that was made safe for durable evidence, and where its cut spoils it. -/

namespace SeanOs

open Pattern

/-- Whether a character ends a line. -/
def isLineBreak (character : Char) : Bool :=
  character.val ∈ [0x0A, 0x0B, 0x0C, 0x0D, 0x1C, 0x1D, 0x1E, 0x85, 0x2028, 0x2029]

/-- What ends a line is whitespace, and a blank does not. -/
theorem isSpace_of_isLineBreak {character : Char} (break_ : isLineBreak character = true) :
    isSpace character = true ∧ character ≠ ' ' := by
  rw [isLineBreak, decide_eq_true_eq] at break_
  refine ⟨?_, ?_⟩
  -- All line breaks are blanks by the same table.
  · rw [isSpace, decide_eq_true_eq]
    revert break_
    generalize character.val = code
    simp only [List.mem_cons, List.not_mem_nil, or_false]
    rintro (rfl | rfl | rfl | rfl | rfl | rfl | rfl | rfl | rfl | rfl) <;> decide
  · rintro rfl
    revert break_
    decide

section Laws

variable [Platform]

/-- What the result of the sanitiser has to be: clean, one line, short, and kept by another pass. -/
structure Persistable (fallback : String) (max_length : ℕ) (text : String) : Prop where
  clean : Clean (.str text)
  line : ∀ c ∈ text.toList, isLineBreak c = false
  bounded : text.length ≤ max max_length fallback.length
  again : safe_persisted_text text fallback max_length = text

/-- The fallback is one line, and another pass takes it for the fallback's case or leaves it. -/
def FallbackStays (fallback : String) (max_length : ℕ) : Prop :=
  (∀ c ∈ fallback.toList, isLineBreak c = false) ∧
    ((joined fallback = "" ∨ ¬Clean (.str (joined fallback))) ∨
      joined fallback = fallback ∧ fallback.length ≤ max_length)

/-- A cut inside a word, directly behind what a secret pattern matches if the word ends there. -/
def CutsSecret (text : List Char) (cut : ℕ) : Prop :=
  ((text.drop cut).head?.map isWord).getD false = true ∧
    ∃ pattern ∈ SECRET_PATTERNS, matchesToEnd pattern.2 none (text.take cut) = true

/-- A text that fits, or is cut neither behind a blank nor behind what looks secret by itself. -/
def CutsCleanly (text : List Char) (max_length : ℕ) : Prop :=
  text.length ≤ max_length ∨
    (text.take max_length).getLast? ≠ some ' ' ∧ ¬CutsSecret text max_length

/-- All edges in the patterns are edges of words. -/
theorem edges_secret : ∀ pattern ∈ SECRET_PATTERNS, EdgesOf isWord pattern.2 := by
  -- The patterns are made of fixed texts, runs, and edges of words at their ends.
  have fixed (text : List Char) : EdgesOf isWord (literal text) := by
    induction text with
    | nil => exact trivial
    | cons first rest ih => exact ⟨trivial, ih⟩
  have spelled (letters : List Char) (rest : Regex) (edges : EdgesOf isWord rest) :
      EdgesOf isWord
        (letters.foldr (fun letter rest => .seq (one (·.toLower == letter)) rest) rest) := by
    induction letters with
    | nil => exact edges
    | cons first more ih => exact ⟨trivial, ih⟩
  intro pattern there
  simp only [SECRET_PATTERNS, List.mem_cons, List.not_mem_nil, or_false] at there
  rcases there with rfl | rfl | rfl | rfl
  · exact ⟨fixed _, trivial, fixed _⟩
  · exact ⟨rfl, fixed _, trivial, rfl⟩
  · exact ⟨rfl, fixed _, trivial, rfl⟩
  · exact ⟨rfl, spelled _ _ trivial, trivial, trivial, rfl⟩

/-- The beginning of a clean text is clean, unless it is cut behind what looks secret by itself. -/
theorem clean_take {text : List Char} (clean : Clean (.str (String.ofList text))) (cut : ℕ) :
    Clean (.str (String.ofList (text.take cut))) ↔ ¬CutsSecret text cut := by
  rw [clean_str] at clean ⊢
  simp only [search, String.toList_ofList] at clean ⊢
  -- A match within the part is a match of the whole, unless the cut has made the edge of a word.
  constructor
  · rintro part ⟨-, pattern, there, ended⟩
    have found := search_of_matchesToEnd ended
    rw [part pattern there] at found
    cases found
  · intro apart pattern there
    rw [Bool.eq_false_iff]
    intro found
    rcases search_cut (edges_secret pattern there) found (text.drop cut) with whole | ended
    · rw [List.take_append_drop, clean pattern there] at whole
      cases whole
    · exact apart ⟨ended.1, pattern, there, ended.2⟩

/-- What the sanitiser does with the words of a value. -/
theorem safe_persisted_text_eq (value fallback : String) (max_length : ℕ) :
    safe_persisted_text value fallback max_length =
      if joined value = "" ∨ ¬Clean (.str (joined value)) then fallback
      else String.ofList ((joined value).toList.take max_length) := by
  rw [safe_persisted_text, strip_joined]
  rfl

/-- The fallback is what the sanitiser should return, exactly where it stays as it is. -/
theorem persistable_fallback {fallback : String} {max_length : ℕ} (clean : Clean (.str fallback)) :
    Persistable fallback max_length fallback ↔ FallbackStays fallback max_length := by
  -- The fallback is sanitised as any text is, and may be cut then.
  have again : safe_persisted_text fallback fallback max_length = fallback ↔
      (joined fallback = "" ∨ ¬Clean (.str (joined fallback))) ∨
        joined fallback = fallback ∧ fallback.length ≤ max_length := by
    rw [safe_persisted_text_eq]
    split
    next first => exact ⟨fun _ => .inl first, fun _ => rfl⟩
    next first =>
      rw [or_iff_right first, ← String.toList_inj, String.toList_ofList]
      constructor
      · intro taken
        refine ⟨joined_of_take taken, ?_⟩
        rw [← String.length_toList, ← taken, List.length_take]
        exact min_le_left _ _
      · rintro ⟨same, short⟩
        rw [same, List.take_of_length_le (by rwa [String.length_toList])]
  exact ⟨fun stays => ⟨stays.line, again.mp stays.again⟩,
    fun stays => ⟨clean, stays.1, le_max_right _ _, again.mpr stays.2⟩⟩

/-- A blank is no character of a word. -/
theorem isWord_blank : ¬((([' '] : List Char).head?.map isWord).getD false = true) := by
  simp [isWord]

/-- The first characters of clean words are what they should be, exactly where they are cut cleanly. -/
theorem persistable_take {fallback : String} {max_length : ℕ} (some_ : 1 ≤ max_length)
    {value : String} (words_ : joined value ≠ "") (clean : Clean (.str (joined value))) :
    Persistable fallback max_length (String.ofList ((joined value).toList.take max_length)) ↔
      CutsCleanly (joined value).toList max_length := by
  have spaced := spaced_joined value.toList
  have closed : joinedChars (joinedChars value.toList) = joinedChars value.toList := by
    rw [joinedChars_spaced spaced, rstripChars_joined]
  have there : joinedChars value.toList ≠ [] := by
    rw [← toList_joined]
    exact fun none_ => words_ (String.toList_eq_nil_iff.mp none_)
  rw [← @String.ofList_toList (joined value), toList_joined] at clean
  rw [toList_joined]
  generalize joinedChars value.toList = text at spaced closed there clean
  have part := spaced.take max_length
  have first : text.take max_length ≠ [] := by
    rw [Ne, List.take_eq_nil_iff, not_or]
    exact ⟨by omega, there⟩
  constructor
  · intro kept
    refine or_iff_not_imp_left.mpr fun long => ⟨fun blank => ?_, (clean_take clean _).mp kept.clean⟩
    -- Another pass would take away the blank in front of the cut.
    obtain ⟨word, same⟩ := List.getLast?_eq_some_iff.mp blank
    rw [same] at part
    have again := kept.again
    rw [same] at again
    have shorter : joined (String.ofList (word ++ [' '])) = String.ofList word := by
      rw [← String.toList_inj, toList_joined, String.toList_ofList, String.toList_ofList,
        joinedChars_blank part]
    have some_ : word ≠ [] := by
      rintro rfl
      exact absurd (part.first ' ' rfl) (by decide)
    have inside : Clean (.str (String.ofList word)) := by
      have whole := kept.clean
      rw [same] at whole
      have shorter := clean_take whole word.length
      rw [List.take_left] at shorter
      refine shorter.mpr fun cuts => ?_
      rw [CutsSecret, List.drop_left] at cuts
      exact absurd cuts.1 isWord_blank
    rw [safe_persisted_text_eq, shorter, if_neg (by simp [some_, inside]), String.toList_ofList,
      ← String.toList_inj, String.toList_ofList, String.toList_ofList] at again
    have lengths := congrArg List.length again
    rw [List.length_take, List.length_append, List.length_singleton] at lengths
    omega
  · intro cut
    have stays (kept : joinedChars (text.take max_length) = text.take max_length)
        (inside : Clean (.str (String.ofList (text.take max_length)))) :
        Persistable fallback max_length (String.ofList (text.take max_length)) := by
      refine ⟨inside, fun c member => ?_, ?_, ?_⟩
      · rw [String.toList_ofList] at member
        rw [Bool.eq_false_iff]
        intro break_
        obtain ⟨space, other⟩ := isSpace_of_isLineBreak break_
        exact other (part.blank c member space)
      · rw [String.length_ofList, List.length_take]
        exact (min_le_left _ _).trans (le_max_left _ _)
      · have same : joined (String.ofList (text.take max_length)) =
            String.ofList (text.take max_length) := by
          rw [← String.toList_inj, toList_joined, String.toList_ofList, kept]
        rw [safe_persisted_text_eq, same, if_neg (by simp [inside, ← String.toList_eq_nil_iff, first]),
          String.toList_ofList, List.take_take, min_self]
    rcases cut with short | ⟨letter, apart⟩
    · rw [List.take_of_length_le short] at stays ⊢
      exact stays closed clean
    · exact stays (joinedChars_letter part letter) ((clean_take clean _).mpr apart)

/--
When sanitised text is really clean.

For the fallback it must be one line that another pass leaves as it is. The words of the value must
fit, or be cut where no blank and nothing that looks secret by itself stands in front of the cut.
-/
theorem sanitised_text_clean (value fallback : String) {max_length : ℕ} (some_ : 1 ≤ max_length)
    (clean : Clean (.str fallback)) :
    Persistable fallback max_length (safe_persisted_text value fallback max_length) ↔
      if joined value = "" ∨ ¬Clean (.str (joined value)) then FallbackStays fallback max_length
      else CutsCleanly (joined value).toList max_length := by
  rw [safe_persisted_text_eq]
  -- The text is replaced by the fallback, or it is cut.
  split
  · exact persistable_fallback clean
  next used =>
    rw [not_or, not_not] at used
    exact persistable_take some_ used.1 used.2

end Laws

section Examples

local instance sanitisedPlatform : Platform := Sample.platform []

/-- The fallback of operational evidence. -/
def Sample.redacted : String := "Sensitive detail redacted"

/-- A text that is short enough is persisted with its lines joined. -/
theorem sanitised_text_clean_short :
    Persistable Sample.redacted 500 (safe_persisted_text "lease \n expired" Sample.redacted 500) := by
  -- The text is used, and nothing of it is cut.
  have used : ¬(joined "lease \n expired" = "" ∨ ¬Clean (.str (joined "lease \n expired"))) ∧
      (joined "lease \n expired").toList.length ≤ 500 := by decide +kernel
  have some_ : 1 ≤ 500 := by decide
  have sound := sanitised_text_clean "lease \n expired" Sample.redacted some_ (by decide +kernel)
  rw [if_neg used.1] at sound
  exact sound.mpr (.inl used.2)

/-- A cut inside a long word leaves what looks like a key, and one behind a blank leaves the blank. -/
theorem sanitised_text_cut :
    Clean (.str Sample.redacted) ∧ Sample.redacted ≠ "" ∧
      ¬Clean (.str (safe_persisted_text "AKIAABCDEFGHIJKLMNOPQ" Sample.redacted 20)) ∧
      safe_persisted_text (safe_persisted_text "lease expired" Sample.redacted 6) Sample.redacted 6 ≠
        safe_persisted_text "lease expired" Sample.redacted 6 ∧
      safe_persisted_text (safe_persisted_text "" Sample.redacted 6) Sample.redacted 6 ≠
        safe_persisted_text "" Sample.redacted 6 := by
  decide +kernel

end Examples

end SeanOs
