import SeanOs.Lib.PatternLaws

/-! Matches in the beginning of a text: they are matches in the whole text, or end where it is cut. -/

namespace Pattern

/-- All edges of an expression are those of the words of one kind of characters. -/
def EdgesOf (word : Char → Bool) : Regex → Prop
  | .run _ _ _ => True
  | .edge other => other = word
  | .seq first second => EdgesOf word first ∧ EdgesOf word second
  | .alt first second => EdgesOf word first ∧ EdgesOf word second

/-- Whether a match of an expression somewhere in a text goes on to its end. -/
def matchesToEnd (pattern : Regex) : Option Char → List Char → Bool
  | before, [] => (ends pattern (before, [])).any (·.2.isEmpty)
  | before, first :: rest =>
    (ends pattern (before, first :: rest)).any (·.2.isEmpty) ||
      matchesToEnd pattern (some first) rest

section Cuts

variable {word : Char → Bool} {tail : List Char}

/-- A run can end at once. -/
theorem runEnds_zero (test : Char → Bool) (before : Option Char) (text : List Char) :
    (0, before, text) ∈ runEnds test before text := by
  -- A run may end where it starts, at the end of the text as well as before it.
  cases text with
  | nil => exact List.mem_singleton_self _
  | cons first rest => exact List.mem_cons_self

/-- A run goes through the beginning of a text as through the whole. -/
theorem runEnds_append {test : Char → Bool} {before : Option Char} {text : List Char}
    {stop : ℕ × Place} (there : stop ∈ runEnds test before text) (tail : List Char) :
    (stop.1, stop.2.1, stop.2.2 ++ tail) ∈ runEnds test before (text ++ tail) := by
  induction text generalizing before stop with
  | nil =>
    cases List.mem_singleton.mp there
    exact runEnds_zero test before tail
  | cons first rest ih =>
    rw [runEnds, List.mem_cons] at there
    rcases there with rfl | further
    · exact runEnds_zero test before _
    -- The run goes on as long as the test passes, and the tail is further behind.
    by_cases passes : test first = true
    · rw [if_pos passes, List.mem_map] at further
      obtain ⟨shorter, member, rfl⟩ := further
      rw [List.cons_append, runEnds, if_pos passes]
      exact List.mem_cons_of_mem _ (List.mem_map.mpr ⟨_, ih member, rfl⟩)
    · rw [if_neg passes] at further
      cases further

/--
A match in the beginning of a text is one in the whole text.

At the cut it has to end before the last character, or no word may go on there.
-/
theorem ends_append {pattern : Regex} (edges : EdgesOf word pattern) {place stop : Place}
    (there : stop ∈ ends pattern place)
    (apart : stop.2 ≠ [] ∨ (tail.head?.map word).getD false = false) :
    (stop.1, stop.2 ++ tail) ∈ ends pattern (place.1, place.2 ++ tail) := by
  induction pattern generalizing place stop with
  | run test least most =>
    rw [ends, List.mem_map] at there
    obtain ⟨run, member, rfl⟩ := there
    rw [List.mem_filter] at member
    rw [ends, List.mem_map]
    exact ⟨_, List.mem_filter.mpr ⟨runEnds_append member.1 tail, member.2⟩, rfl⟩
  | edge other =>
    obtain rfl := edges
    rw [ends] at there
    split at there
    next edge =>
      cases List.mem_singleton.mp there
      -- The character behind the place is the same one, or both texts end a word there.
      have same : (place.2.head?.map other).getD false =
          ((place.2 ++ tail).head?.map other).getD false := by
        cases rest : place.2 with
        | nil =>
          rw [rest] at apart
          rw [List.nil_append, apart.resolve_left fun some_ => some_ rfl]
          rfl
        | cons => rfl
      rw [ends, ← same, if_pos edge]
      exact List.mem_singleton_self _
    next => cases there
  | seq first second ihFirst ihSecond =>
    rw [ends, List.mem_flatMap] at there
    obtain ⟨middle, one, two⟩ := there
    have between : middle.2 ≠ [] ∨ (tail.head?.map word).getD false = false := by
      refine apart.imp_left fun some_ none_ => some_ ?_
      have suffix := ends_suffix two
      rw [none_] at suffix
      exact List.suffix_nil.mp suffix
    rw [ends, List.mem_flatMap]
    exact ⟨_, ihFirst edges.1 one between, ihSecond edges.2 two apart⟩
  | alt first second ihFirst ihSecond =>
    rw [ends, List.mem_append] at there
    rw [ends, List.mem_append]
    exact there.imp (ihFirst edges.1 · apart) (ihSecond edges.2 · apart)

/-- A match that goes to the end of a text is a match in it. -/
theorem search_of_matchesToEnd {pattern : Regex} {before : Option Char} {text : List Char}
    (ended : matchesToEnd pattern before text = true) : searchFrom pattern before text = true := by
  -- A match that reaches the end is a match.
  have found {place : Place} (some_ : (ends pattern place).any (·.2.isEmpty) = true) :
      (!(ends pattern place).isEmpty) = true := by
    rw [List.any_eq_true] at some_
    obtain ⟨stop, there, -⟩ := some_
    rw [Bool.not_eq_true', List.isEmpty_eq_false_iff_exists_mem]
    exact ⟨stop, there⟩
  induction text generalizing before with
  | nil => exact found ended
  | cons first rest ih =>
    rw [matchesToEnd, Bool.or_eq_true] at ended
    rw [searchFrom, Bool.or_eq_true]
    exact ended.imp found ih

/-- What is found in the beginning of a text is found in the text, or the cut is inside a word. -/
theorem search_cut {pattern : Regex} (edges : EdgesOf word pattern) {before : Option Char}
    {text : List Char} (found : searchFrom pattern before text = true) (tail : List Char) :
    searchFrom pattern before (text ++ tail) = true ∨
      (tail.head?.map word).getD false = true ∧ matchesToEnd pattern before text = true := by
  -- A match stays one unless it ends where the text does and the tail goes on with a word.
  have here {place : Place} (some_ : (!(ends pattern place).isEmpty) = true) :
      (!(ends pattern (place.1, place.2 ++ tail)).isEmpty) = true ∨
        (tail.head?.map word).getD false = true ∧ (ends pattern place).any (·.2.isEmpty) = true := by
    rw [Bool.not_eq_true', List.isEmpty_eq_false_iff_exists_mem] at some_
    obtain ⟨stop, there⟩ := some_
    rw [Bool.not_eq_true', List.isEmpty_eq_false_iff_exists_mem, List.any_eq_true]
    by_cases last : stop.2 = []
    · cases goes : (tail.head?.map word).getD false with
      | true => exact .inr ⟨rfl, stop, there, List.isEmpty_iff.mpr last⟩
      | false => exact .inl ⟨_, ends_append edges there (.inr goes)⟩
    · exact .inl ⟨_, ends_append edges there (.inl last)⟩
  -- The match starts here or at a later character.
  induction text generalizing before with
  | nil =>
    rcases here found with whole | ended
    · refine .inl ?_
      cases tail with
      | nil => exact found
      | cons next tail =>
        rw [List.nil_append, searchFrom, Bool.or_eq_true]
        exact .inl whole
    · exact .inr ended
  | cons first rest ih =>
    rw [searchFrom, Bool.or_eq_true] at found
    rw [List.cons_append, searchFrom, Bool.or_eq_true, matchesToEnd, Bool.or_eq_true]
    rcases found with found | later
    · exact (here found).imp .inl (And.imp_right .inl)
    · exact (ih later).imp .inr (And.imp_right .inr)

end Cuts

end Pattern
