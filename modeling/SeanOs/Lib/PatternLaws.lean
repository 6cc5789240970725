import SeanOs.Lib.Pattern

/-! What the matches of regular expressions pass over. -/

namespace Pattern

/-- A run ends behind as many characters as it is long, all of which pass its test. -/
theorem runEnds_taken {test : Char → Bool} {before : Option Char} {text : List Char}
    {stop : ℕ × Place} (there : stop ∈ runEnds test before text) :
    stop.2.2 = text.drop stop.1 ∧ stop.1 ≤ text.length ∧ ∀ c ∈ text.take stop.1, test c := by
  induction text generalizing before stop with
  | nil =>
    obtain rfl : stop = (0, before, []) := by simpa [runEnds] using there
    simp
  | cons first rest ih =>
    rw [runEnds, List.mem_cons] at there
    rcases there with rfl | further
    · simp
    -- A longer run passes over the first character, and is a run behind it.
    · by_cases passes : test first = true
      · rw [if_pos passes, List.mem_map] at further
        obtain ⟨shorter, member, rfl⟩ := further
        obtain ⟨same, short, all⟩ := ih member
        refine ⟨same, Nat.succ_le_succ short, ?_⟩
        intro c taken
        rw [List.take_succ_cons, List.mem_cons] at taken
        rcases taken with rfl | behind
        · exact passes
        · exact all c behind
      · rw [if_neg passes] at further
        cases further

/-- A run can go on to the end of a text whose characters all pass its test. -/
theorem runEnds_whole {test : Char → Bool} {text : List Char} (all : ∀ c ∈ text, test c) :
    ∀ before, ∃ last, (text.length, last, []) ∈ runEnds test before text := by
  induction text with
  | nil => exact fun before => ⟨before, by simp [runEnds]⟩
  | cons first rest ih =>
    intro before
    obtain ⟨last, there⟩ := ih (fun c behind => all c (List.mem_cons_of_mem _ behind)) (some first)
    -- The first character passes, and so the run goes on to where the rest of it ends.
    refine ⟨last, ?_⟩
    rw [runEnds, if_pos (all first List.mem_cons_self)]
    exact List.mem_cons_of_mem _ (List.mem_map.mpr ⟨_, there, rfl⟩)

/-- A run matches the texts of its lengths whose characters all pass its test. -/
theorem fullmatch_run (test : Char → Bool) (least : ℕ) (most : Option ℕ) (text : String) :
    fullmatch (.run test least most) text = true ↔
      (∀ c ∈ text.toList, test c) ∧ least ≤ text.length ∧ ∀ bound ∈ most, text.length ≤ bound := by
  rw [fullmatch, List.any_eq_true]
  constructor
  · rintro ⟨place, there, ended⟩
    rw [ends, List.mem_map] at there
    obtain ⟨stop, member, rfl⟩ := there
    rw [List.mem_filter, Bool.and_eq_true, decide_eq_true_eq] at member
    obtain ⟨same, short, all⟩ := runEnds_taken member.1
    -- Nothing is left behind the run, so it is the whole text.
    have length : text.toList.length = stop.1 := by
      rw [List.isEmpty_iff.mp ended] at same
      exact le_antisymm (List.drop_eq_nil_iff.mp same.symm) short
    rw [← length, List.take_length] at all
    rw [← length, String.length_toList] at member
    refine ⟨all, member.2.1, fun bound known => ?_⟩
    rw [known] at member
    simpa using member.2.2
  · rintro ⟨all, long, short⟩
    obtain ⟨last, there⟩ := runEnds_whole all none
    refine ⟨(last, []), ?_, rfl⟩
    rw [ends, List.mem_map]
    refine ⟨_, List.mem_filter.mpr ⟨there, ?_⟩, rfl⟩
    rw [Bool.and_eq_true, decide_eq_true_eq, String.length_toList]
    refine ⟨long, ?_⟩
    cases most with
    | none => rfl
    | some bound => simpa using short bound rfl

/-- A match leaves a part of what stood behind the place it starts at. -/
theorem ends_suffix {pattern : Regex} {place stop : Place} (there : stop ∈ ends pattern place) :
    stop.2 <:+ place.2 := by
  -- Every pattern takes characters from the front, or none.
  induction pattern generalizing place stop with
  | run test least most =>
    rw [ends, List.mem_map] at there
    obtain ⟨run, member, rfl⟩ := there
    rw [(runEnds_taken (List.mem_filter.mp member).1).1]
    exact List.drop_suffix _ _
  | edge word =>
    rw [ends] at there
    split at there
    · rw [List.mem_singleton.mp there]
    · cases there
  | seq first second ihFirst ihSecond =>
    rw [ends, List.mem_flatMap] at there
    obtain ⟨middle, one, two⟩ := there
    exact (ihSecond two).trans (ihFirst one)
  | alt first second ihFirst ihSecond =>
    rw [ends, List.mem_append] at there
    exact there.elim ihFirst ihSecond

/-- Every match of an expression passes over a character that passes a test. -/
def Passes (pattern : Regex) (test : Char → Bool) : Prop :=
  ∀ place, ∀ stop ∈ ends pattern place, ∃ c ∈ place.2, test c

namespace Passes

variable {first second : Regex} {test : Char → Bool}

/-- A run that is not empty passes over a character of its own. -/
theorem run {least : ℕ} (some_ : 0 < least) (most : Option ℕ) :
    Passes (.run test least most) test := by
  intro place stop there
  rw [ends, List.mem_map] at there
  obtain ⟨run, member, rfl⟩ := there
  rw [List.mem_filter, Bool.and_eq_true, decide_eq_true_eq] at member
  obtain ⟨-, short, all⟩ := runEnds_taken member.1
  -- A run of one character at least has taken one, and each it took passes the test.
  obtain ⟨c, taken⟩ := List.exists_mem_of_length_pos (l := place.2.take run.1) (by
    rw [List.length_take]
    omega)
  exact ⟨c, List.mem_of_mem_take taken, all c taken⟩

/-- A pattern passes a character where its first half does. -/
theorem before (passes : Passes first test) : Passes (.seq first second) test := by
  intro place stop there
  rw [ends, List.mem_flatMap] at there
  -- The first half was matched, up to some place between.
  obtain ⟨middle, one, -⟩ := there
  exact passes place middle one

/-- A pattern passes a character where its second half does. -/
theorem behind (passes : Passes second test) : Passes (.seq first second) test := by
  intro place stop there
  rw [ends, List.mem_flatMap] at there
  -- What the second half takes is behind what the first one took.
  obtain ⟨middle, one, two⟩ := there
  obtain ⟨c, member, passed⟩ := passes middle stop two
  exact ⟨c, (ends_suffix one).mem member, passed⟩

/-- A fixed text passes over each of its characters. -/
theorem literal {text : List Char} {c : Char} (member : c ∈ text) :
    Passes (literal text) (· == c) := by
  induction text with
  | nil => cases member
  | cons head rest ih =>
    -- A character of the text is its first one, or it is in the rest.
    rcases List.mem_cons.mp member with rfl | further
    · exact before (run Nat.one_pos _)
    · exact behind (ih further)

/-- A text with a match has a character that every match passes over. -/
theorem search {pattern : Regex} {text : String} (passes : Passes pattern test)
    (found : search pattern text = true) : ∃ c ∈ text.toList, test c := by
  -- The match starts at one place of the text, and passes over a character behind it.
  suffices general : ∀ rest before, searchFrom pattern before rest = true → ∃ c ∈ rest, test c from
    general _ _ found
  intro rest
  induction rest with
  | nil =>
    intro before found
    rw [searchFrom, Bool.not_eq_true', List.isEmpty_eq_false_iff_exists_mem] at found
    obtain ⟨stop, there⟩ := found
    exact passes (before, []) stop there
  | cons head rest ih =>
    intro before found
    rw [searchFrom, Bool.or_eq_true, Bool.not_eq_true',
      List.isEmpty_eq_false_iff_exists_mem] at found
    rcases found with ⟨stop, there⟩ | later
    · exact passes (before, head :: rest) stop there
    · obtain ⟨c, member, passed⟩ := ih _ later
      exact ⟨c, List.mem_cons_of_mem _ member, passed⟩

end Passes

end Pattern
