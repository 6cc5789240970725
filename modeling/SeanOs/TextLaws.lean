import SeanOs.Text

/-! What is left of a text whose words are put one blank apart, and of the beginnings of such a text. -/

namespace SeanOs

/-- The characters of a text whose words are one blank apart. -/
def joinedChars (text : List Char) : List Char := ((words text).intersperse [' ']).flatten

/-- The characters of a text whose words are joined. -/
theorem toList_joined (text : String) : (joined text).toList = joinedChars text.toList :=
  String.toList_ofList

/-- Characters without the whitespace behind them. -/
def rstripChars (text : List Char) : List Char := text.rdropWhile isSpace

unseal strip in
/-- The characters of a text without blanks around it. -/
theorem toList_strip (text : String) :
    (strip text).toList = rstripChars (text.toList.dropWhile isSpace) := String.toList_ofList

/-- Whitespace stays at the end of a text only where nothing else stands behind it. -/
theorem rstripChars_cons (first : Char) (rest : List Char) :
    rstripChars (first :: rest) =
      if rstripChars rest = [] ∧ isSpace first then [] else first :: rstripChars rest := by
  -- The blanks are dropped from the end, so it is the last character that decides.
  induction rest using List.reverseRecOn with
  | nil =>
    by_cases blank : isSpace first <;> simp [rstripChars, blank]
  | append_singleton rest last ih =>
    rw [← List.cons_append, rstripChars, rstripChars, List.rdropWhile_concat, List.rdropWhile_concat]
    split
    · exact ih
    · simp

section Words

variable {first next : Char} {rest : List Char}

/-- A character starts a word of its own, or it is in front of the first word of the rest. -/
theorem words_cons (first : Char) (rest : List Char) :
    words (first :: rest) =
      if isSpace first then words rest
      else match rest, words rest with
        | next :: _, word :: more =>
          if isSpace next then [first] :: word :: more else (first :: word) :: more
        | _, more => [first] :: more := rfl

/-- A blank in front is in no word. -/
theorem words_space (blank : isSpace first = true) : words (first :: rest) = words rest := by
  rw [words_cons, if_pos blank]

/-- A character in front of whitespace, or of nothing, is a word. -/
theorem words_apart (letter : isSpace first = false) (apart : rest.head?.all isSpace = true) :
    words (first :: rest) = [first] :: words rest := by
  rw [words_cons, if_neg (by simp [letter])]
  -- The next character is a blank, or there is none.
  cases rest with
  | nil => rfl
  | cons next rest =>
    have blank : isSpace next = true := by simpa using apart
    cases words (next :: rest) with
    | nil => rfl
    | cons word more =>
      dsimp only
      rw [if_pos blank]

/-- A character in front of a word belongs to it. -/
theorem words_within (letter : isSpace first = false) (within : isSpace next = false) :
    ∃ word more, words (next :: rest) = word :: more ∧
      words (first :: next :: rest) = (first :: word) :: more := by
  -- The next character is in some word, so there is a first one to be added to.
  have some_ : words (next :: rest) ≠ [] := by
    rw [words_cons, if_neg (by simp [within])]
    cases rest with
    | nil => exact List.cons_ne_nil _ _
    | cons after rest =>
      cases words (after :: rest) with
      | nil => exact List.cons_ne_nil _ _
      | cons word more =>
        dsimp only
        split <;> exact List.cons_ne_nil _ _
  cases found : words (next :: rest) with
  | nil => exact absurd found some_
  | cons word more =>
    refine ⟨word, more, rfl, ?_⟩
    rw [words_cons, if_neg (by simp [letter])]
    simp only [found, within, Bool.false_eq_true, if_false]

/-- The cases of a text: whitespace first, or a character in front of whitespace or of a character. -/
theorem text_cases {motive : List Char → Prop} (nil : motive [])
    (space : ∀ first rest, isSpace first = true → motive rest → motive (first :: rest))
    (apart : ∀ first rest, isSpace first = false → rest.head?.all isSpace = true → motive rest →
      motive (first :: rest))
    (within : ∀ first next rest, isSpace first = false → isSpace next = false →
      motive (next :: rest) → motive (first :: next :: rest)) (text : List Char) : motive text := by
  induction text with
  | nil => exact nil
  | cons first rest ih =>
    -- A letter is told by whether the next character is one too.
    by_cases blank : isSpace first = true
    · exact space first rest blank ih
    rw [Bool.not_eq_true] at blank
    cases rest with
    | nil => exact apart first [] blank rfl ih
    | cons next rest =>
      by_cases gap : isSpace next = true
      · exact apart first _ blank (by simpa using gap) ih
      · rw [Bool.not_eq_true] at gap
        exact within first next rest blank gap ih

/-- No word is empty. -/
theorem words_ne_nil (text : List Char) : ∀ word ∈ words text, word ≠ [] := by
  -- A word starts with its first letter and only gets longer.
  induction text using text_cases with
  | nil => nofun
  | space first rest blank ih =>
    rw [words_space blank]
    exact ih
  | apart first rest letter gap ih =>
    rw [words_apart letter gap]
    exact List.forall_mem_cons.mpr ⟨List.cons_ne_nil _ _, ih⟩
  | within first next rest letter within ih =>
    obtain ⟨word, more, found, longer⟩ := @words_within _ _ rest letter within
    rw [found, List.forall_mem_cons] at ih
    rw [longer]
    exact List.forall_mem_cons.mpr ⟨List.cons_ne_nil _ _, ih.2⟩

/-- Nothing is left of a text without words, and of no other. -/
theorem joinedChars_eq_nil {text : List Char} : joinedChars text = [] ↔ words text = [] := by
  rw [joinedChars]
  have some_ := words_ne_nil text
  cases found : words text with
  | nil => exact ⟨fun _ => rfl, fun _ => rfl⟩
  | cons word more =>
    rw [found] at some_
    -- A word is not empty, so what it is joined to is not either.
    have letters : word ≠ [] := some_ word List.mem_cons_self
    cases more with
    | nil => simpa using letters
    | cons => simp [List.intersperse_cons_cons, letters]

/-- A blank in front is left out. -/
theorem joinedChars_space (blank : isSpace first = true) :
    joinedChars (first :: rest) = joinedChars rest := by
  rw [joinedChars, words_space blank, joinedChars]

/-- A letter before a blank is a word of its own, with one blank behind it if there are more. -/
theorem joinedChars_apart (letter : isSpace first = false) (apart : rest.head?.all isSpace = true) :
    joinedChars (first :: rest) =
      if joinedChars rest = [] then [first] else first :: ' ' :: joinedChars rest := by
  -- Whether there are more words is whether anything is joined of them.
  by_cases none_ : joinedChars rest = []
  · rw [if_pos none_, joinedChars, words_apart letter apart, joinedChars_eq_nil.mp none_]
    rfl
  · rw [if_neg none_, joinedChars, words_apart letter apart, joinedChars]
    cases found : words rest with
    | nil => exact absurd (joinedChars_eq_nil.mpr found) none_
    | cons word more => rfl

/-- A letter before a letter stays in front of it. -/
theorem joinedChars_within (letter : isSpace first = false) (within : isSpace next = false) :
    joinedChars (first :: next :: rest) = first :: joinedChars (next :: rest) := by
  obtain ⟨word, more, found, longer⟩ := @words_within _ _ rest letter within
  rw [joinedChars, joinedChars, longer, found]
  -- Only the first word gets longer, and the others are joined to it as before.
  cases more <;> rfl

end Words

/-- A text that starts with no blank, and whose only whitespace is single blanks. -/
structure Spaced (text : List Char) : Prop where
  blank : ∀ c ∈ text, isSpace c = true → c = ' '
  apart : text.IsChain fun one two => isSpace one = true → isSpace two = false
  first : ∀ c ∈ text.head?, isSpace c = false

/-- What a text starts with is spaced as the text is. -/
theorem Spaced.take {text : List Char} (spaced : Spaced text) (n : ℕ) : Spaced (text.take n) where
  blank c there := spaced.blank c (List.mem_of_mem_take there)
  apart := spaced.apart.take n
  first := by
    -- The first character is still the first one, unless none is taken.
    cases n with
    | zero => nofun
    | succ n =>
      cases text with
      | nil => nofun
      | cons first rest => exact spaced.first

/-- In front of words stands no blank, and between them a single one. -/
theorem spaced_joined (text : List Char) : Spaced (joinedChars text) := by
  have blank : isSpace ' ' = true := by decide
  -- A blank is only put behind a word, and only where another word follows.
  induction text using text_cases with
  | nil => exact ⟨nofun, List.isChain_nil, nofun⟩
  | space first rest space ih =>
    rw [joinedChars_space space]
    exact ih
  | apart first rest letter gap ih =>
    rw [joinedChars_apart letter gap]
    split
    · refine ⟨fun c there space => ?_, List.isChain_singleton _, fun c there => ?_⟩
      · rw [List.mem_singleton.mp there, letter] at space
        cases space
      · cases there
        exact letter
    · refine ⟨fun c there space => ?_, ?_, fun c there => ?_⟩
      · rcases List.mem_cons.mp there with rfl | there
        · rw [letter] at space
          cases space
        rcases List.mem_cons.mp there with rfl | there
        · rfl
        · exact ih.blank c there space
      · refine .cons (.cons ih.apart fun c there _ => ih.first c there) fun c _ space => ?_
        rw [letter] at space
        cases space
      · cases there
        exact letter
  | within first next rest letter within ih =>
    rw [joinedChars_within letter within]
    refine ⟨fun c there space => ?_, .cons ih.apart fun c _ space => ?_, fun c there => ?_⟩
    · rcases List.mem_cons.mp there with rfl | there
      · rw [letter] at space
        cases space
      · exact ih.blank c there space
    · rw [letter] at space
      cases space
    · cases there
      exact letter

/-- A letter in front is never dropped from the end. -/
theorem rstripChars_letter {first : Char} {rest : List Char} (letter : isSpace first = false) :
    rstripChars (first :: rest) = first :: rstripChars rest := by
  rw [rstripChars_cons, if_neg (by simp [letter])]

/-- Behind the last word stands nothing. -/
theorem rstripChars_joined (text : List Char) :
    rstripChars (joinedChars text) = joinedChars text := by
  -- What is joined ends with a letter, so there is nothing to be dropped.
  induction text using text_cases with
  | nil => rfl
  | space first rest space ih => rw [joinedChars_space space, ih]
  | apart first rest letter gap ih =>
    rw [joinedChars_apart letter gap]
    split
    · rw [rstripChars_letter letter]
      rfl
    next some_ => rw [rstripChars_letter letter, rstripChars_cons, ih, if_neg fun none_ => some_ none_.1]
  | within first next rest letter within ih =>
    rw [joinedChars_within letter within, rstripChars_letter letter, ih]

/-- Single blanks between words stay as they are. -/
theorem joinedChars_eq_strip {text : List Char} (blank : ∀ c ∈ text, isSpace c = true → c = ' ')
    (apart : text.IsChain fun one two => isSpace one = true → isSpace two = false) :
    joinedChars text = rstripChars (text.dropWhile isSpace) := by
  induction text using text_cases with
  | nil => rfl
  | space first rest space ih =>
    rw [joinedChars_space space, List.dropWhile_cons_of_pos space]
    exact ih (fun c there => blank c (List.mem_cons_of_mem _ there)) apart.tail
  | apart first rest letter gap ih =>
    have joined := ih (fun c there => blank c (List.mem_cons_of_mem _ there)) apart.tail
    rw [joinedChars_apart letter gap, joined, List.dropWhile_cons_of_neg (by simp [letter]),
      rstripChars_letter letter]
    cases rest with
    | nil => rfl
    | cons next rest =>
      have space : isSpace next = true := by simpa using gap
      obtain rfl := blank next (List.mem_cons_of_mem _ List.mem_cons_self) space
      -- Behind the one blank the next word starts, if there is any.
      have starts : rest.dropWhile isSpace = rest := by
        cases rest with
        | nil => rfl
        | cons after rest =>
          rw [List.dropWhile_cons_of_neg]
          rw [apart.tail.rel_head? (Option.mem_some_self _) space]
          exact Bool.false_ne_true
      rw [List.dropWhile_cons_of_pos space, starts, rstripChars_cons, space]
      by_cases none_ : rstripChars rest = []
      · rw [if_pos none_, if_pos ⟨none_, rfl⟩]
      · rw [if_neg none_, if_neg fun both => none_ both.1]
  | within first next rest letter within ih =>
    have joined := ih (fun c there => blank c (List.mem_cons_of_mem _ there)) apart.tail
    rw [joinedChars_within letter within, joined, List.dropWhile_cons_of_neg (by simp [within]),
      List.dropWhile_cons_of_neg (by simp [letter]), rstripChars_letter letter]

/-- A spaced text is what is left of it, up to whitespace at its end. -/
theorem joinedChars_spaced {text : List Char} (spaced : Spaced text) :
    joinedChars text = rstripChars text := by
  rw [joinedChars_eq_strip spaced.blank spaced.apart]
  -- There is no blank in front, so only the end is stripped.
  cases text with
  | nil => rfl
  | cons first rest => rw [List.dropWhile_cons_of_neg (by simp [spaced.first first rfl])]

/-- Words that are one blank apart have no whitespace around them. -/
theorem strip_joined (text : String) : strip (joined text) = joined text := by
  rw [← String.toList_inj, toList_strip, toList_joined]
  -- What is joined starts with a letter, and it ends with one too.
  have starts : (joinedChars text.toList).dropWhile isSpace = joinedChars text.toList := by
    have first := (spaced_joined text.toList).first
    cases found : joinedChars text.toList with
    | nil => rfl
    | cons c rest =>
      rw [found] at first
      rw [List.dropWhile_cons_of_neg (by simp [first c rfl])]
  rw [starts, rstripChars_joined]

/-- What is left of a spaced text that ends with a blank are the characters before it. -/
theorem joinedChars_blank {text : List Char} (spaced : Spaced (text ++ [' '])) :
    joinedChars (text ++ [' ']) = text := by
  have blank : isSpace ' ' = true := by decide
  rw [joinedChars_spaced spaced, rstripChars, List.rdropWhile_concat_pos _ _ _ blank,
    List.rdropWhile_eq_self_iff]
  -- A blank before the last one would stand beside it.
  intro some_ space
  have apart := (List.isChain_append.mp spaced.apart).2.2 _ (List.getLast?_eq_some_getLast some_) ' '
    rfl space
  rw [blank] at apart
  cases apart

/-- What is left of a spaced text that does not end with a blank is all of it. -/
theorem joinedChars_letter {text : List Char} (spaced : Spaced text)
    (letter : text.getLast? ≠ some ' ') : joinedChars text = text := by
  rw [joinedChars_spaced spaced, rstripChars, List.rdropWhile_eq_self_iff]
  -- The only blank there is in such a text is the one that the end is not.
  intro some_ space
  refine letter ?_
  rw [List.getLast?_eq_some_getLast some_, spaced.blank _ (List.getLast_mem some_) space]

/-- A text that is the beginning of its own words is those words. -/
theorem joined_of_take {text : String} {length : ℕ}
    (taken : (joined text).toList.take length = text.toList) : joined text = text := by
  rw [toList_joined] at taken
  have spaced : Spaced text.toList := by
    rw [← taken]
    exact (spaced_joined _).take length
  rw [← String.toList_inj, toList_joined]
  by_cases blank : text.toList.getLast? = some ' '
  · -- Without the blank at its end it would have too few characters.
    obtain ⟨word, same⟩ := List.getLast?_eq_some_iff.mp blank
    rw [same] at spaced taken
    have shorter := congrArg List.length taken
    rw [joinedChars_blank spaced, List.length_take, List.length_append, List.length_singleton] at shorter
    omega
  · exact joinedChars_letter spaced blank

end SeanOs
