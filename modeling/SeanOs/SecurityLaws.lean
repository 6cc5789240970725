import SeanOs.Security
import SeanOs.Lib.PatternLaws

/-! When the scan for secret-like material finds nothing. -/

namespace SeanOs

variable [Platform]

open Pattern

/-- A value in which the scan finds nothing. -/
def Clean (value : Json) : Prop := secret_findings value "$" = []

/-- Whether a value is clean can be computed. -/
instance (value : Json) : Decidable (Clean value) := inferInstanceAs (Decidable (_ = _))

unseal secret_findings in
/-- The findings in a text are the ones of the patterns. -/
theorem findings_str (text path : String) :
    secret_findings (.str text) path = textFindings text path := rfl

unseal secret_findings in
/-- The findings in an array are the ones of its items. -/
theorem findings_arr (items : List Json) (path : String) :
    secret_findings (.arr items) path = itemFindings items 0 path := rfl

unseal secret_findings in
/-- The findings in an object are the ones of its members. -/
theorem findings_obj (members : List (String × Json)) (path : String) :
    secret_findings (.obj members) path = memberFindings members path := rfl

unseal secret_findings in
/-- A number, a truth value and nothing at all have no findings. -/
theorem findings_numeric {value : Json} (known : (Json.numeric value).isSome ∨ value = .null)
    (path : String) : secret_findings value path = [] := by
  -- The other kinds of values count as no number.
  cases value with
  | null | bool _ | int _ | float _ => rfl
  | _ => rcases known with known | known <;> cases known

/-- No items have no findings. -/
theorem itemFindings_nil (index : ℕ) (path : String) : itemFindings [] index path = [] := rfl

/-- The findings in the first item come before the ones in the others. -/
theorem itemFindings_cons (item : Json) (items : List Json) (index : ℕ) (path : String) :
    itemFindings (item :: items) index path =
      secret_findings item (path ++ "[" ++ toString index ++ "]") ++
        itemFindings items (index + 1) path := rfl

/-- The findings in the first member come before the ones in the others. -/
theorem memberFindings_cons (key : String) (item : Json) (members : List (String × Json))
    (path : String) :
    memberFindings ((key, item) :: members) path =
      (if normalizedKey key ∈ SENSITIVE_KEYS then [⟨path ++ "." ++ key, "sensitive_key"⟩]
        else []) ++
        (secret_findings item (path ++ "." ++ key) ++ memberFindings members path) := (rfl)

/-- Whether a text looks secret does not depend on where it stands. -/
theorem textFindings_path (text one two : String) :
    textFindings text one = [] ↔ textFindings text two = [] := by
  rw [textFindings, textFindings, List.map_eq_nil_iff, List.map_eq_nil_iff]

mutual

/-- Whether there are findings in a value does not depend on where it stands. -/
theorem findings_path : ∀ (value : Json) (one two : String),
    secret_findings value one = [] ↔ secret_findings value two = []
  -- The path is only written down, so no branch of the scan depends on it.
  | .null, _, _ => by rw [findings_numeric (.inr rfl), findings_numeric (.inr rfl)]
  | .bool _, _, _ | .int _, _, _ => by
    rw [findings_numeric (.inl rfl), findings_numeric (.inl rfl)]
  | .float value, _, _ => by
    have known : (Json.numeric (.float value : Json)).isSome := by cases value <;> rfl
    rw [findings_numeric (.inl known), findings_numeric (.inl known)]
  | .str text, one, two => by
    rw [findings_str, findings_str]
    exact textFindings_path text one two
  | .arr items, one, two => by
    rw [findings_arr, findings_arr]
    exact itemFindings_path items 0 one two
  | .obj members, one, two => by
    rw [findings_obj, findings_obj]
    exact memberFindings_path members one two

/-- Whether there are findings in items does not depend on where they stand. -/
theorem itemFindings_path : ∀ (items : List Json) (index : ℕ) (one two : String),
    itemFindings items index one = [] ↔ itemFindings items index two = []
  -- Each item is scanned under a path of its own.
  | [], _, _, _ => by rw [itemFindings_nil, itemFindings_nil]
  | item :: items, index, one, two => by
    rw [itemFindings_cons, itemFindings_cons, List.append_eq_nil_iff, List.append_eq_nil_iff,
      findings_path item _ (two ++ "[" ++ toString index ++ "]"),
      itemFindings_path items (index + 1) one two]

/-- Whether there are findings in members does not depend on where they stand. -/
theorem memberFindings_path : ∀ (members : List (String × Json)) (one two : String),
    memberFindings members one = [] ↔ memberFindings members two = []
  | [], _, _ => Iff.rfl
  | (key, item) :: members, one, two => by
    rw [memberFindings_cons, memberFindings_cons, List.append_eq_nil_iff, List.append_eq_nil_iff,
      List.append_eq_nil_iff, List.append_eq_nil_iff, findings_path item _ (two ++ "." ++ key),
      memberFindings_path members one two]
    -- The name of a member counts wherever the member stands.
    split <;> simp

end

/-- An object is clean where its names are not sensitive and its values are clean. -/
theorem clean_obj (members : List (String × Json)) :
    Clean (.obj members) ↔ ∀ member ∈ members,
      normalizedKey member.1 ∉ SENSITIVE_KEYS ∧ Clean member.2 := by
  rw [Clean, findings_obj]
  induction members with
  | nil => exact ⟨fun _ _ none_ => absurd none_ (List.not_mem_nil), fun _ => rfl⟩
  | cons member members ih =>
    obtain ⟨key, item⟩ := member
    rw [memberFindings_cons, List.append_eq_nil_iff, List.append_eq_nil_iff, List.forall_mem_cons,
      ← ih, findings_path item _ "$", ← and_assoc, Clean]
    -- The name is a finding itself where it is a sensitive one.
    refine and_congr_left' (and_congr_left' ?_)
    split <;> simp_all

/-- A list is clean where its items are. -/
theorem clean_arr (items : List Json) : Clean (.arr items) ↔ ∀ item ∈ items, Clean item := by
  rw [Clean, findings_arr]
  -- The index is only written down, and counts up on the way.
  generalize 0 = index
  induction items generalizing index with
  | nil => exact ⟨fun _ _ none_ => absurd none_ (List.not_mem_nil), fun _ => rfl⟩
  | cons item items ih =>
    rw [itemFindings_cons, List.append_eq_nil_iff, ih, List.forall_mem_cons,
      findings_path item _ "$", Clean]

/-- A text is clean where no pattern matches anywhere in it. -/
theorem clean_str (text : String) :
    Clean (.str text) ↔ ∀ pattern ∈ SECRET_PATTERNS, search pattern.2 text = false := by
  rw [Clean, findings_str, textFindings, List.map_eq_nil_iff, List.filter_eq_nil_iff]
  simp only [Bool.not_eq_true]

/-- A number, a truth value or nothing at all is clean. -/
theorem clean_numeric {value : Json} (known : (Json.numeric value).isSome) : Clean value :=
  findings_numeric (.inl known) "$"

omit [Platform] in
/-- What stands behind the letters of a word is passed over by a match of both. -/
theorem passes_word {base : Regex} {test : Char → Bool} (passes : Passes base test)
    (letters : List Char) (one_ : Char → Regex) :
    Passes (letters.foldr (fun letter rest => .seq (one_ letter) rest) base) test := by
  -- The letters stand before what passes the character.
  induction letters with
  | nil => exact passes
  | cons letter letters ih => exact Passes.behind ih

/-- A text without dashes, without a capital K and without whitespace is clean. -/
theorem clean_plain {text : String}
    (plain : ∀ c ∈ text.toList, c ≠ '-' ∧ c ≠ 'K' ∧ isSpace c = false) : Clean (.str text) := by
  -- Every match of one of the patterns passes over such a character.
  rw [clean_str]
  intro pattern member
  rw [Bool.eq_false_iff]
  intro found
  simp only [SECRET_PATTERNS, List.mem_cons, List.not_mem_nil, or_false] at member
  rcases member with rfl | rfl | rfl | rfl
  · obtain ⟨c, there, same⟩ := ((Passes.literal (c := '-') (by decide)).before).search found
    exact (plain c there).1 (by simpa using same)
  · obtain ⟨c, there, same⟩ :=
      ((Passes.literal (c := '-') (by decide)).before.behind).search found
    exact (plain c there).1 (by simpa using same)
  · obtain ⟨c, there, same⟩ :=
      ((Passes.literal (c := 'K') (by decide)).before.behind).search found
    exact (plain c there).2.1 (by simpa using same)
  · obtain ⟨c, there, same⟩ :=
      ((passes_word (.run Nat.one_pos none) _ _).before.behind).search found
    rw [(plain c there).2.2] at same
    cases same

omit [Platform] in
/-- A text without whitespace is what is left of it without the whitespace at its ends. -/
theorem strip_plain {text : String} (plain : ∀ c ∈ text.toList, isSpace c = false) :
    strip text = text := by
  -- There is no blank at either end to be dropped.
  have keeps (characters : List Char) (all : ∀ c ∈ characters, isSpace c = false) :
      characters.dropWhile isSpace = characters := by
    cases characters with
    | nil => rfl
    | cons first rest =>
      rw [List.dropWhile_cons_of_neg]
      rw [all first List.mem_cons_self]
      exact Bool.false_ne_true
  rw [strip, keeps _ plain, keeps _ fun c member => plain c (List.mem_reverse.mp member),
    List.reverse_reverse, String.ofList_toList]

/-- Whether a name is made of small letters, digits and underscores. -/
def isPlainKey (key : String) : Bool :=
  key.toList.all fun c => c.isLower || c.isDigit || c == '_'

omit [Platform] in
/-- A character of a plain key is neither folded nor stripped nor replaced. -/
theorem plainCharacter {c : Char} (kind : (c.isLower || c.isDigit || c == '_') = true) :
    c.val < 128 ∧ c.toLower = c ∧ isSpace c = false ∧ c ≠ '-' ∧ c ≠ ' ' := by
  -- It is one of the first characters, all of which are looked at.
  have small : c.toNat < 128 := by
    simp only [Bool.or_eq_true, Char.isLower, Char.isDigit, Bool.and_eq_true, decide_eq_true_eq,
      beq_iff_eq, UInt32.le_iff_toNat_le] at kind
    rcases kind with (⟨-, bound⟩ | ⟨-, bound⟩) | rfl
    · exact lt_of_le_of_lt bound (by decide)
    · exact lt_of_le_of_lt bound (by decide)
    · decide
  have every : ∀ code < 128,
      ((Char.ofNat code).isLower || (Char.ofNat code).isDigit || Char.ofNat code == '_') = true →
        (Char.ofNat code).val < 128 ∧ (Char.ofNat code).toLower = Char.ofNat code ∧
          isSpace (Char.ofNat code) = false ∧ Char.ofNat code ≠ '-' ∧ Char.ofNat code ≠ ' ' := by
    decide +kernel
  have known := every c.toNat small
  rw [Char.ofNat_toNat] at known
  exact known kind

/-- A plain name is compared with the sensitive ones as it is. -/
theorem normalizedKey_plain {key : String} (plain : isPlainKey key = true) :
    normalizedKey key = key := by
  -- No step of the normalization changes any of the characters.
  have each (c : Char) (member : c ∈ key.toList) :
      c.val < 128 ∧ c.toLower = c ∧ isSpace c = false ∧ c ≠ '-' ∧ c ≠ ' ' := by
    have kind := List.all_eq_true.mp plain c member
    exact plainCharacter kind
  have lowered : lower key = key := by
    rw [lower, List.flatMap_congr (g := fun c => [c]) fun c member => by
      rw [if_pos (each c member).1, (each c member).2.1], List.flatMap_singleton', String.ofList_toList]
  have kept (old : Char) (absent : ∀ c ∈ key.toList, c ≠ old) : replace old '_' key = key := by
    rw [replace, List.map_congr_left (g := id) fun c member => by
      simp [absent c member], List.map_id, String.ofList_toList]
  rw [normalizedKey, strip_plain fun c member => (each c member).2.2.1, lowered,
    kept '-' fun c member => (each c member).2.2.2.1, kept ' ' fun c member => (each c member).2.2.2.2]

end SeanOs
