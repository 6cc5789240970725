import SeanOs.Lib.JsonInside
import SeanOs.SecurityLaws

/-! What the scan for secret-like material finds in a value, and what it passes over. -/

namespace SeanOs

variable [Platform]

/-- No member of an object has a name of a list. -/
def NoKeyOf (names : List String) : Json → Prop
  | .obj members => ∀ member ∈ members, normalizedKey member.1 ∉ names
  | _ => True

/-- A text in which no secret pattern is found. -/
def NoSecretText : Json → Prop
  | .str text => ∀ pattern ∈ SECRET_PATTERNS, Pattern.search pattern.2 text = false
  | _ => True

/-- A value is clean where no key in it is sensitive and no text in it looks secret. -/
theorem thorough_clean :
    Json.Thorough Clean (fun value => NoKeyOf SENSITIVE_KEYS value ∧ NoSecretText value) where
  scalar value scalar := by
    -- Of the scalars only a text is looked at, and it has no names.
    cases value with
    | arr | obj => cases scalar
    | str text => exact (clean_str text).trans ⟨fun clean => ⟨trivial, clean⟩, And.right⟩
    | null => exact ⟨fun _ => ⟨trivial, trivial⟩, fun _ => findings_numeric (.inr rfl) "$"⟩
    | bool | int => exact ⟨fun _ => ⟨trivial, trivial⟩, fun _ => clean_numeric rfl⟩
    | float number =>
      exact ⟨fun _ => ⟨trivial, trivial⟩, fun _ => clean_numeric (by cases number <;> rfl)⟩
  arr items := (clean_arr items).trans ⟨fun clean => ⟨⟨trivial, trivial⟩, clean⟩, And.right⟩
  obj members := by
    rw [clean_obj]
    exact ⟨fun clean => ⟨⟨fun member there => (clean member there).1, trivial⟩,
      fun member there => (clean member there).2⟩,
      fun ⟨⟨keys, _⟩, clean⟩ member there => ⟨keys member there, clean member there⟩⟩

/-- Some text in a value looks secret. -/
def HoldsSecretText (value : Json) : Prop :=
  ∃ text, Json.Inside (.str text) value ∧
    ∃ pattern ∈ SECRET_PATTERNS, Pattern.search pattern.2 text = true

/-- Some key of an object in a value is a sensitive one. -/
def HoldsSensitiveKey (value : Json) : Prop :=
  ∃ members, Json.Inside (.obj members) value ∧
    ∃ member ∈ members, normalizedKey member.1 ∈ SENSITIVE_KEYS

/-- Some key of an object in a value looks secret itself. -/
def HoldsSecretKey (value : Json) : Prop :=
  ∃ members, Json.Inside (.obj members) value ∧
    ∃ member ∈ members, ∃ pattern ∈ SECRET_PATTERNS, Pattern.search pattern.2 member.1 = true

/-- No text and no key in a value looks secret, and no key is a sensitive one. -/
def Secretless (value : Json) : Prop :=
  ¬HoldsSecretText value ∧ ¬HoldsSecretKey value ∧ ¬HoldsSensitiveKey value

/-- The scan finds nothing where no text looks secret and no key is a sensitive one. -/
theorem clean_iff (value : Json) :
    Clean value ↔ ¬HoldsSecretText value ∧ ¬HoldsSensitiveKey value := by
  -- A scan goes everywhere inside, and looks at names and texts there.
  rw [thorough_clean.forall_inside value]
  constructor
  · refine fun clean => ⟨?_, ?_⟩
    · rintro ⟨text, inside, pattern, there, found⟩
      have none_ := (clean _ inside).2 pattern there
      rw [found] at none_
      cases none_
    · rintro ⟨members, inside, member, there, sensitive⟩
      exact (clean _ inside).1 member there sensitive
  · rintro ⟨texts, keys⟩ inner inside
    refine ⟨?_, ?_⟩
    · cases inner with
      | obj members => exact fun member there sensitive => keys ⟨members, inside, member, there, sensitive⟩
      | _ => exact trivial
    · cases inner with
      | str text =>
        intro pattern there
        rw [Bool.eq_false_iff]
        exact fun found => texts ⟨text, inside, pattern, there, found⟩
      | _ => exact trivial

/-- What the scan passes is free of secrets, unless a key looks secret itself. -/
theorem secretless_of_clean {value : Json} (clean : Clean value) :
    Secretless value ↔ ¬HoldsSecretKey value := by
  rw [clean_iff] at clean
  exact ⟨fun free => free.2.1, fun keys => ⟨clean.1, keys, clean.2⟩⟩

end SeanOs
