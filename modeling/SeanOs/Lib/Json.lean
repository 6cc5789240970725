import SeanOs.Lib.Wide

/-! JSON values with the number kinds of a dynamic language, their equality and their sorted form. -/

/-- A float, kept exactly where it is finite. -/
inductive Number where
  | finite (value : ℚ)
  | negZero
  | infinite (negative : Bool)
  | nan
  deriving DecidableEq

/-- A JSON value with texts of one kind, and an object's members in the order they were inserted. -/
inductive Json (τ : Type := String) where
  | null
  | bool (value : Bool)
  | int (value : ℤ)
  | float (value : Number)
  | str (text : τ)
  | arr (items : List (Json τ))
  | obj (members : List (τ × Json τ))

namespace Json

variable {τ : Type}

mutual

/-- A value with its texts turned into ones of another kind. -/
def mapText {σ : Type} (turn : σ → τ) : Json σ → Json τ
  | .null => .null
  | .bool value => .bool value
  | .int value => .int value
  | .float value => .float value
  | .str text => .str (turn text)
  | .arr items => .arr (mapItems turn items)
  | .obj members => .obj (mapMembers turn members)

/-- Items with their texts turned. -/
def mapItems {σ : Type} (turn : σ → τ) : List (Json σ) → List (Json τ)
  | [] => []
  | item :: items => mapText turn item :: mapItems turn items

/-- Members with their names and the texts of their values turned. -/
def mapMembers {σ : Type} (turn : σ → τ) : List (σ × Json σ) → List (τ × Json τ)
  | [] => []
  | (name, item) :: members => (turn name, mapText turn item) :: mapMembers turn members

end

section Texts

variable [DecidableEq τ]

mutual

/-- Whether two values are the same value, member for member in the same order. -/
def same : Json τ → Json τ → Bool
  | .null, .null => true
  | .bool one, .bool two => one == two
  | .int one, .int two => one == two
  | .float one, .float two => one = two
  | .str one, .str two => one == two
  | .arr one, .arr two => sameItems one two
  | .obj one, .obj two => sameMembers one two
  | _, _ => false

/-- Whether two lists hold the same items. -/
def sameItems : List (Json τ) → List (Json τ) → Bool
  | [], [] => true
  | one :: ones, two :: twos => same one two && sameItems ones twos
  | _, _ => false

/-- Whether two lists hold the same members in the same order. -/
def sameMembers : List (τ × Json τ) → List (τ × Json τ) → Bool
  | [], [] => true
  | (name, one) :: ones, (key, two) :: twos =>
    name == key && (same one two && sameMembers ones twos)
  | _, _ => false

end

mutual

/-- The structural comparison decides equality. -/
theorem same_iff : ∀ one two : Json τ, same one two = true ↔ one = two
  -- Values of different kinds differ, and of one kind their parts are compared.
  | .null, two => by cases two <;> simp [same]
  | .bool _, two => by cases two <;> simp [same]
  | .int _, two => by cases two <;> simp [same]
  | .float _, two => by cases two <;> simp [same]
  | .str _, two => by cases two <;> simp [same]
  | .arr items, two => by
    cases two with
    | arr others => simp [same, sameItems_iff items others]
    | _ => simp [same]
  | .obj members, two => by
    cases two with
    | obj others => simp [same, sameMembers_iff members others]
    | _ => simp [same]

/-- The comparison of items decides equality. -/
theorem sameItems_iff : ∀ one two : List (Json τ), sameItems one two = true ↔ one = two
  -- The items are compared in pairs, and so are the lengths.
  | [], two => by cases two <;> simp [sameItems]
  | item :: items, two => by
    cases two with
    | nil => simp [sameItems]
    | cons other others =>
      simp [sameItems, same_iff item other, sameItems_iff items others]

/-- The comparison of members decides equality. -/
theorem sameMembers_iff : ∀ one two : List (τ × Json τ), sameMembers one two = true ↔ one = two
  | [], two => by cases two <;> simp [sameMembers]
  | (name, item) :: members, two => by
    cases two with
    | nil => simp [sameMembers]
    | cons other others =>
      obtain ⟨key, value⟩ := other
      simp [sameMembers, same_iff item value, sameMembers_iff members others, and_assoc]

end

/-- Values are compared as the test does. -/
instance : DecidableEq (Json τ) := fun one two => decidable_of_iff _ (same_iff one two)

/-- A value there always is. -/
instance : Inhabited (Json τ) := ⟨.null⟩

/-- The value of a member of an object, if it is an object and has it. -/
def get? (key : τ) : Json τ → Option (Json τ)
  | .obj members => (members.find? (·.1 == key)).map (·.2)
  | _ => none

/-- A member of a value whose texts were turned is the member with its texts turned. -/
theorem get?_mapText {σ : Type} [DecidableEq σ] {turn : σ → τ} {key : σ}
    (only : ∀ name, turn name = turn key → name = key) (value : Json σ) :
    (value.mapText turn).get? (turn key) = (value.get? key).map (mapText turn) := by
  cases value with
  | obj members =>
    rw [mapText, get?, get?]
    -- The first member with the name is in the same place, as other names stay other.
    induction members with
    | nil => rfl
    | cons member members ih =>
      obtain ⟨name, item⟩ := member
      rw [mapMembers]
      by_cases same : name = key
      · rw [List.find?_cons_of_pos (by simpa using congrArg turn same),
          List.find?_cons_of_pos (by simpa using same)]
        rfl
      · rw [List.find?_cons_of_neg (by simpa using fun turned => same (only name turned)),
          List.find?_cons_of_neg (by simpa using same), ih]
  | _ => rfl

/-- The text of a member, if the member is a text. -/
def text? (key : τ) (value : Json τ) : Option τ :=
  match value.get? key with
  | some (.str text) => some text
  | _ => none

/-- The number a value counts as in comparisons, where truth values count as zero and one. -/
def numeric : Json τ → Option Number
  | .bool value => some (.finite (if value then 1 else 0))
  | .int value => some (.finite value)
  | .float .negZero => some (.finite 0)
  | .float value => some value
  | _ => none

mutual

/-- Equality of values as the language compares them: numbers by value, objects in any order. -/
def equal : Json τ → Json τ → Bool
  | .null, .null => true
  | .str one, .str two => one == two
  | .arr one, .arr two => equalItems one two
  | .obj one, .obj two => one.length == two.length && equalMembers one two
  | one, two => match numeric one, numeric two with
    -- A float that is not a number equals nothing.
    | some one, some two => one = two && one ≠ .nan
    | _, _ => false

/-- Equality of lists, item by item. -/
def equalItems : List (Json τ) → List (Json τ) → Bool
  | [], [] => true
  | one :: ones, two :: twos => equal one two && equalItems ones twos
  | _, _ => false

/-- Whether every member has an equal one among others. -/
def equalMembers : List (τ × Json τ) → List (τ × Json τ) → Bool
  | [], _ => true
  | (name, one) :: ones, others =>
    (match others.find? (·.1 == name) with
      | some other => equal one other.2
      | none => false) && equalMembers ones others

end

/-- A value equals a text only where it is that text. -/
theorem equal_text {value : Json τ} {text : τ} :
    equal value (.str text) = true ↔ value = .str text := by
  cases value <;> simp [equal, Json.numeric]

/-- Whether a value counts as true in a condition. -/
def truthy : Json → Bool
  | .null => false
  | .bool value => value
  | .int value => value ≠ 0
  | .float value => value ≠ .finite 0 && value ≠ .negZero
  | .str text => text ≠ ""
  | .arr items => !items.isEmpty
  | .obj members => !members.isEmpty

/-- Set a member, in its place if the object has it and behind the others if it does not. -/
def setMember (key : τ) (value : Json τ) (members : List (τ × Json τ)) :
    List (τ × Json τ) :=
  if members.any (·.1 == key) then
    members.map fun member => if member.1 == key then (key, value) else member
  else
    members ++ [(key, value)]

/-- Merge members over those an object has. -/
def update (members later : List (τ × Json τ)) : List (τ × Json τ) :=
  later.foldl (fun merged member => setMember member.1 member.2 merged) members

end Texts

mutual

/--
A value as it is read back from its text: a pair of surrogates is the code point it stands for, and
of members that have one name then the last one counts.
-/
def reread : Json Wide → Json Wide
  | .str text => .str text.joined
  | .arr items => .arr (rereadItems items)
  | .obj members => .obj (update [] (rereadMembers members))
  | value => value

/-- Items as they are read back. -/
def rereadItems : List (Json Wide) → List (Json Wide)
  | [] => []
  | item :: items => reread item :: rereadItems items

/-- Members as they are read back. -/
def rereadMembers : List (Wide × Json Wide) → List (Wide × Json Wide)
  | [] => []
  | (name, item) :: members => (name.joined, reread item) :: rereadMembers members

end

section Order

variable [LinearOrder τ]

/-- Insert a member before the first one whose name is not earlier. -/
def insertMember (member : τ × Json τ) : List (τ × Json τ) → List (τ × Json τ)
  | [] => [member]
  | first :: rest =>
    if first.1 < member.1 then first :: insertMember member rest else member :: first :: rest

mutual

/-- A value with the members of every object in it sorted by name, as sorted dumps write them. -/
def sorted : Json τ → Json τ
  | .arr items => .arr (sortedItems items)
  | .obj members => .obj (sortedMembers members)
  | value => value

/-- Items with every object in them sorted. -/
def sortedItems : List (Json τ) → List (Json τ)
  | [] => []
  | item :: items => sorted item :: sortedItems items

/-- Members sorted by name, with every object in them sorted. -/
def sortedMembers : List (τ × Json τ) → List (τ × Json τ)
  | [] => []
  | (name, item) :: members => insertMember (name, sorted item) (sortedMembers members)

end

variable [DecidableEq τ]

/-- Inserting a member among others that are searched by name. -/
theorem find?_insertMember (member : τ × Json τ) (members : List (τ × Json τ))
    (key : τ) :
    (insertMember member members).find? (·.1 == key) =
      if member.1 = key then some member else members.find? (·.1 == key) := by
  -- A member that stays in front of the new one has an earlier name.
  induction members with
  | nil =>
    by_cases same : member.1 = key
    · rw [insertMember, List.find?_cons_of_pos (by simpa using same), if_pos same]
    · rw [insertMember, List.find?_cons_of_neg (by simpa using same), if_neg same]
  | cons first rest ih =>
    rw [insertMember]
    split
    · next earlier =>
      by_cases found : first.1 = key
      · have other : member.1 ≠ key := by
          rintro rfl
          exact absurd (found ▸ earlier) (lt_irrefl _)
        rw [List.find?_cons_of_pos (by simpa using found), if_neg other,
          List.find?_cons_of_pos (by simpa using found)]
      · rw [List.find?_cons_of_neg (by simpa using found), ih,
          List.find?_cons_of_neg (by simpa using found)]
    · by_cases same : member.1 = key
      · rw [List.find?_cons_of_pos (by simpa using same), if_pos same]
      · rw [List.find?_cons_of_neg (by simpa using same), if_neg same]

/-- Sorting the members of an object sorts each of them and loses none. -/
theorem find?_sortedMembers (members : List (τ × Json τ)) (key : τ) :
    (sortedMembers members).find? (·.1 == key) =
      (members.find? (·.1 == key)).map fun member => (member.1, sorted member.2) := by
  induction members with
  | nil => rfl
  | cons member members ih =>
    obtain ⟨name, item⟩ := member
    rw [sortedMembers, find?_insertMember, ih]
    -- A member that was inserted is found before the ones of its name behind it.
    by_cases same : name = key
    · rw [if_pos same, List.find?_cons_of_pos (by simpa using same), Option.map_some]
    · rw [if_neg same, List.find?_cons_of_neg (by simpa using same)]

/-- A member of a sorted value is the sorted member. -/
theorem get?_sorted (key : τ) (value : Json τ) :
    (sorted value).get? key = (value.get? key).map sorted := by
  -- Only an object has members.
  cases value with
  | obj members =>
    rw [sorted, get?, find?_sortedMembers, Option.map_map, get?, Option.map_map]
    rfl
  | _ => rfl

/-- A text member is the same in a sorted value. -/
theorem text?_sorted (key : τ) (value : Json τ) : (sorted value).text? key = value.text? key := by
  rw [text?, get?_sorted, text?]
  -- A text is sorted already, and what is none stays none.
  cases value.get? key with
  | none => rfl
  | some item => cases item <;> rfl

end Order

end Json
