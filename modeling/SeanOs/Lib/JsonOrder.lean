import SeanOs.Lib.JsonText

/-! Objects as sets of members: what does not depend on the order the members stand in. -/

namespace Json

variable {τ : Type}

section Sorting

variable [LinearOrder τ]

/-- A member with the objects in its value sorted. -/
def sortedMember (member : τ × Json τ) : τ × Json τ := (member.1, sorted member.2)

/-- An insertion adds one member. -/
theorem insertMember_perm (member : τ × Json τ) (members : List (τ × Json τ)) :
    (insertMember member members).Perm (member :: members) := by
  induction members with
  | nil => rfl
  | cons first rest ih =>
    rw [insertMember]
    -- The member goes behind the first one, or before all of them.
    split
    · exact (ih.cons first).trans (List.Perm.swap member first rest)
    · rfl

/-- Sorting loses no member and adds none. -/
theorem sortedMembers_perm (members : List (τ × Json τ)) :
    (sortedMembers members).Perm (members.map sortedMember) := by
  induction members with
  | nil => rfl
  | cons member members ih =>
    obtain ⟨name, item⟩ := member
    rw [sortedMembers]
    -- The members behind are sorted, and then the first one is put among them.
    exact (insertMember_perm _ _).trans (ih.cons _)

/-- An insertion keeps members in the order of their names. -/
theorem insertMember_ordered {member : τ × Json τ} {members : List (τ × Json τ)}
    (ordered : members.Pairwise (·.1 ≤ ·.1)) :
    (insertMember member members).Pairwise (·.1 ≤ ·.1) := by
  induction members with
  | nil => exact List.pairwise_singleton _ _
  | cons first rest ih =>
    have behind := List.pairwise_cons.mp ordered
    rw [insertMember]
    split
    -- The first member stays in front, since it is before the new one.
    · next earlier =>
      refine List.pairwise_cons.mpr ⟨fun other there => ?_, ih behind.2⟩
      rcases List.mem_cons.mp ((insertMember_perm member rest).mem_iff.mp there) with rfl | kept
      · exact le_of_lt earlier
      · exact behind.1 other kept
    -- The new member is in front, since it is not behind the first one.
    · next later =>
      refine List.pairwise_cons.mpr ⟨fun other there => ?_, ordered⟩
      rcases List.mem_cons.mp there with rfl | further
      · exact not_lt.mp later
      · exact le_trans (not_lt.mp later) (behind.1 other further)

/-- Sorted members stand in the order of their names. -/
theorem sortedMembers_ordered (members : List (τ × Json τ)) :
    (sortedMembers members).Pairwise (·.1 ≤ ·.1) := by
  induction members with
  | nil => exact List.Pairwise.nil
  | cons member members ih =>
    obtain ⟨name, item⟩ := member
    -- The members behind are ordered already.
    exact insertMember_ordered ih

/-- Two lists of members with different names have one sorted form if they have the same members. -/
theorem sortedMembers_eq_iff {one two : List (τ × Json τ)} (distinct : (one.map (·.1)).Nodup) :
    sortedMembers one = sortedMembers two ↔
      (one.map sortedMember).Perm (two.map sortedMember) := by
  constructor
  · intro same
    exact (sortedMembers_perm one).symm.trans (same ▸ sortedMembers_perm two)
  · intro perm
    have perm_ : (sortedMembers one).Perm (sortedMembers two) :=
      (sortedMembers_perm one).trans (perm.trans (sortedMembers_perm two).symm)
    refine @List.Perm.eq_of_pairwise _ (fun a b => a.1 ≤ b.1) _ _ ?_ (sortedMembers_ordered one)
      (sortedMembers_ordered two) perm_
    -- Members with one name are one member, as the names differ.
    intro a b first second up down
    have names : ((sortedMembers one).map (·.1)).Nodup := by
      refine (((sortedMembers_perm one).map (·.1)).nodup_iff).mpr ?_
      rw [List.map_map]
      exact distinct
    exact List.inj_on_of_nodup_map names first (perm_.mem_iff.mpr second) (le_antisymm up down)

/-- The members of a value have different names, as the keys of a dictionary have. -/
def Distinct : Json τ → Prop
  | .obj members => (members.map (·.1)).Nodup
  | _ => True

/-- Whether a value holds no other values. -/
def isScalar : Json τ → Bool
  | .arr _ | .obj _ => false
  | _ => true

/-- A value whose sorted form holds no other values is that form. -/
theorem sorted_of_isScalar {value : Json τ} (scalar : isScalar (sorted value) = true) :
    sorted value = value := by
  -- A scalar is not sorted inside.
  cases value with
  | arr _ | obj _ => cases scalar
  | _ => rfl

/-- Members that hold no other values are sorted in themselves. -/
theorem map_sortedMember {members : List (τ × Json τ)}
    (scalars : ∀ member ∈ members, isScalar (sorted member.2) = true) :
    members.map sortedMember = members := by
  refine (List.map_congr_left fun member there => ?_).trans (List.map_id members)
  exact congrArg (member.1, ·) (sorted_of_isScalar (scalars member there))

/-- A scalar is one still once it is sorted. -/
theorem isScalar_sorted {value : Json τ} (scalar : isScalar value = true) :
    isScalar (sorted value) = true := by
  -- A scalar is not sorted inside.
  cases value with
  | arr _ | obj _ => cases scalar
  | _ => rfl

/-- Objects of values that hold no others have one sorted form if they have the same members. -/
theorem sorted_eq_iff {one two : List (τ × Json τ)} (distinct : (one.map (·.1)).Nodup)
    (scalars : ∀ member ∈ two, isScalar member.2 = true) :
    sorted (obj one) = sorted (obj two) ↔ one.Perm two := by
  -- Scalars are as they were once they are sorted, so only the order of the members counts.
  have own := map_sortedMember fun member there => isScalar_sorted (scalars member there)
  rw [sorted, sorted, obj.injEq, sortedMembers_eq_iff distinct, own]
  constructor
  · intro perm
    rwa [map_sortedMember fun member there =>
      scalars _ (perm.mem_iff.mp (List.mem_map_of_mem there))] at perm
  · intro perm
    have flat := fun member there => isScalar_sorted (scalars member (perm.mem_iff.mp there))
    rwa [map_sortedMember flat]

/-- Sorting only puts members that hold no other values in order. -/
theorem sortedMembers_perm_self {members : List (τ × Json τ)}
    (scalars : ∀ member ∈ members, isScalar member.2 = true) :
    (sortedMembers members).Perm members := by
  have own := map_sortedMember fun member there => isScalar_sorted (scalars member there)
  exact (sortedMembers_perm members).trans (List.Perm.of_eq own)

/-- The canonical text does not depend on the order of members with different names. -/
theorem canonical_perm [CodePoints τ] {members others : List (τ × Json τ)}
    (distinct : (members.map (·.1)).Nodup) (perm : members.Perm others) :
    canonical (obj members) = canonical (obj others) := by
  rw [canonical, canonical, sorted, sorted, (sortedMembers_eq_iff distinct).mpr (perm.map _)]

section Texts

variable [CodePoints τ]

/-- Two members have one name, and their sorted values have one text. -/
def SameText (one two : τ × Json τ) : Prop :=
  one.1 = two.1 ∧ compact (sorted one.2) = compact (sorted two.2)

omit [LinearOrder τ] in
/-- The text of members depends on their names and on the texts of their values. -/
theorem compactMembers_congr {one two : List (τ × Json τ)}
    (same : List.Forall₂ (fun one two => one.1 = two.1 ∧ compact one.2 = compact two.2) one two) :
    compactMembers one = compactMembers two := by
  induction same with
  | nil => rfl
  | @cons first second rest others head tail ih =>
    obtain ⟨name, item⟩ := first
    obtain ⟨key, value⟩ := second
    obtain ⟨rfl, text⟩ := head
    -- What stands behind a member decides whether a comma does.
    cases tail with
    | nil => exact congrArg (fun text => stringText name ++ ':' :: text) text
    | cons next further =>
      rw [compactMembers, compactMembers, ih]
      exact congrArg (fun text => stringText name ++ ':' :: (text ++ ',' :: _)) text

/-- The place of a member is decided by its name. -/
theorem insertMember_congr {one two : τ × Json τ} {ones twos : List (τ × Json τ)}
    (head : one.1 = two.1 ∧ compact one.2 = compact two.2)
    (tail : List.Forall₂ (fun one two => one.1 = two.1 ∧ compact one.2 = compact two.2) ones twos) :
    List.Forall₂ (fun one two => one.1 = two.1 ∧ compact one.2 = compact two.2)
      (insertMember one ones) (insertMember two twos) := by
  induction tail with
  | nil => exact .cons head .nil
  | @cons first second rest others next further ih =>
    rw [insertMember, insertMember, ← head.1, ← next.1]
    -- The names are the same, so both are put in the same place.
    split
    · exact .cons next ih
    · exact .cons head (.cons next further)

/-- The canonical text of an object depends on the names and the texts of its members. -/
theorem canonical_congr {one two : List (τ × Json τ)} (same : List.Forall₂ SameText one two) :
    canonical (obj one) = canonical (obj two) := by
  -- Members that differ in nothing that is written are sorted alike.
  have members : List.Forall₂ (fun one two => one.1 = two.1 ∧ compact one.2 = compact two.2)
      (sortedMembers one) (sortedMembers two) := by
    induction same with
    | nil => exact .nil
    | @cons first second rest others head tail ih =>
      obtain ⟨name, item⟩ := first
      obtain ⟨key, value⟩ := second
      exact insertMember_congr head ih
  rw [canonical, canonical, sorted, sorted, compact, compact, compactMembers_congr members]

end Texts

end Sorting

section Members

variable [DecidableEq τ] {members others : List (τ × Json τ)}

/-- A member is found under its name where the names differ. -/
theorem get?_of_mem (distinct : (members.map (·.1)).Nodup) {name : τ} {item : Json τ}
    (there : (name, item) ∈ members) : (obj members).get? name = some item := by
  rw [get?]
  cases found : members.find? (·.1 == name) with
  | none => exact absurd (List.find?_eq_none.mp found _ there) (by simp)
  | some member =>
    -- The member that is found has the name, and no other one has.
    have named : member.1 = name := by simpa using List.find?_some found
    have same := List.inj_on_of_nodup_map distinct (List.mem_of_find?_eq_some found) there named
    rw [same]
    rfl

/-- What is found under a name is a member. -/
theorem mem_of_get? {name : τ} {item : Json τ} (found : (obj members).get? name = some item) :
    (name, item) ∈ members := by
  rw [get?, Option.map_eq_some_iff] at found
  obtain ⟨member, there, rfl⟩ := found
  -- The member that is found has the name that was asked for.
  have named : member.1 = name := by simpa using List.find?_some there
  exact named ▸ List.mem_of_find?_eq_some there

/-- The same members are found whatever order they stand in. -/
theorem get?_perm (distinct : (members.map (·.1)).Nodup) (perm : members.Perm others)
    (name : τ) : (obj members).get? name = (obj others).get? name := by
  have distinct_ : (others.map (·.1)).Nodup := ((perm.map (·.1)).nodup_iff).mp distinct
  -- A member that is found in the one order is among the members in the other order.
  cases found : (obj others).get? name with
  | some item => exact get?_of_mem distinct (perm.mem_iff.mpr (mem_of_get? found))
  | none =>
    cases there : (obj members).get? name with
    | none => rfl
    | some item =>
      rw [get?_of_mem distinct_ (perm.mem_iff.mp (mem_of_get? there))] at found
      cases found

/-- An object with exactly some names has exactly the members it has under them. -/
theorem perm_of_hasExactly (distinct : (members.map (·.1)).Nodup) {names : List τ}
    (different : names.Nodup) (exact_ : (obj members).hasExactly names = true) :
    members.Perm (names.map fun name => (name, (obj members).getD name)) := by
  have shape : (members.map (·.1)).all (· ∈ names) && names.all (· ∈ members.map (·.1)) :=
    exact_
  rw [Bool.and_eq_true, List.all_eq_true, List.all_eq_true] at shape
  have perm : (members.map (·.1)).Perm names := by
    refine (List.perm_ext_iff_of_nodup distinct different).mpr fun name => ⟨?_, ?_⟩
    · exact fun there => of_decide_eq_true (shape.1 name there)
    · exact fun there => of_decide_eq_true (shape.2 name there)
  -- Each member is what is found under its name.
  have own : (members.map (·.1)).map (fun name => (name, (obj members).getD name)) = members := by
    rw [List.map_map]
    refine (List.map_congr_left fun member there => ?_).trans (List.map_id members)
    show (member.1, (obj members).getD member.1) = member
    rw [getD, get?_of_mem distinct there]
    rfl
  exact (List.Perm.of_eq own.symm).trans (perm.map _)

/-- An object has exactly the names of its members. -/
theorem hasExactly_of_perm {names : List τ} (perm : (members.map (·.1)).Perm names) :
    (obj members).hasExactly names = true := by
  show ((members.map (·.1)).all (· ∈ names) && names.all (· ∈ members.map (·.1))) = true
  -- Both ways the names are among each other.
  rw [Bool.and_eq_true, List.all_eq_true, List.all_eq_true]
  exact ⟨fun name there => decide_eq_true (perm.mem_iff.mp there),
    fun name there => decide_eq_true (perm.mem_iff.mpr there)⟩

/-- Which names an object has does not depend on the order they are listed in. -/
theorem hasExactly_names {names listed : List τ} (perm : names.Perm listed) (value : Json τ) :
    value.hasExactly names = value.hasExactly listed := by
  -- A name is in the one list where it is in the other one.
  have one (keys : List τ) : keys.all (· ∈ names) = keys.all (· ∈ listed) := by
    simp only [perm.mem_iff]
  have two (keys : List τ) : names.all (· ∈ keys) = listed.all (· ∈ keys) := perm.all_eq
  simp only [hasExactly, one, two]

end Members

end Json
