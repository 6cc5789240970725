import Mathlib.Data.List.Forall2

/-! Lists whose items are revised where they stand, and which are added to at their end. -/

variable {α : Type}

/-- A list behind some changes: each item was revised in place, and new ones were added at the end. -/
def Growth (revised : α → α → Prop) (fresh : α → Prop) (before after : List α) : Prop :=
  ∃ kept added, after = kept ++ added ∧ List.Forall₂ revised before kept ∧ ∀ item ∈ added, fresh item

namespace Growth

variable {revised : α → α → Prop} {fresh : α → Prop} {before after : List α}

/-- Every item is still there, or what it was revised to. -/
theorem left (growth : Growth revised fresh before after) {item : α} (there : item ∈ before) :
    ∃ later ∈ after, revised item later := by
  obtain ⟨kept, added, rfl, pairs, _⟩ := growth
  -- The pairs are walked along, and each item has its partner in its place.
  induction pairs with
  | nil => cases there
  | cons pair pairs ih =>
    rcases List.mem_cons.mp there with rfl | there
    · exact ⟨_, List.mem_cons_self, pair⟩
    · obtain ⟨later, member, moved⟩ := ih there
      exact ⟨later, List.mem_cons_of_mem _ member, moved⟩

/-- Every item that is there now was there before, or is a new one. -/
theorem right (growth : Growth revised fresh before after) {item : α} (there : item ∈ after) :
    (∃ earlier ∈ before, revised earlier item) ∨ fresh item := by
  obtain ⟨kept, added, rfl, pairs, new⟩ := growth
  -- What is left behind the last pair is new.
  induction pairs with
  | nil => exact .inr (new item there)
  | cons pair pairs ih =>
    rcases List.mem_cons.mp there with rfl | there
    · exact .inl ⟨_, List.mem_cons_self, pair⟩
    · exact (ih there).imp_left fun ⟨earlier, member, moved⟩ =>
        ⟨earlier, List.mem_cons_of_mem _ member, moved⟩

/-- New items are added, and the others are left. -/
theorem append (same : ∀ item ∈ before, revised item item) {added : List α}
    (new : ∀ item ∈ added, fresh item) : Growth revised fresh before (before ++ added) :=
  ⟨before, added, rfl, List.forall₂_same.mpr same, new⟩

/-- Items grow to themselves where each may stay as it is. -/
theorem refl (same : ∀ item ∈ before, revised item item) : Growth revised fresh before before :=
  ⟨before, [], (List.append_nil before).symm, List.forall₂_same.mpr same, by simp⟩

/-- All items are revised by one function. -/
theorem map {change : α → α} (moved : ∀ item ∈ before, revised item (change item)) :
    Growth revised fresh before (before.map change) := by
  -- Nothing is added behind.
  refine ⟨before.map change, [], (List.append_nil _).symm, ?_, by simp⟩
  rw [List.forall₂_map_right_iff]
  exact List.forall₂_same.mpr moved

/-- A growth is one in a weaker sense too. -/
theorem mono {looser : α → α → Prop} {newer : α → Prop} (growth : Growth revised fresh before after)
    (weaker : ∀ item later, revised item later → looser item later)
    (newly : ∀ item, fresh item → newer item) : Growth looser newer before after := by
  obtain ⟨kept, added, same, pairs, new⟩ := growth
  exact ⟨kept, added, same, pairs.imp weaker, fun item there => newly item (new item there)⟩

end Growth
