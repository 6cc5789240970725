import SeanOs.Lib.JsonOrder

/-! What lies inside a value, at any depth, and checks that go through all of it. -/

namespace Json

variable {τ : Type}

/-- One value lies inside another: it is that value, or inside one of its items or members. -/
inductive Inside (inner : Json τ) : Json τ → Prop
  | self : Inside inner inner
  | item {items : List (Json τ)} {item : Json τ} (there : item ∈ items) (inside : Inside inner item) :
      Inside inner (.arr items)
  | member {members : List (τ × Json τ)} {member : τ × Json τ} (there : member ∈ members)
      (inside : Inside inner member.2) : Inside inner (.obj members)

/-- What is inside an array is the array, or inside one of its items. -/
theorem inside_arr {inner : Json τ} {items : List (Json τ)} :
    Inside inner (.arr items) ↔ inner = .arr items ∨ ∃ item ∈ items, Inside inner item := by
  constructor
  -- There is one way into an array for itself and one for its items.
  · intro inside
    cases inside with
    | self => exact .inl rfl
    | item there inside => exact .inr ⟨_, there, inside⟩
  · rintro (rfl | ⟨item, there, inside⟩)
    · exact .self
    · exact .item there inside

/-- What is inside an object is the object, or inside the value of one of its members. -/
theorem inside_obj {inner : Json τ} {members : List (τ × Json τ)} :
    Inside inner (.obj members) ↔
      inner = .obj members ∨ ∃ member ∈ members, Inside inner member.2 := by
  constructor
  -- There is one way into an object for itself and one for its members.
  · intro inside
    cases inside with
    | self => exact .inl rfl
    | member there inside => exact .inr ⟨_, there, inside⟩
  · rintro (rfl | ⟨member, there, inside⟩)
    · exact .self
    · exact .member there inside

/-- Nothing else lies inside a value without items and members. -/
theorem inside_scalar {inner value : Json τ} (scalar : isScalar value = true) :
    Inside inner value ↔ inner = value := by
  constructor
  -- A scalar has no items and no members to go into.
  · intro inside
    cases inside with
    | self => rfl
    | item | member => cases scalar
  · rintro rfl
    exact .self

/-- A check of a value that checks the value itself and then everything in it. -/
structure Thorough (holds own : Json τ → Prop) : Prop where
  scalar : ∀ value, isScalar value = true → (holds value ↔ own value)
  arr : ∀ items, holds (.arr items) ↔ own (.arr items) ∧ ∀ item ∈ items, holds item
  obj : ∀ members, holds (.obj members) ↔
    own (.obj members) ∧ ∀ member ∈ members, holds member.2

variable {holds own : Json τ → Prop}

/-- A thorough property holds of a scalar where it holds of the scalar by itself. -/
theorem Thorough.forall_scalar (thorough : Thorough holds own) {value : Json τ}
    (scalar : isScalar value = true) : holds value ↔ ∀ inner, Inside inner value → own inner := by
  rw [thorough.scalar _ scalar]
  simp only [inside_scalar scalar, forall_eq]

mutual

/-- A thorough check passes where everything inside a value passes its own. -/
theorem Thorough.forall_inside (thorough : Thorough holds own) :
    ∀ value : Json τ, holds value ↔ ∀ inner, Inside inner value → own inner
  -- The recursion is the one of the value, with its two loops below.
  | .arr items => by
    rw [thorough.arr, forall₂_congr (thorough.forall_items items)]
    simp only [inside_arr]
    constructor
    · rintro ⟨here, inside⟩ inner (rfl | ⟨item, there, within_⟩)
      · exact here
      · exact inside item there inner within_
    · exact fun all => ⟨all _ (.inl rfl), fun item there inner within_ =>
        all inner (.inr ⟨item, there, within_⟩)⟩
  | .obj members => by
    rw [thorough.obj, forall₂_congr (thorough.forall_members members)]
    simp only [inside_obj]
    constructor
    · rintro ⟨here, inside⟩ inner (rfl | ⟨member, there, within_⟩)
      · exact here
      · exact inside member there inner within_
    · exact fun all => ⟨all _ (.inl rfl), fun member there inner within_ =>
        all inner (.inr ⟨member, there, within_⟩)⟩
  | .null => thorough.forall_scalar rfl
  | .bool _ => thorough.forall_scalar rfl
  | .int _ => thorough.forall_scalar rfl
  | .float _ => thorough.forall_scalar rfl
  | .str _ => thorough.forall_scalar rfl

/-- A thorough property holds of an item where it holds of everything inside the item. -/
theorem Thorough.forall_items (thorough : Thorough holds own) :
    ∀ (items : List (Json τ)) (item : Json τ), item ∈ items →
      (holds item ↔ ∀ inner, Inside inner item → own inner)
  -- The item is the first one, or one of the others.
  | [], _, there => absurd there List.not_mem_nil
  | first :: items, item, there => by
    rcases List.mem_cons.mp there with same | there
    · rw [same]
      exact thorough.forall_inside first
    · exact thorough.forall_items items item there

/-- A thorough property holds of a member where it holds of everything inside the member. -/
theorem Thorough.forall_members (thorough : Thorough holds own) :
    ∀ (members : List (τ × Json τ)) (member : τ × Json τ), member ∈ members →
      (holds member.2 ↔ ∀ inner, Inside inner member.2 → own inner)
  -- The member is the first one, or one of the others.
  | [], _, there => absurd there List.not_mem_nil
  | (key, first) :: members, member, there => by
    rcases List.mem_cons.mp there with same | there
    · rw [same]
      exact thorough.forall_inside first
    · exact thorough.forall_members members member there

end

end Json
