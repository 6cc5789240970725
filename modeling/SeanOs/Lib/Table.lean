import Mathlib

/-! Tables with a primary key: rows of which no two have the same key. -/

/-- The rows of a table, no two of which have the same primary key. -/
structure Table {Row Key : Type} (key : Row → Key) where
  rows : List Row
  unique : (rows.map key).Nodup

namespace Table

variable {Row Key : Type} {key : Row → Key}

/-- A table without rows. -/
def empty : Table key := ⟨[], List.nodup_nil⟩

/-- Change the rows that meet a condition, keeping their keys, as one `UPDATE` statement does. -/
def update (holds : Row → Bool) (change : Row → Row) (keeps : ∀ row, key (change row) = key row)
    (table : Table key) : Table key where
  rows := table.rows.map fun row => if holds row then change row else row
  unique := by
    -- The list of the keys is the one there was before.
    have same : (key ∘ fun row => if holds row then change row else row) = key := by
      funext row
      show key (if holds row then change row else row) = key row
      split
      · exact keeps row
      · rfl
    rw [List.map_map, same]
    exact table.unique

/-- Remove the rows that meet a condition. -/
def remove (holds : Row → Bool) (table : Table key) : Table key where
  rows := table.rows.filter fun row => !holds row
  unique := table.unique.sublist (List.filter_sublist.map key)

/-- How many rows meet a condition. -/
def count (holds : Row → Bool) (table : Table key) : ℕ := table.rows.countP holds

variable [DecidableEq Key]

/-- The row under a key. -/
def find? (at_ : Key) (table : Table key) : Option Row := table.rows.find? (key · = at_)

/-- Add a row, unless its key is taken. -/
def insert? (row : Row) (table : Table key) : Option (Table key) :=
  if taken : key row ∈ table.rows.map key then none
  else some ⟨table.rows ++ [row], by
    rw [List.map_append, List.nodup_append]
    refine ⟨table.unique, List.nodup_singleton _, ?_⟩
    intro one old two new same
    rw [List.map_singleton, List.mem_singleton] at new
    exact taken (new ▸ same ▸ old)⟩

variable {table changed : Table key}

/-- The row that is found has the key it was searched by. -/
theorem key_of_find? {at_ : Key} {row : Row} (found : table.find? at_ = some row) :
    key row = at_ := by
  simpa using List.find?_some found

/-- The row that is found is one of the rows. -/
theorem mem_of_find? {at_ : Key} {row : Row} (found : table.find? at_ = some row) :
    row ∈ table.rows := List.mem_of_find?_eq_some found

/-- Every row is found under its key. -/
theorem find?_of_mem {row : Row} (there : row ∈ table.rows) :
    table.find? (key row) = some row := by
  -- Some row is found under the key, and it cannot be another one.
  cases found : table.find? (key row) with
  | none => exact absurd (List.find?_eq_none.mp found row there) (by simp)
  | some other =>
    rw [List.inj_on_of_nodup_map table.unique (mem_of_find? found) there (key_of_find? found)]

/-- An update changes the row under a key where it meets the condition. -/
@[simp] theorem find?_update (holds : Row → Bool) (change : Row → Row)
    (keeps : ∀ row, key (change row) = key row) (at_ : Key) (table : Table key) :
    (table.update holds change keeps).find? at_ =
      (table.find? at_).map fun row => if holds row then change row else row := by
  -- The keys are searched as before, and only the row that is found may differ.
  have same : ((fun row => decide (key row = at_)) ∘
      fun row => if holds row then change row else row) = fun row => decide (key row = at_) := by
    funext row
    show decide (key (if holds row then change row else row) = at_) = decide (key row = at_)
    split
    · rw [keeps]
    · rfl
  rw [find?, find?, update, List.find?_map, same]

/-- A removal removes the row under a key where it meets the condition. -/
@[simp] theorem find?_remove (holds : Row → Bool) (at_ : Key) (table : Table key) :
    (table.remove holds).find? at_ = (table.find? at_).filter fun row => !holds row := by
  -- A row that is left is found in both, and a row that is gone is the only one of its key.
  cases found : table.find? at_ with
  | none =>
    refine List.find?_eq_none.mpr fun row there => ?_
    exact List.find?_eq_none.mp found row (List.mem_filter.mp there).1
  | some row =>
    have there := mem_of_find? found
    have named := key_of_find? found
    rw [Option.filter_some]
    cases gone : holds row with
    | false =>
      have left : row ∈ (table.remove holds).rows := List.mem_filter.mpr ⟨there, by rw [gone]; rfl⟩
      have again := find?_of_mem left
      rw [named] at again
      exact again
    | true =>
      refine List.find?_eq_none.mpr fun other left => ?_
      obtain ⟨before, kept⟩ := List.mem_filter.mp left
      intro same
      have same : key other = at_ := by simpa using same
      have equal : other = row :=
        List.inj_on_of_nodup_map table.unique before there (same.trans named.symm)
      rw [equal, gone] at kept
      cases kept

/-- A row can be added exactly where no row has its key. -/
theorem insert?_isSome (row : Row) : (table.insert? row).isSome ↔ table.find? (key row) = none := by
  rw [insert?]
  split
  -- A row with a key that is taken is found under it.
  next taken =>
    obtain ⟨other, there, same⟩ := List.mem_map.mp taken
    have found := find?_of_mem there
    rw [same] at found
    simp [found]
  -- A row that was found would have taken the key.
  next free =>
    refine ⟨fun _ => List.find?_eq_none.mpr fun other there => ?_, fun _ => rfl⟩
    intro same
    have same : key other = key row := by simpa using same
    exact free (List.mem_map.mpr ⟨other, there, same⟩)

/-- After an insertion the new row comes behind the others. -/
theorem rows_insert {row : Row} (inserted : table.insert? row = some changed) :
    changed.rows = table.rows ++ [row] := by
  rw [insert?] at inserted
  -- The row was inserted, so its key was free.
  split at inserted
  · cases inserted
  · cases inserted
    rfl

/-- After an insertion the new row is found under its key, and every other row as before. -/
theorem find?_insert {row : Row} (inserted : table.insert? row = some changed) (at_ : Key) :
    changed.find? at_ = if key row = at_ then some row else table.find? at_ := by
  have free : table.find? (key row) = none := (insert?_isSome row).mp (by rw [inserted]; rfl)
  rw [insert?] at inserted
  split at inserted
  · cases inserted
  · cases inserted
    -- The search reaches the new row only where it found nothing before.
    show (table.rows ++ [row]).find? _ = _
    rw [List.find?_append]
    by_cases same : key row = at_
    · rw [if_pos same]
      have before : table.rows.find? (key · = at_) = none := same ▸ free
      rw [before]
      simp [same]
    · rw [if_neg same]
      simp [same, find?]

section Totals

variable {Weight : Type} [AddCommMonoid Weight]

/-- The sum of a weight over the rows. -/
def total (weight : Row → Weight) (table : Table key) : Weight := (table.rows.map weight).sum

/-- A new row adds its weight. -/
theorem total_insert {row : Row} (weight : Row → Weight)
    (inserted : table.insert? row = some changed) :
    changed.total weight = table.total weight + weight row := by
  rw [insert?] at inserted
  -- The row was inserted, so its key was free, and its weight is added at the end.
  split at inserted
  · cases inserted
  · cases inserted
    rw [total, total, List.map_append, List.sum_append, List.map_singleton, List.sum_singleton]

omit [DecidableEq Key] in
/-- Among rows of different keys, those of one key weigh what the one row of it does. -/
theorem sum_filter_key (weight : Row → Weight) {holds : Row → Bool} {row : Row} {rows : List Row}
    (unique : (rows.map key).Nodup) (there : row ∈ rows)
    (named : ∀ other, holds other = true ↔ key other = key row) :
    (rows.map weight).sum = ((rows.filter fun other => !holds other).map weight).sum + weight row := by
  -- The induction looks for the row, behind which no other one has its key.
  induction rows with
  | nil => cases there
  | cons first rest ih =>
    rw [List.map_cons, List.nodup_cons] at unique
    rcases List.mem_cons.mp there with rfl | later
    · have kept : rest.filter (fun other => !holds other) = rest := by
        refine List.filter_eq_self.mpr fun other found => ?_
        cases held : holds other with
        | false => rfl
        | true =>
          have same := (named other).mp held
          exact absurd (List.mem_map.mpr ⟨other, found, same⟩) unique.1
      rw [List.filter_cons_of_neg (by rw [(named row).mpr rfl]; simp), kept, List.map_cons,
        List.sum_cons, add_comm]
    · have apart : holds first = false := by
        cases held : holds first with
        | false => rfl
        | true =>
          have same := (named first).mp held
          exact absurd (List.mem_map.mpr ⟨row, later, same.symm⟩) unique.1
      rw [List.filter_cons_of_pos (by rw [apart]; rfl), List.map_cons, List.map_cons,
        List.sum_cons, List.sum_cons, ih unique.2 later, add_assoc]

/-- Removing the row of a key takes its weight away. -/
theorem total_remove {row : Row} {at_ : Key} (weight : Row → Weight) {holds : Row → Bool}
    (found : table.find? at_ = some row) (named : ∀ other, holds other = true ↔ key other = at_) :
    table.total weight = (table.remove holds).total weight + weight row := by
  have same := key_of_find? found
  exact sum_filter_key weight table.unique (mem_of_find? found) (by rw [same]; exact named)

end Totals

end Table
