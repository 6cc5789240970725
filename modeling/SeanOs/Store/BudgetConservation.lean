import SeanOs.Store.RetryBound

/-! Budgets, reservations and charges are kept in step by the operations on the work queue. -/

namespace Number

/-- The value of a float that is finite. -/
def value : Number → ℚ
  | .finite value => value
  | _ => 0

/-- A float is finite, and no negative zero. -/
def Plain (number : Number) : Prop := number = .finite number.value

end Number

namespace SeanOs

open Atomic Calendar

/-- Units are within a limit, which may be infinite. -/
def WithinLimit (units : ℚ) (limit : Number) : Prop :=
  limit = .infinite false ∨ units ≤ Number.value limit

/-- The place of a reservation: the budget it was made in. -/
def ReservationRow.place (row : ReservationRow) : Scope × String := (row.owner_scope, row.period_key)

/-- The place of a charge: the budget it was made to. -/
def UsageRow.place (row : UsageRow) : Scope × String := (row.owner_scope, row.period_key)

namespace World

variable (place : Scope × String) (world : World)

/-- The budget of a scope in a period. -/
def budget : Option BudgetRow := world.db.budgets.find? place

/-- The units that the budget of a place says are reserved, which are none without a budget. -/
def reservedUnits : ℚ := (world.budget place).elim 0 fun row => Number.value row.reserved_units

/-- The units that the budget of a place says are used. -/
def usedUnits : ℚ := (world.budget place).elim 0 fun row => Number.value row.used_units

/-- The sum of the reservations made in the budget of a place. -/
def reservations : ℚ := world.db.cost_reservations.total fun row =>
  if row.place = place then Number.value row.units else 0

/-- The sum of the charges made to the budget of a place. -/
def usage : ℚ :=
  (world.db.usage_events.map fun row => if row.place = place then Number.value row.units else 0).sum

end World

section Costs

variable [Platform]

/-- An item declares a cost above zero. -/
def WorkRow.Costs (row : WorkRow) : Prop :=
  ∃ units, declaredCost row.payload = .ok units ∧ isAboveZero units = true

/-- A payload declares a finite cost, if it declares one that can be read. -/
def FiniteCost (payload : Json) : Prop :=
  ∀ units, declaredCost payload = .ok units → units = .negZero ∨ Number.Plain units

/-- Budgets are in step with reservations and charges, and these with the items. -/
structure BudgetsConserved (world : World) : Prop where
  reserved : ∀ place, world.reservedUnits place = world.reservations place
  used : ∀ place, world.usedUnits place = world.usage place
  /-- The items that have a reservation are the running ones with a cost. -/
  held : ∀ id, (world.reservation id).isSome = true ↔
    ∃ row, world.item id = some row ∧ row.status = .RUNNING ∧ row.Costs
  charged : ∀ id, world.charges id ≤ 1

/-- Every new reservation left its budget within its limit. -/
def NewlyCovered (world changed : World) : Prop :=
  ∀ id row, world.reservation id = none → changed.reservation id = some row →
    ∃ budget, changed.budget row.place = some budget ∧
      WithinLimit (Number.value budget.used_units + Number.value budget.reserved_units)
        budget.limit_units

/-- The sums and differences that the next operation may compute are exact. -/
structure ArithmeticExact (world : World) : Prop where
  /-- The sums by which the cost of an item is reserved. -/
  reserve : ∀ id row budget units, world.item id = some row →
    row.status = .QUEUED ∨ row.status = .RUNNING → declaredCost row.payload = .ok units →
    isAboveZero units = true → world.budget (row.owner_scope, world.current_period) = some budget →
    Double.add (Double.add budget.used_units budget.reserved_units) units =
        .finite (Number.value budget.used_units + Number.value budget.reserved_units +
          Number.value units) ∧
      Double.add budget.reserved_units units =
        .finite (Number.value budget.reserved_units + Number.value units)
  /-- The sums by which a reservation is released or charged. -/
  settle : ∀ id row budget, world.reservation id = some row → world.budget row.place = some budget →
    Double.sub budget.reserved_units row.units =
        .finite (Number.value budget.reserved_units - Number.value row.units) ∧
      Double.add budget.used_units row.units =
        .finite (Number.value budget.used_units + Number.value row.units)

/-- What is carried along beside the conservation of budgets. -/
structure BudgetInvariant (world : World) : Prop extends BudgetsConserved world where
  /-- Only a completed item was charged. -/
  completed : ∀ id, 0 < world.charges id → ∃ row, world.item id = some row ∧ row.status = .SUCCEEDED
  /-- An item that is not completed declares a finite cost. -/
  finite : ∀ id row, world.item id = some row → row.status = .SUCCEEDED ∨ FiniteCost row.payload
  /-- The units of a budget are finite. -/
  plain : ∀ place budget, world.budget place = some budget →
    Number.Plain budget.reserved_units ∧ Number.Plain budget.used_units
  /-- The units of a reservation are finite, and it was made in a budget. -/
  budgeted : ∀ id row, world.reservation id = some row →
    Number.Plain row.units ∧ (world.budget row.place).isSome = true

/-- How the cost of an item is dealt with when the item is claimed. -/
inductive ClaimCost (row next : WorkRow) (world changed : World) : Prop
  /-- No budget has room. -/
  | blocked {units : Number} (status : next.status = .BUDGET_BLOCKED)
      (read : declaredCost row.payload = .ok units) (above : isAtMostZero units = false)
      (fresh : world.reservation row.id = none)
      (budgets : changed.db.budgets = world.db.budgets)
      (reservations : changed.db.cost_reservations = world.db.cost_reservations)
  /-- There is no cost, or it is reserved already. -/
  | free {units : Number} (status : next.status = .RUNNING)
      (read : declaredCost row.payload = .ok units)
      (nothing : isAtMostZero units = true ∨ (world.reservation row.id).isSome = true)
      (budgets : changed.db.budgets = world.db.budgets)
      (reservations : changed.db.cost_reservations = world.db.cost_reservations)
  /-- The cost is reserved. -/
  | reserved {units : Number} (status : next.status = .RUNNING)
      (read : declaredCost row.payload = .ok units) (above : isAtMostZero units = false)
      (reservation : ReservationRow) (named : reservation.work_id = row.id)
      (amount : reservation.units.val = units)
      (place : reservation.place = (row.owner_scope, world.current_period))
      (inserted : world.db.cost_reservations.insert? reservation =
        some changed.db.cost_reservations)
      (room : ∃ budget, world.budget reservation.place = some budget ∧ hasRoom budget units = true)
      (moved : BudgetMoved reservation.place (Double.add · units) (fun used => used)
        world.db.budgets changed.db.budgets)

/-- What an operation does to the queue and to the money, as far as these depend on each other. -/
inductive BudgetMove (world changed : World) : Prop
  /-- Nothing changes. -/
  | still (queue : changed.db.work_queue = world.db.work_queue)
      (budgets : changed.db.budgets = world.db.budgets)
      (reservations : changed.db.cost_reservations = world.db.cost_reservations)
      (usage : changed.db.usage_events = world.db.usage_events)
  /-- A limit is set. -/
  | limited (queue : changed.db.work_queue = world.db.work_queue)
      (reservations : changed.db.cost_reservations = world.db.cost_reservations)
      (usage : changed.db.usage_events = world.db.usage_events)
      (kept : ∀ place budget, world.budget place = some budget →
        ∃ next, changed.budget place = some next ∧ next.reserved_units = budget.reserved_units ∧
          next.used_units = budget.used_units)
      (new : ∀ place next, world.budget place = none → changed.budget place = some next →
        next.reserved_units.val = .finite 0 ∧ next.used_units.val = .finite 0)
  /-- An item is added. -/
  | enqueued (row : WorkRow)
      (inserted : world.db.work_queue.insert? row = some changed.db.work_queue)
      (status : row.status = .QUEUED) (finite : FiniteCost row.payload)
      (budgets : changed.db.budgets = world.db.budgets)
      (reservations : changed.db.cost_reservations = world.db.cost_reservations)
      (usage : changed.db.usage_events = world.db.usage_events)
  /-- An item is claimed. -/
  | claimed (row next : WorkRow) (before : world.item row.id = some row)
      (ready : row.status = .QUEUED ∨ row.status = .RUNNING)
      (items : ∀ id, changed.item id = if id = row.id then some next else world.item id)
      (payload : next.payload = row.payload)
      (usage : changed.db.usage_events = world.db.usage_events)
      (cost : ClaimCost row next world changed)
  /-- The attempt at an item is ended. -/
  | ended (row next : WorkRow) (middle : World) {consume : Bool}
      (before : world.item row.id = some row) (running : row.status = .RUNNING)
      (items : ∀ id, changed.item id = if id = row.id then some next else world.item id)
      (status : next.status ≠ .RUNNING)
      (payload : next.payload = row.payload ∨ next.status = .SUCCEEDED)
      (charged : consume = true → next.status = .SUCCEEDED)
      (budgets : middle.db.budgets = world.db.budgets)
      (reservations : middle.db.cost_reservations = world.db.cost_reservations)
      (usage : middle.db.usage_events = world.db.usage_events)
      (settled : CostSettled row.id consume middle (.ok ()) changed)

/-- A cost that was read is above zero or at most zero, unless it is no number. -/
theorem costs_iff {row : WorkRow} {units : Number} (finite : FiniteCost row.payload)
    (read : declaredCost row.payload = .ok units) : row.Costs ↔ isAtMostZero units = false := by
  have split : isAboveZero units = true ↔ isAtMostZero units = false := by
    rcases finite units read with rfl | plain
    · simp [isAboveZero, isAtMostZero]
    · rw [plain]
      simp [isAboveZero, isAtMostZero]
  constructor
  · rintro ⟨again, same, above⟩
    rw [read] at same
    cases same
    exact split.mp above
  · exact fun above => ⟨units, read, split.mpr above⟩

/-- A cost above zero is a plain number. -/
theorem plain_of_above {row : WorkRow} {units : Number} (finite : FiniteCost row.payload)
    (read : declaredCost row.payload = .ok units) (above : isAtMostZero units = false) :
    Number.Plain units ∧ 0 < units.value := by
  rcases finite units read with rfl | plain
  · cases above
  · refine ⟨plain, ?_⟩
    rw [plain] at above
    simpa [isAtMostZero] using above

/-- Items with the same payload declare the same cost. -/
theorem costs_congr {row next : WorkRow} (payload : next.payload = row.payload) :
    next.Costs ↔ row.Costs := by
  rw [WorkRow.Costs, WorkRow.Costs, payload]

section Items

variable {world changed : World} {row next : WorkRow}

/-- One item was changed, and the reservations of all others are as they were. -/
theorem held_changed (held : ∀ id, (world.reservation id).isSome = true ↔
      ∃ row, world.item id = some row ∧ row.status = .RUNNING ∧ row.Costs)
    (items : ∀ id, changed.item id = if id = row.id then some next else world.item id)
    (others : ∀ id, id ≠ row.id → changed.reservation id = world.reservation id)
    (own : (changed.reservation row.id).isSome = true ↔ next.status = .RUNNING ∧ next.Costs)
    (id : String) : (changed.reservation id).isSome = true ↔
      ∃ row, changed.item id = some row ∧ row.status = .RUNNING ∧ row.Costs := by
  rw [items]
  by_cases same : id = row.id
  · subst same
    rw [own, if_pos rfl]
    constructor
    · exact fun runs => ⟨next, rfl, runs⟩
    · rintro ⟨other, found, runs⟩
      cases found
      exact runs
  · rw [if_neg same, others id same]
    exact held id

omit [Platform] in
/-- A completed item stays as it is when another one is changed. -/
theorem completed_changed (open_ : row.status ≠ .SUCCEEDED) (before : world.item row.id = some row)
    (items : ∀ id, changed.item id = if id = row.id then some next else world.item id)
    {id : String} (done : ∃ row, world.item id = some row ∧ row.status = .SUCCEEDED) :
    ∃ row, changed.item id = some row ∧ row.status = .SUCCEEDED := by
  obtain ⟨other, found, completed⟩ := done
  have apart : id ≠ row.id := by
    rintro rfl
    rw [before] at found
    cases found
    exact open_ completed
  exact ⟨other, by rw [items, if_neg apart, found], completed⟩

/-- Items keep declaring finite costs when one of them keeps its payload, or is completed. -/
theorem finite_changed (finite : ∀ id row, world.item id = some row →
      row.status = .SUCCEEDED ∨ FiniteCost row.payload)
    (before : world.item row.id = some row) (open_ : row.status ≠ .SUCCEEDED)
    (items : ∀ id, changed.item id = if id = row.id then some next else world.item id)
    (payload : next.payload = row.payload ∨ next.status = .SUCCEEDED) (id : String)
    (other : WorkRow) (found : changed.item id = some other) :
    other.status = .SUCCEEDED ∨ FiniteCost other.payload := by
  rw [items] at found
  split at found
  · cases found
    rcases payload with same | done
    · rw [same]
      exact .inr ((finite _ _ before).resolve_left open_)
    · exact .inl done
  · exact finite id other found

end Items

omit [Platform] in
/-- The sum of the reservations in a budget after one was made. -/
theorem reservations_insert {world changed : World} {row : ReservationRow}
    (inserted : world.db.cost_reservations.insert? row = some changed.db.cost_reservations)
    (place : Scope × String) : changed.reservations place =
      world.reservations place + if row.place = place then Number.value row.units else 0 :=
  Table.total_insert _ inserted

omit [Platform] in
/-- The sum of the reservations in a budget before one was removed. -/
theorem reservations_remove {world changed : World} {id : String} {row : ReservationRow}
    (found : world.reservation id = some row)
    (removed : changed.db.cost_reservations =
      world.db.cost_reservations.remove (·.work_id == id))
    (place : Scope × String) : world.reservations place =
      changed.reservations place + if row.place = place then Number.value row.units else 0 := by
  rw [World.reservations, World.reservations, removed]
  exact Table.total_remove _ found (by simp)

omit [Platform] in
/-- The sum of the charges to a budget after one was made. -/
theorem usage_append {world changed : World} {event : UsageRow}
    (usage : changed.db.usage_events = world.db.usage_events ++ [event]) (place : Scope × String) :
    changed.usage place =
      world.usage place + if event.place = place then Number.value event.units else 0 := by
  rw [World.usage, World.usage, usage, List.map_append, List.sum_append, List.map_singleton,
    List.sum_singleton]

omit [Platform] in
/-- A removed reservation is gone, and all others are there. -/
theorem reservation_remove {world changed : World} {work_id : String}
    (removed : changed.db.cost_reservations =
      world.db.cost_reservations.remove (·.work_id == work_id)) (id : String) :
    changed.reservation id = if id = work_id then none else world.reservation id := by
  rw [World.reservation, removed, Table.find?_remove, World.reservation]
  cases found : world.db.cost_reservations.find? id with
  | none => simp
  | some row =>
    have named : row.work_id = id := Table.key_of_find? found
    rw [Option.filter_some, named]
    by_cases same : id = work_id
    · simp [same]
    · simp [same]

section Money

variable {world changed : World}

omit [Platform] in
/-- The units of all budgets after those of one were changed to finite ones. -/
theorem units_moved {place : Scope × String} {reserved used : Number → Number} {budget : BudgetRow}
    {left spent : ℚ} (moved : BudgetMoved place reserved used world.db.budgets changed.db.budgets)
    (found : world.budget place = some budget)
    (leaves : reserved budget.reserved_units = .finite left)
    (spends : used budget.used_units = .finite spent) (at_ : Scope × String) :
    changed.reservedUnits at_ = (if at_ = place then left else world.reservedUnits at_) ∧
      changed.usedUnits at_ = (if at_ = place then spent else world.usedUnits at_) := by
  rw [World.reservedUnits, World.usedUnits, World.reservedUnits, World.usedUnits]
  by_cases same : at_ = place
  · subst same
    obtain ⟨next, after, reserves, uses, _⟩ := moved.here budget found
    have there : changed.budget at_ = some next := after
    rw [there, if_pos rfl, if_pos rfl, Option.elim_some, Option.elim_some, reserves, uses, leaves,
      spends]
    exact ⟨rfl, rfl⟩
  · have kept : changed.budget at_ = world.budget at_ := moved.other at_ same
    rw [if_neg same, if_neg same, kept]
    exact ⟨rfl, rfl⟩

omit [Platform] in
/-- The units of all budgets stay finite when those of one are changed to finite ones. -/
theorem plain_moved {place : Scope × String} {reserved used : Number → Number} {budget : BudgetRow}
    {left spent : ℚ} (moved : BudgetMoved place reserved used world.db.budgets changed.db.budgets)
    (found : world.budget place = some budget)
    (leaves : reserved budget.reserved_units = .finite left)
    (spends : used budget.used_units = .finite spent)
    (plain : ∀ place budget, world.budget place = some budget →
      Number.Plain budget.reserved_units ∧ Number.Plain budget.used_units)
    (at_ : Scope × String) (other : BudgetRow) (there : changed.budget at_ = some other) :
    Number.Plain other.reserved_units ∧ Number.Plain other.used_units := by
  by_cases same : at_ = place
  · subst same
    obtain ⟨next, after, reserves, uses, _⟩ := moved.here budget found
    have first : changed.budget at_ = some next := after
    rw [first] at there
    cases there
    rw [reserves, uses, leaves, spends]
    exact ⟨rfl, rfl⟩
  · have kept : changed.budget at_ = world.budget at_ := moved.other at_ same
    rw [kept] at there
    exact plain at_ other there

omit [Platform] in
/-- A budget that is there stays there when units are moved. -/
theorem budget_moved {place at_ : Scope × String} {reserved used : Number → Number}
    (moved : BudgetMoved place reserved used world.db.budgets changed.db.budgets)
    (there : (world.budget at_).isSome = true) : (changed.budget at_).isSome = true := by
  by_cases same : at_ = place
  · subst same
    obtain ⟨budget, found⟩ := Option.isSome_iff_exists.mp there
    obtain ⟨next, after, _⟩ := moved.here budget found
    have first : changed.budget at_ = some next := after
    rw [first]
    rfl
  · have kept : changed.budget at_ = world.budget at_ := moved.other at_ same
    rw [kept]
    exact there

omit [Platform] in
/-- Where neither budgets nor reservations nor charges change, the money stays in step. -/
theorem money_still (budgets : changed.db.budgets = world.db.budgets)
    (reservations : changed.db.cost_reservations = world.db.cost_reservations)
    (usage : changed.db.usage_events = world.db.usage_events) :
    (∀ place, changed.reservedUnits place = world.reservedUnits place ∧
      changed.usedUnits place = world.usedUnits place ∧
      changed.reservations place = world.reservations place ∧
      changed.usage place = world.usage place ∧ changed.budget place = world.budget place) ∧
      ∀ id, changed.reservation id = world.reservation id ∧
        changed.charges id = world.charges id := by
  constructor
  · intro place
    rw [World.reservedUnits, World.usedUnits, World.reservations, World.usage, World.budget,
      budgets, reservations, usage]
    exact ⟨rfl, rfl, rfl, rfl, rfl⟩
  · intro id
    rw [World.reservation, World.charges, reservations, usage]
    exact ⟨rfl, rfl⟩

end Money

/-- Items may change as long as the money stays and the items with a reservation are the same. -/
theorem BudgetInvariant.items {world changed : World} (sound : BudgetInvariant world)
    (budgets : changed.db.budgets = world.db.budgets)
    (reservations : changed.db.cost_reservations = world.db.cost_reservations)
    (usage : changed.db.usage_events = world.db.usage_events)
    (held : ∀ id, (changed.reservation id).isSome = true ↔
      ∃ row, changed.item id = some row ∧ row.status = .RUNNING ∧ row.Costs)
    (completed : ∀ id, (∃ row, world.item id = some row ∧ row.status = .SUCCEEDED) →
      ∃ row, changed.item id = some row ∧ row.status = .SUCCEEDED)
    (finite : ∀ id row, changed.item id = some row →
      row.status = .SUCCEEDED ∨ FiniteCost row.payload) :
    BudgetInvariant changed ∧ NewlyCovered world changed := by
  obtain ⟨money, rows⟩ := money_still budgets reservations usage
  refine ⟨⟨⟨?_, ?_, held, ?_⟩, ?_, finite, ?_, ?_⟩, ?_⟩
  · intro place
    obtain ⟨reserved, _, sum, _⟩ := money place
    rw [reserved, sum]
    exact sound.reserved place
  · intro place
    obtain ⟨_, used, _, sum, _⟩ := money place
    rw [used, sum]
    exact sound.used place
  · intro id
    rw [(rows id).2]
    exact sound.charged id
  · intro id charged
    rw [(rows id).2] at charged
    exact completed id (sound.completed id charged)
  · intro place budget found
    rw [(money place).2.2.2.2] at found
    exact sound.plain place budget found
  · intro id row found
    rw [(rows id).1] at found
    rw [(money row.place).2.2.2.2]
    exact sound.budgeted id row found
  · intro id row fresh there
    rw [(rows id).1, fresh] at there
    cases there

/-- Nothing that counts changed. -/
theorem BudgetInvariant.still {world changed : World} (sound : BudgetInvariant world)
    (queue : changed.db.work_queue = world.db.work_queue)
    (budgets : changed.db.budgets = world.db.budgets)
    (reservations : changed.db.cost_reservations = world.db.cost_reservations)
    (usage : changed.db.usage_events = world.db.usage_events) :
    BudgetInvariant changed ∧ NewlyCovered world changed := by
  have items : ∀ id, changed.item id = world.item id := by
    intro id
    rw [World.item, queue, World.item]
  refine sound.items budgets reservations usage ?_ ?_ ?_
  · intro id
    rw [items, World.reservation, reservations]
    exact sound.held id
  · intro id done
    rw [items]
    exact done
  · intro id row found
    rw [items] at found
    exact sound.finite id row found

/-- A new item waits, and has no reservation yet. -/
theorem BudgetInvariant.enqueued {world changed : World} (sound : BudgetInvariant world)
    {row : WorkRow} (inserted : world.db.work_queue.insert? row = some changed.db.work_queue)
    (status : row.status = .QUEUED) (finite : FiniteCost row.payload)
    (budgets : changed.db.budgets = world.db.budgets)
    (reservations : changed.db.cost_reservations = world.db.cost_reservations)
    (usage : changed.db.usage_events = world.db.usage_events) :
    BudgetInvariant changed ∧ NewlyCovered world changed := by
  have items : ∀ id, changed.item id = if row.id = id then some row else world.item id :=
    Table.find?_insert inserted
  have fresh : world.item row.id = none := (Table.insert?_isSome row).mp (by rw [inserted]; rfl)
  refine sound.items budgets reservations usage ?_ ?_ ?_
  · intro id
    have same : changed.reservation id = world.reservation id := by
      rw [World.reservation, reservations, World.reservation]
    rw [same, items, sound.held id]
    by_cases new : row.id = id
    · -- Neither the missing item nor the waiting one has a reservation.
      subst new
      rw [if_pos rfl, fresh]
      constructor
      · rintro ⟨other, there, _⟩
        cases there
      · rintro ⟨other, there, runs, _⟩
        cases there
        rw [status] at runs
        cases runs
    · rw [if_neg new]
  · rintro id ⟨other, found, done⟩
    have apart : row.id ≠ id := by
      rintro rfl
      rw [fresh] at found
      cases found
    exact ⟨other, by rw [items, if_neg apart, found], done⟩
  · intro id other found
    rw [items] at found
    split at found
    · cases found
      exact .inr finite
    · exact sound.finite id other found

/-- A limit concerns no units. -/
theorem BudgetInvariant.limited {world changed : World} (sound : BudgetInvariant world)
    (queue : changed.db.work_queue = world.db.work_queue)
    (reservations : changed.db.cost_reservations = world.db.cost_reservations)
    (usage : changed.db.usage_events = world.db.usage_events)
    (kept : ∀ place budget, world.budget place = some budget →
      ∃ next, changed.budget place = some next ∧ next.reserved_units = budget.reserved_units ∧
        next.used_units = budget.used_units)
    (new : ∀ place next, world.budget place = none → changed.budget place = some next →
      next.reserved_units.val = .finite 0 ∧ next.used_units.val = .finite 0) :
    BudgetInvariant changed ∧ NewlyCovered world changed := by
  have units : ∀ place, changed.reservedUnits place = world.reservedUnits place ∧
      changed.usedUnits place = world.usedUnits place := by
    intro place
    rw [World.reservedUnits, World.usedUnits, World.reservedUnits, World.usedUnits]
    cases found : world.budget place with
    | some budget =>
      obtain ⟨next, after, reserved, used⟩ := kept place budget found
      rw [after]
      exact ⟨congrArg (fun units : Units => Number.value units) reserved,
        congrArg (fun units : Units => Number.value units) used⟩
    | none =>
      cases after : changed.budget place with
      | none => exact ⟨rfl, rfl⟩
      | some next =>
        obtain ⟨reserved, used⟩ := new place next found after
        exact ⟨congrArg Number.value reserved, congrArg Number.value used⟩
  have rows : ∀ id, changed.reservation id = world.reservation id := by
    intro id
    rw [World.reservation, reservations, World.reservation]
  have items : ∀ id, changed.item id = world.item id := by
    intro id
    rw [World.item, queue, World.item]
  have charges : ∀ id, changed.charges id = world.charges id := by
    intro id
    rw [World.charges, usage, World.charges]
  refine ⟨⟨⟨?_, ?_, ?_, ?_⟩, ?_, ?_, ?_, ?_⟩, ?_⟩
  · intro place
    rw [(units place).1, World.reservations, reservations]
    exact sound.reserved place
  · intro place
    rw [(units place).2, World.usage, usage]
    exact sound.used place
  · intro id
    rw [rows, items]
    exact sound.held id
  · intro id
    rw [charges]
    exact sound.charged id
  · intro id
    rw [charges, items]
    exact sound.completed id
  · intro id row found
    rw [items] at found
    exact sound.finite id row found
  · intro place next after
    cases found : world.budget place with
    | some budget =>
      obtain ⟨again, there, reserved, used⟩ := kept place budget found
      rw [after] at there
      cases there
      rw [reserved, used]
      exact sound.plain place budget found
    | none =>
      obtain ⟨reserved, used⟩ := new place next found after
      rw [reserved, used]
      exact ⟨rfl, rfl⟩
  · intro id row found
    rw [rows] at found
    obtain ⟨plain, there⟩ := sound.budgeted id row found
    obtain ⟨budget, budgeted⟩ := Option.isSome_iff_exists.mp there
    obtain ⟨next, after, _⟩ := kept row.place budget budgeted
    exact ⟨plain, by rw [after]; rfl⟩
  · intro id row fresh there
    rw [rows, fresh] at there
    cases there

omit [Platform] in
/-- A budget has room for what keeps it within its limit, where the sum is exact. -/
theorem within_of_hasRoom {budget : BudgetRow} {units : Number} {sum : ℚ}
    (exact_ : Double.add (Double.add budget.used_units budget.reserved_units) units = .finite sum)
    (room : hasRoom budget units = true) : WithinLimit sum budget.limit_units := by
  rw [hasRoom, exact_, Bool.not_eq_true'] at room
  have storable := budget.limit_units.property
  rw [WithinLimit]
  revert room storable
  cases budget.limit_units.val with
  | finite limit =>
    intro room _
    exact .inr (not_lt.mp (of_decide_eq_false room))
  | negZero =>
    intro room _
    exact .inr (not_lt.mp (of_decide_eq_false room))
  | infinite negative =>
    intro _ storable
    refine .inl ?_
    simpa [Double.storable] using storable
  | nan =>
    intro _ storable
    cases storable

/-- A claim keeps the money in step, and covers what it reserves. -/
theorem BudgetInvariant.claimed {world changed : World} {row next : WorkRow}
    (sound : BudgetInvariant world) (exact_ : ArithmeticExact world)
    (before : world.item row.id = some row) (ready : row.status = .QUEUED ∨ row.status = .RUNNING)
    (items : ∀ id, changed.item id = if id = row.id then some next else world.item id)
    (payload : next.payload = row.payload)
    (usage : changed.db.usage_events = world.db.usage_events)
    (cost : ClaimCost row next world changed) :
    BudgetInvariant changed ∧ NewlyCovered world changed := by
  have open_ : row.status ≠ .SUCCEEDED := by
    rcases ready with status | status <;> simp [status]
  have finite : FiniteCost row.payload := (sound.finite _ _ before).resolve_left open_
  have costs : ∀ {units}, declaredCost row.payload = .ok units →
      (next.Costs ↔ isAtMostZero units = false) :=
    fun read => (costs_congr payload).trans (costs_iff finite read)
  have completed : ∀ id, (∃ row, world.item id = some row ∧ row.status = .SUCCEEDED) →
      ∃ row, changed.item id = some row ∧ row.status = .SUCCEEDED :=
    fun id => completed_changed open_ before items
  have finites := finite_changed sound.finite before open_ items (.inl payload)
  cases cost with
  | blocked status read above fresh budgets reservations =>
    have rows : ∀ id, changed.reservation id = world.reservation id := by
      intro id
      rw [World.reservation, reservations, World.reservation]
    refine sound.items budgets reservations usage ?_ completed finites
    refine held_changed sound.held items (fun id _ => rows id) ?_
    rw [rows, fresh, status]
    simp
  | free status read nothing budgets reservations =>
    have rows : ∀ id, changed.reservation id = world.reservation id := by
      intro id
      rw [World.reservation, reservations, World.reservation]
    refine sound.items budgets reservations usage ?_ completed finites
    refine held_changed sound.held items (fun id _ => rows id) ?_
    -- Only a running item with a cost had a reservation, and it is that again.
    have only : (world.reservation row.id).isSome = true → row.Costs := by
      intro there
      obtain ⟨other, found, _, some_⟩ := (sound.held row.id).mp there
      rw [before] at found
      cases found
      exact some_
    rw [rows, status, costs read, ← costs_iff finite read]
    constructor
    · exact fun there => ⟨rfl, only there⟩
    · rintro ⟨_, some_⟩
      rcases nothing with atMost | there
      · rw [costs_iff finite read, atMost] at some_
        cases some_
      · exact there
  | @reserved units status read above reservation named amount place inserted room moved =>
    obtain ⟨budget, found, room⟩ := room
    obtain ⟨plain, positive⟩ := plain_of_above finite read above
    have aboveZero : isAboveZero units = true := by
      rw [plain]
      simpa [isAboveZero] using positive
    obtain ⟨sum, leaves⟩ := exact_.reserve row.id row budget units before ready read aboveZero
      (by rw [← place]; exact found)
    obtain ⟨_, spends⟩ := sound.plain _ _ found
    have moves := units_moved moved found leaves spends
    have rows : ∀ id, changed.reservation id =
        if reservation.work_id = id then some reservation else world.reservation id :=
      Table.find?_insert inserted
    have charges : ∀ id, changed.charges id = world.charges id := by
      intro id
      rw [World.charges, usage, World.charges]
    have here : world.reservedUnits reservation.place = Number.value budget.reserved_units := by
      rw [World.reservedUnits, found]
      rfl
    refine ⟨⟨⟨?_, ?_, ?_, ?_⟩, ?_, finites, ?_, ?_⟩, ?_⟩
    · intro at_
      rw [(moves at_).1, reservations_insert inserted, amount, ← sound.reserved at_]
      by_cases same : at_ = reservation.place
      · rw [if_pos same, if_pos same.symm, same, here]
      · rw [if_neg same, if_neg (Ne.symm same), add_zero]
    · intro at_
      rw [(moves at_).2, World.usage, usage]
      have kept := sound.used at_
      by_cases same : at_ = reservation.place
      · rw [if_pos same]
        rw [same, World.usedUnits, found] at kept
        rw [same]
        exact kept
      · rw [if_neg same]
        exact kept
    · refine held_changed sound.held items (fun id apart => ?_) ?_
      · rw [rows, if_neg (by rw [named]; exact Ne.symm apart)]
      · rw [rows, if_pos named, status, costs read]
        simp [above]
    · intro id
      rw [charges]
      exact sound.charged id
    · intro id charged
      rw [charges] at charged
      exact completed id (sound.completed id charged)
    · exact plain_moved moved found leaves spends sound.plain
    · intro id other there
      rw [rows] at there
      split at there
      · cases there
        exact ⟨by rw [amount]; exact plain, budget_moved moved (by rw [found]; rfl)⟩
      · obtain ⟨units, budgeted⟩ := sound.budgeted id other there
        exact ⟨units, budget_moved moved budgeted⟩
    · -- The one new reservation is the one its budget had room for.
      intro id other fresh there
      rw [rows] at there
      split at there
      · cases there
        obtain ⟨last, after, reserved, used, limit⟩ := moved.here budget found
        refine ⟨last, after, ?_⟩
        rw [used, reserved, leaves, limit]
        have within := within_of_hasRoom sum room
        rw [add_assoc] at within
        exact within
      · rw [fresh] at there
        cases there

/-- The end of an attempt keeps the money in step, and reserves nothing. -/
theorem BudgetInvariant.ended {world middle changed : World} {row next : WorkRow} {consume : Bool}
    (sound : BudgetInvariant world) (exact_ : ArithmeticExact world)
    (before : world.item row.id = some row) (running : row.status = .RUNNING)
    (items : ∀ id, changed.item id = if id = row.id then some next else world.item id)
    (status : next.status ≠ .RUNNING)
    (payload : next.payload = row.payload ∨ next.status = .SUCCEEDED)
    (charged : consume = true → next.status = .SUCCEEDED)
    (budgets : middle.db.budgets = world.db.budgets)
    (reservations : middle.db.cost_reservations = world.db.cost_reservations)
    (usage : middle.db.usage_events = world.db.usage_events)
    (settled : CostSettled row.id consume middle (.ok ()) changed) :
    BudgetInvariant changed ∧ NewlyCovered world changed := by
  have open_ : row.status ≠ .SUCCEEDED := by simp [running]
  have completed : ∀ id, (∃ row, world.item id = some row ∧ row.status = .SUCCEEDED) →
      ∃ row, changed.item id = some row ∧ row.status = .SUCCEEDED :=
    fun id => completed_changed open_ before items
  have finites := finite_changed sound.finite before open_ items payload
  -- An item that is not completed was never charged.
  have uncharged : world.charges row.id = 0 := by
    by_contra some_
    obtain ⟨other, found, done⟩ := sound.completed row.id (Nat.pos_of_ne_zero some_)
    rw [before] at found
    cases found
    exact open_ done
  cases settled with
  | free fresh =>
    have rows : ∀ id, middle.reservation id = world.reservation id := by
      intro id
      rw [World.reservation, reservations, World.reservation]
    refine sound.items budgets reservations usage ?_ completed finites
    refine held_changed sound.held items (fun id _ => rows id) ?_
    rw [World.reservation, fresh]
    simp [status]
  | settled queue removed reservation found charge moved =>
    rw [reservations] at removed found
    rw [budgets] at moved
    change BudgetMoved reservation.place _ _ _ _ at moved
    rw [usage] at charge
    obtain ⟨plain, there⟩ := sound.budgeted row.id reservation found
    obtain ⟨budget, budgeted⟩ := Option.isSome_iff_exists.mp there
    obtain ⟨leaves, sum⟩ := exact_.settle row.id reservation budget found budgeted
    obtain ⟨_, plainUsed⟩ := sound.plain _ _ budgeted
    have spends : (if consume then Double.add budget.used_units reservation.units.val
        else budget.used_units.val) = .finite (Number.value budget.used_units +
          if consume then Number.value reservation.units else 0) := by
      cases consume with
      | true => exact sum
      | false =>
        rw [if_neg (by simp), if_neg (by simp), add_zero]
        exact plainUsed
    have moves := units_moved moved budgeted leaves spends
    have rows := reservation_remove removed
    have hereReserved : world.reservedUnits reservation.place =
        Number.value budget.reserved_units := by
      rw [World.reservedUnits, budgeted]
      rfl
    have hereUsed : world.usedUnits reservation.place = Number.value budget.used_units := by
      rw [World.usedUnits, budgeted]
      rfl
    have totals : ∀ at_, changed.usage at_ = world.usage at_ +
        if consume = true ∧ reservation.place = at_ then Number.value reservation.units else 0 := by
      intro at_
      cases consume with
      | true =>
        obtain ⟨event, _, appended, place, amount⟩ := charge
        rw [usage_append appended, amount, show event.place = reservation.place from place]
        simp
      | false =>
        have same : changed.db.usage_events = world.db.usage_events := charge
        rw [World.usage, same, World.usage]
        simp
    have charges : ∀ id, changed.charges id =
        world.charges id + if consume = true ∧ row.id = id then 1 else 0 := by
      intro id
      cases consume with
      | true =>
        obtain ⟨event, named, appended, _⟩ := charge
        rw [World.charges, appended, List.countP_append, List.countP_singleton, World.charges, named]
        simp
      | false =>
        have same : changed.db.usage_events = world.db.usage_events := charge
        rw [World.charges, same, World.charges]
        simp
    refine ⟨⟨⟨?_, ?_, ?_, ?_⟩, ?_, finites, ?_, ?_⟩, ?_⟩
    · intro at_
      have kept := sound.reserved at_
      rw [reservations_remove found removed at_] at kept
      rw [(moves at_).1]
      by_cases same : at_ = reservation.place
      · rw [if_pos same]
        rw [if_pos same.symm, same, hereReserved] at kept
        rw [kept, same, add_sub_cancel_right]
      · rw [if_neg same]
        rw [if_neg (Ne.symm same), add_zero] at kept
        exact kept
    · intro at_
      rw [(moves at_).2, totals, ← sound.used at_]
      by_cases same : at_ = reservation.place
      · rw [if_pos same, same, hereUsed]
        simp
      · rw [if_neg same, if_neg (fun both => same both.2.symm), add_zero]
    · refine held_changed sound.held items (fun id apart => ?_) ?_
      · rw [rows, if_neg apart]
      · rw [rows, if_pos rfl]
        simp [status]
    · intro id
      rw [charges]
      split
      · next both =>
        rw [← both.2, uncharged]
      · exact sound.charged id
    · intro id some_
      rw [charges] at some_
      split at some_
      · next both =>
        rw [← both.2]
        exact ⟨next, by rw [items, if_pos rfl], charged both.1⟩
      · exact completed id (sound.completed id some_)
    · exact plain_moved moved budgeted leaves spends sound.plain
    · intro id other left
      rw [rows] at left
      split at left
      · cases left
      · obtain ⟨units, budgeted⟩ := sound.budgeted id other left
        exact ⟨units, budget_moved moved budgeted⟩
    · intro id other fresh left
      rw [rows] at left
      split at left
      · cases left
      · rw [fresh] at left
        cases left

/-- Every move keeps the money in step, and covers what it reserves. -/
theorem BudgetInvariant.move {world changed : World} (sound : BudgetInvariant world)
    (exact_ : ArithmeticExact world) (move : BudgetMove world changed) :
    BudgetInvariant changed ∧ NewlyCovered world changed := by
  cases move with
  | still queue budgets reservations usage => exact sound.still queue budgets reservations usage
  | limited queue reservations usage kept new =>
    exact sound.limited queue reservations usage kept new
  | enqueued row inserted status finite budgets reservations usage =>
    exact sound.enqueued inserted status finite budgets reservations usage
  | claimed row next before ready items payload usage cost =>
    exact sound.claimed exact_ before ready items payload usage cost
  | ended row next middle before running items status payload charged budgets reservations usage
      settled =>
    exact sound.ended exact_ before running items status payload charged budgets reservations usage
      settled

omit [Platform] in
/-- Changing one item by its identifier leaves the others as they are. -/
theorem items_update {change : WorkRow → WorkRow} (keeps : ∀ row, (change row).id = row.id)
    {world : World} {row : WorkRow} (found : world.item row.id = some row) (id : String) :
    (world.withQueue (world.db.work_queue.update (·.id == row.id) change keeps)).item id =
      if id = row.id then some (change row) else world.item id := by
  by_cases same : id = row.id
  · rw [if_pos same, same, item_update keeps found]
  · rw [if_neg same, Untouched.update keeps same]

/-- The transaction of a claim is a move. -/
theorem budgetMove_claimWork (actor : Actor) (worker_id stamp lease : String) (world : World) :
    BudgetMove world (claimWork actor worker_id stamp lease (.closed world)).2.committed := by
  rw [claimWork, Script.beginImmediate_bind]
  split
  · exact .still rfl rfl rfl rfl
  rw [Script.query_bind]
  dsimp only
  cases next : nextWork stamp (workScopes actor) world with
  | none => exact .still rfl rfl rfl rfl
  | some row =>
    obtain ⟨before, choice⟩ := nextWork_ready next
    have ready : row.status = .QUEUED ∨ row.status = .RUNNING := by
      rcases choice with waits | ended
      · rw [WorkRow.waiting, Bool.and_eq_true] at waits
        exact .inl (beq_iff_eq.mp waits.1)
      · rw [WorkRow.expired, Bool.and_eq_true] at ended
        exact .inr (beq_iff_eq.mp ended.1)
    obtain ⟨outcome, changed, ran, reserved⟩ := reserve_cases row world world
    dsimp only
    cases reserved with
    | unread | refused =>
      -- What raised inside the transaction is never committed.
      rw [Script.bind_error ran]
      exact .still rfl rfl rfl rfl
    | blocked read above fresh =>
      rw [Script.bind_ok ran]
      exact .claimed row _ before ready (items_update (WorkRow.id_budgetBlocked · _) before) rfl rfl
        (.blocked rfl read above fresh rfl rfl)
    | free read nothing =>
      rw [Script.bind_ok ran, if_pos rfl, Script.execute_bind]
      exact .claimed row _ before ready (items_update (WorkRow.id_leased · _ _ _) before) rfl rfl
        (.free rfl read nothing rfl rfl)
    | reserved reservation named read _ queue inserted usage above amount place room moved =>
      rw [Script.bind_ok ran, if_pos rfl, Script.execute_bind]
      have same : ∀ id, changed.item id = world.item id := by
        intro id
        rw [World.item, queue, World.item]
      have there : changed.item row.id = some row := (same row.id).trans before
      refine .claimed row (row.leased worker_id lease stamp) before ready (fun id => ?_) rfl usage
        (.reserved rfl read above reservation named amount place inserted room moved)
      rw [← same id]
      exact items_update (WorkRow.id_leased · worker_id lease stamp) there id

/-- The transaction that ends an attempt is a move. -/
theorem budgetMove_endWork (work_id worker_id : String) (change : String → WorkRow → WorkRow)
    (keeps : ∀ stamp row, (change stamp row).id = row.id) (consume : Bool)
    (status : ∀ stamp row, (change stamp row).status ≠ .RUNNING)
    (payload : ∀ stamp row, (change stamp row).payload = row.payload ∨
      (change stamp row).status = .SUCCEEDED)
    (charged : consume = true → ∀ stamp row, (change stamp row).status = .SUCCEEDED)
    (world : World) :
    BudgetMove world (endWork work_id worker_id change keeps consume (.closed world)).2.committed := by
  rw [endWork, Script.query_closed, Script.execute_closed, updateWork]
  dsimp only
  split
  · exact .still rfl rfl rfl rfl
  next alone =>
  -- The one item that is held is found under its identifier.
  obtain ⟨row, there, held⟩ : ∃ row ∈ world.db.work_queue.rows,
      row.heldBy work_id worker_id = true := by
    have one : world.db.work_queue.rows.countP (·.heldBy work_id worker_id) = 1 :=
      Decidable.not_not.mp alone
    exact List.countP_pos_iff.mp (by rw [one]; exact Nat.one_pos)
  have before : world.item row.id = some row := Table.find?_of_mem there
  have own := held
  rw [WorkRow.heldBy, Bool.and_eq_true, Bool.and_eq_true] at own
  have named : row.id = work_id := beq_iff_eq.mp own.1
  subst named
  obtain ⟨outcome, changed, ran, settled⟩ := settle_cases row.id consume world
    (world.withQueue (world.db.work_queue.update (·.heldBy row.id worker_id)
      (change world.stamp) (keeps world.stamp)))
  cases outcome with
  | error error =>
    rw [Script.bind_error ran]
    exact .still rfl rfl rfl rfl
  | ok value =>
    rw [Script.bind_ok ran]
    refine .ended row (change world.stamp row) _ before (beq_iff_eq.mp own.2.1) (fun id => ?_)
      (status _ _) (payload _ _) (fun used => charged used _ _) (by rfl) (by rfl) (by rfl) settled
    show changed.item id = _
    rw [World.item, settled.queue]
    refine (Table.find?_update _ _ (keeps _) _ _).trans ?_
    by_cases same : id = row.id
    · have found : world.db.work_queue.find? id = some row := same ▸ before
      rw [if_pos same, found, Option.map_some, if_pos held]
    · rw [if_neg same, World.item]
      cases found : world.db.work_queue.find? id with
      | none => rfl
      | some other =>
        have apart : other.id = id := Table.key_of_find? found
        rw [Option.map_some, if_neg]
        rw [WorkRow.heldBy, apart]
        simp [same]

/-- The transaction that ends a failed attempt at an item that is running is a move. -/
theorem budgetMove_failWork (status : WorkStatus) (available error : String) {world : World}
    {row : WorkRow} (before : world.item row.id = some row) (running : row.status = .RUNNING)
    (ends : status ≠ .RUNNING) :
    BudgetMove world (failWork row.id status available error (.closed world)).2.committed := by
  rw [failWork, Script.execute_closed, updateWork]
  dsimp only
  obtain ⟨outcome, changed, ran, settled⟩ := settle_cases row.id false world
    (world.withQueue (world.db.work_queue.update (·.id == row.id)
      (.failed status available error world.stamp) (WorkRow.id_failed · _ _ _ _)))
  cases outcome with
  | error error =>
    rw [Script.bind_error ran]
    exact .still rfl rfl rfl rfl
  | ok value =>
    rw [Script.bind_ok ran]
    refine .ended row (row.failed status available error world.stamp) _ before running
      (fun id => ?_) ends (.inl rfl) (by rintro ⟨⟩) (by rfl) (by rfl) (by rfl) settled
    show changed.item id = _
    rw [World.item, settled.queue]
    exact items_update (WorkRow.id_failed · _ _ _ _) before id

/-- What is recorded after an operation keeps what the operation established. -/
theorem conserved_after {world changed last : World}
    (established : BudgetInvariant changed ∧ NewlyCovered world changed)
    (queue : last.db.work_queue = changed.db.work_queue)
    (budgets : last.db.budgets = changed.db.budgets)
    (reservations : last.db.cost_reservations = changed.db.cost_reservations)
    (usage : last.db.usage_events = changed.db.usage_events) :
    BudgetInvariant last ∧ NewlyCovered world last := by
  refine ⟨(established.1.still queue budgets reservations usage).1, fun id row fresh there => ?_⟩
  rw [World.reservation, reservations] at there
  obtain ⟨budget, found, within⟩ := established.2 id row fresh there
  exact ⟨budget, by rw [World.budget, budgets]; exact found, within⟩

/-- What an operation on the queue does to the money, in a world where it is in step. -/
abbrev Conserves (world last : World) : Prop :=
  BudgetInvariant world → ArithmeticExact world → BudgetInvariant last ∧ NewlyCovered world last

/-- An operation that changes nothing that counts. -/
theorem Conserves.still {world last : World} (queue : last.db.work_queue = world.db.work_queue)
    (budgets : last.db.budgets = world.db.budgets)
    (reservations : last.db.cost_reservations = world.db.cost_reservations)
    (usage : last.db.usage_events = world.db.usage_events) : Conserves world last :=
  fun sound _ => sound.still queue budgets reservations usage

theorem conserves_claim_work (actor : Actor) (worker_id : String) (lease_seconds : ℤ)
    (world : World) :
    Conserves world ((claim_work actor worker_id lease_seconds).run world).2 := by
  intro sound exact_
  rw [run_claim_work]
  split
  · exact sound.still rfl rfl rfl rfl
  split
  · exact sound.still rfl rfl rfl rfl
  next lease _ =>
    have kept := sound.move exact_
      (budgetMove_claimWork actor worker_id world.stamp lease.utc.isoformat world)
    split
    next claim session ran =>
      rw [ran] at kept
      -- What is reported to the worker goes to the audit log only.
      cases claim with
      | unauthorized | empty | blocked => exact conserved_after kept rfl rfl rfl rfl
      | leased work_id =>
        rw [reportClaim, Prog.run_bind, select, Prog.run_read]
        dsimp only
        cases session.committed.db.work_queue.find? work_id with
        | none => exact kept
        | some row => exact conserved_after kept rfl rfl rfl rfl
    next error session ran =>
      rw [ran] at kept
      exact kept

theorem conserves_block_work (actor : Actor) (work_id worker_id reason : String)
    (approval_required : Bool) (world : World) : Conserves world
      ((block_work actor work_id worker_id reason approval_required).run world).2 := by
  intro sound exact_
  rw [block_work, Script.run_asStep_bind]
  have kept := sound.move exact_ (budgetMove_endWork work_id worker_id
    (WorkRow.blocked (if approval_required then .APPROVAL_BLOCKED else .POLICY_BLOCKED)
      (safe_persisted_text reason "Sensitive detail redacted" 500))
    (fun _ row => row.id_blocked _ _ _) false
    (fun _ _ => by cases approval_required <;> simp [WorkRow.blocked])
    (fun _ _ => .inl rfl) (by rintro ⟨⟩) world)
  split
  next ran =>
    rw [ran] at kept
    exact conserved_after kept rfl rfl rfl rfl
  next ran =>
    rw [ran] at kept
    exact kept

theorem conserves_complete_work (actor : Actor) (work_id worker_id : String) (result : Json)
    (world : World) :
    Conserves world ((complete_work actor work_id worker_id result).run world).2 := by
  intro sound exact_
  rw [complete_work]
  split
  · exact sound.still rfl rfl rfl rfl
  rw [Prog.run_bind, select, Prog.run_read]
  dsimp only
  rw [Script.run_asStep_bind]
  have kept := sound.move exact_ (budgetMove_endWork work_id worker_id
    (WorkRow.succeeded result.sorted) (fun _ row => row.id_succeeded _ _) true
    (fun _ _ => by simp [WorkRow.succeeded]) (fun _ _ => .inr rfl) (fun _ _ _ => rfl) world)
  split
  next ran =>
    rw [ran] at kept
    exact conserved_after kept rfl rfl rfl rfl
  next ran =>
    rw [ran] at kept
    exact kept

theorem conserves_fail_work (actor : Actor) (work_id worker_id error : String)
    (retry_seconds : ℤ) (world : World) :
    Conserves world ((fail_work actor work_id worker_id error retry_seconds).run world).2 := by
  intro sound exact_
  rw [fail_work]
  dsimp only
  rw [Prog.run_bind, select, Prog.run_read]
  dsimp only
  cases held : (world.db.work_queue.find? work_id).filter (·.heldBy work_id worker_id) with
  | none => exact sound.still rfl rfl rfl rfl
  | some row =>
    obtain ⟨there, own⟩ := Option.filter_eq_some_iff.mp held
    rw [WorkRow.heldBy, Bool.and_eq_true, Bool.and_eq_true] at own
    have named : row.id = work_id := beq_iff_eq.mp own.1
    subst named
    dsimp only
    rw [Prog.run_bind, clockNow, Prog.run_read]
    dsimp only
    rw [Prog.run_bind, fromNow]
    cases world.clock.shift (retry_seconds * second) with
    | none => exact sound.still rfl rfl rfl rfl
    | some later =>
      rw [Prog.run_ret]
      dsimp only
      rw [Script.run_asStep_bind]
      have kept := sound.move exact_ (budgetMove_failWork
        (if row.max_attempts ≤ row.attempts then .DEAD_LETTER else .QUEUED) later.utc.isoformat
        (safe_persisted_text error "Sensitive detail redacted" 500) there
        (beq_iff_eq.mp own.2.1) (by split <;> simp))
      split
      next ran =>
        rw [ran] at kept
        exact conserved_after kept rfl rfl rfl rfl
      next ran =>
        rw [ran] at kept
        exact kept

theorem conserves_enqueue_work (store : Store) (actor : Actor) (task_type scope : String)
    (payload : List (String × Json)) (priority max_attempts : ℤ) (available_at : Option String)
    (finite : FiniteCost (Json.obj payload).sorted) (world : World) :
    Conserves world ((enqueue_work store actor task_type scope payload priority max_attempts
      available_at).run world).2 := by
  intro sound exact_
  rw [enqueue_work, run_lift_bind]
  split
  case h_2 => exact sound.still rfl rfl rfl rfl
  dsimp only
  split
  · exact sound.still rfl rfl rfl rfl
  split
  · exact sound.still rfl rfl rfl rfl
  rw [Prog.run_bind, uuid4, Prog.run_atom, Prog.run_ret]
  dsimp only
  rw [Prog.run_bind, now, Prog.run_read]
  dsimp only
  rw [Script.run_asStep_bind, Script.execute_closed]
  dsimp only
  split
  next ran =>
    split at ran
    next changed statement =>
      cases ran
      split at statement
      · cases statement
      next queue inserted =>
        cases statement
        have kept : BudgetInvariant (world.withQueue queue) ∧
            NewlyCovered world (world.withQueue queue) :=
          sound.enqueued inserted rfl finite rfl rfl rfl
        exact conserved_after kept rfl rfl rfl rfl
    · cases ran
  next ran =>
    split at ran
    · cases ran
    · cases ran
      exact sound.still rfl rfl rfl rfl

/-- Setting a limit is a move. -/
theorem budgetMove_upsertBudget {scope : Scope} {period : String} {limit_units : Number}
    {world changed : World} (upserted : upsertBudget scope period limit_units world = .ok changed) :
    BudgetMove world changed := by
  rw [upsertBudget] at upserted
  split at upserted
  case isFalse => cases upserted
  split at upserted
  next budgets inserted =>
    cases upserted
    have find := Table.find?_insert inserted
    have free := (Table.insert?_isSome _).mp (by rw [inserted]; rfl)
    refine .limited rfl rfl rfl (fun place budget found => ?_) fun place next absent there => ?_
    · -- A budget that is there has another key than the new one.
      have apart : ¬(scope, period) = place := by
        rintro rfl
        cases found.symm.trans free
      exact ⟨budget, (find place).trans ((if_neg apart).trans found), rfl, rfl⟩
    · have after := (find place).symm.trans there
      split at after
      · cases after
        exact ⟨rfl, rfl⟩
      · cases absent.symm.trans after
  next taken =>
    cases upserted
    refine .limited rfl rfl rfl (fun place budget found => ?_) fun place next absent there => ?_
    · have there := Table.find?_update (fun row => (row.owner_scope, row.period_key) == (scope, period))
        (fun row : BudgetRow =>
          { row with limit_units := ⟨limit_units, by assumption⟩, updated_at := world.stamp })
        (fun _ => rfl) place world.db.budgets
      rw [show world.db.budgets.find? place = some budget from found, Option.map_some] at there
      split at there
      · exact ⟨_, there, rfl, rfl⟩
      · exact ⟨_, there, rfl, rfl⟩
    · have same := Table.find?_update (fun row => (row.owner_scope, row.period_key) == (scope, period))
        (fun row : BudgetRow =>
          { row with limit_units := ⟨limit_units, by assumption⟩, updated_at := world.stamp })
        (fun _ => rfl) place world.db.budgets
      rw [show world.db.budgets.find? place = none from absent, Option.map_none] at same
      cases same.symm.trans there

theorem conserves_configure_budget (actor : Actor) (scope : String) (limit_units : Number)
    (period_key : Option String) (world : World) :
    Conserves world ((configure_budget actor scope limit_units period_key).run world).2 := by
  intro sound exact_
  rw [configure_budget]
  split
  · exact sound.still rfl rfl rfl rfl
  cases Scope.read scope with
  | none => exact sound.still rfl rfl rfl rfl
  | some known =>
    dsimp only
    split
    · exact sound.still rfl rfl rfl rfl
    rw [Prog.run_bind, Prog.run_read]
    dsimp only
    rw [Script.run_asStep_bind, Script.execute_closed]
    cases upserted : upsertBudget known ((given period_key).getD world.current_period) limit_units
        world with
    | error error => exact sound.still rfl rfl rfl rfl
    | ok changed =>
      exact conserved_after (sound.move exact_ (budgetMove_upsertBudget upserted)) rfl rfl rfl rfl

/-- One operation on the queue or its budgets, or something that leaves all of them alone. -/
inductive BudgetStep (world : World) : World → Prop
  | configure_budget (actor : Actor) (scope : String) (limit_units : Number)
      (period_key : Option String) : BudgetStep world
      ((SeanOs.configure_budget actor scope limit_units period_key).run world).2
  /-- The payload declares a finite cost, if it declares one that can be read. -/
  | enqueue_work (store : Store) (actor : Actor) (task_type scope : String)
      (payload : List (String × Json)) (priority max_attempts : ℤ) (available_at : Option String)
      (finite : FiniteCost (Json.obj payload).sorted) : BudgetStep world
      ((SeanOs.enqueue_work store actor task_type scope payload priority max_attempts
        available_at).run world).2
  | claim_work (actor : Actor) (worker_id : String) (lease_seconds : ℤ) :
      BudgetStep world ((SeanOs.claim_work actor worker_id lease_seconds).run world).2
  | complete_work (actor : Actor) (work_id worker_id : String) (result : Json) :
      BudgetStep world ((SeanOs.complete_work actor work_id worker_id result).run world).2
  | fail_work (actor : Actor) (work_id worker_id error : String) (retry_seconds : ℤ) :
      BudgetStep world ((SeanOs.fail_work actor work_id worker_id error retry_seconds).run world).2
  | block_work (actor : Actor) (work_id worker_id reason : String) (approval_required : Bool) :
      BudgetStep world
        ((SeanOs.block_work actor work_id worker_id reason approval_required).run world).2
  /-- Time passes, workers stop, and other operations leave the queue and the budgets alone. -/
  | elsewhere {changed : World} (queue : changed.db.work_queue = world.db.work_queue)
      (budgets : changed.db.budgets = world.db.budgets)
      (reservations : changed.db.cost_reservations = world.db.cost_reservations)
      (usage : changed.db.usage_events = world.db.usage_events) : BudgetStep world changed

/-- A run of such steps, each from a world in which the arithmetic it may do is exact. -/
inductive BudgetRun (start : World) : World → Prop
  | refl : BudgetRun start start
  | step {world changed : World} (run : BudgetRun start world) (exact_ : ArithmeticExact world)
      (stepped : BudgetStep world changed) : BudgetRun start changed

/-- A database without work, budgets, reservations and charges. -/
structure WithoutWork (world : World) : Prop where
  queue : world.db.work_queue = .empty
  budgets : world.db.budgets = .empty
  reservations : world.db.cost_reservations = .empty
  usage : world.db.usage_events = []

/-- Each step conserves budgets. -/
theorem BudgetStep.conserves {world changed : World} (stepped : BudgetStep world changed) :
    Conserves world changed := by
  cases stepped with
  | configure_budget => exact conserves_configure_budget _ _ _ _ world
  | enqueue_work _ _ _ _ _ _ _ _ finite => exact conserves_enqueue_work _ _ _ _ _ _ _ _ finite world
  | claim_work => exact conserves_claim_work _ _ _ world
  | complete_work => exact conserves_complete_work _ _ _ _ world
  | fail_work => exact conserves_fail_work _ _ _ _ _ world
  | block_work => exact conserves_block_work _ _ _ _ _ world
  | elsewhere queue budgets reservations usage => exact .still queue budgets reservations usage

/-- Without any work there is nothing to be out of step. -/
theorem WithoutWork.sound {world : World} (fresh : WithoutWork world) : BudgetInvariant world := by
  have items : ∀ id, world.item id = none := by
    intro id
    rw [World.item, fresh.queue]
    rfl
  have rows : ∀ id, world.reservation id = none := by
    intro id
    rw [World.reservation, fresh.reservations]
    rfl
  have charges : ∀ id, world.charges id = 0 := by
    intro id
    rw [World.charges, fresh.usage]
    rfl
  have budget : ∀ place, world.budget place = none := by
    intro place
    rw [World.budget, fresh.budgets]
    rfl
  refine ⟨⟨?_, ?_, ?_, ?_⟩, ?_, ?_, ?_, ?_⟩
  · intro place
    rw [World.reservedUnits, budget, World.reservations, fresh.reservations]
    rfl
  · intro place
    rw [World.usedUnits, budget, World.usage, fresh.usage]
    rfl
  · intro id
    rw [rows, items]
    simp
  · intro id
    rw [charges]
    exact Nat.zero_le _
  · intro id some_
    rw [charges] at some_
    cases some_
  · intro id row found
    rw [items] at found
    cases found
  · intro place row found
    rw [budget] at found
    cases found
  · intro id row found
    rw [rows] at found
    cases found

/-- The invariant holds in every world of a run from a database without work. -/
theorem BudgetRun.sound {start world : World} (fresh : WithoutWork start)
    (run : BudgetRun start world) : BudgetInvariant world := by
  induction run with
  | refl => exact fresh.sound
  | step _ exact_ stepped ih => exact (stepped.conserves ih exact_).1

/--
Budgets are conserved in every run of operations one at a time from a database without work, as
long as costs are finite and no sum is rounded; and every reservation any next step makes is covered
by the limit of its budget.
-/
theorem budget_conservation {start world : World} (fresh : WithoutWork start)
    (run : BudgetRun start world) :
    BudgetsConserved world ∧ ∀ changed, ArithmeticExact world → BudgetStep world changed →
      NewlyCovered world changed :=
  ⟨(run.sound fresh).toBudgetsConserved,
    fun _ exact_ stepped => (stepped.conserves (run.sound fresh) exact_).2⟩

end Costs

section Examples

open Sample

local instance budgetPlatform : Platform := platform []

/-- A world with a budget of ten units for the month. -/
def Sample.budgeted : World :=
  ((configure_budget .sean "IAC" (.finite 10) none).run (world .empty)).2

/-- That world with work of three units. -/
def Sample.costly : World :=
  ((enqueue_work ⟨.IAC⟩ worker "NOOP" "IAC" [("estimated_cost_units", .int 3)] 100 1 none).run
    budgeted).2

/-- The arithmetic in a world without reservations is exact where that for each item is. -/
theorem Sample.exact_of_rows {world : World} (free : world.db.cost_reservations.rows = [])
    (sums : (world.db.work_queue.rows.all fun row => world.db.budgets.rows.all fun budget =>
      (declaredCost row.payload).toOption.all fun units =>
        Double.add (Double.add budget.used_units budget.reserved_units) units ==
            .finite (Number.value budget.used_units + Number.value budget.reserved_units +
              Number.value units) &&
          Double.add budget.reserved_units units ==
            .finite (Number.value budget.reserved_units + Number.value units)) = true) :
    ArithmeticExact world := by
  refine ⟨?_, ?_⟩
  · intro id row budget units found _ read _ budgeted
    have checked := List.all_eq_true.mp (List.all_eq_true.mp sums row (Table.mem_of_find? found))
      budget (Table.mem_of_find? budgeted)
    rw [read] at checked
    simpa [Except.toOption] using checked
  · intro id row budget found _
    have there := Table.mem_of_find? found
    rw [free] at there
    cases there

/-- A budget of ten units with three of them reserved is in step. -/
theorem budget_conservation_claimed :
    BudgetsConserved ((claim_work worker "first" 60).run costly).2 ∧
      ((claim_work worker "first" 60).run costly).2.reservedUnits
        (.IAC, costly.current_period) = 3 := by
  refine ⟨(budget_conservation ⟨rfl, rfl, rfl, rfl⟩ (.step (.step (.step .refl ?_
    (.configure_budget .sean "IAC" (.finite 10) none)) ?_ (.enqueue_work ⟨.IAC⟩ worker "NOOP" "IAC"
      [("estimated_cost_units", .int 3)] 100 1 none ?_)) ?_ (.claim_work worker "first" 60))).1, ?_⟩
  · exact exact_of_rows (by decide +kernel) (by decide +kernel)
  · exact exact_of_rows (by decide +kernel) (by decide +kernel)
  · intro units read
    have three : declaredCost (Json.obj [("estimated_cost_units", .int 3)]).sorted =
        .ok (.finite 3) := by decide +kernel
    rw [three] at read
    cases read
    exact .inr rfl
  · exact exact_of_rows (by decide +kernel) (by decide +kernel)
  · decide +kernel

end Examples

end SeanOs
