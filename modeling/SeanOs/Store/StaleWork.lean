import SeanOs.Sample
import SeanOs.Store.WorkQueue

/-! Workers whose lease is over leave the queue alone, as long as no failure is written too late. -/

namespace SeanOs

open Atomic

namespace World

variable (id : String) (world : World)

/-- An item of the queue. -/
def item : Option WorkRow := world.db.work_queue.find? id

/-- The cost reserved for an item. -/
def reservation : Option ReservationRow := world.db.cost_reservations.find? id

/-- How often an item was charged. -/
def charges : ℕ := world.db.usage_events.countP (·.work_id == id)

end World

/-- The states an item does not leave. -/
def WorkStatus.final : WorkStatus → Bool
  | .SUCCEEDED | .DEAD_LETTER | .APPROVAL_BLOCKED | .POLICY_BLOCKED => true
  | _ => false

/-- A change that leaves an item, its reservation and its charges alone. -/
structure Untouched (id : String) (world changed : World) : Prop where
  item : changed.item id = world.item id
  reservation : changed.reservation id = world.reservation id
  charges : changed.charges id = world.charges id

/-- A claim of a worker: an item that waited or whose lease was over is leased or lacks a budget. -/
structure Claimed (worker_id stamp id : String) (world changed : World) (row next : WorkRow) :
    Prop where
  before : world.item id = some row
  ready : row.waiting stamp = true ∨ row.expired stamp = true
  after : changed.item id = some next
  outcome : (∃ now_, next = row.budgetBlocked now_) ∨
    ∃ lease, next = row.leased worker_id lease stamp
  reservation : ∀ reserved, world.reservation id = some reserved →
    changed.reservation id = some reserved
  charges : changed.charges id = world.charges id

/-- The end of an attempt by the worker that held the lease, charged where it succeeded. -/
structure Ended (worker_id id : String) (world changed : World) (row next : WorkRow) : Prop where
  before : world.item id = some row
  held : row.heldBy id worker_id = true
  after : changed.item id = some next
  charges : changed.charges id = world.charges id ∨
    next.status = .SUCCEEDED ∧ changed.charges id = world.charges id + 1

/-- What a step of a call of a worker does to an item. -/
inductive Touched (worker_id : String) (label : Label) (id : String) (world changed : World) : Prop
  | untouched (change : Untouched id world changed)
  | claimed {stamp : String} {row next : WorkRow} (claim : label = .claim_work worker_id stamp)
      (change : Claimed worker_id stamp id world changed row next)
  | ended {row next : WorkRow} (other : ∀ stamp, label ≠ .claim_work worker_id stamp)
      (change : Ended worker_id id world changed row next)

/-- The failure of an attempt is written while its worker still holds the lease. -/
def FailsInTime : Label → World → Prop
  | .fail_work work_id worker_id, world =>
    (world.item work_id).any (·.heldBy work_id worker_id) = true
  | _, _ => True

instance : (label : Label) → (world : World) → Decidable (FailsInTime label world)
  | .fail_work _ _, _ => inferInstanceAs (Decidable (_ = true))
  | .clock, _ | .draw, _ | .select, _ | .kill_switch, _ | .audit, _ | .records, _
  | .pending _ _, _ | .request _ _, _ | .alerts, _
  | .consume _, _ | .authorize _ _, _ | .claim _ _ _, _ | .fail _ _ _, _ | .complete _ _ _, _
  | .hold _ _ _, _ | .outbox, _ | .claim_work _ _, _ | .complete_work _ _, _ | .block_work _ _, _
  | .work, _ | .replay _, _ | .receipt _, _ | .submit _ _, _ | .coding_request _ _ _, _
  | .dispatch _ _, _ | .report_lookup _ _ _, _ | .report_section _, _ | .report_record _ _ _, _
  | .report _ _ _, _ | .file _, _ | .external _, _ => .isTrue trivial

/-- The item whose failure is written in time. -/
theorem FailsInTime.row {work_id worker_id : String} {world : World}
    (inTime : FailsInTime (.fail_work work_id worker_id) world) :
    ∃ row, world.item work_id = some row ∧ row.heldBy work_id worker_id = true := by
  have held : (world.item work_id).any (·.heldBy work_id worker_id) = true := inTime
  cases found : world.item work_id with
  | none =>
    rw [found] at held
    cases held
  | some row =>
    rw [found] at held
    exact ⟨row, rfl, held⟩

namespace Untouched

variable {id : String} {world changed later : World}

theorem refl (id : String) (world : World) : Untouched id world world := ⟨rfl, rfl, rfl⟩

/-- What leaves the three tables alone leaves every item alone. -/
theorem of_eq (queue : changed.db.work_queue = world.db.work_queue)
    (reservations : changed.db.cost_reservations = world.db.cost_reservations)
    (usage : changed.db.usage_events = world.db.usage_events) : Untouched id world changed where
  item := by rw [World.item, World.item, queue]
  reservation := by rw [World.reservation, World.reservation, reservations]
  charges := by rw [World.charges, World.charges, usage]

/-- Changing another item leaves an item alone. -/
theorem update {work_id : String} {change : WorkRow → WorkRow}
    (keeps : ∀ row, (change row).id = row.id) (other : id ≠ work_id) (world : World) :
    (world.withQueue (world.db.work_queue.update (·.id == work_id) change keeps)).item id =
      world.item id := by
  rw [World.item, World.withQueue, Table.find?_update, World.item]
  cases found : world.db.work_queue.find? id with
  | none => rfl
  | some row =>
    have named : row.id = id := Table.key_of_find? found
    rw [Option.map_some, if_neg (by rw [named]; simpa using other)]

end Untouched

/-- Changing an item by its identifier changes the item that is found. -/
theorem item_update {id : String} {change : WorkRow → WorkRow}
    (keeps : ∀ row, (change row).id = row.id) {world : World} {row : WorkRow}
    (found : world.item id = some row) :
    (world.withQueue (world.db.work_queue.update (·.id == id) change keeps)).item id =
      some (change row) := by
  have named : row.id = id := Table.key_of_find? found
  rw [World.item] at found
  rw [World.item, World.withQueue, Table.find?_update, found, Option.map_some,
    if_pos (by rw [named]; exact beq_self_eq_true id)]

/-- The next item is one that waits, or whose lease is over. -/
theorem nextWork_ready {stamp : String} {scopes : List Scope} {world : World} {row : WorkRow}
    (next : nextWork stamp scopes world = some row) :
    world.item row.id = some row ∧ (row.waiting stamp = true ∨ row.expired stamp = true) := by
  -- Sorting only reorders the items that were filtered.
  have first := List.mem_of_mem_head? (Option.mem_def.mpr next)
  rw [List.mem_insertionSort, List.mem_filter] at first
  obtain ⟨there, ready⟩ := first
  rw [Bool.and_eq_true, Bool.or_eq_true] at ready
  exact ⟨Table.find?_of_mem there, ready.1⟩

/-- A step with another item than the one it is about leaves that item alone. -/
theorem Untouched.of_update {id work_id : String} {change : WorkRow → WorkRow}
    {world middle changed : World} (keeps : ∀ row, (change row).id = row.id) (other : id ≠ work_id)
    (queue : middle.db.work_queue = world.db.work_queue)
    (updated : changed.db.work_queue =
      middle.db.work_queue.update (·.id == work_id) change keeps)
    (reservation : changed.reservation id = world.reservation id)
    (usage : changed.db.usage_events = world.db.usage_events) : Untouched id world changed where
  item := by
    have same := Untouched.update keeps other world
    rw [World.item, updated, queue]
    exact same
  reservation := reservation
  charges := by rw [World.charges, usage, World.charges]

/-- The release of a cost touches the reservation of its item only. -/
theorem CostSettled.reservation {work_id id : String} {consume : Bool} {world changed : World}
    (settled : CostSettled work_id consume world (.ok ()) changed) (other : id ≠ work_id) :
    changed.reservation id = world.reservation id := by
  cases settled with
  | free => rfl
  | settled queue reservations reserved there usage =>
    rw [World.reservation, reservations, Table.find?_remove, World.reservation]
    cases found : world.db.cost_reservations.find? id with
    | none => rfl
    | some row =>
      have named : row.work_id = id := Table.key_of_find? found
      rw [Option.filter_some, if_pos (by rw [named]; simpa using other)]

/-- The settlement of a cost leaves the queue alone. -/
theorem CostSettled.queue {work_id : String} {consume : Bool} {world changed : World}
    {outcome : Except Error Unit} (settled : CostSettled work_id consume world outcome changed) :
    changed.db.work_queue = world.db.work_queue := by
  cases settled with
  | free | refused => rfl
  | settled queue => exact queue

/-- The settlement of a cost charges its item once at most, and only where it was used. -/
theorem CostSettled.charges {work_id : String} {consume : Bool} {world changed : World}
    (settled : CostSettled work_id consume world (.ok ()) changed) (id : String) :
    changed.charges id = world.charges id ∨
      consume = true ∧ id = work_id ∧ changed.charges id = world.charges id + 1 := by
  cases settled with
  | free => exact .inl rfl
  | settled queue reservations reserved there usage =>
    cases consume with
    | false => exact .inl (by rw [World.charges, usage, World.charges])
    | true =>
      obtain ⟨event, named, usage, _⟩ := usage
      rw [World.charges, usage, World.charges, List.countP_append, List.countP_singleton]
      by_cases same : event.work_id = id
      · exact .inr ⟨rfl, same.symm.trans named, by rw [if_pos (by simpa using same)]⟩
      · exact .inl (by rw [if_neg (by simpa using same), Nat.add_zero])

section Transactions

variable [Platform]

/-- The transaction of a claim touches at most the item it chooses. -/
theorem touched_claimWork (actor : Actor) (worker_id stamp lease id : String) (world : World) :
    Touched worker_id (.claim_work worker_id stamp) id world
      (claimWork actor worker_id stamp lease (.closed world)).2.committed := by
  rw [claimWork, Script.beginImmediate_bind]
  split
  · exact .untouched (.refl id world)
  rw [Script.query_bind]
  dsimp only
  cases next : nextWork stamp (workScopes actor) world with
  | none => exact .untouched (.refl id world)
  | some row =>
    obtain ⟨before, ready⟩ := nextWork_ready next
    obtain ⟨outcome, changed, ran, reserved⟩ := reserve_cases row world world
    dsimp only
    cases reserved with
    | unread | refused =>
      -- What raised inside the transaction is never committed.
      rw [Script.bind_error ran]
      exact .untouched (.refl id world)
    | blocked =>
      rw [Script.bind_ok ran]
      by_cases same : id = row.id
      · subst same
        exact .claimed rfl ⟨before, ready, item_update _ before, .inl ⟨_, rfl⟩,
          fun _ there => there, rfl⟩
      · exact .untouched (.of_update (WorkRow.id_budgetBlocked · _) same rfl rfl rfl rfl)
    | free =>
      rw [Script.bind_ok ran, if_pos rfl, Script.execute_bind]
      by_cases same : id = row.id
      · subst same
        exact .claimed rfl ⟨before, ready, item_update _ before, .inr ⟨lease, rfl⟩,
          fun _ there => there, rfl⟩
      · exact .untouched (.of_update (WorkRow.id_leased · _ _ _) same rfl rfl rfl rfl)
    | reserved reservation named _ _ queue inserted usage =>
      rw [Script.bind_ok ran, if_pos rfl, Script.execute_bind]
      have kept : ∀ other, changed.reservation other =
          if reservation.work_id = other then some reservation else world.reservation other :=
        Table.find?_insert inserted
      by_cases same : id = row.id
      · subst same
        have there : changed.item row.id = some row := by
          rw [World.item, queue]
          exact before
        refine .claimed rfl ⟨before, ready, item_update _ there, .inr ⟨lease, rfl⟩, ?_, ?_⟩
        · -- The reservation that was inserted is the first one of the item.
          intro reserved found
          have fresh := (Table.insert?_isSome reservation).mp (by rw [inserted]; rfl)
          rw [named] at fresh
          rw [World.reservation, fresh] at found
          cases found
        · rw [World.charges, World.charges]
          exact congrArg _ usage
      · refine .untouched (.of_update (WorkRow.id_leased · _ _ _) same queue rfl ?_ usage)
        exact (kept id).trans (if_neg (by rw [named]; exact Ne.symm same))

/-- The end of an attempt changes its item only, and only where the worker holds the lease. -/
theorem ends_endWork (work_id worker_id id : String) (change : String → WorkRow → WorkRow)
    (keeps : ∀ stamp row, (change stamp row).id = row.id) (consume : Bool)
    (success : consume = true → ∀ stamp row, (change stamp row).status = .SUCCEEDED)
    (world : World) :
    Untouched id world
      (endWork work_id worker_id change keeps consume (.closed world)).2.committed ∨
    id = work_id ∧ ∃ row, Ended worker_id id world
      (endWork work_id worker_id change keeps consume (.closed world)).2.committed row
        (change world.stamp row) := by
  rw [endWork, Script.query_closed, Script.execute_closed, updateWork]
  dsimp only
  split
  · -- No item is held, so the update is taken back.
    exact .inl (.refl id world)
  next alone =>
  -- The one item that is held is found under its identifier.
  obtain ⟨row, there, held⟩ : ∃ row ∈ world.db.work_queue.rows,
      row.heldBy work_id worker_id = true := by
    have one : world.db.work_queue.rows.countP (·.heldBy work_id worker_id) = 1 :=
      Decidable.not_not.mp alone
    exact List.countP_pos_iff.mp (by rw [one]; exact Nat.one_pos)
  have named : row.id = work_id := by
    rw [WorkRow.heldBy, Bool.and_eq_true] at held
    simpa using held.1
  have before : world.item work_id = some row := named ▸ Table.find?_of_mem there
  obtain ⟨outcome, changed, ran, settled⟩ := settle_cases work_id consume world
    (world.withQueue (world.db.work_queue.update (·.heldBy work_id worker_id)
      (change world.stamp) (keeps world.stamp)))
  cases outcome with
  | error error =>
    rw [Script.bind_error ran]
    exact .inl (.refl id world)
  | ok value =>
    rw [Script.bind_ok ran]
    have item : ∀ place, changed.item place =
        (world.item place).map fun row =>
          if row.heldBy work_id worker_id then change world.stamp row else row := by
      intro place
      rw [World.item, settled.queue]
      exact Table.find?_update _ _ (keeps _) _ _
    by_cases same : id = work_id
    · subst same
      refine .inr ⟨rfl, row, before, held, ?_, ?_⟩
      · rw [← named] at item held ⊢
        show changed.item row.id = _
        rw [item, named, before, Option.map_some, if_pos (named ▸ held)]
      · rcases settled.charges id with same | ⟨used, _, more⟩
        · exact .inl same
        · exact .inr ⟨success used _ _, more⟩
    · refine .inl ⟨?_, settled.reservation same, ?_⟩
      · show changed.item id = _
        rw [item]
        cases found : world.item id with
        | none => rfl
        | some row =>
          have apart : row.id = id := Table.key_of_find? found
          rw [Option.map_some, if_neg]
          rw [WorkRow.heldBy, apart]
          simp [same]
      · rcases settled.charges id with kept | ⟨_, here, _⟩
        · exact kept
        · exact absurd here same

/-- A failure that is written in time changes only the item the worker holds. -/
theorem ends_failWork {worker_id work_id : String} (id : String) (status : WorkStatus)
    (available error : String) (world : World)
    (inTime : FailsInTime (.fail_work work_id worker_id) world) :
    Untouched id world
      (failWork work_id status available error (.closed world)).2.committed ∨
    id = work_id ∧ ∃ row, Ended worker_id id world
      (failWork work_id status available error (.closed world)).2.committed row
        (row.failed status available error world.stamp) := by
  rw [failWork, Script.execute_closed, updateWork]
  dsimp only
  obtain ⟨outcome, changed, ran, settled⟩ := settle_cases work_id false world
    (world.withQueue (world.db.work_queue.update (·.id == work_id)
      (.failed status available error world.stamp) (WorkRow.id_failed · _ _ _ _)))
  cases outcome with
  | error error =>
    rw [Script.bind_error ran]
    exact .inl (.refl id world)
  | ok value =>
    rw [Script.bind_ok ran]
    have charges : changed.charges id = world.charges id := by
      rcases settled.charges id with same | ⟨used, _⟩
      · exact same
      · cases used
    by_cases same : id = work_id
    · subst same
      obtain ⟨row, before, held⟩ := inTime.row
      refine .inr ⟨rfl, row, before, held, ?_, .inl charges⟩
      show changed.item id = _
      rw [World.item, settled.queue]
      exact item_update _ before
    · refine .inl ⟨?_, settled.reservation same, charges⟩
      show changed.item id = _
      rw [World.item, settled.queue]
      exact Untouched.update _ same world

omit [Platform] in
/-- A step that ends an attempt touches items as a step may that is no claim. -/
theorem Touched.of_ends {worker_id work_id id : String} {label : Label} {world changed : World}
    {change : WorkRow → WorkRow} (other : ∀ stamp, label ≠ .claim_work worker_id stamp)
    (ends : Untouched id world changed ∨
      id = work_id ∧ ∃ row, Ended worker_id id world changed row (change row)) :
    Touched worker_id label id world changed := by
  rcases ends with same | ⟨_, row, ended⟩
  · exact .untouched same
  · exact .ended other ended

/-- The steps of a call of a worker, each of which touches items as it may. -/
abbrev Harmless {α : Type} (worker_id : String) (program : Op α) : Prop :=
  Prog.Keeps FailsInTime (fun label world changed => ∀ id, Touched worker_id label id world changed)
    program

section Calls

variable {worker_id : String}

omit [Platform] in
theorem harmless_read {α : Type} (label : Label) (view : World → α) :
    Harmless worker_id (Prog.read label view : Op α) :=
  Prog.Keeps.read fun world _ id => .untouched (.refl id world)

omit [Platform] in
theorem harmless_fromNow (reading : Calendar.Reading) (seconds : ℤ) :
    Harmless worker_id (fromNow reading seconds) := by
  unfold fromNow
  split <;> exact trivial

theorem harmless_audit {actor : Actor} {action : String} {result : AuditResult} {reason : String}
    {record_id : Option String} {details : List (String × Json)} :
    Harmless worker_id (_audit actor action result reason record_id details none) :=
  Prog.Keeps.write fun _ _ _ => .untouched (.of_eq rfl rfl rfl)

theorem harmless_reportClaim (actor : Actor) (claim : WorkClaim) :
    Harmless worker_id (reportClaim actor worker_id claim) := by
  cases claim with
  | unauthorized => exact Prog.Keeps.bind harmless_audit fun _ => trivial
  | empty => exact trivial
  | blocked work_id => exact Prog.Keeps.bind harmless_audit fun _ => trivial
  | leased work_id =>
    refine Prog.Keeps.bind (harmless_read _ _) fun claimed => ?_
    cases claimed with
    | none => exact trivial
    | some row => exact Prog.Keeps.bind harmless_audit fun _ => trivial

theorem harmless_claim_work (actor : Actor) (lease_seconds : ℤ) :
    Harmless worker_id (claim_work actor worker_id lease_seconds) := by
  refine Prog.Keeps.bind (harmless_read _ _) fun killed => ?_
  split
  · exact Prog.Keeps.bind harmless_audit fun _ => trivial
  refine Prog.Keeps.bind (harmless_read _ _) fun stamp => ?_
  refine Prog.Keeps.bind (harmless_read _ _) fun reading => ?_
  refine Prog.Keeps.bind (harmless_fromNow _ _) fun lease => ?_
  refine Prog.Keeps.bind (Prog.Keeps.transact fun world _ id => ?_) fun claim =>
    harmless_reportClaim actor claim
  exact touched_claimWork actor worker_id stamp lease id world

theorem harmless_block_work (actor : Actor) (work_id reason : String) (approval_required : Bool) :
    Harmless worker_id (block_work actor work_id worker_id reason approval_required) := by
  refine Prog.Keeps.bind (Prog.Keeps.transact fun world _ id => ?_) fun _ =>
    Prog.Keeps.bind harmless_audit fun _ => trivial
  exact .of_ends (by nofun) (ends_endWork work_id worker_id id _ _ _ (by nofun) world)

theorem harmless_complete_work (actor : Actor) (work_id : String) (result : Json) :
    Harmless worker_id (complete_work actor work_id worker_id result) := by
  unfold complete_work
  dsimp only
  split
  · exact Prog.Keeps.bind harmless_audit fun _ => trivial
  refine Prog.Keeps.bind (harmless_read _ _) fun reservation => ?_
  refine Prog.Keeps.bind (Prog.Keeps.transact fun world _ id => ?_) fun _ => harmless_audit
  exact .of_ends (by rintro _ ⟨⟩) (ends_endWork work_id worker_id id _ _ _ (fun _ _ _ => rfl) world)

theorem harmless_fail_work (actor : Actor) (work_id error : String) (retry_seconds : ℤ) :
    Harmless worker_id (fail_work actor work_id worker_id error retry_seconds) := by
  refine Prog.Keeps.bind (harmless_read _ _) fun row => ?_
  cases row with
  | none => exact trivial
  | some row =>
    refine Prog.Keeps.bind (harmless_read _ _) fun reading => ?_
    refine Prog.Keeps.bind (harmless_fromNow _ _) fun available => ?_
    -- Only this write needs the permission to be made in time.
    refine Prog.Keeps.bind (Prog.Keeps.transact fun world inTime id => ?_) fun _ =>
      Prog.Keeps.bind harmless_audit fun _ => trivial
    exact .of_ends (by nofun) (ends_failWork _ _ _ _ world inTime)

/-- The calls of a worker on the queue, for any actor. -/
inductive WorkCall (worker_id : String) : Op Unit → Prop
  | claim_work (actor : Actor) (lease_seconds : ℤ) :
      WorkCall worker_id (SeanOs.claim_work actor worker_id lease_seconds).call
  | complete_work (actor : Actor) (work_id : String) (result : Json) :
      WorkCall worker_id (SeanOs.complete_work actor work_id worker_id result).call
  | fail_work (actor : Actor) (work_id error : String) (retry_seconds : ℤ) :
      WorkCall worker_id (SeanOs.fail_work actor work_id worker_id error retry_seconds).call
  | block_work (actor : Actor) (work_id reason : String) (approval_required : Bool) :
      WorkCall worker_id
        (SeanOs.block_work actor work_id worker_id reason approval_required).call

/-- Every such call is harmless when its failure is written in time. -/
theorem WorkCall.harmless {program : Op Unit} (called : WorkCall worker_id program) :
    Harmless worker_id program := by
  have call : ∀ {α : Type} {program : Op α}, Harmless worker_id program →
      Harmless worker_id program.call := fun kept => Prog.Keeps.bind kept fun _ => trivial
  cases called with
  | claim_work actor lease_seconds => exact call (harmless_claim_work actor lease_seconds)
  | complete_work actor work_id result => exact call (harmless_complete_work actor work_id result)
  | fail_work actor work_id error retry_seconds =>
    exact call (harmless_fail_work actor work_id error retry_seconds)
  | block_work actor work_id reason approval_required =>
    exact call (harmless_block_work actor work_id reason approval_required)

end Calls

/-- What anything else may do: add items, but leave those that are there alone. -/
structure Elsewhere (world changed : World) : Prop where
  items : ∀ id row, world.item id = some row → Untouched id world changed
  charges : ∀ id, changed.charges id = world.charges id

omit [Platform] in
/-- The passing of time leaves the queue alone. -/
theorem Elsewhere.clock (reading : Calendar.Reading) (world : World) :
    Elsewhere world { world with clock := reading } :=
  ⟨fun _ _ _ => .of_eq rfl rfl rfl, fun _ => rfl⟩

/-- What a run does to an item: a final one stays as it is, and one charge at most is made. -/
structure Settles (id : String) (start world : World) : Prop where
  final : ∀ row, start.item id = some row → row.status.final = true → world.item id = some row
  charges : world.charges id = start.charges id ∨ world.charges id = start.charges id + 1 ∧
    ∃ row, world.item id = some row ∧ row.status = .SUCCEEDED

/-- A run settles every item. -/
def SettlesAll (start world : World) : Prop := ∀ id, Settles id start world

section Runs

variable {id : String} {start world changed : World} {worker_id : String} {label : Label}

omit [Platform] in
theorem Settles.refl (id : String) (start : World) : Settles id start start :=
  ⟨fun _ there _ => there, .inl rfl⟩

omit [Platform] in
/-- An untouched item is settled as before. -/
theorem Settles.untouched (settles : Settles id start world)
    (change : Untouched id world changed) : Settles id start changed where
  final row there final := change.item.trans (settles.final row there final)
  charges := by rw [change.item, change.charges]; exact settles.charges

omit [Platform] in
/-- A step of a worker settles an item as it must. -/
theorem Settles.touched (settles : Settles id start world)
    (touched : Touched worker_id label id world changed) : Settles id start changed := by
  cases touched with
  | untouched change => exact settles.untouched change
  | claimed claim change =>
    -- Only an item that waits or runs is claimed, so it was neither final nor charged.
    rename_i stamp row next
    have open_ : row.status.final = false ∧ row.status ≠ .SUCCEEDED := by
      rcases change.ready with waits | ended
      · rw [WorkRow.waiting, Bool.and_eq_true] at waits
        rw [beq_iff_eq.mp waits.1]
        decide
      · rw [WorkRow.expired, Bool.and_eq_true] at ended
        rw [beq_iff_eq.mp ended.1]
        decide
    refine ⟨fun before there final => ?_, .inl ?_⟩
    · have same := (settles.final before there final).symm.trans change.before
      cases same
      rw [open_.1] at final
      cases final
    · rw [change.charges]
      rcases settles.charges with same | ⟨_, charged, there, success⟩
      · exact same
      · cases there.symm.trans change.before
        exact absurd success open_.2
  | ended other change =>
    -- Only an item that runs is ended, so it was neither final nor charged.
    rename_i row next
    have running : row.status = .RUNNING := by
      have held := change.held
      rw [WorkRow.heldBy, Bool.and_eq_true, Bool.and_eq_true] at held
      exact beq_iff_eq.mp held.2.1
    have uncharged : world.charges id = start.charges id := by
      rcases settles.charges with same | ⟨_, charged, there, success⟩
      · exact same
      · cases there.symm.trans change.before
        rw [running] at success
        cases success
    refine ⟨fun before there final => ?_, ?_⟩
    · cases (settles.final before there final).symm.trans change.before
      rw [running] at final
      cases final
    · rcases change.charges with same | ⟨success, more⟩
      · exact .inl (same.trans uncharged)
      · exact .inr ⟨by rw [more, uncharged], next, change.after, success⟩

omit [Platform] in
/-- What anything else does leaves an item settled. -/
theorem Settles.elsewhere (settles : Settles id start world) (change : Elsewhere world changed) :
    Settles id start changed where
  final row there final :=
    (change.items id row (settles.final row there final)).item.trans
      (settles.final row there final)
  charges := by
    rw [change.charges]
    rcases settles.charges with same | ⟨more, row, there, success⟩
    · exact .inl same
    · exact .inr ⟨more, row, (change.items id row there).item.trans there, success⟩

/--
Workers whose lease is over do no harm in any run in which failures are written in time.

A step of a worker that is no claim changes an item only while the worker holds its lease, final
items stay as they are, and between any two points of the run an item is charged once at most.
-/
theorem stale_work {κ : Type} [DecidableEq κ] (worker_id : κ → String) {start : World}
    {middle last : Pool κ World Label Error}
    (before : Pool.Reaches (fun caller => WorkCall (worker_id caller)) Elsewhere
      (fun _ => FailsInTime) (Pool.idle start) middle)
    (after : Pool.Reaches (fun caller => WorkCall (worker_id caller)) Elsewhere
      (fun _ => FailsInTime) middle last) :
    (∀ caller label change next, last.running caller = .atom label change next →
      FailsInTime label last.shared →
        ∀ id, Touched (worker_id caller) label id last.shared (change last.shared)) ∧
    SettlesAll middle.shared last.shared := by
  have entered : ∀ caller program, WorkCall (worker_id caller) program →
      Harmless (worker_id caller) program := fun _ _ called => called.harmless
  have kept := before.kept entered (Pool.idle_kept _ start)
  constructor
  · intro caller label change next ready inTime
    have own := after.kept entered kept caller
    rw [ready, Prog.keeps_atom] at own
    exact (own _ inTime).1
  · exact after.invariant entered
      (fun _ _ _ _ settles _ change id => (settles id).touched (change id))
      (fun _ _ settles change id => (settles id).elsewhere change) kept
      fun id => .refl id middle.shared

end Runs

end Transactions

namespace Sample

/-- A world with one item that waits for a worker and declares a cost, and a budget for it. -/
def queued : World :=
  let item : WorkRow := {
    id := "work", task_type := "REVENUE_QUALIFY", owner_scope := .IAC
    payload := .obj [("estimated_cost_units", .int 3)], status := .QUEUED, priority := 100
    attempts := 0, max_attempts := 3, available_at := "2029-12-31T00:00:00+00:00"
    lease_owner := none, lease_expires_at := none, last_error := none
    created_at := "2029-12-31T00:00:00+00:00", updated_at := "2029-12-31T00:00:00+00:00" }
  let budget : BudgetRow := {
    owner_scope := .IAC, period_key := "2030-01", limit_units := ⟨.finite 10, by decide⟩
    used_units := ⟨.finite 0, by decide⟩, reserved_units := ⟨.finite 0, by decide⟩
    updated_at := "2029-12-31T00:00:00+00:00" }
  world { Database.empty with
    work_queue := ⟨[item], List.nodup_singleton _⟩, budgets := ⟨[budget], List.nodup_singleton _⟩ }

end Sample

section Examples

open Sample

local instance staleWorkPlatform : Platform := platform []

/-- A worker leases the item, and finds that it may end its attempt as failed. -/
def Sample.firstFails : List (Pool.Event Bool World Label Error) :=
  .start false (claim_work worker "first" 60).call :: (steps 6 false ++
    .start false (fail_work worker "work" "first" "no answer" 0).call :: steps 2 false)

/-- An hour later another worker leases the item and completes it. -/
def Sample.secondCompletes : List (Pool.Event Bool World Label Error) :=
  .outside hourPasses :: .start true (claim_work worker "second" 60).call :: (steps 6 true ++
    .start true (complete_work worker "work" "second" (.obj [])).call :: steps 3 true)

/-- The first worker tries to complete the item as well, with a lease that it has lost. -/
def Sample.staleFinish : List (Pool.Event Bool World Label Error) :=
  .start false (complete_work worker "work" "first" (.obj [])).call :: steps 3 false

/-- Any of these moves is one of the calls, or leaves the queue alone. -/
theorem Sample.reaches_stale {permits : Bool → Label → World → Prop}
    {start pool : Pool Bool World Label Error} (check : Bool → Label → World → Bool)
    (sound : ∀ caller label state, check caller label state = true → permits caller label state)
    (events : List (Pool.Event Bool World Label Error))
    (some_ : ∀ event ∈ events, event ∈ firstFails ++ (secondCompletes ++ staleFinish))
    (passed : Pool.playableAll check events pool = true)
    (reached : Pool.Reaches (fun caller => WorkCall (workerName caller)) Elsewhere permits start
      pool) :
    Pool.Reaches (fun caller => WorkCall (workerName caller)) Elsewhere permits start
      (events.foldl Pool.play pool) := by
  refine reached.play check sound events (fun caller program there => ?_)
    (fun change there => ?_) passed
  · have known := some_ _ there
    simp only [firstFails, secondCompletes, staleFinish, steps, List.mem_append, List.mem_cons,
      List.mem_replicate, Pool.Event.start.injEq, reduceCtorEq, and_false, false_or, or_false]
      at known
    rcases known with (⟨rfl, rfl⟩ | ⟨rfl, rfl⟩) | (⟨rfl, rfl⟩ | ⟨rfl, rfl⟩) | ⟨rfl, rfl⟩
    · exact .claim_work _ _
    · exact .fail_work _ _ _ _
    · exact .claim_work _ _
    · exact .complete_work _ _ _
    · exact .complete_work _ _ _
  · have known := some_ _ there
    simp only [firstFails, secondCompletes, staleFinish, steps, List.mem_append, List.mem_cons,
      List.mem_replicate, Pool.Event.outside.injEq, reduceCtorEq, and_false, false_or, or_false]
      at known
    subst known
    exact fun world => .clock _ world

/-- The item is leased, failed in time, leased again an hour later, and completed. -/
def Sample.completed : Pool Bool World Label Error :=
  (firstFails ++ (steps 2 false ++ secondCompletes)).foldl Pool.play (Pool.idle queued)

/-- An item that was completed stays so, though a worker that had leased it before completes it too. -/
theorem stale_work_in_time :
    (completed.shared.item "work").map (·.status) = some .SUCCEEDED ∧
    SettlesAll completed.shared (staleFinish.foldl Pool.play completed).shared := by
  have inTime (caller : Bool) (label : Label) (world : World) :
      decide (FailsInTime label world) = true → FailsInTime label world := of_decide_eq_true
  refine ⟨by decide +kernel, (stale_work workerName
    (reaches_stale (fun _ label world => decide (FailsInTime label world)) inTime
      (firstFails ++ (steps 2 false ++ secondCompletes)) (fun event there => ?_) (by decide +kernel)
      .refl)
    (reaches_stale (fun _ label world => decide (FailsInTime label world)) inTime staleFinish
      (fun event there => ?_) (by decide +kernel) .refl)).2⟩
  · rcases List.mem_append.mp there with first | there
    · exact List.mem_append_left _ first
    rcases List.mem_append.mp there with step | second
    · rw [List.eq_of_mem_replicate step]
      exact List.mem_append_left _ (by simp [firstFails, steps])
    · exact List.mem_append_right _ (List.mem_append_left _ second)
  · exact List.mem_append_right _ (List.mem_append_right _ there)

/-- A failure that is written too late puts an item back that another worker has completed. -/
theorem stale_work_requeued :
    ∃ middle last : Pool Bool World Label Error,
      Pool.Reaches (fun caller => WorkCall (workerName caller)) Elsewhere (fun _ _ _ => True)
        (Pool.idle queued) middle ∧
      Pool.Reaches (fun caller => WorkCall (workerName caller)) Elsewhere (fun _ _ _ => True)
        middle last ∧
      ¬SettlesAll middle.shared last.shared := by
  have free : ∀ (caller : Bool) (label : Label) (world : World), true = true → True :=
    fun _ _ _ _ => trivial
  refine ⟨(firstFails ++ secondCompletes).foldl Pool.play (Pool.idle queued), _,
    reaches_stale (fun _ _ _ => true) free _ ?_ (by decide +kernel) .refl,
    reaches_stale (fun _ _ _ => true) free (steps 1 false) ?_ (by decide +kernel) .refl, ?_⟩
  · intro event there
    rw [← List.append_assoc]
    exact List.mem_append_left _ there
  · intro event there
    rw [List.eq_of_mem_replicate there]
    exact List.mem_append_left _ (by simp [firstFails, steps])
  · -- The item was completed before the step, and waits for a worker after it.
    intro settles
    have completed : (((firstFails ++ secondCompletes).foldl Pool.play
        (Pool.idle queued)).shared.item "work").map (·.status) = some .SUCCEEDED := by
      decide +kernel
    have requeued : (((steps 1 false).foldl Pool.play ((firstFails ++ secondCompletes).foldl
        Pool.play (Pool.idle queued))).shared.item "work").map (·.status) = some .QUEUED := by
      decide +kernel
    obtain ⟨row, found, status⟩ := Option.map_eq_some_iff.mp completed
    rw [(settles "work").final row found (by rw [status]; rfl), Option.map_some, status] at requeued
    cases requeued

end Examples

end SeanOs
