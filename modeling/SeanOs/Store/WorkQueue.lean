import SeanOs.Lib.Session
import SeanOs.Policy

/-! The work queue: enqueueing, leases, budgets that costs are reserved in, and the ends of attempts. -/

namespace SeanOs

open Atomic Calendar

variable [Platform]

namespace World

variable (world : World)

/-- The current UTC time as text, inside a transaction. -/
def stamp : String := world.clock.utc.isoformat

/-- The month budgets are kept for. -/
def current_period : String :=
  let days := world.clock.val / day
  String.ofList (Nat.toDigits 10 (yearOf days) ++ '-' :: Decimal.digits 2 (monthOfDay days))

/-- A world with another work queue. -/
def withQueue (queue : Table WorkRow.id) : World :=
  { world with db := { world.db with work_queue := queue } }

/-- A world with other budgets. -/
def withBudgets (budgets : Table fun row : BudgetRow => (row.owner_scope, row.period_key)) :
    World :=
  { world with db := { world.db with budgets := budgets } }

/-- A world with other reservations. -/
def withReservations (reservations : Table ReservationRow.work_id) : World :=
  { world with db := { world.db with cost_reservations := reservations } }

end World

/-- The statements of one connection on the store. -/
abbrev Statements (α : Type) : Type := Script World Error α

/-- A second transaction cannot be opened inside the first. -/
def nestedTransaction : Error := .value "cannot start a transaction within a transaction"

/-- Change the items that meet a condition, keeping their identifiers. -/
def updateWork (holds : WorkRow → Bool) (change : WorkRow → WorkRow)
    (keeps : ∀ row, (change row).id = row.id) (world : World) : Except Error World :=
  .ok (world.withQueue (world.db.work_queue.update holds change keeps))

/-- Change the units of a budget, which must stay numbers of at least zero. -/
def updateBudget (place : Scope × String) (reserved used : Number → Number) (world : World) :
    Except Error World :=
  match world.db.budgets.find? place with
  | none => .ok world
  | some budget =>
    if reservable : Double.storable (reserved budget.reserved_units) = true then
      if usable : Double.storable (used budget.used_units) = true then
        .ok (world.withBudgets (world.db.budgets.update
          (fun row => (row.owner_scope, row.period_key) == place)
          (fun row => { row with
            reserved_units := ⟨_, reservable⟩, used_units := ⟨_, usable⟩
            updated_at := world.stamp })
          fun _ => rfl))
      else .error (.integrity "budgets.used_units")
    else .error (.integrity "budgets.reserved_units")

/-- Reserve units for an item, which must not have a reservation. -/
def insertReservation (work : WorkRow) (period : String) (units : Number) (world : World) :
    Except Error World :=
  if storable : Double.storable units = true then
    match world.db.cost_reservations.insert?
        ⟨work.id, work.owner_scope, period, ⟨units, storable⟩, world.stamp⟩ with
    | none => .error (.integrity "cost_reservations.work_id")
    | some reservations => .ok (world.withReservations reservations)
  else .error (.integrity "cost_reservations.units")

/-- Record the units an item has used. -/
def insertUsage (reservation : ReservationRow) (world : World) : Except Error World :=
  let row : UsageRow := {
    id := Platform.uuid4 world.drawn
    work_id := reservation.work_id
    owner_scope := reservation.owner_scope
    period_key := reservation.period_key
    units := reservation.units
    occurred_at := world.stamp }
  .ok { world with
    db := { world.db with usage_events := world.db.usage_events ++ [row] }
    drawn := world.drawn + 1 }

/-- Remove the reservation of an item. -/
def deleteReservation (work_id : String) (world : World) : Except Error World :=
  .ok (world.withReservations (world.db.cost_reservations.remove (·.work_id == work_id)))

namespace WorkRow

/-- An item without a lease. -/
def unleased (row : WorkRow) : WorkRow :=
  { row with lease_owner := none, lease_expires_at := none }

/-- An item that no budget has units for. -/
def budgetBlocked (stamp : String) (row : WorkRow) : WorkRow :=
  { row with
    status := .BUDGET_BLOCKED, updated_at := stamp
    last_error := some "No configured budget or insufficient available units" }

/-- An item with one more attempt, leased to a worker. -/
def leased (worker_id lease stamp : String) (row : WorkRow) : WorkRow :=
  { row with
    status := .RUNNING, lease_owner := some worker_id, lease_expires_at := some lease
    attempts := row.attempts + 1, updated_at := stamp }

/-- An item whose attempt was ended by policy. -/
def blocked (status : WorkStatus) (reason stamp : String) (row : WorkRow) : WorkRow :=
  { row.unleased with status := status, last_error := some reason, updated_at := stamp }

/-- An item with its result in place of its payload. -/
def succeeded (result : Json) (stamp : String) (row : WorkRow) : WorkRow :=
  { row.unleased with status := .SUCCEEDED, payload := result, updated_at := stamp }

/-- An item whose attempt failed, in the state it is left in. -/
def failed (status : WorkStatus) (available error stamp : String) (row : WorkRow) : WorkRow :=
  { row.unleased with
    status := status, available_at := available, last_error := some error, updated_at := stamp }

variable (row : WorkRow)

omit [Platform] in
@[simp] theorem id_budgetBlocked (stamp : String) : (row.budgetBlocked stamp).id = row.id := rfl

omit [Platform] in
@[simp] theorem id_leased (worker_id lease stamp : String) :
    (row.leased worker_id lease stamp).id = row.id := rfl

omit [Platform] in
@[simp] theorem id_blocked (status : WorkStatus) (reason stamp : String) :
    (row.blocked status reason stamp).id = row.id := rfl

omit [Platform] in
@[simp] theorem id_succeeded (result : Json) (stamp : String) :
    (row.succeeded result stamp).id = row.id := rfl

omit [Platform] in
@[simp] theorem id_failed (status : WorkStatus) (available error stamp : String) :
    (row.failed status available error stamp).id = row.id := rfl

end WorkRow

/-- The cost an item declares in its payload, which must be an object. -/
def declaredCost : Json → Except Error Number
  | .obj payload => estimatedCost payload
  | _ => .error (.value "the payload has no attribute 'get'")

/-- Whether a budget has room for some more units. -/
def hasRoom (budget : BudgetRow) (units : Number) : Bool :=
  !Double.exceeds (Double.add (Double.add budget.used_units budget.reserved_units) units)
    budget.limit_units

/-- Reserve the cost an item declares, or block it for want of a budget. -/
def _reserve_cost (work : WorkRow) : Statements Bool := do
  let units ← Script.check (declaredCost work.payload)
  if isAtMostZero units then return true
  else if (← Script.query fun world => world.db.cost_reservations.find? work.id).isSome then
    return true
  else
    let period ← Script.query World.current_period
    match ← Script.query fun world =>
        (world.db.budgets.find? (work.owner_scope, period)).filter (hasRoom · units) with
    | none => do
      Script.execute fun world =>
        updateWork (·.id == work.id) (.budgetBlocked world.stamp) (WorkRow.id_budgetBlocked · _) world
      return false
    | some _ => do
      Script.execute (updateBudget (work.owner_scope, period) (Double.add · units) id)
      Script.execute (insertReservation work period units)
      return true

/-- Release the reservation of an item, and charge its units if they were used. -/
def _settle_cost (work_id : String) (consume : Bool) : Statements Unit := do
  match ← Script.query fun world => world.db.cost_reservations.find? work_id with
  | none => return ()
  | some row =>
    if consume then do
      Script.execute (updateBudget (row.owner_scope, row.period_key)
        (Double.sub · row.units.val) (Double.add · row.units.val))
      Script.execute (insertUsage row)
      Script.execute (deleteReservation work_id)
    else do
      Script.execute (updateBudget (row.owner_scope, row.period_key) (Double.sub · row.units.val) id)
      Script.execute (deleteReservation work_id)

/-- Set the limit of a budget, which is added without any units if there is none. -/
def upsertBudget (scope : Scope) (period : String) (limit_units : Number) (world : World) :
    Except Error World :=
  if storable : Double.storable limit_units = true then
    match world.db.budgets.insert? ⟨scope, period, ⟨limit_units, storable⟩, ⟨.finite 0, rfl⟩,
        ⟨.finite 0, rfl⟩, world.stamp⟩ with
    | some budgets => .ok (world.withBudgets budgets)
    | none => .ok (world.withBudgets (world.db.budgets.update
        (fun row => (row.owner_scope, row.period_key) == (scope, period))
        (fun row => { row with limit_units := ⟨limit_units, storable⟩, updated_at := world.stamp })
        fun _ => rfl))
  else .error (.integrity "budgets.limit_units")

/-- Configure the limit of a budget, which only Sean may do. -/
def configure_budget (actor : Actor) (scope : String) (limit_units : Number)
    (period_key : Option String) : Op Unit :=
  if !actor.is_sean then do
    _audit actor "CONFIGURE_BUDGET" .DENIED "Only Sean configures budgets" none [] none
    throw (.authorization "Only Sean configures budgets")
  else match Scope.read scope with
    | none => throw (.validation "Valid scope and non-negative limit required")
    | some known =>
      -- What is no number is not below zero.
      if Double.exceeds (.finite 0) limit_units then
        throw (.validation "Valid scope and non-negative limit required")
      else do
        let current ← Prog.read .clock World.current_period
        let period := (given period_key).getD current
        Script.asStep .work do
          Script.execute (upsertBudget known period limit_units)
          Script.commit
        _audit actor "CONFIGURE_BUDGET" .ALLOWED "Budget limit configured" none
          [("scope", .str scope), ("period", .str period), ("limit_units", .float limit_units)] none

/-- Add durable work to the queue. -/
def enqueue_work (store : Store) (actor : Actor) (task_type scope : String)
    (payload : List (String × Json)) (priority : ℤ) (max_attempts : ℤ)
    (available_at : Option String) : Op String := do
  lift (_authorize store actor scope [] "write")
  let findings := secret_findings (.obj payload) "$"
  if findings ≠ [] then
    _audit actor "ENQUEUE_WORK" .DENIED
      "Secret-like material is prohibited in durable work payloads" none
      [("finding_paths", .arr (findings.map (.str ·.path)))] none
    throw (.validation "Secret-like material is prohibited in durable work payloads")
  else if max_attempts < 1 ∨ 10 < max_attempts then
    throw (.validation "max_attempts must be between 1 and 10")
  else do
    let work_id ← uuid4
    let stamp ← now
    Script.asStep .work do
      Script.execute fun world =>
        match world.db.work_queue.insert? {
            id := work_id, task_type := task_type, owner_scope := (Scope.read scope).getD .IAC
            payload := (Json.obj payload).sorted, status := .QUEUED, priority := priority
            attempts := 0, max_attempts := max_attempts.toNat
            available_at := (given available_at).getD stamp
            lease_owner := none, lease_expires_at := none, last_error := none
            created_at := stamp, updated_at := stamp } with
        | none => .error (.integrity "work_queue.id")
        | some queue => .ok (world.withQueue queue)
      Script.commit
    _audit actor "ENQUEUE_WORK" .ALLOWED "Authorized durable work item" (some work_id)
      [("task_type", .str task_type), ("scope", .str scope)] none
    return work_id

/-- The item that is queued with three attempts and no lease. -/
def queuedRow (id task_type : String) (payload : Json) (priority : ℤ) (stamp : String) : WorkRow where
  id := id
  task_type := task_type
  owner_scope := .IAC
  payload := payload
  status := .QUEUED
  priority := priority
  attempts := 0
  max_attempts := 3
  available_at := stamp
  lease_owner := none
  lease_expires_at := none
  last_error := none
  created_at := stamp
  updated_at := stamp

/-- Insert an item, whose identifier must be free. -/
def insertWork (row : WorkRow) (world : World) : Except Error World :=
  match world.db.work_queue.insert? row with
  | none => .error (.integrity "work_queue.id")
  | some queue => .ok (world.withQueue queue)

/-- Whether a lease that ended by some time, as text, is over. -/
def WorkRow.expired (stamp : String) (row : WorkRow) : Bool :=
  row.status == .RUNNING && row.lease_expires_at.any (· ≤ stamp)

/-- Whether an item waits for a worker. -/
def WorkRow.waiting (stamp : String) (row : WorkRow) : Bool :=
  row.status == .QUEUED && row.available_at ≤ stamp

/-- The order items are claimed in. -/
def WorkRow.before (one two : WorkRow) : Bool :=
  one.priority < two.priority || (one.priority == two.priority && one.created_at ≤ two.created_at)

/-- The scopes a worker takes work from. -/
def workScopes (actor : Actor) : List Scope :=
  if actor.is_sean then [.PERSONAL, .IAC, .SHARED] else actor.scopes

/-- The item that is claimed next, if there is one. -/
def nextWork (stamp : String) (scopes : List Scope) (world : World) : Option WorkRow :=
  ((world.db.work_queue.rows.filter fun row =>
    (row.waiting stamp || row.expired stamp) && row.owner_scope ∈ scopes).insertionSort
      (·.before ·)).head?

/-- What the transaction of a claim came to. -/
inductive WorkClaim where
  | unauthorized
  | empty
  | blocked (work_id : String)
  | leased (work_id : String)

/-- The transaction of a claim: choose the next item, reserve its cost, and lease it. -/
def claimWork (actor : Actor) (worker_id stamp lease : String) : Statements WorkClaim := do
  Script.beginImmediate nestedTransaction
  if workScopes actor = [] then do
    Script.commit
    return .unauthorized
  else
    match ← Script.query (nextWork stamp (workScopes actor)) with
    | none => do
      Script.commit
      return .empty
    | some row => do
      if ← _reserve_cost row then do
        Script.execute (updateWork (·.id == row.id) (.leased worker_id lease stamp)
          (WorkRow.id_leased · _ _ _))
        Script.commit
        return .leased row.id
      else do
        Script.commit
        return .blocked row.id

/-- What a worker is told after the transaction of its claim. -/
def reportClaim (actor : Actor) (worker_id : String) : WorkClaim → Op (Option WorkRow)
  | .unauthorized => do
    _audit actor "CLAIM_WORK" .DENIED "Worker has no authorized scopes" none [] none
    return none
  | .empty => return none
  | .blocked work_id => do
    _audit actor "CLAIM_WORK" .DENIED "Budget unavailable" (some work_id) [] none
    return none
  | .leased work_id => do
    match ← select fun db => db.work_queue.find? work_id with
    | none => throw (.value "'NoneType' object is not iterable")
    | some claimed => do
      _audit actor "CLAIM_WORK" .ALLOWED "Durable lease acquired" (some work_id)
        [("worker_id", .str worker_id), ("attempt", .int claimed.attempts)] none
      return some claimed

/-- Lease the next item of work, unless the kill switch is on. -/
def claim_work (actor : Actor) (worker_id : String) (lease_seconds : ℤ) :
    Op (Option WorkRow) := do
  if ← kill_switch_enabled then
    _audit actor "CLAIM_WORK" .DENIED "Kill switch is ON" none [] none
    return none
  else do
    let stamp ← now
    let lease ← fromNow (← clockNow) lease_seconds
    let claim ← Script.asStep (.claim_work worker_id stamp) (claimWork actor worker_id stamp lease)
    reportClaim actor worker_id claim

/-- Whether an item is the running item under an identifier that a worker holds the lease of. -/
def WorkRow.heldBy (work_id worker_id : String) (row : WorkRow) : Bool :=
  row.id == work_id && (row.status == .RUNNING && row.lease_owner == some worker_id)

/-- End the attempt of a worker that still holds the lease, and settle the cost. -/
def endWork (work_id worker_id : String) (change : String → WorkRow → WorkRow)
    (keeps : ∀ stamp row, (change stamp row).id = row.id) (consume : Bool) : Statements Unit := do
  let matched ← Script.query fun world =>
    world.db.work_queue.count (·.heldBy work_id worker_id)
  Script.execute fun world =>
    updateWork (·.heldBy work_id worker_id) (change world.stamp) (keeps world.stamp) world
  if matched ≠ 1 then do
    Script.rollback
    Script.fail (.authorization "Worker does not hold the active lease")
  else do
    _settle_cost work_id consume
    Script.commit

/-- End an attempt that policy does not allow. -/
def block_work (actor : Actor) (work_id worker_id reason : String) (approval_required : Bool) :
    Op WorkStatus := do
  let status : WorkStatus := if approval_required then .APPROVAL_BLOCKED else .POLICY_BLOCKED
  let reason := safe_persisted_text reason "Sensitive detail redacted" 500
  Script.asStep (.block_work work_id worker_id) (endWork work_id worker_id
    (WorkRow.blocked status reason) (fun _ row => row.id_blocked _ _ _) false)
  _audit actor "BLOCK_WORK" .DENIED reason (some work_id)
    [("worker_id", .str worker_id), ("next_status", .str status.text)] none
  return status

/-- End an attempt that succeeded, and store its result. -/
def complete_work (actor : Actor) (work_id worker_id : String) (result : Json) : Op Unit := do
  let findings := secret_findings result "$"
  if findings ≠ [] then
    _audit actor "COMPLETE_WORK" .DENIED
      "Secret-like material is prohibited in completed work" (some work_id)
      [("finding_paths", .arr (findings.map (.str ·.path)))] none
    throw (.validation "Secret-like material is prohibited in completed work")
  else do
    let reservation ← select fun db => db.cost_reservations.find? work_id
    Script.asStep (.complete_work work_id worker_id) (endWork work_id worker_id
      (WorkRow.succeeded result.sorted) (fun _ row => row.id_succeeded _ _) true)
    _audit actor "COMPLETE_WORK" .ALLOWED "Work succeeded" (some work_id)
      [("worker_id", .str worker_id),
        ("cost_units", (reservation.map fun row => Json.float row.units.val).getD (.int 0)),
        ("outcome", .str "SUCCEEDED"), ("rollback_status", .str "AVAILABLE")] none

/-- The write of a failed attempt, which asks neither for the state of the item nor for its lease. -/
def failWork (work_id : String) (status : WorkStatus) (available error : String) :
    Statements Unit := do
  Script.execute fun world =>
    updateWork (·.id == work_id) (.failed status available error world.stamp)
      (WorkRow.id_failed · _ _ _ _) world
  _settle_cost work_id false
  Script.commit

/-- End an attempt that failed: the item is tried again later, or has no attempt left. -/
def fail_work (actor : Actor) (work_id worker_id error : String) (retry_seconds : ℤ) :
    Op WorkStatus := do
  let error := safe_persisted_text error "Sensitive detail redacted" 500
  match ← select fun db =>
      (db.work_queue.find? work_id).filter (·.heldBy work_id worker_id) with
  | none => throw (.authorization "Worker does not hold the active lease")
  | some row => do
    let status : WorkStatus := if row.max_attempts ≤ row.attempts then .DEAD_LETTER else .QUEUED
    let available ← fromNow (← clockNow) retry_seconds
    Script.asStep (.fail_work work_id worker_id) (failWork work_id status available error)
    _audit actor "FAIL_WORK" .FAILED error (some work_id)
      [("worker_id", .str worker_id), ("next_status", .str status.text)] none
    return status

/-- The units of one budget were changed, and nothing else of the budgets. -/
structure BudgetMoved (place : Scope × String) (reserved used : Number → Number)
    (before after : Table fun row : BudgetRow => (row.owner_scope, row.period_key)) : Prop where
  other : ∀ at_, at_ ≠ place → after.find? at_ = before.find? at_
  absent : before.find? place = none → after.find? place = none
  here : ∀ budget, before.find? place = some budget → ∃ next, after.find? place = some next ∧
    next.reserved_units.val = reserved budget.reserved_units ∧
    next.used_units.val = used budget.used_units ∧ next.limit_units = budget.limit_units

omit [Platform] in
/-- How an update of a budget can end, in the order its constraints are checked. -/
theorem updateBudget_cases (place : Scope × String) (reserved used : Number → Number)
    (world : World) :
    (∃ error, updateBudget place reserved used world = .error error ∧
      ∃ budget, world.db.budgets.find? place = some budget ∧
        (Double.storable (reserved budget.reserved_units) = false ∨
          Double.storable (used budget.used_units) = false)) ∨
    ∃ budgets, updateBudget place reserved used world = .ok (world.withBudgets budgets) ∧
      (∀ budget, world.db.budgets.find? place = some budget →
        Double.storable (reserved budget.reserved_units) = true) ∧
      BudgetMoved place reserved used world.db.budgets budgets := by
  rw [updateBudget]
  cases found : world.db.budgets.find? place with
  | none =>
    refine .inr ⟨world.db.budgets, rfl, (by nofun), fun _ _ => rfl, id, ?_⟩
    intro budget there
    rw [found] at there
    cases there
  | some budget =>
    dsimp only
    by_cases reservable : Double.storable (reserved budget.reserved_units) = true
    · rw [dif_pos reservable]
      by_cases usable : Double.storable (used budget.used_units) = true
      · rw [dif_pos usable]
        refine .inr ⟨_, rfl, fun other same => ?_, ?_, ?_, ?_⟩
        · cases same
          exact reservable
        · -- A row under another key does not meet the condition of the update.
          intro at_ apart
          rw [Table.find?_update]
          cases there : world.db.budgets.find? at_ with
          | none => rfl
          | some row =>
            have named := Table.key_of_find? there
            rw [Option.map_some, if_neg (by rw [named]; simpa using apart)]
        · intro absent
          rw [found] at absent
          cases absent
        · intro row there
          rw [found] at there
          cases there
          have named := Table.key_of_find? found
          rw [Table.find?_update, found, Option.map_some, if_pos (by rw [named]; simp)]
          exact ⟨_, rfl, rfl, rfl, rfl⟩
      · rw [dif_neg usable]
        exact .inl ⟨_, rfl, budget, rfl, .inr (Bool.eq_false_iff.mpr usable)⟩
    · rw [dif_neg reservable]
      exact .inl ⟨_, rfl, budget, rfl, .inl (Bool.eq_false_iff.mpr reservable)⟩

/-- How the reservation of a cost can end, and what it leaves. -/
inductive CostReserved (work : WorkRow) (world : World) : Except Error Bool → World → Prop
  /-- The declared cost is no number. -/
  | unread {error : Error} (read : declaredCost work.payload = .error error) :
      CostReserved work world (.error error) world
  /-- Nothing is to be reserved, or it is reserved already. -/
  | free {units : Number} (read : declaredCost work.payload = .ok units)
      (nothing : isAtMostZero units = true ∨
        (world.db.cost_reservations.find? work.id).isSome = true) :
      CostReserved work world (.ok true) world
  /-- No budget has room. -/
  | blocked {units : Number} (read : declaredCost work.payload = .ok units)
      (above : isAtMostZero units = false)
      (fresh : world.db.cost_reservations.find? work.id = none)
      (full : (world.db.budgets.find? (work.owner_scope, world.current_period)).filter
        (hasRoom · units) = none) :
      CostReserved work world (.ok false) (world.withQueue (world.db.work_queue.update
        (·.id == work.id) (.budgetBlocked world.stamp) (WorkRow.id_budgetBlocked · _)))
  /-- A budget has room, but the sum cannot be stored. -/
  | refused {units : Number} {budget : BudgetRow} {error : Error}
      (read : declaredCost work.payload = .ok units) (above : isAtMostZero units = false)
      (fresh : world.db.cost_reservations.find? work.id = none)
      (found : world.db.budgets.find? (work.owner_scope, world.current_period) = some budget)
      (room : hasRoom budget units = true)
      (unstorable : Double.storable (Double.add budget.reserved_units units) = false) :
      CostReserved work world (.error error) world
  /-- A budget has room, and the units are reserved in it. -/
  | reserved {units : Number} {changed : World} (row : ReservationRow) (named : row.work_id = work.id)
      (read : declaredCost work.payload = .ok units) (storable : Double.storable units = true)
      (queue : changed.db.work_queue = world.db.work_queue)
      (inserted : world.db.cost_reservations.insert? row = some changed.db.cost_reservations)
      (usage : changed.db.usage_events = world.db.usage_events)
      (above : isAtMostZero units = false) (amount : row.units.val = units)
      (place : (row.owner_scope, row.period_key) = (work.owner_scope, world.current_period))
      (room : ∃ budget,
        world.db.budgets.find? (row.owner_scope, row.period_key) = some budget ∧
          hasRoom budget units = true)
      (moved : BudgetMoved (row.owner_scope, row.period_key) (Double.add · units) (fun used => used)
        world.db.budgets changed.db.budgets) :
      CostReserved work world (.ok true) changed

omit [Platform] in
/-- What is neither zero nor below it can be stored as soon as a sum with it can. -/
theorem storable_of_add {one two : Number} (sum : Double.storable (Double.add one two) = true)
    (above : isAtMostZero two = false) : Double.storable two = true := by
  -- Only what is no number is neither, and it makes every sum no number.
  cases two with
  | finite value =>
    have positive : ¬value ≤ 0 := by simpa [isAtMostZero] using above
    simpa [Double.storable] using le_of_not_ge positive
  | negZero => rfl
  | infinite negative => simpa [isAtMostZero, Double.storable] using above
  | nan => cases one <;> cases sum

/-- A reservation of a cost ends in one of five ways. -/
theorem reserve_cases (work : WorkRow) (committed world : World) :
    ∃ outcome changed, _reserve_cost work ⟨committed, world, true⟩ =
      (outcome, ⟨committed, changed, true⟩) ∧ CostReserved work world outcome changed := by
  rw [_reserve_cost, Script.check_bind]
  cases read : declaredCost work.payload with
  | error error => exact ⟨_, world, rfl, .unread read⟩
  | ok units =>
    dsimp only
    cases above : isAtMostZero units with
    | true => exact ⟨_, world, rfl, .free read (.inl above)⟩
    | false =>
      rw [if_neg (by simp), Script.query_bind]
      dsimp only
      cases fresh : world.db.cost_reservations.find? work.id with
      | some row => exact ⟨_, world, rfl, .free read (.inr (by rw [fresh]; rfl))⟩
      | none =>
        rw [if_neg (by simp), Script.query_bind, Script.query_bind]
        dsimp only
        cases found : (world.db.budgets.find? (work.owner_scope, world.current_period)).filter
            (hasRoom · units) with
        | none =>
          dsimp only
          rw [Script.execute_bind]
          exact ⟨_, _, rfl, .blocked read above fresh found⟩
        | some budget =>
          obtain ⟨found, room⟩ := Option.filter_eq_some_iff.mp found
          dsimp only
          rw [Script.execute_bind]
          rcases updateBudget_cases (work.owner_scope, world.current_period)
            (Double.add · units) id world with
            ⟨error, ended, other, same, unstorable⟩ | ⟨budgets, ended, sound, moved⟩
          · rw [ended]
            rw [found] at same
            cases same
            -- What is used so far could be stored before, and stays as it is.
            rcases unstorable with reserved | used
            · exact ⟨_, world, rfl, .refused read above fresh found room reserved⟩
            · rw [id, budget.used_units.property] at used
              cases used
          · -- The units can be stored like their sum, and the item has no reservation yet.
            have storable := storable_of_add (sound budget found) above
            rw [ended]
            dsimp only
            rw [Script.execute_bind, insertReservation, dif_pos storable]
            have free : (world.db.cost_reservations.insert? ⟨work.id, work.owner_scope,
                world.current_period, ⟨units, storable⟩,
                (world.withBudgets budgets).stamp⟩).isSome = true :=
              (Table.insert?_isSome _).mpr fresh
            obtain ⟨reservations, inserted⟩ := Option.isSome_iff_exists.mp free
            have again : (world.withBudgets budgets).db.cost_reservations.insert?
                ⟨work.id, work.owner_scope, world.current_period, ⟨units, storable⟩,
                  (world.withBudgets budgets).stamp⟩ = some reservations := inserted
            rw [again]
            exact ⟨_, _, rfl, .reserved _ rfl read storable rfl inserted rfl above rfl rfl
              ⟨budget, found, room⟩ moved⟩

/-- How the settlement of a cost can end, and what it leaves. -/
inductive CostSettled (work_id : String) (consume : Bool) (world : World) :
    Except Error Unit → World → Prop
  /-- No cost was reserved. -/
  | free (fresh : world.db.cost_reservations.find? work_id = none) :
      CostSettled work_id consume world (.ok ()) world
  /-- The budget cannot be written. -/
  | refused {error : Error} : CostSettled work_id consume world (.error error) world
  /-- The reservation is gone, and was charged if it was used. -/
  | settled {changed : World} (queue : changed.db.work_queue = world.db.work_queue)
      (reservations : changed.db.cost_reservations =
        world.db.cost_reservations.remove (·.work_id == work_id))
      (row : ReservationRow) (found : world.db.cost_reservations.find? work_id = some row)
      (usage : if consume then
          ∃ event, event.work_id = work_id ∧
            changed.db.usage_events = world.db.usage_events ++ [event] ∧
            (event.owner_scope, event.period_key) = (row.owner_scope, row.period_key) ∧
            event.units = row.units
        else changed.db.usage_events = world.db.usage_events)
      (moved : BudgetMoved (row.owner_scope, row.period_key) (Double.sub · row.units.val)
        (fun used => if consume then Double.add used row.units.val else used)
        world.db.budgets changed.db.budgets) :
      CostSettled work_id consume world (.ok ()) changed

/-- The settlement of a cost ends in one of three ways. -/
theorem settle_cases (work_id : String) (consume : Bool) (committed world : World) :
    ∃ outcome changed, _settle_cost work_id consume ⟨committed, world, true⟩ =
      (outcome, ⟨committed, changed, true⟩) ∧ CostSettled work_id consume world outcome changed := by
  rw [_settle_cost, Script.query_bind]
  dsimp only
  cases found : world.db.cost_reservations.find? work_id with
  | none => exact ⟨_, world, rfl, .free found⟩
  | some row =>
    have named : row.work_id = work_id := Table.key_of_find? found
    dsimp only
    cases consume with
    | true =>
      rw [if_pos rfl, Script.execute_bind]
      rcases updateBudget_cases (row.owner_scope, row.period_key)
        (Double.sub · row.units.val) (Double.add · row.units.val) world with
        ⟨error, ended, _⟩ | ⟨budgets, ended, _, moved⟩
      · rw [ended]
        exact ⟨_, world, rfl, .refused⟩
      · -- The event and the removal cannot fail once the budget was written.
        rw [ended]
        dsimp only
        rw [Script.execute_bind, insertUsage]
        refine ⟨.ok (), _, rfl, .settled rfl rfl row found ?_ moved⟩
        rw [if_pos rfl]
        exact ⟨_, named, rfl, rfl, rfl⟩
    | false =>
      rw [if_neg (by simp), Script.execute_bind]
      rcases updateBudget_cases (row.owner_scope, row.period_key)
        (Double.sub · row.units.val) id world
        with ⟨error, ended, _⟩ | ⟨budgets, ended, _, moved⟩
      · rw [ended]
        exact ⟨_, world, rfl, .refused⟩
      · rw [ended]
        exact ⟨.ok (), _, rfl, .settled rfl rfl row found rfl moved⟩

end SeanOs
