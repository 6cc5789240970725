import SeanOs.Store.StaleWork

/-! Which item of the queue makes every claim raise, and leaves a connection inside a transaction. -/

namespace SeanOs

open Atomic Calendar

section Claims

variable [Platform]

/-- Whether the cost an item declares can be reserved, or refused for want of a budget. -/
def reservable (row : WorkRow) (world : World) : Bool :=
  match declaredCost row.payload with
  | .error _ => false
  | .ok units => units ≠ .nan || ((world.reservation row.id).isSome ||
      (world.db.budgets.find? (row.owner_scope, world.current_period)).isNone)

/-- What a claim leaves of the connection it ran on. -/
def claimSession (actor : Actor) (worker_id : String) (lease_seconds : ℤ) (world : World) :
    Session World :=
  if world.db.kill_switch == "ON" then .closed world
  else match world.clock.shift (lease_seconds * second) with
    | none => .closed world
    | some lease =>
      (claimWork actor worker_id world.stamp lease.utc.isoformat (.closed world)).2

/-- A claim returns, and an error would leave every row and no transaction behind. -/
structure ClaimsWell (actor : Actor) (worker_id : String) (lease_seconds : ℤ) (world : World) :
    Prop where
  returns : ∃ claimed, ((claim_work actor worker_id lease_seconds).run world).1 = .ok claimed
  clean : ∀ error, ((claim_work actor worker_id lease_seconds).run world).1 = .error error →
    ((claim_work actor worker_id lease_seconds).run world).2.db = world.db ∧
      (claimSession actor worker_id lease_seconds world).opened = false

/-- The kill switch is on, or the lease has an end and the next item can be paid for or refused. -/
def Claimable (actor : Actor) (lease_seconds : ℤ) (world : World) : Prop :=
  world.db.kill_switch = "ON" ∨ (world.clock.shift (lease_seconds * second)).isSome = true ∧
    ∀ row, nextWork world.stamp (workScopes actor) world = some row → reservable row world = true

omit [Platform] in
/-- A number of at least zero keeps being one when a number above zero is added. -/
theorem storable_add {one two : Number} (first : Double.storable one = true)
    (above : isAtMostZero two = false) (number : two ≠ .nan) :
    Double.storable (Double.add one two) = true := by
  cases two with
  | nan => exact absurd rfl number
  | negZero => cases above
  | infinite negative =>
    have positive : negative = false := above
    subst positive
    cases one with
    | finite | negZero => rfl
    | infinite other =>
      have positive : other = false := by simpa [Double.storable] using first
      subst positive
      rfl
    | nan => cases first
  | finite more =>
    have positive : 0 < more := by simpa [isAtMostZero] using above
    cases one with
    | finite value =>
      have least : 0 ≤ value := by simpa [Double.storable] using first
      exact Double.storable_round (add_nonneg least positive.le)
    | negZero => exact decide_eq_true positive.le
    | infinite other => exact first
    | nan => cases first

/-- The reservation of a cost raises exactly where the cost is not reservable. -/
theorem CostReserved.reservable {row : WorkRow} {world changed : World}
    {outcome : Except Error Bool} (reserved : CostReserved row world outcome changed) :
    SeanOs.reservable row world = outcome.toBool := by
  rw [SeanOs.reservable]
  cases reserved with
  | unread read => rw [read]; rfl
  | free read nothing =>
    rename_i units
    rw [read]
    rcases nothing with atMost | there
    · -- What is no number is not at most zero.
      have number : units ≠ .nan := by
        rintro rfl
        cases atMost
      simp [number, Except.toBool]
    · simp [World.reservation, there, Except.toBool]
  | @blocked units read _ _ full =>
    rw [read]
    by_cases number : units = .nan
    · -- Every budget has room for what is no number.
      subst number
      cases found : world.db.budgets.find? (row.owner_scope, world.current_period) with
      | none => simp [Except.toBool]
      | some budget =>
        rw [found, Option.filter_some, if_pos] at full
        · cases full
        · rw [hasRoom, Double.add_nan]
          rfl
    · simp [number, Except.toBool]
  | refused read above fresh found room unstorable =>
    rename_i units budget error
    rw [read]
    have nothing : units = .nan := by
      by_contra number
      rw [storable_add budget.reserved_units.property above number] at unstorable
      cases unstorable
    simp [nothing, World.reservation, fresh, found, Except.toBool]
  | @reserved units _ _ _ read storable =>
    rw [read]
    have number : units ≠ .nan := by
      rintro rfl
      cases storable
    simp [number, Except.toBool]

omit [Platform] in
/-- A worker without scopes is given no item. -/
theorem nextWork_no_scopes (stamp : String) (world : World) : nextWork stamp [] world = none := by
  rw [nextWork, List.filter_eq_nil_iff.mpr]
  · rfl
  · intro row _
    simp

/-- A claim whose next item is reservable ends with an outcome, and an item it leased is there. -/
theorem claimWork_returns (actor : Actor) (worker_id stamp lease : String) {world : World}
    (fine : ∀ row, nextWork stamp (workScopes actor) world = some row →
      reservable row world = true) :
    ∃ claim session, claimWork actor worker_id stamp lease (.closed world) = (.ok claim, session) ∧
      ∀ id, claim = .leased id → (session.committed.item id).isSome = true := by
  rw [claimWork, Script.beginImmediate_bind]
  split
  · exact ⟨.unauthorized, _, rfl, by rintro _ ⟨⟩⟩
  rw [Script.query_bind]
  dsimp only
  cases next : nextWork stamp (workScopes actor) world with
  | none => exact ⟨.empty, _, rfl, by rintro _ ⟨⟩⟩
  | some row =>
    obtain ⟨outcome, changed, ran, reserved⟩ := reserve_cases row world world
    have ended := reserved.reservable
    rw [fine row next] at ended
    dsimp only
    cases outcome with
    | error error => cases ended
    | ok free =>
      rw [Script.bind_ok ran]
      cases free with
      | false => exact ⟨.blocked row.id, _, rfl, by rintro _ ⟨⟩⟩
      | true =>
        rw [if_pos rfl, Script.execute_bind]
        refine ⟨.leased row.id, _, rfl, ?_⟩
        -- The reservation of a cost changes no item that it lets through.
        have there : changed.item row.id = some row := by
          cases reserved with
          | free => exact (nextWork_ready next).1
          | reserved _ _ _ _ queue =>
            rw [World.item, queue]
            exact (nextWork_ready next).1
        intro id same
        cases same
        exact Option.isSome_iff_exists.mpr ⟨_, item_update (WorkRow.id_leased · _ _ _) there⟩

/-- A claim whose next item is not reservable raises, and leaves its transaction open. -/
theorem claimWork_raises {actor : Actor} (worker_id : String) {stamp : String} (lease : String)
    {world : World} {row : WorkRow} (next : nextWork stamp (workScopes actor) world = some row)
    (poison : reservable row world = false) :
    ∃ error current, claimWork actor worker_id stamp lease (.closed world) =
      (.error error, ⟨world, current, true⟩) := by
  rw [claimWork, Script.beginImmediate_bind]
  split
  next none_ =>
    rw [none_, nextWork_no_scopes] at next
    cases next
  rw [Script.query_bind]
  dsimp only
  rw [next]
  obtain ⟨outcome, changed, ran, reserved⟩ := reserve_cases row world world
  have ended := reserved.reservable
  rw [poison] at ended
  cases outcome with
  | ok free => cases ended
  | error error => exact ⟨error, changed, Script.bind_error ran⟩

/-- What is reported after the transaction of a claim is never an error. -/
theorem reportClaim_returns (actor : Actor) (worker_id : String) {claim : WorkClaim} {world : World}
    (there : ∀ id, claim = .leased id → (world.item id).isSome = true) :
    ∃ claimed, ((reportClaim actor worker_id claim).run world).1 = .ok claimed := by
  cases claim with
  | unauthorized => exact ⟨none, rfl⟩
  | empty => exact ⟨none, rfl⟩
  | blocked work_id => exact ⟨none, rfl⟩
  | leased work_id =>
    obtain ⟨row, found⟩ := Option.isSome_iff_exists.mp (there work_id rfl)
    have found : world.db.work_queue.find? work_id = some row := found
    refine ⟨some row, ?_⟩
    rw [reportClaim, Prog.run_bind, select, Prog.run_read]
    dsimp only
    rw [found]
    rfl

/-- How a claim runs on its own: only its transaction and the end of its lease can raise. -/
theorem run_claim_work (actor : Actor) (worker_id : String) (lease_seconds : ℤ) (world : World) :
    (claim_work actor worker_id lease_seconds).run world =
      if world.db.kill_switch == "ON" then
        (.ok none, World.audit actor "CLAIM_WORK" .DENIED "Kill switch is ON" none [] none world)
      else match world.clock.shift (lease_seconds * second) with
        | none => (.error .overflow, world)
        | some lease =>
          match claimWork actor worker_id world.stamp lease.utc.isoformat (.closed world) with
          | (.ok claim, session) => (reportClaim actor worker_id claim).run session.committed
          | (.error error, session) => (.error error, session.committed) := by
  rw [claim_work, Prog.run_bind, kill_switch_enabled, Prog.run_read]
  dsimp only
  split
  · rfl
  rw [Prog.run_bind, now, Prog.run_read]
  dsimp only
  rw [Prog.run_bind, clockNow, Prog.run_read]
  dsimp only
  rw [Prog.run_bind, fromNow]
  cases world.clock.shift (lease_seconds * second) with
  | none => rfl
  | some lease =>
    rw [Prog.run_ret]
    dsimp only
    rw [Prog.run_bind, Script.asStep, Prog.run_transact]
    dsimp only [World.stamp]
    rcases claimWork actor worker_id _ _ (.closed world) with ⟨_ | _, session⟩ <;> rfl

/--
A claim returns, and leaves nothing behind if it raises, exactly where the next item is no poison.

The next item is poison when the cost it declares is no number that can be read, or is not a number
at all while a budget exists and nothing is reserved for the item yet.
-/
theorem claim_work_poison (actor : Actor) (worker_id : String) (lease_seconds : ℤ)
    (world : World) :
    ClaimsWell actor worker_id lease_seconds world ↔ Claimable actor lease_seconds world := by
  have ran := run_claim_work actor worker_id lease_seconds world
  by_cases killed : world.db.kill_switch = "ON"
  · rw [if_pos (by simpa using killed)] at ran
    refine ⟨fun _ => .inl killed, fun _ => ⟨⟨none, by rw [ran]⟩, fun error raised => ?_⟩⟩
    rw [ran] at raised
    cases raised
  rw [if_neg (by simpa using killed)] at ran
  cases lease : world.clock.shift (lease_seconds * second) with
  | none =>
    rw [lease] at ran
    constructor
    · rintro ⟨⟨claimed, returned⟩, _⟩
      rw [ran] at returned
      cases returned
    · rintro (on | ⟨ends, _⟩)
      · exact absurd on killed
      · rw [lease] at ends
        cases ends
  | some lease' =>
    rw [lease] at ran
    dsimp only at ran
    by_cases fine : ∀ row, nextWork world.stamp (workScopes actor) world = some row →
        reservable row world = true
    · refine ⟨fun _ => .inr ⟨by rw [lease]; rfl, fine⟩, fun _ => ?_⟩
      obtain ⟨claim, session, ended, there⟩ := claimWork_returns actor worker_id world.stamp
        lease'.utc.isoformat fine
      rw [ended] at ran
      dsimp only at ran
      obtain ⟨claimed, returned⟩ := reportClaim_returns actor worker_id there
      rw [← ran] at returned
      refine ⟨⟨claimed, returned⟩, fun error raised => ?_⟩
      rw [returned] at raised
      cases raised
    · -- The next item is poison, so the transaction raised.
      push Not at fine
      obtain ⟨row, next, poison⟩ := fine
      obtain ⟨error, current, ended⟩ := claimWork_raises worker_id lease'.utc.isoformat next
        (by simpa using poison)
      rw [ended] at ran
      dsimp only at ran
      constructor
      · rintro ⟨⟨claimed, returned⟩, _⟩
        rw [ran] at returned
        cases returned
      · rintro (on | ⟨_, fine⟩)
        · exact absurd on killed
        · exact absurd (fine row next) poison

end Claims

section Examples

open Sample

local instance workPoisonPlatform : Platform := platform []

/-- A world in which work was enqueued whose cost is declared as a text that is no number. -/
def Sample.poisoned : World :=
  ((enqueue_work ⟨.IAC⟩ worker "NOOP" "IAC" [("estimated_cost_units", .str "soon")] 100 3 none).run
    (world .empty)).2


/-- Work that was accepted makes every claim raise, inside a transaction that stays open. -/
theorem claim_work_poisoned :
    ((enqueue_work ⟨.IAC⟩ worker "NOOP" "IAC" [("estimated_cost_units", .str "soon")] 100 3
      none).run (world .empty)).1.toBool = true ∧
    ((claim_work worker "first" 60).run poisoned).1.toBool = false ∧
    (claimSession worker "first" 60 poisoned).opened = true ∧
    ¬ClaimsWell worker "first" 60 poisoned := by
  have raised : ((claim_work worker "first" 60).run poisoned).1.toBool = false := by
    decide +kernel
  refine ⟨by decide +kernel, raised, by decide +kernel, fun well => ?_⟩
  obtain ⟨claimed, returned⟩ := well.returns
  rw [returned] at raised
  cases raised

end Examples

end SeanOs
