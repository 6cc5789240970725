import SeanOs.Store.WorkPoison

/-! Attempts stay within their bound, and a last attempt that fails ends in DEAD_LETTER, while no
last attempt is given up silently or blocked. -/

namespace SeanOs

open Atomic Calendar

/-- The bound on attempts: it is kept, and an item that has reached it is under its last lease, has
succeeded, or is a dead letter. -/
structure RetryBound (row : WorkRow) : Prop where
  attempts : row.attempts ≤ row.max_attempts
  exhausted : row.max_attempts ≤ row.attempts →
    row.status = .RUNNING ∨ row.status = .SUCCEEDED ∨ row.status = .DEAD_LETTER

/-- Every item keeps to its bound. -/
def RetryBounded (world : World) : Prop := ∀ id row, world.item id = some row → RetryBound row

/-- What a later state has of an item without attempts left: it is under the same lease, or that
lease ended in success or in a dead letter, which stays. -/
structure LastAttempt (row next : WorkRow) : Prop where
  attempts : next.attempts = row.attempts
  limit : next.max_attempts = row.max_attempts
  lease : next.status = .RUNNING → next = row
  stays : row.status ≠ .RUNNING → next = row

/-- What an operation, which may be a claim, does to an item. -/
inductive Advanced (claim : Prop) (id : String) (world changed : World) : Prop
  | kept (same : changed.item id = world.item id)
  | enqueued {next : WorkRow} (new : world.item id = none) (after : changed.item id = some next)
      (attempts : next.attempts = 0) (limit : 1 ≤ next.max_attempts)
  | claimed {worker_id stamp : String} {row next : WorkRow} (claims : claim)
      (before : world.item id = some row) (after : changed.item id = some next)
      (ready : row.waiting stamp = true ∨ row.expired stamp = true) (now_ : stamp = world.stamp)
      (outcome : (∃ now_, next = row.budgetBlocked now_) ∨
        ∃ lease, next = row.leased worker_id lease stamp)
  | ended {row next : WorkRow} (before : world.item id = some row)
      (after : changed.item id = some next) (running : row.status = .RUNNING)
      (attempts : next.attempts = row.attempts) (limit : next.max_attempts = row.max_attempts)
      (idle : next.status ≠ .RUNNING)
      (status : next.status = .SUCCEEDED ∨ next.status = .DEAD_LETTER ∨
        row.attempts < row.max_attempts)

/-- No item on its last attempt has a lease that is over already. -/
def LastLeasesHold (world : World) : Prop :=
  ∀ id row, world.item id = some row → row.max_attempts ≤ row.attempts →
    row.expired world.stamp = false

/-- A claim takes no item without attempts left: one that waits has some by the bound, and one
whose lease is over has some by assumption. -/
theorem RetryBounded.claimable {id stamp : String} {world : World} {row : WorkRow}
    (bounded : RetryBounded world) (hold : LastLeasesHold world)
    (before : world.item id = some row)
    (ready : row.waiting stamp = true ∨ row.expired stamp = true) (now_ : stamp = world.stamp) :
    row.attempts < row.max_attempts := by
  subst now_
  by_contra none_
  have reached : row.max_attempts ≤ row.attempts := Nat.le_of_not_lt none_
  rcases ready with waits | ended
  · rw [WorkRow.waiting, Bool.and_eq_true] at waits
    have queued : row.status = .QUEUED := beq_iff_eq.mp waits.1
    -- No item that has reached its bound is queued.
    rcases (bounded id row before).exhausted reached with status | status | status
    all_goals
      rw [queued] at status
      cases status
  · rw [hold id row before reached] at ended
    cases ended

/-- An operation that claims nothing whose last lease is over keeps every item to its bound. -/
theorem RetryBounded.advanced {claim : Prop} {world changed : World}
    (bounded : RetryBounded world) (hold : claim → LastLeasesHold world)
    (advanced : ∀ id, Advanced claim id world changed) : RetryBounded changed := by
  intro id found_ found
  cases advanced id with
  | kept same => exact bounded id found_ (same ▸ found)
  | enqueued _ after attempts limit =>
    cases after.symm.trans found
    exact ⟨by omega, fun reached => by omega⟩
  | claimed claims before after ready now_ outcome =>
    cases after.symm.trans found
    have left := bounded.claimable (hold claims) before ready now_
    rcases outcome with ⟨_, rfl⟩ | ⟨_, rfl⟩
    · exact ⟨left.le, fun reached => absurd left (Nat.not_lt.mpr reached)⟩
    · exact ⟨left, fun _ => .inl rfl⟩
  | @ended row _ before after _ attempts limit _ status =>
    cases after.symm.trans found
    have kept := (bounded id row before).attempts
    refine ⟨by omega, fun reached => ?_⟩
    rcases status with succeeded | dead | left
    · exact .inr (.inl succeeded)
    · exact .inr (.inr dead)
    · omega

/-- Such an operation hands out no item without attempts left again. -/
theorem RetryBounded.lastAttempt {claim : Prop} {id : String} {world changed : World}
    {row : WorkRow} (bounded : RetryBounded world) (hold : claim → LastLeasesHold world)
    (before : world.item id = some row) (reached : row.max_attempts ≤ row.attempts)
    (advanced : Advanced claim id world changed) :
    ∃ next, changed.item id = some next ∧ LastAttempt row next := by
  cases advanced with
  | kept same => exact ⟨row, same.trans before, rfl, rfl, fun _ => rfl, fun _ => rfl⟩
  | enqueued new =>
    rw [new] at before
    cases before
  | claimed claims found _ ready now_ =>
    cases before.symm.trans found
    have left := bounded.claimable (hold claims) found ready now_
    exact absurd left (Nat.not_lt.mpr reached)
  | ended found after running attempts limit idle =>
    cases before.symm.trans found
    exact ⟨_, after, attempts, limit, fun again => absurd again idle,
      fun ended => absurd running ended⟩

/-- One last attempt after another is one last attempt. -/
theorem LastAttempt.trans {row next last : WorkRow} (first : LastAttempt row next)
    (second : LastAttempt next last) : LastAttempt row last where
  attempts := second.attempts.trans first.attempts
  limit := second.limit.trans first.limit
  lease running := by
    have same := second.lease running
    rw [same] at running ⊢
    exact first.lease running
  stays ended := by
    have same := first.stays ended
    rw [← same] at ended
    exact (second.stays ended).trans same

section Operations

variable [Platform] {claim : Prop}

omit [Platform] in
/-- An item whose attempt was ended has advanced. -/
theorem Advanced.of_ends {worker_id work_id id : String} {world changed : World}
    {change : WorkRow → WorkRow}
    (ends : Untouched id world changed ∨
      id = work_id ∧ ∃ row, Ended worker_id id world changed row (change row))
    (attempts : ∀ row, (change row).attempts = row.attempts)
    (limit : ∀ row, (change row).max_attempts = row.max_attempts)
    (idle : ∀ row, (change row).status ≠ .RUNNING)
    (status : ∀ row, id = work_id → world.item id = some row → row.heldBy id worker_id = true →
      (change row).status = .SUCCEEDED ∨ (change row).status = .DEAD_LETTER ∨
        row.attempts < row.max_attempts) :
    Advanced claim id world changed := by
  rcases ends with untouched | ⟨same, row, ended⟩
  · exact .kept untouched.item
  · have running : row.status = .RUNNING := by
      have held := ended.held
      simp only [WorkRow.heldBy, Bool.and_eq_true, beq_iff_eq] at held
      exact held.2.1
    exact .ended ended.before ended.after running (attempts row) (limit row) (idle row)
      (status row same ended.before ended.held)

omit [Platform] in
/-- An operation whose transaction advanced an item, and which only reports after it, did. -/
theorem Advanced.reported {id : String} {world changed after : World}
    (advanced : Advanced claim id world changed) (same : after.item id = changed.item id) :
    Advanced claim id world after := by
  cases advanced with
  | kept kept => exact .kept (same.trans kept)
  | enqueued new after => exact .enqueued new (same.trans after) ‹_› ‹_›
  | claimed claims before after => exact .claimed claims before (same.trans after) ‹_› ‹_› ‹_›
  | ended before after => exact .ended before (same.trans after) ‹_› ‹_› ‹_› ‹_› ‹_›

/-- From one state to a later one: items keep to their bound, and none without attempts left is
handed to another worker. -/
structure BoundKept (world later : World) : Prop where
  bounded : RetryBounded later
  last : ∀ id row, world.item id = some row → row.max_attempts ≤ row.attempts →
    ∃ next, later.item id = some next ∧ LastAttempt row next

omit [Platform] in
/-- An operation that claims nothing whose last lease is over keeps the bound once more. -/
theorem BoundKept.advanced {world later changed : World} (kept : BoundKept world later)
    (hold : claim → LastLeasesHold later)
    (advanced : ∀ id, Advanced claim id later changed) : BoundKept world changed where
  bounded := kept.bounded.advanced hold advanced
  last id row found reached := by
    obtain ⟨next, there, first⟩ := kept.last id row found reached
    -- The attempts have not changed, so the item has none left still.
    have still : next.max_attempts ≤ next.attempts := by
      rw [first.limit, first.attempts]
      exact reached
    obtain ⟨last, after, second⟩ := kept.bounded.lastAttempt hold there still (advanced id)
    exact ⟨last, after, first.trans second⟩

end Operations

section Examples

open Sample

local instance retryBoundPlatform : Platform := platform []

end Examples

end SeanOs
