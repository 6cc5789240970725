import SeanOs.Lib.Gate
import SeanOs.Sample
import SeanOs.Store.AlertDeliveries
import SeanOs.Store.BackupRestores
import SeanOs.Store.StaleWork
import SeanOs.Store.Writes

/-! The kill switch: what goes on while it is on, over all interleavings and behind a guard. -/

namespace SeanOs

open Atomic Calendar

/-- The transactions that give leases. -/
def Label.leases : Label → Prop
  | .claim _ _ _ | .claim_work _ _ => True
  | _ => False

/-- The query for the kill switch. -/
def Label.looks (label : Label) : Prop := label = .kill_switch

/-- The kill switch is on. -/
def World.killed (world : World) : Prop := world.db.kill_switch = "ON"

/-- A kind of steps to which none belongs that only reads or records. -/
structure Effectual (bad : Label → Prop) : Prop where
  clock : ¬bad .clock
  select : ¬bad .select
  audit : ¬bad .audit

theorem effectual_leases : Effectual Label.leases := ⟨id, id, id⟩

theorem effectual_looks : Effectual Label.looks := ⟨nofun, nofun, nofun⟩

section Calls

variable {bad : Label → Prop} (kind : Effectual bad)

theorem avoids_read {α : Type} {label : Label} (other : ¬bad label) (view : World → α) :
    Prog.Avoids bad (Prog.read label view : Op α) := Prog.Keeps.read fun _ _ => other

theorem avoids_lift {α : Type} (checked : Except Error α) : Prog.Avoids bad (lift checked) := by
  cases checked <;> exact trivial

theorem avoids_later (reading : Reading) (seconds : ℕ) :
    Prog.Avoids bad (later reading seconds) := by
  rw [later]
  cases reading.plus (second * seconds) with
  | none => exact trivial
  | some ends => exact trivial

theorem avoids_fromNow (reading : Reading) (seconds : ℤ) :
    Prog.Avoids bad (fromNow reading seconds) := by
  unfold fromNow
  split <;> exact trivial

include kind

theorem avoids_timeOr (at_ : Option String) : Prog.Avoids bad (timeOr at_) := by
  unfold timeOr
  split
  · exact trivial
  · exact avoids_read kind.clock _

theorem avoids_getRow {Columns : Type} (table : OutboxTable Columns) (missing : String)
    (store : Store) (actor : Actor) (key : String) :
    Prog.Avoids bad (getRow table missing store actor key) := by
  refine Prog.Keeps.bind (avoids_read kind.select _) fun row => ?_
  cases row with
  | none => exact trivial
  | some row => exact Prog.Keeps.bind (avoids_lift _) fun _ => trivial

theorem avoids_get_alert_delivery (store : Store) (actor : Actor) (delivery_id : String) :
    Prog.Avoids bad (get_alert_delivery store actor delivery_id) := by
  refine Prog.Keeps.bind (avoids_getRow kind _ _ _ _ _) fun row => ?_
  refine Prog.Keeps.bind (avoids_read kind.clock _) fun clock => ?_
  exact Prog.Keeps.bind (avoids_lift _) fun _ => trivial

variable [Platform]

theorem avoids_audit {actor : Actor} {action : String} {result : AuditResult} {reason : String}
    {record_id : Option String} {details : List (String × Json)} :
    Prog.Avoids bad (_audit actor action result reason record_id details none) :=
  Prog.Keeps.write fun _ _ => kind.audit

theorem avoids_auditEach {Columns : Type} (actor : Actor) (action reason : String)
    (details : OutboxRow Columns → List (String × Json)) (rows : List (OutboxRow Columns)) :
    Prog.Avoids bad (auditEach actor action reason details rows) := by
  induction rows with
  | nil => exact trivial
  | cons row rows ih => exact Prog.Keeps.bind (avoids_audit kind) fun _ => ih

theorem avoids_auditRestores (actor : Actor) (terminal : List (String × String)) :
    Prog.Avoids bad (auditRestores actor terminal) := by
  induction terminal with
  | nil => exact trivial
  | cons item rest ih => exact Prog.Keeps.bind (avoids_audit kind) fun _ => ih

end Calls

section Claims

variable [Platform]

/-- A call that looks at the kill switch before it gives a lease, and gives none where it is on. -/
abbrev Switched {α : Type} (program : Op α) : Prop :=
  Prog.Gated Label.leases Label.looks World.killed program

/-- A look at the kill switch, behind which nothing is done where it is on but an audit event. -/
theorem switched_kill_switch {α : Type} {actor : Actor} {action reason : String}
    {details : List (String × Json)} {refused : α} {going : Op α}
    (blind : Prog.Avoids Label.looks going) :
    Switched (kill_switch_enabled >>= fun killed => if killed then
      _audit actor action .DENIED reason none details none >>= fun _ => pure refused
        else going) := by
  refine Prog.Gated.read rfl id (fun world on => ?_) fun world => ?_
  · have on : world.db.kill_switch = "ON" := on
    rw [if_pos (by simpa using on)]
    exact Prog.Avoids.not_mayReach
      (Prog.Keeps.bind (avoids_audit effectual_leases) fun _ => trivial)
  · split
    · exact Prog.Avoids.careful
        (Prog.Keeps.bind (avoids_audit effectual_looks) fun _ => trivial)
    · exact blind.careful

theorem switched_claim_work (actor : Actor) (worker_id : String) (lease_seconds : ℤ) :
    Switched (claim_work actor worker_id lease_seconds) := by
  refine switched_kill_switch ?_
  refine Prog.Keeps.bind (avoids_read effectual_looks.clock _) fun stamp => ?_
  refine Prog.Keeps.bind (avoids_read effectual_looks.clock _) fun reading => ?_
  refine Prog.Keeps.bind (avoids_fromNow _ _) fun lease => ?_
  refine Prog.Keeps.bind (Prog.Keeps.transact fun _ _ => nofun) fun claim => ?_
  cases claim with
  | unauthorized => exact Prog.Keeps.bind (avoids_audit effectual_looks) fun _ => trivial
  | empty => exact trivial
  | blocked work_id => exact Prog.Keeps.bind (avoids_audit effectual_looks) fun _ => trivial
  | leased work_id =>
    refine Prog.Keeps.bind (avoids_read effectual_looks.select _) fun claimed => ?_
    cases claimed with
    | none => exact trivial
    | some row => exact Prog.Keeps.bind (avoids_audit effectual_looks) fun _ => trivial

omit [Platform] in
theorem switched_raise {α : Type} (error : Error) : Switched (throw error : Op α) :=
  ⟨id, trivial⟩

theorem switched_claim_transfer (store : Store) (actor : Actor) (worker_id : String)
    (lease_seconds : ℤ) :
    Switched (claim_authorized_backup_transfer store actor worker_id lease_seconds) := by
  unfold claim_authorized_backup_transfer
  split
  · exact switched_raise _
  split
  · exact switched_raise _
  split
  · exact switched_raise _
  refine switched_kill_switch ?_
  refine Prog.Keeps.bind (avoids_read effectual_looks.clock _) fun stamp => ?_
  refine Prog.Keeps.bind (avoids_read effectual_looks.clock _) fun reading => ?_
  refine Prog.Keeps.bind (avoids_later _ _) fun lease => ?_
  refine Prog.Keeps.bind (Prog.Keeps.transact fun _ _ => nofun) fun claimed => ?_
  refine Prog.Keeps.bind (avoids_auditEach effectual_looks _ _ _ _ _) fun _ => ?_
  split
  · exact trivial
  refine Prog.Keeps.bind (avoids_getRow effectual_looks _ _ _ _ _) fun row => ?_
  exact Prog.Keeps.bind (avoids_audit effectual_looks) fun _ => trivial

theorem switched_claim_restore (store : Store) (actor : Actor) (worker_id : String)
    (lease_seconds : ℤ) (at_ : Option String) :
    Switched (claim_authorized_backup_restore store actor worker_id lease_seconds at_) := by
  unfold claim_authorized_backup_restore
  split
  · exact switched_raise _
  split
  · exact switched_raise _
  split
  · exact switched_raise _
  -- The time is read and judged before the switch is looked at.
  refine .bind (avoids_timeOr effectual_leases at_) (avoids_timeOr effectual_looks at_)
    fun stamp => ?_
  refine .bind (avoids_lift _) (avoids_lift _) fun instant => ?_
  refine switched_kill_switch ?_
  refine Prog.Keeps.bind (Prog.Keeps.transact fun _ _ => nofun) fun claimed => ?_
  refine Prog.Keeps.bind (avoids_auditRestores effectual_looks _ _) fun _ => ?_
  split
  · exact trivial
  refine Prog.Keeps.bind (avoids_getRow effectual_looks _ _ _ _ _) fun row => ?_
  exact Prog.Keeps.bind (avoids_audit effectual_looks) fun _ => trivial

theorem switched_claim_delivery (store : Store) (actor : Actor) (worker_id : String)
    (lease_seconds : ℤ) :
    Switched (claim_authorized_alert_delivery store actor worker_id lease_seconds) := by
  unfold claim_authorized_alert_delivery
  split
  · exact switched_raise _
  split
  · exact switched_raise _
  refine switched_kill_switch ?_
  split
  · exact Prog.Keeps.bind (avoids_audit effectual_looks) fun _ => trivial
  refine Prog.Keeps.bind (avoids_read effectual_looks.clock _) fun stamp => ?_
  refine Prog.Keeps.bind (avoids_read effectual_looks.clock _) fun reading => ?_
  refine Prog.Keeps.bind (avoids_later _ _) fun lease => ?_
  refine Prog.Keeps.bind (Prog.Keeps.transact fun _ _ => nofun) fun claimed => ?_
  refine Prog.Keeps.bind (avoids_auditEach effectual_looks _ _ _ _ _) fun _ => ?_
  split
  · exact trivial
  refine Prog.Keeps.bind (avoids_get_alert_delivery effectual_looks _ _ _) fun delivery => ?_
  exact Prog.Keeps.bind (avoids_audit effectual_looks) fun _ => trivial

/-- Turning the switch gives no lease. -/
theorem switched_set_kill_switch (actor : Actor) (enabled : Bool) :
    Switched (set_kill_switch actor enabled) := by
  apply Prog.Avoids.gated
  unfold set_kill_switch
  split
  · exact Prog.Keeps.bind (Prog.Keeps.write fun _ _ => id) fun _ => avoids_audit effectual_leases
  · exact Prog.Keeps.bind (avoids_audit effectual_leases) fun _ => trivial

/-- The calls that turn the kill switch or give leases, for any actors and workers. -/
inductive SwitchCall : Op Unit → Prop
  | set_kill_switch (actor : Actor) (enabled : Bool) :
      SwitchCall (SeanOs.set_kill_switch actor enabled).call
  | claim_work (actor : Actor) (worker_id : String) (lease_seconds : ℤ) :
      SwitchCall (SeanOs.claim_work actor worker_id lease_seconds).call
  | claim_transfer (store : Store) (actor : Actor) (worker_id : String) (lease_seconds : ℤ) :
      SwitchCall (claim_authorized_backup_transfer store actor worker_id lease_seconds).call
  | claim_restore (store : Store) (actor : Actor) (worker_id : String) (lease_seconds : ℤ)
      (at_ : Option String) :
      SwitchCall (claim_authorized_backup_restore store actor worker_id lease_seconds at_).call
  | claim_delivery (store : Store) (actor : Actor) (worker_id : String) (lease_seconds : ℤ) :
      SwitchCall (claim_authorized_alert_delivery store actor worker_id lease_seconds).call

/-- Every such call looks at the switch before it gives a lease. -/
theorem SwitchCall.switched {program : Op Unit} (called : SwitchCall program) :
    Switched program := by
  cases called with
  | set_kill_switch => exact (switched_set_kill_switch _ _).call
  | claim_work => exact (switched_claim_work _ _ _).call
  | claim_transfer => exact (switched_claim_transfer _ _ _ _).call
  | claim_restore => exact (switched_claim_restore _ _ _ _ _).call
  | claim_delivery => exact (switched_claim_delivery _ _ _ _).call

/-- What anything else may do: whatever it likes, but not turn the kill switch. -/
def SwitchKept (world changed : World) : Prop := changed.db.kill_switch = world.db.kill_switch

/-- The moves of a run in which the switch is turned on only when no claim is behind its look. -/
abbrev ClearlyTurned {κ : Type} [DecidableEq κ] (pool last : Pool κ World Label Error) : Prop :=
  Pool.ClearStep Label.leases Label.looks World.killed (fun _ => SwitchCall) SwitchKept pool last

/-- While the switch is on, no call is about to commit a lease. -/
def SwitchHolds {κ : Type} (pool : Pool κ World Label Error) : Prop :=
  pool.shared.killed → ∀ caller label change next,
    pool.running caller = .atom label change next → ¬label.leases

/--
No lease is committed while the kill switch is on, in any run in which it is turned on only when no
claim that found it off has still to commit its lease.
-/
theorem kill_switch_holds {κ : Type} [DecidableEq κ] {start : World}
    {last : Pool κ World Label Error}
    (reached : Relation.ReflTransGen ClearlyTurned (Pool.idle start) last) : SwitchHolds last := by
  have kept := Pool.GateKept.run (fun _ _ called => SwitchCall.switched called)
    (Pool.gateKept_idle start) reached
  intro on caller label change next ready leases
  exact kept.open_ ready leases on

end Claims

section Guards

variable [Platform] {Columns : Type} {values : Guard Columns} {store : Store} {actor : Actor}
  {key worker_id : String} {at_ : Option String} {world changed : World} {row : OutboxRow Columns}

/-- What a guard asks of the row that it lets a worker go on with, at some time. -/
structure GuardAllows (values : Guard Columns) (key worker_id : String) (checked_at : DateTime)
    (world : World) (row : OutboxRow Columns) : Prop where
  off : ¬world.killed
  found : values.table.find? key world.db = some row
  authorized : row.status = .AUTHORIZED ∧ (given row.approval_id).isSome
  leased : row.lease_owner = some worker_id ∧ ∃ text expires,
    given row.lease_expires_at = some text ∧ fromisoformat text = some expires ∧
      checked_at.instant < expires.instant
  inside : values.inWindow row checked_at = .ok true

omit [Platform] in
/-- Nothing stands against an attempt only where the guard finds all it asks for. -/
theorem guardAllows_of_refusal {checked_at : DateTime} {killed : Bool}
    (switch : killed = false → ¬world.killed)
    (none_ : guardRefusal values killed worker_id checked_at (values.table.find? key world.db) =
      .ok none) :
    ∃ row, GuardAllows values key worker_id checked_at world row := by
  cases found : values.table.find? key world.db with
  | none =>
    rw [found] at none_
    cases none_
  | some row =>
    rw [found, guardRefusal] at none_
    split at none_
    · cases none_
    next off =>
    split at none_
    · cases none_
    next authorized =>
    split at none_
    · cases none_
    next text ends_ =>
    split at none_
    · cases none_
    next owner =>
    split at none_
    · cases none_
    next expires read =>
    split at none_
    · cases none_
    split at none_
    · cases none_
    next early =>
    -- The window is what is asked last.
    obtain ⟨inside, asked, allowed⟩ : ∃ inside, values.inWindow row checked_at = .ok inside ∧
        (if inside then none else some values.outside) = (none : Option String) := by
      cases asked : values.inWindow row checked_at with
      | error error =>
        rw [asked] at none_
        cases none_
      | ok inside =>
        rw [asked] at none_
        exact ⟨inside, rfl, Except.ok.inj none_⟩
    rw [not_or, not_not, Bool.not_eq_true, Option.isNone_eq_false_iff] at authorized
    cases inside with
    | false => cases allowed
    | true =>
      exact ⟨row, switch (by simpa using off), found, authorized,
        ⟨not_not.mp owner, text, expires, ends_, read, Int.not_le.mp early⟩, asked⟩

/--
A guard lets a worker go on only while the kill switch is off, with the authorized row whose lease it
holds and which has not ended, and changes nothing.
-/
theorem guardClaimed_allows
    (ran : (guardClaimed values store actor key worker_id at_).run world = (.ok row, changed)) :
    changed = world ∧ ∃ checked_at, GuardAllows values key worker_id checked_at world row := by
  have timed : ∃ stamp, (timeOr at_ : Op String).run world = (.ok stamp, world) := by
    rw [timeOr]
    split
    · exact ⟨_, rfl⟩
    · exact ⟨_, rfl⟩
  obtain ⟨stamp, timed⟩ := timed
  rw [guardClaimed, run_lift_bind] at ran
  split at ran
  swap
  · cases ran
  rw [Prog.run_bind, timed] at ran
  dsimp only at ran
  split at ran
  · cases ran
  next checked_at read =>
  split at ran
  · cases ran
  rw [select, kill_switch_enabled, Prog.run_bind, Prog.run_read] at ran
  dsimp only at ran
  rw [Prog.run_bind, Prog.run_read] at ran
  dsimp only at ran
  rw [run_lift_bind] at ran
  split at ran
  swap
  · cases ran
  next reason judged =>
  cases reason with
  | some reason =>
    -- A refusal is audited, and raised.
    dsimp only at ran
    rw [Prog.run_bind] at ran
    split at ran
    · cases ran
    · cases ran
  | none =>
    dsimp only at ran
    obtain ⟨found, allows⟩ := guardAllows_of_refusal (fun off => by
      rw [World.killed]
      simpa using off) judged
    obtain ⟨outcome, read, known⟩ := run_getRow values.table values.missing store actor key world
    rw [read] at ran
    cases ran
    have same : found = row := Option.some.inj (allows.found.symm.trans (known row rfl))
    exact ⟨rfl, checked_at, same ▸ allows⟩

end Guards

section Examples

open Sample

local instance killSwitchPlatform : Platform := platform []

/-- A worker claims the sample item. -/
def Sample.claiming : Op Unit := (claim_work worker "first" 60).call

/-- Sean turns the switch on. -/
def Sample.switching : Op Unit := (set_kill_switch .sean true).call

/-- The switch is turned on, and then a worker claims an item: it looks at the switch, and gives up. -/
def Sample.refused : Pool Bool World Label Error :=
  (((((Pool.idle queued).begin_ true switching).advance true).begin_ false claiming).advance
    false).advance false

/-- A worker that looks at the switch behind its turn is given no lease. -/
theorem kill_switch_holds_first :
    refused.shared.killed ∧ refused.next? false = none ∧
      (refused.shared.item "work").map (·.lease_owner) = some none ∧ SwitchHolds refused := by
  have begun : ClearlyTurned (Pool.idle queued : Pool Bool World Label Error)
      ((Pool.idle queued).begin_ true switching) := .start true (.set_kill_switch .sean true)
  have turned : ClearlyTurned ((Pool.idle queued : Pool Bool World Label Error).begin_ true
      switching) (((Pool.idle queued).begin_ true switching).advance true) := by
    refine .advance true rfl fun _ _ caller _ => ?_
    -- One caller is about to turn the switch, and the other one has nothing to do.
    cases caller with
    | true => exact (SwitchCall.switched (.set_kill_switch .sean true)).outside
    | false => exact id
  -- The switch is on from then on, and so no further step turns it.
  have looked : ClearlyTurned ((((Pool.idle queued : Pool Bool World Label Error).begin_ true
      switching).advance true).begin_ false claiming) (((((Pool.idle queued).begin_ true
        switching).advance true).begin_ false claiming).advance false) :=
    .advance false rfl fun off _ => absurd rfl off
  have gaveUp : ClearlyTurned (((((Pool.idle queued : Pool Bool World Label Error).begin_ true
      switching).advance true).begin_ false claiming).advance false) refused :=
    .advance false rfl fun off _ => absurd rfl off
  have reached : Relation.ReflTransGen ClearlyTurned (Pool.idle queued) refused :=
    .tail (.tail (.tail (.tail (.tail .refl begun) turned)
      (.start false (.claim_work worker "first" 60))) looked) gaveUp
  exact ⟨rfl, by decide +kernel, by decide +kernel, kill_switch_holds reached⟩

/-- The moves of a worker that looks at the switch before it is turned on, and goes on after. -/
def Sample.overtaken : List (Pool.Event Bool World Label Error) :=
  [.start false claiming, .act false, .start true switching, .act true, .act false, .act false]

/-- A worker that found the switch off commits its lease while the switch is on. -/
theorem kill_switch_overtaken :
    ∃ last : Pool Bool World Label Error,
      Pool.Reaches (fun _ => SwitchCall) SwitchKept (fun _ _ _ => True) (Pool.idle queued) last ∧
      last.shared.killed ∧
      ((last.advance false).shared.item "work").map (·.lease_owner) = some (some "first") ∧
      ¬SwitchHolds last := by
  have on : (overtaken.foldl Pool.play (Pool.idle queued)).shared.killed := by
    show (overtaken.foldl Pool.play (Pool.idle queued)).shared.db.kill_switch = "ON"
    decide +kernel
  refine ⟨overtaken.foldl Pool.play (Pool.idle queued), ?_, on, by decide +kernel, ?_⟩
  · refine Pool.Reaches.play (fun _ _ _ => true) (fun _ _ _ _ => trivial) _
      (fun caller program there => ?_) (fun change there => ?_) (by decide +kernel) .refl
    · simp only [overtaken, List.mem_cons, Pool.Event.start.injEq, reduceCtorEq, false_or,
        List.not_mem_nil, or_false] at there
      rcases there with ⟨_, rfl⟩ | ⟨_, rfl⟩
      · exact .claim_work worker "first" 60
      · exact .set_kill_switch .sean true
    · simp [overtaken] at there
  · intro holds
    have pending : (overtaken.foldl Pool.play (Pool.idle queued)).next? false =
        some (.claim_work "first" "2030-01-01T00:00:00+00:00") := by
      decide +kernel
    obtain ⟨change, next, ready, _⟩ := Pool.ready_of_next pending
    exact holds on false _ change next ready trivial

end Examples

end SeanOs
