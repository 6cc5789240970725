import SeanOs.Store.Leases

/-! A claim finds an item of another worker released, or its lease over, in any interleaving. -/

namespace SeanOs

open Atomic Calendar

section Calls

variable [Platform] {known : List Reading}

/-- The programs whose steps move leases as they may, from the times that were read before. -/
abbrev Leases {α : Type} (known : List Reading) (program : Op α) : Prop :=
  Prog.Follows (fun _ _ => True) LeaseMove (fun _ _ => True) known program

omit [Platform] in
/-- A program whose every step moves leases without learning a time. -/
theorem leases_of_keeps {α : Type} {program : Op α}
    (kept : Prog.Keeps (fun _ _ => True)
      (fun label world changed => LeaseMove known label world changed known) program) :
    Leases known program :=
  kept.follows (fun _ _ _ _ move => move) fun _ => trivial

omit [Platform] in
theorem leases_of_logging {α : Type} {program : Op α} (logging : Logging program)
    (known : List Reading) : Leases known program :=
  leases_of_keeps (logging.keeps fun label _ _ logged => (SameLeases.of_logged logged).move known label)

omit [Platform] in
/-- A read that learns no time. -/
theorem leases_read {α β : Type} {label : Label} {view : World → α} {rest : α → Op β}
    (follows : ∀ world, Leases known (rest (view world))) :
    Leases known (Prog.read label view >>= rest) :=
  .read_bind fun world _ => ⟨known, (SameLeases.of_logged (.refl world)).move known label,
    follows world⟩

omit [Platform] in
/-- A read of the clock learns the time it is read at. -/
theorem leases_clock {α β : Type} {view : World → α} {rest : α → Op β}
    (follows : ∀ world, Leases (world.clock :: known) (rest (view world))) :
    Leases known (Prog.read .clock view >>= rest) :=
  .read_bind fun world _ => ⟨world.clock :: known,
    ⟨rfl, .inr rfl, fun sound => ⟨sound, fun _ => .same rfl⟩⟩, follows world⟩

omit [Platform] in
/-- The times that are known after the first part do not matter to a second one that only logs. -/
theorem leases_then_logs {α β : Type} {program : Op α} {rest : α → Op β}
    (first : Leases known program) (logging : ∀ value, Logging (rest value)) :
    Leases known (program >>= rest) :=
  .bind first (fun known value _ => leases_of_logging (logging value) known) fun _ _ _ => trivial

omit [Platform] in
/-- The text of a time from now on is one in UTC, or there is none. -/
theorem leases_fromNow {β : Type} {reading : Reading} {seconds : ℤ} {rest : String → Op β}
    (follows : ∀ ends : Reading, Leases known (rest ends.utc.isoformat)) :
    Leases known (fromNow reading seconds >>= rest) := by
  rw [fromNow]
  cases reading.shift (seconds * second) with
  | none => exact trivial
  | some ends => exact follows ends

omit [Platform] in
theorem leases_later {β : Type} {reading : Reading} {seconds : ℕ} {rest : String → Op β}
    (follows : ∀ ends : Reading, Leases known (rest ends.utc.isoformat)) :
    Leases known (later reading seconds >>= rest) := by
  rw [later]
  cases reading.plus (second * seconds) with
  | none => exact trivial
  | some ends => exact follows ends

theorem logging_reportClaim (actor : Actor) (worker_id : String) (claim : WorkClaim) :
    Logging (reportClaim actor worker_id claim) := by
  cases claim with
  | unauthorized => exact Prog.Keeps.bind (logging_audit _ _ _ _ _ _ _) fun _ => trivial
  | empty => exact trivial
  | blocked work_id => exact Prog.Keeps.bind (logging_audit _ _ _ _ _ _ _) fun _ => trivial
  | leased work_id =>
    refine Prog.Keeps.bind (logging_read _ _) fun claimed => ?_
    cases claimed with
    | none => exact trivial
    | some row => exact Prog.Keeps.bind (logging_audit _ _ _ _ _ _ _) fun _ => trivial

/-- A claim of work compares leases with the first of the two times it reads. -/
theorem leases_claim_work (actor : Actor) (worker_id : String) (lease_seconds : ℤ) :
    Leases known (claim_work actor worker_id lease_seconds) := by
  refine leases_read fun killed => ?_
  split
  · refine leases_of_logging ?_ known
    exact Prog.Keeps.bind (logging_audit _ _ _ _ _ _ _) fun _ => trivial
  refine leases_clock fun first => leases_clock fun second_ => ?_
  refine leases_fromNow fun ends => leases_then_logs
    (leases_of_keeps (Prog.Keeps.transact fun world _ => ?_)) fun claim =>
      logging_reportClaim actor worker_id claim
  exact move_claimWork actor worker_id (.tail _ (.head _)) ends world

theorem leases_claim_authorized_backup_transfer (store : Store) (actor : Actor)
    (worker_id : String) (lease_seconds : ℤ) :
    Leases known (claim_authorized_backup_transfer store actor worker_id lease_seconds) := by
  unfold claim_authorized_backup_transfer
  split
  · exact trivial
  split
  · exact trivial
  split
  · exact trivial
  refine leases_read fun killed => ?_
  split
  · refine leases_of_logging ?_ known
    exact Prog.Keeps.bind (logging_audit _ _ _ _ _ _ _) fun _ => trivial
  refine leases_clock fun first => leases_clock fun second_ => ?_
  refine leases_later fun ends => leases_then_logs
    (transferPlace.follows_claimRow worker_id (.tail _ (.head _)) ends _) fun claimed => ?_
  refine Prog.Keeps.bind (logging_auditEach _ _ _ _ _) fun _ => ?_
  split
  · exact trivial
  · exact Prog.Keeps.bind (logging_getRow _ _ _ _ _) fun row =>
      Prog.Keeps.bind (logging_audit _ _ _ _ _ _ _) fun _ => trivial

theorem leases_claim_authorized_alert_delivery (store : Store) (actor : Actor)
    (worker_id : String) (lease_seconds : ℤ) :
    Leases known (claim_authorized_alert_delivery store actor worker_id lease_seconds) := by
  unfold claim_authorized_alert_delivery
  split
  · exact trivial
  split
  · exact trivial
  refine leases_read fun killed => ?_
  split
  · refine leases_of_logging ?_ known
    exact Prog.Keeps.bind (logging_audit _ _ _ _ _ _ _) fun _ => trivial
  split
  · refine leases_of_logging ?_ known
    exact Prog.Keeps.bind (logging_audit _ _ _ _ _ _ _) fun _ => trivial
  refine leases_clock fun first => leases_clock fun second_ => ?_
  refine leases_later fun ends => leases_then_logs
    (deliveryPlace.follows_claimRow worker_id (.tail _ (.head _)) ends _) fun claimed => ?_
  refine Prog.Keeps.bind (logging_auditEach _ _ _ _ _) fun _ => ?_
  split
  · exact trivial
  · exact Prog.Keeps.bind (logging_get_alert_delivery _ _ _) fun row =>
      Prog.Keeps.bind (logging_audit _ _ _ _ _ _ _) fun _ => trivial

theorem leases_block_work (actor : Actor) (work_id worker_id reason : String)
    (approval_required : Bool) :
    Leases known (block_work actor work_id worker_id reason approval_required) := by
  refine leases_of_keeps (Prog.Keeps.bind (Prog.Keeps.transact fun world _ => ?_) fun _ =>
    Prog.Keeps.bind (Prog.Keeps.write fun world _ => ?_) fun _ => trivial)
  · exact move_endWork (.block_work work_id) _ _ _ (by nofun) (fun _ _ => rfl) world
  · exact (SameLeases.of_logged (logged_audit _ _ _ _ _ _ _ world)).move known _

theorem leases_complete_work (actor : Actor) (work_id worker_id : String) (result : Json) :
    Leases known (complete_work actor work_id worker_id result) := by
  unfold complete_work
  dsimp only
  split
  · refine leases_of_logging ?_ known
    exact Prog.Keeps.bind (logging_audit _ _ _ _ _ _ _) fun _ => trivial
  refine leases_read fun reservation => leases_then_logs
    (leases_of_keeps (Prog.Keeps.transact fun world _ => ?_)) fun _ => logging_audit _ _ _ _ _ _ _
  exact move_endWork (.complete_work work_id) _ _ _ (fun _ _ _ => rfl) (fun _ _ => rfl) world

theorem leases_complete_claimed_backup_transfer (store : Store) (actor : Actor)
    (plan_sha256 worker_id : String) (receipt : Json) :
    Leases known (complete_claimed_backup_transfer store actor plan_sha256 worker_id receipt) := by
  refine leases_of_keeps (keeps_completeClaimed
    (fun label _ _ logged => (SameLeases.of_logged logged).move known label) _ _ _ _ _ _ _
    fun verified stamp world => ?_)
  refine transferPlace.move_held (.complete_transfer plan_sha256) (by exact fun _ => rfl)
    (by exact fun _ => rfl) fun row live => ?_
  rw [Bool.and_eq_true] at live
  exact live.1

theorem leases_hold_claimed_backup_transfer (store : Store) (actor : Actor)
    (plan_sha256 worker_id error : String) :
    Leases known (hold_claimed_backup_transfer_for_reconciliation store actor plan_sha256 worker_id
      error) := by
  refine leases_of_keeps (keeps_holdClaimed
    (fun label _ _ logged => (SameLeases.of_logged logged).move known label) _ _ _ _ _ _
    fun stamp world => ?_)
  exact transferPlace.move_held (.hold_transfer plan_sha256) (by exact fun _ => rfl)
    (by exact fun _ => rfl) fun row held => held

theorem leases_complete_claimed_synthetic (store : Store) (actor : Actor)
    (delivery_id worker_id : String) (receipt : Json) :
    Leases known (complete_claimed_synthetic_alert_delivery store actor delivery_id worker_id
      receipt) :=
  leases_of_keeps (keeps_complete_claimed_synthetic
    (fun label _ _ logged => (SameLeases.of_logged logged).move known label) _ _ _ _ _
    fun _ _ _ => deliveryPlace.move_held (.complete_delivery delivery_id) (by exact fun _ => rfl)
      (by exact fun _ => rfl) fun _ held => held)

omit [Platform] in
/-- A failure that runs without interruption is one step. -/
theorem leases_alone {α : Type} {label : Label} {program : Op α}
    (moves : ∀ world, LeaseMove known label world (program.run world).2 known) :
    Leases known (Prog.alone label program) :=
  leases_of_keeps (Prog.Keeps.transact fun world _ => moves world)

/-- The calls on leases, of any worker: those that fail an attempt run without interruption. -/
inductive LeaseCall : Op Unit → Prop
  | claim_work (actor : Actor) (worker_id : String) (lease_seconds : ℤ) :
      LeaseCall (SeanOs.claim_work actor worker_id lease_seconds).call
  | complete_work (actor : Actor) (work_id worker_id : String) (result : Json) :
      LeaseCall (SeanOs.complete_work actor work_id worker_id result).call
  | block_work (actor : Actor) (work_id worker_id reason : String) (approval_required : Bool) :
      LeaseCall (SeanOs.block_work actor work_id worker_id reason approval_required).call
  | fail_work (actor : Actor) (work_id worker_id error : String) (retry_seconds : ℤ) :
      LeaseCall (Prog.alone (.fail_work work_id worker_id)
        (SeanOs.fail_work actor work_id worker_id error retry_seconds)).call
  | claim_authorized_backup_transfer (store : Store) (actor : Actor) (worker_id : String)
      (lease_seconds : ℤ) :
      LeaseCall (SeanOs.claim_authorized_backup_transfer store actor worker_id lease_seconds).call
  | complete_claimed_backup_transfer (store : Store) (actor : Actor)
      (plan_sha256 worker_id : String) (receipt : Json) :
      LeaseCall (SeanOs.complete_claimed_backup_transfer store actor plan_sha256 worker_id
        receipt).call
  | hold_claimed_backup_transfer_for_reconciliation (store : Store) (actor : Actor)
      (plan_sha256 worker_id error : String) :
      LeaseCall (SeanOs.hold_claimed_backup_transfer_for_reconciliation store actor plan_sha256
        worker_id error).call
  | fail_claimed_backup_transfer (store : Store) (actor : Actor)
      (plan_sha256 worker_id error : String) (retry_seconds : ℤ) :
      LeaseCall (Prog.alone (.fail .backup_transfer plan_sha256 worker_id)
        (SeanOs.fail_claimed_backup_transfer store actor plan_sha256 worker_id error
          retry_seconds)).call
  | claim_authorized_alert_delivery (store : Store) (actor : Actor) (worker_id : String)
      (lease_seconds : ℤ) :
      LeaseCall (SeanOs.claim_authorized_alert_delivery store actor worker_id lease_seconds).call
  | complete_claimed_synthetic_alert_delivery (store : Store) (actor : Actor)
      (delivery_id worker_id : String) (receipt : Json) :
      LeaseCall (SeanOs.complete_claimed_synthetic_alert_delivery store actor delivery_id worker_id
        receipt).call
  | fail_claimed_alert_delivery (store : Store) (actor : Actor)
      (delivery_id worker_id error : String) (retry_seconds : ℤ) :
      LeaseCall (Prog.alone (.fail .alert_delivery delivery_id worker_id)
        (SeanOs.fail_claimed_alert_delivery store actor delivery_id worker_id error
          retry_seconds)).call

/-- Every such call moves leases as it may, when it starts from no time that was read. -/
theorem LeaseCall.leases {program : Op Unit} (called : LeaseCall program) : Leases [] program := by
  cases called with
  | claim_work => exact (leases_claim_work _ _ _).call
  | complete_work => exact (leases_complete_work _ _ _ _).call
  | block_work => exact (leases_block_work _ _ _ _ _).call
  | fail_work => exact (leases_alone fun world => move_fail_work _ _ _ _ _ world).call
  | claim_authorized_backup_transfer =>
    exact (leases_claim_authorized_backup_transfer _ _ _ _).call
  | complete_claimed_backup_transfer =>
    exact (leases_complete_claimed_backup_transfer _ _ _ _ _).call
  | hold_claimed_backup_transfer_for_reconciliation =>
    exact (leases_hold_claimed_backup_transfer _ _ _ _ _).call
  | fail_claimed_backup_transfer =>
    exact (leases_alone fun world => transferPlace.move_failClaimed _ rfl _ _ _ _ _ _ world).call
  | claim_authorized_alert_delivery => exact (leases_claim_authorized_alert_delivery _ _ _ _).call
  | complete_claimed_synthetic_alert_delivery =>
    exact (leases_complete_claimed_synthetic _ _ _ _ _).call
  | fail_claimed_alert_delivery =>
    exact (leases_alone fun world => deliveryPlace.move_failClaimed _ rfl _ _ _ _ _ _ world).call

section Runs

variable {κ : Type} [DecidableEq κ]

/-- The runs of calls on leases, in which anything else leaves leased items alone. -/
abbrev LeaseRun (start pool : Pool κ World Label Error) : Prop :=
  Pool.Reaches (fun _ => LeaseCall) LeaseDrift (fun _ _ _ => True) start pool

/-- In every run the calls move leases as they may, from times that are not ahead of the clock. -/
theorem LeaseRun.phased {start : World} {pool : Pool κ World Label Error}
    (sound : LeasesSound start) (run : LeaseRun (Pool.idle start) pool) :
    Pool.Phased (fun _ _ _ => True) (fun _ => LeaseMove)
      (Pool.Knowing LeasesSound (fun known reading => reading ∈ known)
        fun reading world => reading ≤ world.clock) pool := by
  refine Pool.Reaches.knowing (by nofun) (fun caller program called => called.leases)
    (fun caller label world changed known later sound _ _ move => ⟨(move.kept sound).1,
      fun reading past => by rw [move.clock]; exact past, fun reading there => ?_⟩)
    (fun world changed sound drift => ⟨drift.sound sound, fun _ past => past.trans drift.clock⟩)
    sound run
  rcases move.learned with rfl | rfl
  · exact .inl there
  · rcases List.mem_cons.mp there with rfl | there
    · exact .inr (le_of_eq move.clock.symm)
    · exact .inl there

/-- A step of a call in a run changes the lease of an item as it may. -/
theorem LeaseRun.change {start : World} {pool last : Pool κ World Label Error} {caller : κ}
    {label : Label} (sound : LeasesSound start) (run : LeaseRun (Pool.idle start) pool)
    (acts : pool.Acts caller label last) (item : LeasedItem) :
    LeasesSound pool.shared ∧ last.shared.clock = pool.shared.clock ∧ ∃ known,
      (∀ reading ∈ known, reading ≤ pool.shared.clock) ∧
        LeaseChange known label item pool.shared last.shared := by
  obtain ⟨phases, _, holds, move⟩ := (run.phased sound).move trivial acts
  exact ⟨holds.1, move.clock, phases caller, holds.2 caller, (move.kept holds.1).2 item⟩

/-- The end of a lease is not ahead of the clock. -/
def Lease.isOver (lease : Lease) (world : World) : Prop :=
  ∃ expires, fromisoformat lease.ends = some expires ∧ expires.instant ≤ world.clock.utc.instant

omit [Platform] in
/-- A lease that is over stays so as time passes. -/
theorem Lease.isOver.mono {lease : Lease} {world changed : World} (over_ : lease.isOver world)
    (later : world.clock ≤ changed.clock) : lease.isOver changed := by
  obtain ⟨expires, read, ended⟩ := over_
  refine ⟨expires, read, ended.trans ?_⟩
  rw [Reading.instant_utc, Reading.instant_utc]
  exact Int.ofNat_le.mpr later

omit [Platform] in
/-- A lease that a claim found over, by the texts of the times, is over. -/
theorem over_of_free {world : World} {item : LeasedItem} {lease : Lease} {reading : Reading}
    (sound : LeasesSound world) (leased : world.lease item = some lease)
    (read : reading ≤ world.clock) (free : lease.ends ≤ reading.utc.isoformat) :
    lease.isOver world := by
  obtain ⟨ends, written⟩ := sound.utc item lease leased
  rw [written] at free
  -- The texts of two times in UTC are ordered as the times are.
  have passed : ends ≤ reading := not_lt.mp fun ahead =>
    absurd ((utc_isoformat_lt reading ends).mpr ahead) (not_lt.mpr free)
  refine ⟨ends.utc, by rw [written, fromisoformat_isoformat], ?_⟩
  rw [Reading.instant_utc, Reading.instant_utc]
  exact Int.ofNat_le.mpr (passed.trans read)

/-- A claim of a worker gives it a lease of an item, which the item did not have before. -/
structure Claims (worker_id : String) (item : LeasedItem) (lease : Lease) (caller : κ)
    (before after : Pool κ World Label Error) : Prop where
  acts : ∃ stamp label, ClaimLabel worker_id stamp item label ∧ before.Acts caller label after
  leased : after.shared.lease item = some lease
  new : before.shared.lease item ≠ some lease

/-- A worker ends its lease of an item. -/
structure Releases (worker_id : String) (item : LeasedItem) (lease : Lease) (caller : κ)
    (before after : Pool κ World Label Error) : Prop where
  acts : ∃ label, EndLabel worker_id item label ∧ before.Acts caller label after
  leased : before.shared.lease item = some lease
  gone : after.shared.lease item ≠ some lease

/-- Between two points of a run a worker has ended its lease. -/
def ReleasedBetween (worker_id : String) (item : LeasedItem) (lease : Lease)
    (first last : Pool κ World Label Error) : Prop :=
  ∃ caller before after, LeaseRun first before ∧ Releases worker_id item lease caller before after ∧
    LeaseRun after last

/-- A lease is held until its worker ends it or its end is reached. -/
theorem lease_until {start : World} {first last : Pool κ World Label Error} {item : LeasedItem}
    {lease : Lease} (sound : LeasesSound start) (run : LeaseRun (Pool.idle start) first)
    (leased : first.shared.lease item = some lease) (rest : LeaseRun first last) :
    last.shared.lease item = some lease ∨ ReleasedBetween lease.owner item lease first last ∨
      lease.isOver last.shared := by
  -- The induction is on the run: each step keeps the lease, or is one of the two ways to lose it.
  induction rest with
  | refl => exact .inl leased
  | @step middle last reached stepped ih =>
    rcases ih with held | released | over_
    · cases stepped with
      | @act caller label change next ready permitted =>
        obtain ⟨sound, clock, known, past, changed⟩ :=
          LeaseRun.change sound (run.trans reached) ⟨change, next, ready, rfl⟩ item
        by_cases still : (change middle.shared).lease item = some lease
        · exact .inl still
        cases changed with
        | same unchanged => exact absurd (unchanged.trans held) still
        | claimed read claims free =>
          refine .inr (.inr ((over_of_free sound held (past _ read) (free lease held)).mono ?_))
          exact le_of_eq clock.symm
        | ended ends own =>
          refine .inr (.inl ⟨caller, middle, _, reached, ⟨⟨label, ?_, change, next, ready, rfl⟩,
            held, still⟩, .refl⟩)
          rw [own lease held]
          exact ends
      | start => exact .inl held
      | outside drift => exact .inl (drift.leases item lease held)
    · obtain ⟨caller, before, after, there, releases, further⟩ := released
      exact .inr (.inl ⟨caller, before, after, there, releases, further.step stepped⟩)
    · refine .inr (.inr (over_.mono ?_))
      cases stepped with
      | @act caller label change next ready permitted =>
        obtain ⟨_, clock, _⟩ :=
          LeaseRun.change sound (run.trans reached) ⟨change, next, ready, rfl⟩ item
        exact le_of_eq clock.symm
      | start => exact le_refl _
      | outside drift => exact drift.clock

/--
Leases are exclusive in every interleaving, however old the times are that claims compare them with.

Where two claims give one item, the worker of the first one has released it in between, or the
second one takes place when the lease of the first one is over.
-/
theorem lease_exclusive {start : World} {first second third fourth : Pool κ World Label Error}
    {one two : κ} {worker_id other_id : String} {item : LeasedItem} {lease other : Lease}
    (sound : LeasesSound start) (before : LeaseRun (Pool.idle start) first)
    (claimed : Claims worker_id item lease one first second) (between : LeaseRun second third)
    (again : Claims other_id item other two third fourth) :
    ReleasedBetween worker_id item lease second third ∨ lease.isOver third.shared := by
  obtain ⟨stamp, label, claims, acts⟩ := claimed.acts
  -- The lease that a claim gives belongs to its worker.
  have owner : lease.owner = worker_id := by
    obtain ⟨_, _, known, _, changed⟩ := LeaseRun.change sound before acts item
    cases changed with
    | same unchanged => exact absurd (unchanged.symm.trans claimed.leased) claimed.new
    | claimed _ claims_ _ taken => exact (taken lease claimed.leased).trans (claims_.worker claims)
    | ended ends => exact absurd claims ends.no_claim
  have until_ : LeaseRun (Pool.idle start) second := before.acts trivial acts
  rcases lease_until sound until_ claimed.leased between with held | released | over_
  · -- The second claim changes the lease that is still there.
    obtain ⟨time, label_, claims_, acts_⟩ := again.acts
    obtain ⟨sound, _, known, past, changed⟩ :=
      LeaseRun.change sound (until_.trans between) acts_ item
    cases changed with
    | same unchanged => exact absurd (unchanged.symm.trans again.leased) again.new
    | claimed read _ free => exact .inr (over_of_free sound held (past _ read) (free lease held))
    | ended ends => exact absurd claims_ ends.no_claim
  · exact .inl (owner ▸ released)
  · exact .inr over_

end Runs

end Calls

section Examples

open Sample

local instance leaseExclusivePlatform : Platform := platform []

/-- A worker starts a claim and reads the time twice, before it opens its transaction. -/
def Sample.readsTime (caller : Bool) : List (Pool.Event Bool World Label Error) :=
  .start caller (claim_work worker (workerName caller) 60).call :: steps 3 caller

/-- The first worker is about to lease the item. -/
def Sample.firstReady : Pool Bool World Label Error :=
  (readsTime false).foldl Pool.play (Pool.idle queued)

/-- An hour after the first worker has leased the item, the second one is about to. -/
def Sample.secondReady : Pool Bool World Label Error :=
  (.outside hourPasses :: readsTime true).foldl Pool.play (firstReady.advance false)

/-- The lease of a worker after some attempts. -/
def Sample.leaseOn (caller : Bool) (ends : String) (attempt : ℕ) : Lease :=
  ⟨workerName caller, ends, attempt⟩

theorem Sample.leaseRun_play {pool : Pool Bool World Label Error}
    (events : List (Pool.Event Bool World Label Error))
    (some_ : ∀ event ∈ events, event = .outside hourPasses ∨
      ∃ caller, event ∈ readsTime caller) :
    LeaseRun pool (events.foldl Pool.play pool) := by
  refine Pool.Reaches.play (fun _ _ _ => true) (fun _ _ _ _ => trivial) events
    (fun caller program there => ?_) (fun change there => ?_) (Pool.playableAll_true _ _) .refl
  · rcases some_ _ there with same | ⟨other, there⟩
    · cases same
    · simp only [readsTime, steps, List.mem_cons, List.mem_replicate, Pool.Event.start.injEq,
        reduceCtorEq, and_false, or_false] at there
      rw [there.2]
      exact .claim_work _ _ _
  · rcases some_ _ there with same | ⟨other, there⟩
    · cases same
      intro world
      refine .passes _ world ?_
      cases ahead : world.clock.plus hour with
      | none => exact le_refl _
      | some later => exact Reading.le_of_plus ahead
    · simp only [readsTime, steps, List.mem_cons, List.mem_replicate, reduceCtorEq, and_false,
        or_false] at there

/-- Nothing is leased while the item waits. -/
theorem Sample.queued_sound : LeasesSound queued := by
  refine ⟨fun item lease found => ?_, List.nodup_nil, List.nodup_nil⟩
  cases item with
  | work work_id =>
    obtain ⟨row, there, leased⟩ := Option.bind_eq_some_iff.mp found
    cases List.mem_singleton.mp (Table.mem_of_find? there)
    cases leased
  | transfer | delivery => cases found

theorem lease_exclusive_an_hour_later :
    ReleasedBetween "first" (.work "work") (leaseOn false "2030-01-01T00:01:00+00:00" 1)
      (firstReady.advance false) secondReady ∨
    (leaseOn false "2030-01-01T00:01:00+00:00" 1).isOver secondReady.shared := by
  have known : firstReady.next? false = some (.claim_work "first" "2030-01-01T00:00:00+00:00") ∧
      secondReady.next? true = some (.claim_work "second" "2030-01-01T01:00:00+00:00") ∧
      (firstReady.shared.lease (.work "work") = none ∧
        (firstReady.advance false).shared.lease (.work "work") =
          some (leaseOn false "2030-01-01T00:01:00+00:00" 1)) ∧
      secondReady.shared.lease (.work "work") ≠
        some (leaseOn true "2030-01-01T01:01:00+00:00" 2) ∧
      (secondReady.advance true).shared.lease (.work "work") =
        some (leaseOn true "2030-01-01T01:01:00+00:00" 2) := by
    decide +kernel
  obtain ⟨first, second, ⟨free, leased⟩, new, again⟩ := known
  have claimed : Claims "first" (.work "work") (leaseOn false "2030-01-01T00:01:00+00:00" 1) false
      firstReady (firstReady.advance false) :=
    ⟨⟨_, _, .work "work", Pool.acts_of_next first⟩, leased, by rw [free]; nofun⟩
  have taken : Claims "second" (.work "work") (leaseOn true "2030-01-01T01:01:00+00:00" 2) true
      secondReady (secondReady.advance true) :=
    ⟨⟨_, _, .work "work", Pool.acts_of_next second⟩, again, new⟩
  refine lease_exclusive queued_sound (leaseRun_play _ ?_) claimed (leaseRun_play _ ?_) taken
  · exact fun event there => .inr ⟨false, there⟩
  · intro event there
    rcases List.mem_cons.mp there with same | there
    · exact .inl same
    · exact .inr ⟨true, there⟩

end Examples

end SeanOs
