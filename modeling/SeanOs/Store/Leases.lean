import SeanOs.Lib.IsoOrder
import SeanOs.Store.BackupTransfers
import SeanOs.Store.StaleWork
import SeanOs.Store.Writes

/-! Leases of work, transfers and deliveries: which steps give them, take them away or leave them alone. -/

namespace SeanOs

open Atomic Calendar

/-- A lease: its owner, the text of its end, and the attempt it was given for. -/
structure Lease where
  owner : String
  ends : String
  attempt : ℕ
  deriving DecidableEq

/-- The lease that the columns of a row say, if they say one. -/
def leaseOf (owner ends : Option String) (attempt : ℕ) : Option Lease :=
  match owner, ends with
  | some owner, some ends => some ⟨owner, ends, attempt⟩
  | _, _ => none

/-- The columns of a lease say it. -/
theorem of_leaseOf {owner ends : Option String} {attempt : ℕ} {lease : Lease}
    (leased : leaseOf owner ends attempt = some lease) :
    owner = some lease.owner ∧ ends = some lease.ends ∧ attempt = lease.attempt := by
  cases owner with
  | none => cases leased
  | some owner =>
    cases ends with
    | none => cases leased
    | some ends =>
      cases leased
      exact ⟨rfl, rfl, rfl⟩

/-- The lease of a row of an outbox, which only an authorized row has. -/
def OutboxRow.lease {Columns : Type} (row : OutboxRow Columns) : Option Lease :=
  if row.status = .AUTHORIZED then leaseOf row.lease_owner row.lease_expires_at row.attempt_count
  else none

/-- The lease of an item of work, which only a running one has. -/
def WorkRow.lease (row : WorkRow) : Option Lease :=
  if row.status = .RUNNING then leaseOf row.lease_owner row.lease_expires_at row.attempts else none

/-- What can be leased: an item of work, a transfer or a delivery. -/
inductive LeasedItem where
  | work (work_id : String)
  | transfer (plan_sha256 : String)
  | delivery (delivery_id : String)
  deriving DecidableEq

/-- The lease of an item. -/
def World.lease : LeasedItem → World → Option Lease
  | .work work_id, world => (world.item work_id).bind (·.lease)
  | .transfer plan_sha256, world =>
    (backupTransferOutbox.find? plan_sha256 world.db).bind (·.lease)
  | .delivery delivery_id, world =>
    (alertDeliveryOutbox.find? delivery_id world.db).bind (·.lease)

/-- The transactions that lease items of one kind to a worker, at the time they compare leases with. -/
inductive ClaimLabel (worker_id stamp : String) : LeasedItem → Label → Prop
  | work (work_id : String) : ClaimLabel worker_id stamp (.work work_id)
      (.claim_work worker_id stamp)
  | transfer (plan_sha256 : String) : ClaimLabel worker_id stamp (.transfer plan_sha256)
      (.claim .backup_transfer worker_id stamp)
  | delivery (delivery_id : String) : ClaimLabel worker_id stamp (.delivery delivery_id)
      (.claim .alert_delivery worker_id stamp)

/-- The transactions of a worker that end its attempt at an item. -/
inductive EndLabel (worker_id : String) : LeasedItem → Label → Prop
  | complete_work (work_id : String) : EndLabel worker_id (.work work_id)
      (.complete_work work_id worker_id)
  | block_work (work_id : String) : EndLabel worker_id (.work work_id)
      (.block_work work_id worker_id)
  | fail_work (work_id : String) : EndLabel worker_id (.work work_id) (.fail_work work_id worker_id)
  | complete_transfer (key : String) : EndLabel worker_id (.transfer key)
      (.complete .backup_transfer key worker_id)
  | fail_transfer (key : String) : EndLabel worker_id (.transfer key)
      (.fail .backup_transfer key worker_id)
  | hold_transfer (key : String) : EndLabel worker_id (.transfer key)
      (.hold .backup_transfer key worker_id)
  | complete_delivery (key : String) : EndLabel worker_id (.delivery key)
      (.complete .alert_delivery key worker_id)
  | fail_delivery (key : String) : EndLabel worker_id (.delivery key)
      (.fail .alert_delivery key worker_id)

/-- A transaction is the claim of one worker. -/
theorem ClaimLabel.worker {one two stamp time : String} {item : LeasedItem} {label : Label}
    (first : ClaimLabel one stamp item label) (second : ClaimLabel two time item label) :
    one = two := by
  cases first <;> (cases second; rfl)

/-- A transaction that ends an attempt is no claim. -/
theorem EndLabel.no_claim {one two stamp : String} {item : LeasedItem} {label : Label}
    (ends : EndLabel one item label) : ¬ClaimLabel two stamp item label := by
  intro claims
  cases claims <;> cases ends

/-- What holds of leases at any time: they end at times written in UTC, of rows with unique keys. -/
structure LeasesSound (world : World) : Prop where
  utc : ∀ item lease, world.lease item = some lease → ∃ reading : Reading,
    lease.ends = reading.utc.isoformat
  transfers : (world.db.backup_transfer_outbox.map (·.key)).Nodup
  deliveries : (world.db.alert_delivery_outbox.map (·.key)).Nodup

/-- What a step may do to the lease of an item, from the times its call has read before. -/
inductive LeaseChange (known : List Reading) (label : Label) (item : LeasedItem)
    (world changed : World) : Prop
  | same (unchanged : changed.lease item = world.lease item)
  /-- A claim takes a lease that is over at a time that was read before. -/
  | claimed {worker_id : String} {reading : Reading} (read : reading ∈ known)
      (claims : ClaimLabel worker_id reading.utc.isoformat item label)
      (free : ∀ lease, world.lease item = some lease → lease.ends ≤ reading.utc.isoformat)
      (taken : ∀ lease, changed.lease item = some lease → lease.owner = worker_id)
  /-- A worker ends its own attempt. -/
  | ended {worker_id : String} (ends : EndLabel worker_id item label)
      (own : ∀ lease, world.lease item = some lease → lease.owner = worker_id)

/-- What a step of a call does to leases, and which times the call has read after it. -/
structure LeaseMove (known : List Reading) (label : Label) (world changed : World)
    (later : List Reading) : Prop where
  clock : changed.clock = world.clock
  learned : later = known ∨ later = world.clock :: known
  kept : LeasesSound world → LeasesSound changed ∧
    ∀ item, LeaseChange known label item world changed

/-- What anything else may do: let time pass, and leave the items that are leased alone. -/
structure LeaseDrift (world changed : World) : Prop where
  clock : world.clock ≤ changed.clock
  leases : ∀ item lease, world.lease item = some lease → changed.lease item = some lease
  sound : LeasesSound world → LeasesSound changed

/-- The passing of time leaves leases alone. -/
theorem LeaseDrift.passes (clock : Reading) (world : World) (later : world.clock ≤ clock) :
    LeaseDrift world { world with clock := clock } := by
  have same : ∀ item, World.lease item { world with clock := clock } = world.lease item :=
    fun item => by cases item <;> rfl
  exact ⟨later, fun item lease found => (same item).trans found, fun sound =>
    ⟨fun item lease found => sound.utc item lease ((same item).symm.trans found),
      sound.transfers, sound.deliveries⟩⟩

/-- A change that leaves the clock and the two outboxes and the queue alone. -/
structure SameLeases (world changed : World) : Prop where
  clock : changed.clock = world.clock
  work : ∀ id, changed.item id = world.item id
  transfers : changed.db.backup_transfer_outbox = world.db.backup_transfer_outbox
  deliveries : changed.db.alert_delivery_outbox = world.db.alert_delivery_outbox

namespace SameLeases

variable {world changed : World}

theorem lease (same : SameLeases world changed) (item : LeasedItem) :
    changed.lease item = world.lease item := by
  cases item with
  | work id => rw [World.lease, same.work, World.lease]
  | transfer key =>
    rw [World.lease, OutboxTable.find?,
      show backupTransferOutbox.rows changed.db = _ from same.transfers]
    rfl
  | delivery key =>
    rw [World.lease, OutboxTable.find?,
      show alertDeliveryOutbox.rows changed.db = _ from same.deliveries]
    rfl

theorem sound (same : SameLeases world changed) (sound : LeasesSound world) :
    LeasesSound changed where
  utc item lease found := sound.utc item lease (by rw [← same.lease]; exact found)
  transfers := by rw [same.transfers]; exact sound.transfers
  deliveries := by rw [same.deliveries]; exact sound.deliveries

theorem of_logged (logged : Logged world changed) : SameLeases world changed := by
  obtain ⟨_, _, rfl⟩ := logged
  exact ⟨rfl, fun _ => rfl, rfl, rfl⟩

theorem move (same : SameLeases world changed) (known : List Reading) (label : Label) :
    LeaseMove known label world changed known :=
  ⟨same.clock, .inl rfl, fun sound => ⟨same.sound sound, fun item => .same (same.lease item)⟩⟩

end SameLeases

/-- Two changes of one transaction are one step. -/
theorem LeaseMove.trans {known : List Reading} {label : Label} {world middle last : World}
    (first : LeaseMove known label world middle known)
    (second : LeaseMove known label middle last known) : LeaseMove known label world last known := by
  refine ⟨second.clock.trans first.clock, .inl rfl, fun sound => ?_⟩
  obtain ⟨middleSound, here⟩ := first.kept sound
  obtain ⟨lastSound, there⟩ := second.kept middleSound
  refine ⟨lastSound, fun item => ?_⟩
  cases here item with
  | same unchanged =>
    cases there item with
    | same unchanged_ => exact .same (unchanged_.trans unchanged)
    | claimed read claims free taken =>
      exact .claimed read claims (by rw [← unchanged]; exact free) taken
    | ended ends own => exact .ended ends (by rw [← unchanged]; exact own)
  | claimed read claims free taken =>
    cases there item with
    | same unchanged => exact .claimed read claims free (by rw [unchanged]; exact taken)
    | claimed _ claims_ _ taken_ =>
      refine .claimed read claims free fun lease leased => (taken_ lease leased).trans ?_
      exact claims_.worker claims
    | ended ends => exact absurd claims ends.no_claim
  | ended ends own => exact .ended ends own

/-- Where the leases of an outbox are found, and the transactions on it. -/
structure LeasePlace {Columns : Type} (table : OutboxTable Columns) where
  item : String → LeasedItem
  lease : ∀ key (world : World),
    world.lease (item key) = (table.find? key world.db).bind (·.lease)
  /-- The other items are left alone by an update of the outbox. -/
  other : ∀ it, (∀ key, it ≠ item key) → ∀ items (world : World),
    World.lease it { world with db := table.put items world.db } = world.lease it
  unique : ∀ world, LeasesSound world → ((table.rows world.db).map (·.key)).Nodup
  /-- An update that leaves the keys as they are leaves the keys of all outboxes unique. -/
  update : ∀ items (world : World), items.map (·.key) = (table.rows world.db).map (·.key) →
    LeasesSound world →
    (∀ it lease, World.lease it { world with db := table.put items world.db } = some lease →
      ∃ reading : Reading, lease.ends = reading.utc.isoformat) →
    LeasesSound { world with db := table.put items world.db }
  claims : ∀ worker_id stamp key,
    ClaimLabel worker_id stamp (item key) (.claim table.name worker_id stamp)
  completes : ∀ worker_id key, EndLabel worker_id (item key) (.complete table.name key worker_id)
  fails : ∀ worker_id key, EndLabel worker_id (item key) (.fail table.name key worker_id)

/-- The leases of transfers. -/
def transferPlace : LeasePlace backupTransferOutbox where
  item := .transfer
  lease _ _ := rfl
  other it apart _ _ := by
    cases it with
    | transfer key => exact absurd rfl (apart key)
    | work | delivery => rfl
  unique _ sound := sound.transfers
  update items world keys sound utc := ⟨utc, by
    show (items.map (·.key)).Nodup
    rw [keys]
    exact sound.transfers, sound.deliveries⟩
  claims _ _ _ := .transfer _
  completes _ _ := .complete_transfer _
  fails _ _ := .fail_transfer _

/-- The leases of deliveries. -/
def deliveryPlace : LeasePlace alertDeliveryOutbox where
  item := .delivery
  lease _ _ := rfl
  other it apart _ _ := by
    cases it with
    | delivery key => exact absurd rfl (apart key)
    | work | transfer => rfl
  unique _ sound := sound.deliveries
  update items world keys sound utc := ⟨utc, sound.transfers, by
    show (items.map (·.key)).Nodup
    rw [keys]
    exact sound.deliveries⟩
  claims _ _ _ := .delivery _
  completes _ _ := .complete_delivery _
  fails _ _ := .fail_delivery _

section Outboxes

variable {Columns : Type} {table : OutboxTable Columns} (place : LeasePlace table)
  {known : List Reading} {label : Label} {world : World}

include place

/-- The lease of a row is that of the row it was, or of the changed one where it was changed. -/
theorem LeasePlace.lease_update {holds : OutboxRow Columns → Bool}
    {change : OutboxRow Columns → OutboxRow Columns} (keys : ∀ row, (change row).key = row.key)
    (key : String) :
    (table.update holds change world).lease (place.item key) =
      (table.find? key world.db).bind fun row =>
        if holds row then (change row).lease else row.lease := by
  rw [place.lease, OutboxTable.find?_update keys]
  cases table.find? key world.db with
  | none => rfl
  | some row =>
    rw [Option.map_some, Option.bind_some, Option.bind_some]
    split <;> rfl

/-- The lease of a row that was changed is that of the changed row. -/
theorem LeasePlace.lease_changed {holds : OutboxRow Columns → Bool}
    {change : OutboxRow Columns → OutboxRow Columns} {row : OutboxRow Columns} {lease : Lease}
    (found : table.find? row.key world.db = some row) (met : holds row = true)
    (leased : (table.update holds change world).lease (place.item row.key) = some lease)
    (keys : ∀ row, (change row).key = row.key) : (change row).lease = some lease := by
  rw [place.lease_update keys, found, Option.bind_some, if_pos met] at leased
  exact leased

/-- An update moves leases where it moves that of every row that it changes. -/
theorem LeasePlace.move {holds : OutboxRow Columns → Bool}
    {change : OutboxRow Columns → OutboxRow Columns} (keys : ∀ row, (change row).key = row.key)
    (utc : ∀ row lease, (change row).lease = some lease → row.lease = some lease ∨
      ∃ reading : Reading, lease.ends = reading.utc.isoformat)
    (moves : LeasesSound world → ∀ row, table.find? row.key world.db = some row →
      holds row = true → LeaseChange known label (place.item row.key) world
        (table.update holds change world)) :
    LeaseMove known label world (table.update holds change world) known := by
  refine ⟨rfl, .inl rfl, fun sound => ?_⟩
  have after : ∀ key, (table.update holds change world).lease (place.item key) = _ :=
    place.lease_update keys
  refine ⟨place.update _ world ?_ sound fun item lease found => ?_, fun item => ?_⟩
  · have same : ((fun row : OutboxRow Columns => row.key) ∘
        fun row => if holds row then change row else row) = fun row => row.key := by
      funext row
      show (if holds row then change row else row).key = row.key
      split
      · exact keys row
      · rfl
    rw [List.map_map, same]
  · by_cases here : ∃ key, item = place.item key
    · obtain ⟨key, rfl⟩ := here
      have found := (after key).symm.trans found
      obtain ⟨row, read, held⟩ := Option.bind_eq_some_iff.mp found
      have before : ∀ lease, row.lease = some lease → ∃ reading : Reading,
          lease.ends = reading.utc.isoformat := fun lease leased =>
        sound.utc (place.item key) lease (by rw [place.lease, read]; exact leased)
      split at held
      · rcases utc row lease held with stays | utc
        · exact before lease stays
        · exact utc
      · exact before lease held
    · rw [place.other item (fun key same => here ⟨key, same⟩)] at found
      exact sound.utc item lease found
  · by_cases here : ∃ key, item = place.item key
    · obtain ⟨key, rfl⟩ := here
      cases read : table.find? key world.db with
      | none => exact .same (by rw [after, place.lease, read]; rfl)
      | some row =>
        have named : row.key = key := OutboxTable.key_of_find? read
        subst named
        cases held : holds row with
        | true => exact moves sound row read held
        | false =>
          refine .same ?_
          rw [after, place.lease, read, Option.bind_some, Option.bind_some, held]
          rfl
    · exact .same (place.other item (fun key same => here ⟨key, same⟩) _ world)

omit place in
/-- A row whose lease is over at a time has no lease that ends after it. -/
theorem ends_of_released {stamp : String} {row : OutboxRow Columns}
    (released : row.released stamp = true) {lease : Lease} (leased : row.lease = some lease) :
    lease.ends ≤ stamp := by
  rw [OutboxRow.lease] at leased
  split at leased
  · obtain ⟨hasOwner, hasEnds, _⟩ := of_leaseOf leased
    rw [OutboxRow.released, hasOwner, hasEnds] at released
    simpa using released
  · cases leased

omit place in
/-- The lease of a row that a worker holds is its own. -/
theorem owner_of_heldBy {key worker_id : String} {row : OutboxRow Columns}
    (held : row.heldBy key worker_id = true) {lease : Lease} (leased : row.lease = some lease) :
    lease.owner = worker_id := by
  rw [OutboxRow.heldBy, Bool.and_eq_true, Bool.and_eq_true, beq_iff_eq, beq_iff_eq,
    beq_iff_eq] at held
  rw [OutboxRow.lease, if_pos held.2.1] at leased
  exact Option.some.inj ((of_leaseOf leased).1.symm.trans held.2.2)

omit place in
/-- A row without an owner has no lease. -/
theorem lease_of_unowned {row : OutboxRow Columns} (unowned : row.lease_owner = none) :
    row.lease = none := by
  rw [OutboxRow.lease, unowned]
  split <;> rfl

/-- An update that ends leases is a step where it ends those it may. -/
theorem LeasePlace.move_ending {holds : OutboxRow Columns → Bool}
    {change : OutboxRow Columns → OutboxRow Columns} (keys : ∀ row, (change row).key = row.key)
    (unowned : ∀ row, (change row).lease_owner = none)
    (moves : LeasesSound world → ∀ row, table.find? row.key world.db = some row →
      holds row = true → LeaseChange known label (place.item row.key) world
        (table.update holds change world)) :
    LeaseMove known label world (table.update holds change world) known :=
  place.move keys (fun row _ leased => absurd leased
    (by rw [lease_of_unowned (unowned row)]; simp)) moves

/-- The transaction of a claim takes leases that are over at a time that was read before. -/
theorem LeasePlace.follows_claimRow (worker_id : String) {reading : Reading}
    (read : reading ∈ known) (ends : Reading) (inScope : OutboxRow Columns → Bool) :
    Prog.Follows (fun _ _ => True) LeaseMove (fun _ _ => True) known
      (claimRow table worker_id reading.utc.isoformat ends.utc.isoformat inScope) := by
  have claims : ∀ {middle changed : World} (row : OutboxRow Columns),
      table.find? row.key middle.db = some row → row.released reading.utc.isoformat = true →
        (∀ lease, changed.lease (place.item row.key) = some lease → lease.owner = worker_id) →
          LeaseChange known (.claim table.name worker_id reading.utc.isoformat)
            (place.item row.key) middle changed := by
    intro middle changed row found released taken
    refine .claimed read (place.claims worker_id _ row.key) (fun lease leased => ?_) taken
    rw [place.lease, found] at leased
    exact ends_of_released released leased
  refine Prog.Follows.transact fun world _ => ⟨known, ?_, trivial⟩
  have failing : LeaseMove known (.claim table.name worker_id reading.utc.isoformat) world
      (table.update (fun row => row.status == .AUTHORIZED && (row.max_attempts ≤ row.attempt_count &&
        (row.released reading.utc.isoformat && inScope row))) (fun row =>
      { row.unleased with
        status := .FAILED, last_error := some "Lease expired after maximum attempts"
        updated_at := reading.utc.isoformat }) world) known := by
    refine place.move_ending (fun _ => rfl) (fun _ => rfl) fun _ row found holds => ?_
    have released := holds
    simp only [Bool.and_eq_true] at released
    refine claims row found released.2.2.1 fun lease leased => ?_
    -- A row that is failed has no lease.
    have leased := place.lease_changed found holds leased (by exact fun _ => rfl)
    rw [lease_of_unowned rfl] at leased
    cases leased
  dsimp only
  split
  · exact failing
  · refine failing.trans (place.move (fun _ => rfl) (fun row lease leased => ?_) ?_)
    · -- The lease that is written is the new one.
      refine .inr ⟨ends, ?_⟩
      rw [OutboxRow.lease] at leased
      split at leased
      · cases leased
        rfl
      · cases leased
    · intro _ row found holds
      have free := holds
      simp only [Bool.and_eq_true] at free
      refine claims row found free.2.2 fun lease leased => ?_
      have leased := place.lease_changed found holds leased (by exact fun _ => rfl)
      rw [OutboxRow.lease] at leased
      split at leased
      · exact (Option.some.inj (of_leaseOf leased).1).symm
      · cases leased

/-- A failure that runs without interruption ends the attempt of its worker. -/
theorem LeasePlace.move_failClaimed [Platform] (values : Failure Columns)
    (own : values.table = table) (store : Store) (actor : Actor) (key worker_id error : String)
    (retry_seconds : ℤ) (world : World) :
    LeaseMove known (.fail table.name key worker_id) world
      ((failClaimed values store actor key worker_id error retry_seconds).run world).2 known := by
  subst own
  rcases run_failClaimed values store actor key worker_id error retry_seconds world with
    logged | ⟨held, there, owned, available, stamp, logged⟩
  · exact (SameLeases.of_logged logged).move known _
  refine .trans ?_ ((SameLeases.of_logged logged).move known _)
  refine place.move_ending (fun _ => rfl) (fun _ => rfl) fun sound row found named => ?_
  have named_ : row.key = key := beq_iff_eq.mp named
  subst named_
  refine .ended (place.fails worker_id row.key) fun lease leased => ?_
  rw [place.lease, found] at leased
  -- Where the keys are unique the row that is written is the one that was held.
  have same : row = held := by
    refine List.inj_on_of_nodup_map (place.unique world sound) (List.mem_of_find?_eq_some found)
      there ?_
    rw [OutboxRow.heldBy, Bool.and_eq_true, beq_iff_eq] at owned
    exact owned.1.symm
  subst same
  exact owner_of_heldBy owned leased

/-- A worker ends its own attempt at the rows that it holds. -/
theorem LeasePlace.move_held {holds : OutboxRow Columns → Bool}
    {change : OutboxRow Columns → OutboxRow Columns} {key worker_id : String}
    (ends : EndLabel worker_id (place.item key) label)
    (keys : ∀ row, (change row).key = row.key) (unowned : ∀ row, (change row).lease_owner = none)
    (held : ∀ row, holds row = true → row.heldBy key worker_id = true) :
    LeaseMove known label world (table.update holds change world) known := by
  refine place.move_ending keys unowned fun _ row found holds_ => ?_
  have own := held row holds_
  have named : row.key = key := by
    rw [OutboxRow.heldBy, Bool.and_eq_true, beq_iff_eq] at own
    exact own.1
  subst named
  refine .ended ends fun lease leased => ?_
  rw [place.lease, found] at leased
  exact owner_of_heldBy own leased

end Outboxes

/-- What the transactions on work leave alone. -/
def World.besidesWork (world : World) : Database × Reading :=
  ({ world.db with
    work_queue := .empty, budgets := .empty, cost_reservations := .empty, usage_events := [] },
    world.clock)

/-- What a transaction on work has changed so far: leases it ended, or gave until a time in UTC. -/
structure WorkChange (start world : World) : Prop where
  beside : world.besidesWork = start.besidesWork
  leases : ∀ work_id lease, world.lease (.work work_id) = some lease →
    start.lease (.work work_id) = some lease ∨
      ∃ reading : Reading, lease.ends = reading.utc.isoformat

namespace WorkChange

variable {start world changed : World}

theorem refl (world : World) : WorkChange world world := ⟨rfl, fun _ _ there => .inl there⟩

/-- A statement that leaves the queue alone. -/
theorem besides (change : WorkChange start world) (beside : changed.besidesWork = world.besidesWork)
    (queue : changed.db.work_queue = world.db.work_queue) : WorkChange start changed := by
  refine ⟨beside.trans change.beside, fun work_id lease found => change.leases work_id lease ?_⟩
  rw [World.lease, World.item, queue] at found
  exact found

/-- A statement that writes items whose leases end at a time in UTC, or are the ones they were. -/
theorem update (change : WorkChange start world) {holds : WorkRow → Bool} {next : WorkRow → WorkRow}
    {keeps : ∀ row, (next row).id = row.id}
    (utc : ∀ row lease, (next row).lease = some lease → row.lease = some lease ∨
      ∃ reading : Reading, lease.ends = reading.utc.isoformat)
    (ran : updateWork holds next keeps world = .ok changed) : WorkChange start changed := by
  cases ran
  refine ⟨change.beside, fun work_id lease found => ?_⟩
  rw [World.lease, World.item, World.withQueue, Table.find?_update] at found
  obtain ⟨written, there, leased⟩ := Option.bind_eq_some_iff.mp found
  obtain ⟨row, read, same⟩ := Option.map_eq_some_iff.mp there
  have before : row.lease = some lease → start.lease (.work work_id) = some lease ∨
      ∃ reading : Reading, lease.ends = reading.utc.isoformat := by
    intro stays
    apply change.leases
    rw [World.lease, World.item, read]
    exact stays
  split at same
  · subst same
    rcases utc row lease leased with stays | utc
    · exact before stays
    · exact .inr utc
  · subst same
    exact before leased

end WorkChange

/-- The lease of an item without an owner is none. -/
theorem WorkRow.lease_of_unowned {row : WorkRow} (unowned : row.lease_owner = none) :
    row.lease = none := by
  rw [WorkRow.lease, unowned]
  split <;> rfl

section Work

variable [Platform] {known : List Reading} {world changed : World}

omit [Platform] in
/-- A change of work moves leases where it moves those of items. -/
theorem WorkChange.move {label : Label} (change : WorkChange world changed)
    (moves : ∀ work_id, LeaseChange known label (.work work_id) world changed) :
    LeaseMove known label world changed known := by
  have transfers : changed.db.backup_transfer_outbox = world.db.backup_transfer_outbox :=
    congrArg (·.1.backup_transfer_outbox) change.beside
  have deliveries : changed.db.alert_delivery_outbox = world.db.alert_delivery_outbox :=
    congrArg (·.1.alert_delivery_outbox) change.beside
  have others : ∀ item, (∀ work_id, item ≠ .work work_id) →
      changed.lease item = world.lease item := by
    intro item apart
    cases item with
    | work work_id => exact absurd rfl (apart work_id)
    | transfer key =>
      rw [World.lease, OutboxTable.find?,
        show backupTransferOutbox.rows changed.db = _ from transfers]
      rfl
    | delivery key =>
      rw [World.lease, OutboxTable.find?,
        show alertDeliveryOutbox.rows changed.db = _ from deliveries]
      rfl
  refine ⟨congrArg (·.2) change.beside, .inl rfl, fun sound => ⟨⟨fun item lease found => ?_, ?_, ?_⟩,
    fun item => ?_⟩⟩
  · cases item with
    | work work_id =>
      rcases change.leases work_id lease found with stays | utc
      · exact sound.utc _ lease stays
      · exact utc
    | transfer | delivery => exact sound.utc _ lease ((others _ (by rintro _ ⟨⟩)).symm.trans found)
  · rw [transfers]
    exact sound.transfers
  · rw [deliveries]
    exact sound.deliveries
  · cases item with
    | work work_id => exact moves work_id
    | transfer | delivery => exact .same (others _ (by rintro _ ⟨⟩))

/-- The scripts that change work as it may be changed. -/
abbrev OnWork {α : Type} (start : World) (script : Statements α) : Prop :=
  Script.Maintains (WorkChange start) script

variable {start : World}

omit [Platform] in
theorem onWork_updateBudget (place : Scope × String) (reserved used : Number → Number) :
    OnWork start (Script.execute (updateBudget place reserved used)) := by
  refine .execute fun world changed change ran => ?_
  rw [updateBudget] at ran
  split at ran
  · cases ran
    exact change
  split at ran
  · split at ran
    · cases ran
      exact change.besides rfl rfl
    · cases ran
  · cases ran

theorem onWork_settle (work_id : String) (consume : Bool) :
    OnWork start (_settle_cost work_id consume) := by
  have delete : OnWork start (Script.execute (deleteReservation work_id)) :=
    .execute fun _ _ change ran => by
      cases ran
      exact change.besides rfl rfl
  refine .bind (.query _) fun found => ?_
  cases found with
  | none => exact .pure _
  | some row =>
    dsimp only
    split
    · refine .bind (onWork_updateBudget _ _ _) fun _ => .bind (.execute ?_) fun _ => delete
      intro _ _ change ran
      cases ran
      exact change.besides rfl rfl
    · exact .bind (onWork_updateBudget _ _ _) fun _ => delete

omit [Platform] in
/-- A statement that ends leases. -/
theorem onWork_update {holds : World → WorkRow → Bool} {next : World → WorkRow → WorkRow}
    {keeps : ∀ world row, (next world row).id = row.id}
    (unowned : ∀ world row, (next world row).lease_owner = none) :
    OnWork start (Script.execute fun world =>
      updateWork (holds world) (next world) (keeps world) world) :=
  .execute fun world _ change ran => change.update (fun row lease leased => by
    rw [WorkRow.lease_of_unowned (unowned world row)] at leased
    cases leased) ran

theorem onWork_endWork (work_id worker_id : String) (change : String → WorkRow → WorkRow)
    (keeps : ∀ stamp row, (change stamp row).id = row.id) (consume : Bool)
    (unowned : ∀ stamp row, (change stamp row).lease_owner = none) :
    OnWork start (endWork work_id worker_id change keeps consume) := by
  refine .bind (.query _) fun matched =>
    .bind (onWork_update fun world row => unowned world.stamp row) fun _ => ?_
  split
  · exact .bind .rollback fun _ => .fail _
  · exact .bind (onWork_settle _ _) fun _ => .commit

theorem onWork_failWork (work_id : String) (status : WorkStatus) (available error : String) :
    OnWork start (failWork work_id status available error) :=
  .bind (onWork_update fun _ _ => rfl) fun _ => .bind (onWork_settle _ _) fun _ => .commit

theorem onWork_reserve (work : WorkRow) : OnWork start (_reserve_cost work) := by
  refine .bind (.check _) fun units => ?_
  split
  · exact .pure _
  refine .bind (.query _) fun reserved => ?_
  split
  · exact .pure _
  refine .bind (.query _) fun period => .bind (.query _) fun room => ?_
  cases room with
  | none =>
    refine .bind (.execute fun world _ change ran => change.update (fun row lease leased => ?_) ran)
      fun _ => .pure _
    -- An item that lacks a budget does not run.
    rw [WorkRow.lease, WorkRow.budgetBlocked, if_neg (by simp)] at leased
    cases leased
  | some budget =>
    refine .bind (onWork_updateBudget _ _ _) fun _ =>
      .bind (.execute fun world changed change ran => ?_) fun _ => .pure _
    rw [insertReservation] at ran
    split at ran
    · split at ran
      · cases ran
      · cases ran
        exact change.besides rfl rfl
    · cases ran

theorem onWork_claimWork (actor : Actor) (worker_id stamp : String) (ends : Reading) :
    OnWork start (claimWork actor worker_id stamp ends.utc.isoformat) := by
  refine .bind (.beginImmediate _) fun _ => ?_
  split
  · exact .bind .commit fun _ => .pure _
  refine .bind (.query _) fun next => ?_
  cases next with
  | none => exact .bind .commit fun _ => .pure _
  | some row =>
    refine .bind (onWork_reserve row) fun reserved => ?_
    split
    · refine .bind (.execute fun world _ change ran => change.update (fun row lease leased => ?_)
        ran) fun _ => .bind .commit fun _ => .pure _
      -- The lease that is written is the new one.
      rw [WorkRow.lease, WorkRow.leased, if_pos rfl] at leased
      exact .inr ⟨ends, (Option.some.inj (of_leaseOf leased).2.1).symm⟩
    · exact .bind .commit fun _ => .pure _

/-- The transaction of a claim takes the lease of an item that is over at a time that was read. -/
theorem move_claimWork (actor : Actor) (worker_id : String) {reading : Reading}
    (read : reading ∈ known) (ends : Reading) (world : World) :
    LeaseMove known (.claim_work worker_id reading.utc.isoformat) world
      (claimWork actor worker_id reading.utc.isoformat ends.utc.isoformat
        (.closed world)).2.committed known := by
  refine ((onWork_claimWork actor worker_id _ ends).committed (.refl world)).move fun work_id => ?_
  cases touched_claimWork actor worker_id reading.utc.isoformat ends.utc.isoformat work_id world with
  | untouched change => exact .same (congrArg (·.bind (·.lease)) change.item)
  | ended other => exact absurd rfl (other _)
  | @claimed stamp row next claim change =>
    cases claim
    refine .claimed read (.work work_id) (fun lease leased => ?_) fun lease leased => ?_
    rotate_left
    · rw [World.lease, change.after, Option.bind_some] at leased
      rcases change.outcome with ⟨_, rfl⟩ | ⟨_, rfl⟩
      · rw [WorkRow.lease, WorkRow.budgetBlocked, if_neg (by simp)] at leased
        cases leased
      · rw [WorkRow.lease, WorkRow.leased, if_pos rfl] at leased
        exact (Option.some.inj (of_leaseOf leased).1).symm
    -- An item that waits has no lease, and that of one that runs is over.
    rw [World.lease, change.before, Option.bind_some, WorkRow.lease] at leased
    split at leased
    · rename_i running
      obtain ⟨_, hasEnds, _⟩ := of_leaseOf leased
      rcases change.ready with waits | ended
      · rw [WorkRow.waiting, running] at waits
        cases waits
      · rw [WorkRow.expired, running, hasEnds] at ended
        simpa using ended
    · cases leased

omit [Platform] in
/-- The end of the attempt of a worker ends its own lease. -/
theorem change_of_ends {worker_id work_id id : String} {label : Label} {change : WorkRow → WorkRow}
    (ends : EndLabel worker_id (.work work_id) label)
    (ended : Untouched id world changed ∨
      id = work_id ∧ ∃ row, Ended worker_id id world changed row (change row)) :
    LeaseChange known label (.work id) world changed := by
  rcases ended with same | ⟨rfl, row, ended⟩
  · exact .same (congrArg (·.bind (·.lease)) same.item)
  refine .ended ends fun lease leased => ?_
  rw [World.lease, ended.before, Option.bind_some, WorkRow.lease] at leased
  have held := ended.held
  rw [WorkRow.heldBy, Bool.and_eq_true, Bool.and_eq_true, beq_iff_eq, beq_iff_eq,
    beq_iff_eq] at held
  rw [if_pos held.2.1] at leased
  exact Option.some.inj ((of_leaseOf leased).1.symm.trans held.2.2)

theorem move_endWork {worker_id work_id : String} {label : Label}
    (ends : EndLabel worker_id (.work work_id) label) (change : String → WorkRow → WorkRow)
    (keeps : ∀ stamp row, (change stamp row).id = row.id) (consume : Bool)
    (success : consume = true → ∀ stamp row, (change stamp row).status = .SUCCEEDED)
    (unowned : ∀ stamp row, (change stamp row).lease_owner = none) (world : World) :
    LeaseMove known label world
      (endWork work_id worker_id change keeps consume (.closed world)).2.committed known :=
  ((onWork_endWork work_id worker_id change keeps consume unowned).committed (.refl world)).move
    fun id => change_of_ends ends (ends_endWork work_id worker_id id change keeps consume success
      world)

/-- A failure that runs without interruption ends the attempt of its worker. -/
theorem move_fail_work (actor : Actor) (work_id worker_id error : String) (retry_seconds : ℤ)
    (world : World) :
    LeaseMove known (.fail_work work_id worker_id) world
      ((fail_work actor work_id worker_id error retry_seconds).run world).2 known := by
  have still : LeaseMove known (.fail_work work_id worker_id) world world known :=
    (SameLeases.of_logged (.refl world)).move known _
  show Prog.Leaves (fail_work actor work_id worker_id error retry_seconds) world
    (LeaseMove known (.fail_work work_id worker_id) world · known)
  refine Prog.Leaves.read ?_
  dsimp only
  cases found : (world.db.work_queue.find? work_id).filter (·.heldBy work_id worker_id) with
  | none => exact still
  | some row =>
    obtain ⟨there, held⟩ := Option.filter_eq_some_iff.mp found
    refine Prog.Leaves.read ?_
    rw [fromNow]
    cases world.clock.shift (retry_seconds * second) with
    | none => exact still
    | some available =>
      have inTime : FailsInTime (.fail_work work_id worker_id) world := by
        show (world.item work_id).any _ = true
        rw [World.item, there]
        exact held
      have move : ∀ outcome last, ((failWork work_id
          (if row.max_attempts ≤ row.attempts then .DEAD_LETTER else .QUEUED)
          available.utc.isoformat (safe_persisted_text error "Sensitive detail redacted" 500)
          (.closed world)).1, (failWork work_id
          (if row.max_attempts ≤ row.attempts then .DEAD_LETTER else .QUEUED)
          available.utc.isoformat (safe_persisted_text error "Sensitive detail redacted" 500)
          (.closed world)).2.committed) = (outcome, last) →
          LeaseMove known (.fail_work work_id worker_id) world last known := by
        intro outcome last ended
        cases ended
        exact ((onWork_failWork _ _ _ _).committed (.refl world)).move fun id =>
          change_of_ends (.fail_work work_id) (ends_failWork id _ _ _ world inTime)
      refine Prog.Leaves.transact (fun _ changed ended => ?_) fun _ changed ended => move _ _ ended
      refine (move _ _ ended).trans ((SameLeases.of_logged ?_).move known _)
      exact leaves_logged (.refl changed)
        (Prog.Keeps.bind (logging_audit _ _ _ _ _ _ _) fun _ => trivial)

end Work

end SeanOs
