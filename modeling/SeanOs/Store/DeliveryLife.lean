import SeanOs.Sample
import SeanOs.Store.Writes

/-! The life of alert deliveries, as long as no receipt is recorded past the worker that holds a lease. -/

namespace SeanOs

open Atomic Calendar

/-- What holds of a delivery at any time. -/
structure DeliverySound (row : OutboxRow DeliveryColumns) : Prop where
  /-- No delivery is attempted too often. -/
  attempts : row.attempt_count ≤ row.max_attempts
  /-- Only an authorized delivery has a lease. -/
  leased : row.lease_owner ≠ none ∨ row.lease_expires_at ≠ none → row.status = .AUTHORIZED
  /-- An authorized or delivered one names its approval. -/
  approved : row.status = .AUTHORIZED ∨ row.status = .SYNTHETIC_DELIVERED → row.approval_id ≠ none
  /-- A delivered one has a receipt of its own. -/
  proven : row.status = .SYNTHETIC_DELIVERED → ∃ receipt, row.receipt_payload = some receipt ∧
    receipt.text? "delivery_id" = some row.key ∧
    receipt.text? "payload_sha256" = some row.columns.payload_sha256

/-- What holds of a delivery besides: attempts are left to whoever starts the next one. -/
structure DeliveryLive (row : OutboxRow DeliveryColumns) : Prop extends DeliverySound row where
  some_ : 0 < row.max_attempts
  staged : row.status = .STAGED → row.attempt_count = 0
  left : row.status = .AUTHORIZED → row.lease_owner = none → row.attempt_count < row.max_attempts

/-- What holds of all deliveries at any time. -/
structure DeliveriesSound (world : World) : Prop where
  unique : (world.db.alert_delivery_outbox.map (·.key)).Nodup
  rows : ∀ row ∈ world.db.alert_delivery_outbox, DeliveryLive row

/-- Deliveries stay as they should be, and what was delivered stays as it is. -/
def DeliveriesKept (world changed : World) : Prop :=
  DeliveriesSound world → DeliveriesSound changed ∧
    ∀ row ∈ world.db.alert_delivery_outbox, row.status = .SYNTHETIC_DELIVERED →
      row ∈ changed.db.alert_delivery_outbox

namespace DeliveriesKept

variable {world changed last : World}

/-- A change that leaves the deliveries alone. -/
theorem of_rows (same : changed.db.alert_delivery_outbox = world.db.alert_delivery_outbox) :
    DeliveriesKept world changed := by
  intro sound
  refine ⟨⟨?_, ?_⟩, fun row there _ => ?_⟩
  · rw [same]
    exact sound.unique
  · rw [same]
    exact sound.rows
  · rw [same]
    exact there

theorem refl (world : World) : DeliveriesKept world world := of_rows rfl

theorem trans (first : DeliveriesKept world changed) (second : DeliveriesKept changed last) :
    DeliveriesKept world last := by
  intro sound
  obtain ⟨middle, kept⟩ := first sound
  obtain ⟨after, stays⟩ := second middle
  exact ⟨after, fun row there delivered => stays row (kept row there delivered) delivered⟩

theorem of_logged (logged : Logged world changed) : DeliveriesKept world changed :=
  of_rows (logged.same fun _ _ => rfl)

/-- An update keeps deliveries where it takes none that was delivered, and leaves each sound. -/
theorem update {holds : OutboxRow DeliveryColumns → Bool}
    {change : OutboxRow DeliveryColumns → OutboxRow DeliveryColumns}
    (keys : ∀ row, (change row).key = row.key)
    (moves : DeliveriesSound world → ∀ row ∈ world.db.alert_delivery_outbox, holds row = true →
      row.status ≠ .SYNTHETIC_DELIVERED ∧ DeliveryLive (change row)) :
    DeliveriesKept world (alertDeliveryOutbox.update holds change world) := by
  intro sound
  have rows : (alertDeliveryOutbox.update holds change world).db.alert_delivery_outbox =
      world.db.alert_delivery_outbox.map fun row => if holds row then change row else row := rfl
  refine ⟨⟨?_, ?_⟩, fun row there delivered => ?_⟩
  · -- The list of the keys is the one there was before.
    have same : ((fun row : OutboxRow DeliveryColumns => row.key) ∘
        fun row => if holds row then change row else row) = fun row => row.key := by
      funext row
      show (if holds row then change row else row).key = row.key
      split
      · exact keys row
      · rfl
    rw [rows, List.map_map, same]
    exact sound.unique
  · intro next there
    rw [rows] at there
    obtain ⟨row, was, rfl⟩ := List.mem_map.mp there
    split
    next held => exact (moves sound row was held).2
    next => exact sound.rows row was
  · rw [rows]
    refine List.mem_map.mpr ⟨row, there, if_neg fun held => ?_⟩
    exact (moves sound row there held).1 delivered

/-- A staged delivery that is inserted is sound, and every other one stays as it is. -/
theorem insert {row : OutboxRow DeliveryColumns} (staged : row.status = .STAGED)
    (fresh : row.attempt_count = 0) (some_ : 0 < row.max_attempts)
    (owner : row.lease_owner = none) (lease : row.lease_expires_at = none) :
    DeliveriesKept world (insertDelivery row world) := by
  unfold insertDelivery
  dsimp only
  split
  · exact refl world
  next free =>
    intro sound
    have live : DeliveryLive row := by
      refine ⟨⟨?_, ?_, ?_, ?_⟩, some_, fun _ => fresh, ?_⟩
      · rw [fresh]
        exact Nat.zero_le _
      · rw [owner, lease]
        simp
      · rw [staged]
        simp
      · rw [staged]
        simp
      · rw [staged]
        simp
    refine ⟨⟨?_, ?_⟩, fun other there _ => List.mem_append_left _ there⟩
    · rw [List.map_append, List.nodup_append]
      refine ⟨sound.unique, List.nodup_singleton _, ?_⟩
      rintro _ named _ (_ | ⟨_, ⟨⟩⟩)
      obtain ⟨other, there, rfl⟩ := List.mem_map.mp named
      intro same
      refine free (List.any_eq_true.mpr ⟨other, there, ?_⟩)
      rw [same, beq_self_eq_true, Bool.true_or]
    · intro other there
      rcases List.mem_append.mp there with before | new
      · exact sound.rows other before
      · rw [List.mem_singleton.mp new]
        exact live

end DeliveriesKept

/-- Expired requests leave the deliveries alone. -/
theorem rows_expireAll (ids : List String) (world : World) :
    (expireAll ids world).db.alert_delivery_outbox = world.db.alert_delivery_outbox := by
  induction ids generalizing world with
  | nil => rfl
  | cons id ids ih => exact ih (setApproval id .EXPIRED world)

/-- The operations on deliveries outside any lease keep them as they should be. -/
theorem deliveryWrites_kept : DeliveryWrites fun _ => DeliveriesKept where
  logged _ _ _ := .of_logged
  record _ _ := .of_rows rfl
  approval _ _ := .of_rows rfl
  requested _ _ _ _ := .of_rows rfl
  expired ids world := .of_rows (rows_expireAll ids world)
  decided _ _ _ := .of_rows rfl
  staged _ _ staged fresh some_ owner lease := .insert staged fresh some_ owner lease
  reset key stamp world := by
    refine .update (fun _ => rfl) fun sound row there holds => ?_
    have live := sound.rows row there
    rw [Bool.and_eq_true, beq_iff_eq, beq_iff_eq] at holds
    refine ⟨by rw [holds.2]; simp, ⟨⟨Nat.zero_le _, ?_, ?_, ?_⟩, live.some_, fun _ => rfl, ?_⟩⟩
    · exact fun leased => absurd leased (by simp [OutboxRow.unleased])
    · simp
    · simp
    · simp

section Operations

variable [Platform]

/-- The steps of an operation, each of which keeps the deliveries as they should be. -/
abbrev KeptDeliveries {α : Type} (program : Op α) : Prop :=
  Prog.Keeps (fun _ _ => True) (fun _ => DeliveriesKept) program

/-- An authorization takes a delivery that awaits one, which has its attempts left. -/
theorem kept_authorizeRow (values : Authorization) (awaits : values.awaiting = .STAGED)
    (store : Store) (actor : Actor) (use : Consumption) (key : String) (stamp : Option String) :
    KeptDeliveries (authorizeRow alertDeliveryOutbox values store actor use key stamp) := by
  refine Prog.Keeps.transact fun world _ => ?_
  have consumption : ∀ outcome refused, consumeWithin store actor use world = (outcome, refused) →
      refused.db.alert_delivery_outbox = world.db.alert_delivery_outbox ∧
        ∀ consumed, outcome = .ok consumed →
          consumed.db.alert_delivery_outbox = world.db.alert_delivery_outbox := by
    intro outcome refused ran
    rw [consumeWithin] at ran
    split at ran
    · cases ran
      exact ⟨rfl, by nofun⟩
    dsimp only at ran
    split at ran
    next row _ _ =>
      cases ran
      refine ⟨rfl, fun consumed ended => ?_⟩
      cases ended
      cases row.reusable <;> rfl
    next =>
      cases ran
      exact ⟨rfl, by nofun⟩
  cases ran : consumeWithin store actor use world with
  | mk outcome refused =>
    obtain ⟨same, kept⟩ := consumption outcome refused ran
    cases outcome with
    | error error => exact .of_rows same
    | ok consumed =>
      dsimp only
      split
      · refine .trans (.of_rows (kept consumed rfl)) (.trans ?_ (.of_logged (logged_audit ..)))
        refine .update (fun _ => rfl) fun sound row there holds => ?_
        have live := sound.rows row there
        rw [Bool.and_eq_true, beq_iff_eq, beq_iff_eq, awaits] at holds
        have fresh := live.staged holds.2
        refine ⟨by rw [holds.2]; simp, ⟨⟨live.attempts, fun _ => rfl, ?_, ?_⟩, live.some_, ?_, ?_⟩⟩
        · simp
        · simp
        · simp
        · intro _ _
          show row.attempt_count < row.max_attempts
          rw [fresh]
          exact live.some_
      · exact .refl world

omit [Platform] in
/-- A claim fails a delivery that has no attempt left, and starts an attempt that is left. -/
theorem kept_claimRow (worker_id stamp lease : String)
    (inScope : OutboxRow DeliveryColumns → Bool) :
    KeptDeliveries (claimRow alertDeliveryOutbox worker_id stamp lease inScope) := by
  refine Prog.Keeps.transact fun world _ => ?_
  have failing : DeliveriesKept world (alertDeliveryOutbox.update
      (fun row => row.status == .AUTHORIZED && (row.max_attempts ≤ row.attempt_count &&
        (row.released stamp && inScope row))) (fun row =>
      { row.unleased with
        status := .FAILED, last_error := some "Lease expired after maximum attempts"
        updated_at := stamp }) world) := by
    refine .update (fun _ => rfl) fun sound row there holds => ?_
    have live := sound.rows row there
    rw [Bool.and_eq_true, beq_iff_eq] at holds
    refine ⟨by rw [holds.1]; simp, ⟨⟨live.attempts, ?_, ?_, ?_⟩, live.some_, ?_, ?_⟩⟩
    · exact fun leased => absurd leased (by simp [OutboxRow.unleased])
    all_goals simp
  dsimp only
  split
  · exact failing
  next chosen first =>
    refine failing.trans (.update (fun _ => rfl) fun sound row there holds => ?_)
    have live := sound.rows row there
    -- The row with the key of the chosen one is the chosen one.
    have among := List.mem_of_head? first
    rw [(List.perm_insertionSort _ _).mem_iff, List.mem_filter] at among
    simp only [Bool.and_eq_true, beq_iff_eq, decide_eq_true_eq] at holds among
    have same : row = chosen :=
      List.inj_on_of_nodup_map sound.unique there among.1 holds.1
    subst same
    refine ⟨by rw [holds.2.1]; simp, ⟨⟨among.2.2.2.1, ?_, ?_, ?_⟩, live.some_, ?_, ?_⟩⟩
    · exact fun _ => holds.2.1
    · exact fun _ => live.approved (.inl holds.2.1)
    · exact fun delivered => absurd (holds.2.1.symm.trans delivered) (by simp)
    · exact fun staged => absurd (holds.2.1.symm.trans staged) (by simp)
    · simp

omit [Platform] in
/-- A receipt that passes the checks is one of its delivery. -/
theorem receipt_of_checked {delivery_id payload_sha256 : String} {receipt : Json}
    (checked : checkSyntheticReceipt delivery_id payload_sha256 receipt = .ok ()) :
    receipt.text? "delivery_id" = some delivery_id ∧
      receipt.text? "payload_sha256" = some payload_sha256 := by
  rw [checkSyntheticReceipt] at checked
  obtain ⟨_, _, checked⟩ := passed_of_bind checked
  obtain ⟨_, _, checked⟩ := passed_of_bind checked
  -- The last check is the one on the members.
  unfold refuseIf at checked
  split at checked
  · cases checked
  next matched =>
    rw [Bool.or_eq_true, not_or, decide_eq_true_eq, decide_eq_true_eq] at matched
    exact ⟨not_not.mp matched.1, not_not.mp matched.2⟩

omit [Platform] in
/-- An authorized row is delivered with a receipt of its own, where attempts are left to it. -/
theorem live_delivered {row next : OutboxRow DeliveryColumns} {receipt : Json}
    (live : DeliveryLive row) (open_ : row.status = .AUTHORIZED)
    (checked : checkSyntheticReceipt row.key row.columns.payload_sha256 receipt = .ok ())
    (key : next.key = row.key) (columns : next.columns = row.columns)
    (most : next.max_attempts = row.max_attempts) (approval : next.approval_id = row.approval_id)
    (within : next.attempt_count ≤ row.max_attempts) (owner : next.lease_owner = none)
    (lease : next.lease_expires_at = none) (status : next.status = .SYNTHETIC_DELIVERED)
    (stored : next.receipt_payload = some receipt.sorted) : DeliveryLive next := by
  obtain ⟨named, hashed⟩ := receipt_of_checked checked
  refine ⟨⟨?_, ?_, ?_, ?_⟩, ?_, ?_, ?_⟩
  · rw [most]
    exact within
  · rw [owner, lease]
    simp
  · rw [approval]
    exact fun _ => live.approved (.inl open_)
  · rw [key, columns]
    exact fun _ => ⟨_, stored, (Json.text?_sorted _ _).trans named,
      (Json.text?_sorted _ _).trans hashed⟩
  · rw [most]
    exact live.some_
  all_goals simp [status]

omit [Platform] in
/-- Where the keys are unique, a row under a key is the one that is found. -/
theorem delivery_unique {world : World} (sound : DeliveriesSound world)
    {row found : OutboxRow DeliveryColumns} (there : row ∈ world.db.alert_delivery_outbox)
    (read : alertDeliveryOutbox.find? row.key world.db = some found) : row = found :=
  List.inj_on_of_nodup_map sound.unique there (List.mem_of_find?_eq_some read)
    (OutboxTable.key_of_find? read).symm

/-- A failure, run alone, ends the attempt of an authorized row. -/
theorem kept_fail (store : Store) (actor : Actor) (delivery_id worker_id error : String)
    (retry_seconds : ℤ) (world : World) : DeliveriesKept world
      ((fail_claimed_alert_delivery store actor delivery_id worker_id error retry_seconds).run
        world).2 := by
  rcases run_failClaimed _ store actor delivery_id worker_id error retry_seconds world with
    logged | ⟨held, there, own, available, stamp, logged⟩
  · exact .of_logged logged
  refine .trans ?_ (.of_logged logged)
  refine .update (fun _ => rfl) fun sound row among named => ?_
  rw [OutboxRow.heldBy, Bool.and_eq_true, Bool.and_eq_true, beq_iff_eq, beq_iff_eq] at own
  -- The row that is written is the one that was found to be held.
  have same : row = held := List.inj_on_of_nodup_map sound.unique among there
    ((beq_iff_eq.mp named).trans own.1.symm)
  subst same
  have live := sound.rows row among
  refine ⟨by rw [own.2.1]; simp, ⟨⟨live.attempts, ?_, ?_, ?_⟩, live.some_, ?_, ?_⟩⟩
  · exact fun leased => absurd leased (by simp [OutboxRow.unleased])
  · exact fun _ => live.approved (.inl own.2.1)
  · show (if row.max_attempts ≤ row.attempt_count then _ else _) = _ → _
    split <;> simp
  · show (if row.max_attempts ≤ row.attempt_count then _ else _) = _ → _
    split <;> simp
  · show (if row.max_attempts ≤ row.attempt_count then _ else _) = _ → _
    split
    · simp
    next below => exact fun _ _ => not_le.mp below

/-- A completion, run alone, delivers the authorized row of its worker. -/
theorem kept_complete (store : Store) (actor : Actor) (delivery_id worker_id : String)
    (receipt : Json) (world : World) : DeliveriesKept world
      ((complete_claimed_synthetic_alert_delivery store actor delivery_id worker_id receipt).run
        world).2 := by
  rcases run_complete_claimed_synthetic store actor delivery_id worker_id receipt world with
    logged | ⟨found, read, checked, stamp, finished_at, logged⟩
  · exact .of_logged logged
  refine .trans ?_ (.of_logged logged)
  refine .update (fun _ => rfl) fun sound row among held => ?_
  rw [OutboxRow.heldBy, Bool.and_eq_true, Bool.and_eq_true, beq_iff_eq, beq_iff_eq] at held
  obtain ⟨rfl, open_, _⟩ := held
  have same : row = found := delivery_unique sound among read
  subst same
  have live := sound.rows row among
  exact ⟨by rw [open_]; simp, live_delivered live open_ checked rfl rfl rfl rfl live.attempts
    rfl rfl rfl rfl⟩

/--
A receipt that would be recorded past the workers finds no lease on its delivery.

Where the actor or the receipt is refused, the lease does not matter.
-/
def NoLeaseToPass (store : Store) (actor : Actor) (delivery_id : String) (receipt : Json)
    (world : World) : Prop :=
  ∀ row, alertDeliveryOutbox.find? delivery_id world.db = some row → row.status = .AUTHORIZED →
    _authorize store actor row.owner_scope.text [] "write" = .ok () →
      checkSyntheticReceipt delivery_id row.columns.payload_sha256 receipt = .ok () →
        row.lease_owner = none ∧ row.lease_expires_at = none

/-- A receipt that passes no lease, recorded alone, takes an attempt that is left. -/
theorem kept_record (store : Store) (actor : Actor) (delivery_id : String) (receipt : Json)
    {world : World} (free : NoLeaseToPass store actor delivery_id receipt world) :
    DeliveriesKept world
      ((record_synthetic_alert_delivery store actor delivery_id receipt).run world).2 := by
  rcases run_record_synthetic store actor delivery_id receipt world with
    logged | ⟨found, read, open_, allowed, checked, stamp, logged⟩
  · exact .of_logged logged
  obtain ⟨owner, lease⟩ := free found read open_ allowed checked
  refine .trans ?_ (.of_logged logged)
  refine .update (fun _ => rfl) fun sound row among named => ?_
  rw [Bool.and_eq_true, beq_iff_eq, beq_iff_eq] at named
  obtain ⟨rfl, _⟩ := named
  have same : row = found := delivery_unique sound among read
  subst same
  have live := sound.rows row among
  exact ⟨by rw [open_]; simp, live_delivered live open_ checked rfl rfl rfl rfl
    (live.left open_ owner) owner lease rfl rfl⟩

/-- An operation on alert deliveries, or on the approvals they need. -/
inductive DeliveryCall where
  | stage_alert_delivery (store : Store) (actor : Actor) (plan_id : String)
  | request_alert_delivery_approval (store : Store) (actor : Actor)
      (delivery_id max_impact expires_at : String)
  | create_approval (store : Store) (actor : Actor)
      (action_type target scope max_impact approver expires_at : String)
      (conditions : Option (List (String × Json))) (reusable : Bool)
  | request_approval (store : Store) (actor : Actor)
      (action_type target scope max_impact expires_at : String)
      (conditions : Option (List (String × Json)))
  | decide_approval (store : Store) (actor : Actor) (approval_id : String) (approve : Bool)
      (reason : String)
  | consume_approval (store : Store) (actor : Actor) (use : Consumption)
  | authorize_alert_delivery (store : Store) (actor : Actor) (delivery_id approval_id : String)
  | claim_authorized_alert_delivery (store : Store) (actor : Actor) (worker_id : String)
      (lease_seconds : ℤ)
  | complete_claimed_synthetic_alert_delivery (store : Store) (actor : Actor)
      (delivery_id worker_id : String) (receipt : Json)
  | record_synthetic_alert_delivery (store : Store) (actor : Actor) (delivery_id : String)
      (receipt : Json)
  | fail_claimed_alert_delivery (store : Store) (actor : Actor)
      (delivery_id worker_id error : String) (retry_seconds : ℤ)
  | reset_failed_alert_delivery (store : Store) (actor : Actor) (delivery_id reason : String)

/-- The program of an operation. -/
def DeliveryCall.op : DeliveryCall → Op Unit
  | stage_alert_delivery store actor plan_id =>
    (SeanOs.stage_alert_delivery store actor plan_id).call
  | request_alert_delivery_approval store actor delivery_id max_impact expires_at =>
    (SeanOs.request_alert_delivery_approval store actor delivery_id max_impact expires_at).call
  | create_approval store actor action_type target scope max_impact approver expires_at conditions
      reusable =>
    (SeanOs.create_approval store actor action_type target scope max_impact approver expires_at
      conditions reusable).call
  | request_approval store actor action_type target scope max_impact expires_at conditions =>
    (SeanOs.request_approval store actor action_type target scope max_impact expires_at
      conditions).call
  | decide_approval store actor approval_id approve reason =>
    (SeanOs.decide_approval store actor approval_id approve reason).call
  | consume_approval store actor use => (SeanOs.consume_approval store actor use).call
  | authorize_alert_delivery store actor delivery_id approval_id =>
    (SeanOs.authorize_alert_delivery store actor delivery_id approval_id).call
  | claim_authorized_alert_delivery store actor worker_id lease_seconds =>
    (SeanOs.claim_authorized_alert_delivery store actor worker_id lease_seconds).call
  | complete_claimed_synthetic_alert_delivery store actor delivery_id worker_id receipt =>
    (SeanOs.complete_claimed_synthetic_alert_delivery store actor delivery_id worker_id
      receipt).call
  | record_synthetic_alert_delivery store actor delivery_id receipt =>
    (SeanOs.record_synthetic_alert_delivery store actor delivery_id receipt).call
  | fail_claimed_alert_delivery store actor delivery_id worker_id error retry_seconds =>
    (SeanOs.fail_claimed_alert_delivery store actor delivery_id worker_id error
      retry_seconds).call
  | reset_failed_alert_delivery store actor delivery_id reason =>
    (SeanOs.reset_failed_alert_delivery store actor delivery_id reason).call

/-- No receipt is recorded past the worker that holds the lease of its delivery. -/
def PassesNoLease : DeliveryCall → World → Prop
  | .record_synthetic_alert_delivery store actor delivery_id receipt =>
    NoLeaseToPass store actor delivery_id receipt
  | _ => fun _ => True

/-- One operation on deliveries that is run alone, or something that leaves all of them alone. -/
inductive DeliveryStep (allowed : DeliveryCall → World → Prop) (world : World) : World → Prop
  | call (call : DeliveryCall) (permitted : allowed call world) :
      DeliveryStep allowed world (call.op.run world).2
  /-- Time passes, workers stop, and other operations leave the deliveries alone. -/
  | elsewhere {changed : World}
      (same : changed.db.alert_delivery_outbox = world.db.alert_delivery_outbox) :
      DeliveryStep allowed world changed

/-- A run of such steps. -/
abbrev DeliveryRun (allowed : DeliveryCall → World → Prop) : World → World → Prop :=
  Relation.ReflTransGen (DeliveryStep allowed)

/-- Every operation that is allowed keeps deliveries as they should be. -/
theorem DeliveryCall.kept {world : World} (call : DeliveryCall)
    (permitted : PassesNoLease call world) : DeliveriesKept world (call.op.run world).2 := by
  have kept {program : Op Unit} (keeps : KeptDeliveries program) :
      DeliveriesKept world (program.run world).2 :=
    Prog.Keeps.run .refl (fun _ _ _ => .trans) keeps world
  have writes := deliveryWrites_kept
  cases call with
  | stage_alert_delivery => exact kept (keeps_stage_alert_delivery writes _ _ _).call
  | request_alert_delivery_approval =>
    exact kept (keeps_request_alert_delivery_approval writes _ _ _ _ _).call
  | create_approval => exact kept (keeps_create_approval writes.toApprovalWrites ..).call
  | request_approval => exact kept (keeps_requestApproval writes.toApprovalWrites writes.approval ..).call
  | decide_approval => exact kept (keeps_decide_approval writes.toApprovalWrites ..).call
  | consume_approval =>
    refine kept (keeps_consume_approval writes.toApprovalWrites _ _ _ fun reusable world => ?_).call
    cases reusable <;> exact .of_rows rfl
  | authorize_alert_delivery =>
    exact kept (keeps_authorize_alert_delivery writes _ _ _ _
      fun values _ awaits => kept_authorizeRow values awaits _ _ _ _ _).call
  | claim_authorized_alert_delivery =>
    exact kept (keeps_claim_authorized_alert_delivery writes _ _ _ _
      fun _ _ _ => kept_claimRow _ _ _ _).call
  | complete_claimed_synthetic_alert_delivery store actor delivery_id worker_id receipt =>
    rw [DeliveryCall.op, Prog.run_call]
    exact kept_complete store actor delivery_id worker_id receipt world
  | record_synthetic_alert_delivery store actor delivery_id receipt =>
    rw [DeliveryCall.op, Prog.run_call]
    exact kept_record store actor delivery_id receipt permitted
  | fail_claimed_alert_delivery store actor delivery_id worker_id error retry_seconds =>
    rw [DeliveryCall.op, Prog.run_call]
    exact kept_fail store actor delivery_id worker_id error retry_seconds world
  | reset_failed_alert_delivery => exact kept (keeps_reset_failed_alert_delivery writes _ _ _ _).call

/-- Deliveries stay as they should be in every run of allowed operations. -/
theorem DeliveryRun.kept {start world : World} (run : DeliveryRun PassesNoLease start world) :
    DeliveriesKept start world := by
  induction run with
  | refl => exact .refl start
  | tail _ stepped ih =>
    refine ih.trans ?_
    cases stepped with
    | call call permitted => exact call.kept permitted
    | elsewhere same => exact .of_rows same

/--
Deliveries keep to their life in every run of operations one at a time from a database without
any, as long as no receipt is recorded past a worker with a lease; and what was delivered stays.
-/
theorem delivery_life {start world : World} (fresh : start.db.alert_delivery_outbox = [])
    (run : DeliveryRun PassesNoLease start world) :
    (∀ row ∈ world.db.alert_delivery_outbox, DeliverySound row) ∧
      ∀ last, DeliveryRun PassesNoLease world last → ∀ row ∈ world.db.alert_delivery_outbox,
        row.status = .SYNTHETIC_DELIVERED →
          alertDeliveryOutbox.find? row.key last.db = some row := by
  have nothing : DeliveriesSound start := by
    refine ⟨?_, ?_⟩ <;> rw [fresh]
    · exact List.nodup_nil
    · exact fun _ none_ => nomatch none_
  have sound := (run.kept nothing).1
  refine ⟨fun row there => (sound.rows row there).toDeliverySound, fun last later row there
    delivered => ?_⟩
  obtain ⟨after, stays⟩ := later.kept sound
  have still := stays row there delivered
  -- Where the keys are unique the row is found under its own.
  cases found : alertDeliveryOutbox.find? row.key last.db with
  | none => exact absurd (List.find?_eq_none.mp found row still) (by simp)
  | some other => rw [delivery_unique after still found]

end Operations

namespace Sample

/-- The alert that no worker is active. -/
def alert : Json Wide :=
  .obj [("code", .str "NO_ACTIVE_WORKER"), ("severity", .str "CRITICAL"), ("summary", .str "none")]

/-- The digest of the incident of the alert. -/
def incident_id : String := "924840306e3197144f8333b335dc27b358fa34415b067d1bd99ff27eff096b74"

/-- The digest of the first delivery of that incident. -/
def delivery_id : String := "d0f2f055de28dd95d9d56636a150f96be3ecc7594c87fed096247ac8f9f6872c"

/-- The digest of the plan to deliver the alert. -/
def plan_id : String := "56553f5b29ad5a3f53a958f948dd05c8d64546224e327cc54efb3ba4e23e7af5"

/-- The digest of the alert. -/
def payload_sha256 : String := "26ec34fc925ad8aca2234687417284b3fa0d49ea8f126dcd860821241198a943"

/-- The digests that are asked for when the delivery is staged. -/
def digests : List (String × String) := [
  ("\x7b\"alert_code\":\"NO_ACTIVE_WORKER\",\"owner_scope\":\"IAC\",\"route_id\":\"iac-operator\"\x7d",
    incident_id),
  ("\x7b\"incident_id\":\"924840306e3197144f8333b335dc27b358fa34415b067d1bd99ff27eff096b74\"," ++
    "\"reopen_generation\":0\x7d", delivery_id),
  ("\x7b\"code\":\"NO_ACTIVE_WORKER\",\"severity\":\"CRITICAL\",\"summary\":\"none\"\x7d",
    payload_sha256)]

/-- A world in which the alert was observed. -/
def observed : World := world { Database.empty with
  alert_observations := [{
    plan_id := plan_id, owner_scope := .IAC, route_id := "iac-operator"
    plan_payload := Json.sorted (.obj [("schema_version", .int 1), ("plan_id", .str plan_id),
      ("status", .str "PLANNED"), ("delivery_authorized", .bool false),
      ("approval_required", .bool true), ("approval_action_type", .str "DELIVER_ALERT"),
      ("action_target", .str "iac-operator"), ("owner_scope", .str "IAC"),
      ("route", .obj [("route_id", .str "iac-operator"), ("destination_kind", .str "EMAIL"),
        ("destination_ref", .str "iac-ops-alias")]), ("alert", alert)])
    first_seen_at := "2029-12-31T00:00:00+00:00", last_seen_at := "2029-12-31T00:00:00+00:00"
    occurrence_count := 1 }]
  alert_incidents := [{
    incident_id := incident_id, owner_scope := .IAC, route_id := "iac-operator"
    alert_code := "NO_ACTIVE_WORKER", severity := "CRITICAL", current_summary := "none"
    resolved := false, first_seen_at := "2029-12-31T00:00:00+00:00"
    last_seen_at := "2029-12-31T00:00:00+00:00", occurrence_count := 1, reopen_count := 0
    resolved_at := none, resolved_by := none, resolution_reason := none }] }

/-- The receipt of the synthetic adapter for that delivery. -/
def syntheticReceipt : Json :=
  .obj [("mode", .str "SYNTHETIC"), ("network_used", .bool false), ("external_effect", .bool false),
    ("delivery_id", .str delivery_id), ("payload_sha256", .str payload_sha256),
    ("delivered_at", .str "2030-01-01T00:00:00+00:00")]

end Sample

section Examples

open Sample

local instance deliveryLifePlatform : Platform := platform digests

/-- The delivery is staged, approved and authorized. -/
def Sample.authorization : List DeliveryCall := [
  .stage_alert_delivery ⟨.IAC⟩ worker plan_id,
  .create_approval ⟨.IAC⟩ .sean "DELIVER_ALERT" delivery_id "IAC" "one synthetic delivery" "sean"
    "2099-01-01T00:00:00+00:00" none false,
  .authorize_alert_delivery ⟨.IAC⟩ .sean delivery_id "00000000-0000-4000-8000-000000000002"]

/-- Some operations one after another. -/
def Sample.after (calls : List DeliveryCall) (world : World) : World :=
  calls.foldl (fun world call => (call.op.run world).2) world

/-- Some operations one after another are a run, where each of them is allowed. -/
theorem Sample.run_after {allowed : DeliveryCall → World → Prop} (calls : List DeliveryCall)
    {start world : World} (run : DeliveryRun allowed start world)
    (permitted : ∀ call ∈ calls, ∀ world, allowed call world) :
    DeliveryRun allowed start (after calls world) := by
  -- The induction appends one operation after another to the run.
  induction calls generalizing world with
  | nil => exact run
  | cons call calls ih =>
    exact ih (run.tail (.call call (permitted call (.head _) world)))
      fun call there => permitted call (.tail _ there)

/-- The alert is observed in a database without rows. -/
theorem Sample.run_observed {allowed : DeliveryCall → World → Prop} :
    DeliveryRun allowed (world .empty) observed := .single (.elsewhere rfl)

/-- The delivery is leased by a worker, and then its receipt is recorded past it. -/
def Sample.pastTheWorker : List DeliveryCall := [
  .claim_authorized_alert_delivery ⟨.IAC⟩ worker "worker" 60,
  .record_synthetic_alert_delivery ⟨.IAC⟩ worker delivery_id syntheticReceipt]

/-- The receipt is recorded where no worker has a lease. -/
def Sample.direct : DeliveryCall :=
  .record_synthetic_alert_delivery ⟨.IAC⟩ worker delivery_id syntheticReceipt

/-- The authorized delivery has no lease and is delivered, and keeps a lease that is not asked for. -/
theorem Sample.leases_authorized :
    ((after [direct] (after authorization observed)).db.alert_delivery_outbox.map (·.status)) =
      [.SYNTHETIC_DELIVERED] ∧
    ((alertDeliveryOutbox.find? delivery_id (after authorization observed).db).all
      fun row => row.lease_owner.isNone && row.lease_expires_at.isNone) = true ∧
    ((after pastTheWorker (after authorization observed)).db.alert_delivery_outbox.any
      fun row => row.status == .SYNTHETIC_DELIVERED && row.lease_owner.isSome) = true := by
  decide +kernel

/-- A delivery that no worker has leased is delivered by a receipt, with an attempt of its three. -/
theorem delivery_life_unleased :
    ((after [direct] (after authorization observed)).db.alert_delivery_outbox.map (·.status)) =
      [.SYNTHETIC_DELIVERED] ∧
    ∀ row ∈ (after [direct] (after authorization observed)).db.alert_delivery_outbox,
      DeliverySound row := by
  have authorized : DeliveryRun PassesNoLease (world .empty) (after authorization observed) := by
    refine run_after authorization run_observed fun call there _ => ?_
    simp only [authorization, List.mem_cons, List.not_mem_nil, or_false] at there
    rcases there with rfl | rfl | rfl <;> exact trivial
  refine ⟨leases_authorized.1,
    (delivery_life rfl (authorized.tail (.call direct fun row found _ _ _ => ?_))).1⟩
  have free := leases_authorized.2.1
  rw [found, Option.all_some, Bool.and_eq_true, Option.isNone_iff_eq_none,
    Option.isNone_iff_eq_none] at free
  exact free

/-- A delivery whose receipt is recorded past the worker that leased it keeps the lease. -/
theorem delivery_life_leased :
    ∃ world, DeliveryRun (fun _ _ => True) (Sample.world .empty) world ∧
      ¬∀ row ∈ world.db.alert_delivery_outbox, DeliverySound row := by
  refine ⟨_, run_after pastTheWorker (run_after authorization run_observed fun _ _ _ => trivial)
    fun _ _ _ => trivial, fun sound => ?_⟩
  obtain ⟨row, there, both⟩ := List.any_eq_true.mp leases_authorized.2.2
  rw [Bool.and_eq_true, beq_iff_eq] at both
  -- A lease is left on a row that is not authorized any more.
  have open_ := (sound row there).leased (.inl fun none_ => by simp [none_] at both)
  rw [both.1] at open_
  cases open_

end Examples

end SeanOs
