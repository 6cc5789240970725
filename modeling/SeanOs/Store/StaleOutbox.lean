import SeanOs.Lib.IsoOrder
import SeanOs.Sample
import SeanOs.Store.AlertDeliveries
import SeanOs.Store.BackupRestores

/-! Outbox workers whose lease is over leave every row alone, as long as no failure is written too late. -/

namespace SeanOs

open Atomic Calendar

namespace Outbox

/-- The columns only one outbox has. -/
abbrev Columns : Outbox → Type
  | .backup_transfer => TransferColumns
  | .backup_restore => RestoreColumns
  | .alert_delivery => DeliveryColumns

/-- Where each outbox is kept. -/
def table : (outbox : Outbox) → OutboxTable outbox.Columns
  | .backup_transfer => backupTransferOutbox
  | .backup_restore => backupRestoreOutbox
  | .alert_delivery => alertDeliveryOutbox

theorem name_table (outbox : Outbox) : outbox.table.name = outbox := by cases outbox <;> rfl

/-- The rows of one outbox do not depend on those of another one. -/
theorem rows_put_other {one two : Outbox} (apart : one ≠ two)
    (items : List (OutboxRow two.Columns)) (db : Database) :
    one.table.rows (two.table.put items db) = one.table.rows db := by
  cases one <;> cases two <;> first | rfl | exact absurd rfl apart

end Outbox

/-- A row of an outbox. -/
def World.row (outbox : Outbox) (key : String) (world : World) :
    Option (OutboxRow outbox.Columns) :=
  outbox.table.find? key world.db

/-- The states a row of an outbox does not leave. -/
def OutboxStatus.final : OutboxStatus → Bool
  | .COMPLETED | .RESTORED | .SYNTHETIC_DELIVERED | .RECONCILIATION_REQUIRED => true
  | _ => false

/-- The states a row of an outbox awaits its approval in. -/
def OutboxStatus.awaiting (status : OutboxStatus) : Bool :=
  status == .STAGED || status == .PREFLIGHT_VALIDATED

/-- What awaits its approval is not final. -/
theorem OutboxStatus.open_of_awaiting {status : OutboxStatus} (waits : status.awaiting = true) :
    status.final = false := by
  cases status with
  | STAGED | PREFLIGHT_VALIDATED | AUTHORIZED | FAILED => rfl
  | COMPLETED | RESTORED | SYNTHETIC_DELIVERED | RECONCILIATION_REQUIRED => cases waits

/-- Whether the end of a lease has come at a time, as instants. -/
def OutboxRow.endedAt {Columns : Type} (stamp : String) (row : OutboxRow Columns) : Bool :=
  match row.lease_expires_at.bind fromisoformat, fromisoformat stamp with
  | some expires, some moment => expires.instant ≤ moment.instant
  | _, _ => false

/-- What holds of the outboxes at any time: keys are unique, and two of them write leases in UTC. -/
structure OutboxesSound (world : World) : Prop where
  unique : ∀ outbox : Outbox, ((outbox.table.rows world.db).map (·.key)).Nodup
  leases : ∀ outbox : Outbox, outbox ≠ .backup_restore → ∀ row ∈ outbox.table.rows world.db,
    ∀ text, row.lease_expires_at = some text → ∃ reading : Reading, text = reading.utc.isoformat

/-- What a step of a call of a worker may do to one row of an outbox. -/
inductive RowMove (worker_id : String) (label : Label) (outbox : Outbox) (key : String)
    (row next : OutboxRow outbox.Columns) : Prop
  /-- A row that awaits its approval is authorized. -/
  | authorized (writes : label = .authorize outbox key) (waits : row.status.awaiting = true)
  /-- An authorized row whose lease is over is leased or failed. -/
  | claimed {stamp : String} (writes : label = .claim outbox worker_id stamp)
      (open_ : row.status = .AUTHORIZED) (free : row.lease_owner = none ∨ row.endedAt stamp = true)
  /-- The attempt of the worker that holds the lease is ended. -/
  | ended (held : row.heldBy key worker_id = true)
  /-- A failed row is staged again. -/
  | reset (writes : label = .outbox) (failed : row.status = .FAILED) (staged : next.status = .STAGED)

/-- Every row of an outbox is left alone, or moved as a step may. -/
def RowsMove (worker_id : String) (label : Label) (world changed : World) : Prop :=
  ∀ (outbox : Outbox) (key : String), changed.row outbox key = world.row outbox key ∨
    ∃ row next, world.row outbox key = some row ∧ changed.row outbox key = some next ∧
      RowMove worker_id label outbox key row next

/-- What a step of a call of a worker does to the outboxes, if they are as they should be. -/
def OutboxStep (worker_id : String) (label : Label) (world changed : World) : Prop :=
  OutboxesSound world → OutboxesSound changed ∧ RowsMove worker_id label world changed

/-- A change that leaves the three tables alone. -/
def SameRows (world changed : World) : Prop :=
  ∀ outbox : Outbox, outbox.table.rows changed.db = outbox.table.rows world.db

/--
A failure is written while its worker holds the lease, and a lease that is over as text is over.

The second is asked for where a restore is claimed, whose leases are not written in UTC.
-/
def OutboxInTime : Label → World → Prop
  | .fail outbox key worker_id, world =>
    (world.row outbox key).any (·.heldBy key worker_id) = true
  | .claim .backup_restore _ stamp, world =>
    ∀ row ∈ world.db.backup_restore_outbox, row.status = .AUTHORIZED →
      row.lease_owner ≠ none → row.lease_expires_at.any (· ≤ stamp) = true →
        row.endedAt stamp = true
  | _, _ => True

instance : (label : Label) → (world : World) → Decidable (OutboxInTime label world)
  | .fail _ _ _, _ => inferInstanceAs (Decidable (_ = true))
  | .claim .backup_restore _ stamp, world =>
    inferInstanceAs (Decidable (∀ row ∈ world.db.backup_restore_outbox, row.status = .AUTHORIZED →
      row.lease_owner ≠ none → row.lease_expires_at.any (· ≤ stamp) = true →
        row.endedAt stamp = true))
  | .claim .backup_transfer _ _, _ | .claim .alert_delivery _ _, _ => .isTrue trivial
  | .clock, _ | .draw, _ | .select, _ | .kill_switch, _ | .audit, _ | .records, _
  | .pending _ _, _ | .request _ _, _ | .alerts, _
  | .consume _, _ | .authorize _ _, _ | .complete _ _ _, _ | .hold _ _ _, _ | .outbox, _
  | .claim_work _ _, _ | .complete_work _ _, _ | .fail_work _ _, _ | .block_work _ _, _
  | .work, _ | .replay _, _ | .receipt _, _ | .submit _ _, _ | .coding_request _ _ _, _
  | .dispatch _ _, _ | .report_lookup _ _ _, _ | .report_section _, _ | .report_record _ _ _, _
  | .report _ _ _, _ | .file _, _ | .external _, _ => .isTrue trivial

section Rows

variable {worker_id : String} {label : Label} {world changed : World}

theorem OutboxStep.refl (worker_id : String) (label : Label) (world : World) :
    OutboxStep worker_id label world world := fun sound => ⟨sound, fun _ _ => .inl rfl⟩

theorem SameRows.row (same : SameRows world changed) (outbox : Outbox) (key : String) :
    changed.row outbox key = world.row outbox key := by
  rw [World.row, OutboxTable.find?, same]
  rfl

theorem SameRows.sound (same : SameRows world changed) (sound : OutboxesSound world) :
    OutboxesSound changed := by
  constructor
  · intro outbox
    rw [same]
    exact sound.unique outbox
  · intro outbox other
    rw [same]
    exact sound.leases outbox other

/-- What leaves the three tables alone is a step any worker may take. -/
theorem OutboxStep.of_rows (same : SameRows world changed) :
    OutboxStep worker_id label world changed := fun sound =>
  ⟨same.sound sound, fun outbox key => .inl (same.row outbox key)⟩

/-- What leaves the three tables alone may come before and after such a step. -/
theorem OutboxStep.between {middle last : World} (before : SameRows world middle)
    (step : OutboxStep worker_id label middle changed) (after : SameRows changed last) :
    OutboxStep worker_id label world last := by
  intro sound
  obtain ⟨kept, moved⟩ := step (before.sound sound)
  refine ⟨after.sound kept, fun outbox key => ?_⟩
  rw [after.row, ← before.row]
  exact moved outbox key

/-- The row that is found under a key is one of the rows. -/
theorem mem_of_row {outbox : Outbox} {key : String} {row : OutboxRow outbox.Columns}
    (found : world.row outbox key = some row) : row ∈ outbox.table.rows world.db :=
  List.mem_of_find?_eq_some found

/-- Where the keys are unique every row is found under its own. -/
theorem row_of_mem (sound : OutboxesSound world) {outbox : Outbox}
    {row : OutboxRow outbox.Columns} (there : row ∈ outbox.table.rows world.db) :
    world.row outbox row.key = some row := by
  -- Some row is found under the key, and it cannot be another one.
  cases found : world.row outbox row.key with
  | none => exact absurd (List.find?_eq_none.mp found row there) (by simp)
  | some other =>
    have named : other.key = row.key := OutboxTable.key_of_find? found
    rw [List.inj_on_of_nodup_map (sound.unique outbox) (mem_of_row found) there named]

variable (place : Outbox) {holds : OutboxRow place.Columns → Bool}
  {change : OutboxRow place.Columns → OutboxRow place.Columns}

/-- An update of one outbox leaves the rows of the others alone. -/
theorem rows_update_other {outbox : Outbox} (apart : outbox ≠ place) (world : World) :
    outbox.table.rows (place.table.update holds change world).db = outbox.table.rows world.db :=
  Outbox.rows_put_other apart _ _

/-- An update that keeps the keys changes the row under a key where it meets the condition. -/
theorem row_update (holds : OutboxRow place.Columns → Bool)
    (change : OutboxRow place.Columns → OutboxRow place.Columns)
    (keeps : ∀ row, (change row).key = row.key) (key : String) (world : World) :
    (place.table.update holds change world).row place key =
      (world.row place key).map fun row => if holds row then change row else row :=
  OutboxTable.find?_update keeps key world

/-- An update that keeps the keys and writes leases in UTC keeps the outboxes as they should be. -/
theorem OutboxesSound.update (sound : OutboxesSound world)
    (keeps : ∀ row, (change row).key = row.key)
    (leases : place ≠ .backup_restore → ∀ row text, (change row).lease_expires_at = some text →
      row.lease_expires_at = some text ∨ ∃ reading : Reading, text = reading.utc.isoformat) :
    OutboxesSound (place.table.update holds change world) := by
  have rows : place.table.rows (place.table.update holds change world).db =
      (place.table.rows world.db).map fun row => if holds row then change row else row :=
    place.table.rows_put _ _
  constructor
  · intro outbox
    by_cases same : outbox = place
    · subst same
      -- The list of the keys is the one there was before.
      have keys : ((fun row : OutboxRow outbox.Columns => row.key) ∘
          fun row => if holds row then change row else row) = fun row => row.key := by
        funext row
        show (if holds row then change row else row).key = row.key
        split
        · exact keeps row
        · rfl
      rw [rows, List.map_map, keys]
      exact sound.unique outbox
    · rw [rows_update_other place same]
      exact sound.unique outbox
  · intro outbox other row there text written
    by_cases same : outbox = place
    · subst same
      rw [rows] at there
      obtain ⟨before, was, rfl⟩ := List.mem_map.mp there
      split at written
      · rcases leases other before text written with kept | utc
        · exact sound.leases outbox other before was text kept
        · exact utc
      · exact sound.leases outbox other before was text written
    · rw [rows_update_other place same] at there
      exact sound.leases outbox other row there text written

/-- An update is a step a worker may take when it may move every row it changes. -/
theorem OutboxStep.update (keeps : ∀ row, (change row).key = row.key)
    (leases : place ≠ .backup_restore → ∀ row text, (change row).lease_expires_at = some text →
      row.lease_expires_at = some text ∨ ∃ reading : Reading, text = reading.utc.isoformat)
    (moves : ∀ row, world.row place row.key = some row → holds row = true →
      RowMove worker_id label place row.key row (change row)) :
    OutboxStep worker_id label world (place.table.update holds change world) := by
  intro sound
  refine ⟨sound.update place keeps leases, fun outbox key => ?_⟩
  by_cases same : outbox = place
  · subst same
    have after := row_update outbox holds change keeps key world
    cases found : world.row outbox key with
    | none => exact .inl (by rw [after, found]; rfl)
    | some row =>
      have named : row.key = key := OutboxTable.key_of_find? found
      rw [found, Option.map_some] at after
      cases holds_ : holds row with
      | false =>
        rw [holds_] at after
        exact .inl after
      | true =>
        rw [holds_] at after
        subst named
        exact .inr ⟨row, change row, rfl, after, moves row found holds_⟩
  · refine .inl ?_
    rw [World.row, OutboxTable.find?, rows_update_other place same]
    rfl

/-- An update that ends the leases is a step when the worker may move every row it changes. -/
theorem OutboxStep.clear (keeps : ∀ row, (change row).key = row.key)
    (clears : ∀ row, (change row).lease_expires_at = none)
    (moves : ∀ row, world.row place row.key = some row → holds row = true →
      RowMove worker_id label place row.key row (change row)) :
    OutboxStep worker_id label world (place.table.update holds change world) := by
  refine .update place keeps (fun _ row text written => ?_) moves
  -- No lease is written, so there is none that would have to be in UTC.
  rw [clears] at written
  cases written

/-- What a claim may make of a row it may make anything of. -/
theorem RowMove.claim_any {outbox : Outbox} {key claimer stamp : String}
    {row next other : OutboxRow outbox.Columns}
    (move : RowMove worker_id (.claim place claimer stamp) outbox key row next) :
    RowMove worker_id (.claim place claimer stamp) outbox key row other := by
  cases move with
  | authorized writes => cases writes
  | claimed writes open_ free => exact .claimed writes open_ free
  | ended held => exact .ended held
  | reset writes => cases writes

/-- A claim may update a row after other changes when it may move the row that was there before. -/
theorem OutboxStep.then_update {claimer stamp : String} {middle : World}
    (step : OutboxStep worker_id (.claim place claimer stamp) world middle)
    (keeps : ∀ row, (change row).key = row.key)
    (leases : place ≠ .backup_restore → ∀ row text, (change row).lease_expires_at = some text →
      row.lease_expires_at = some text ∨ ∃ reading : Reading, text = reading.utc.isoformat)
    (moves : ∀ row, world.row place row.key = some row → holds row = true →
      RowMove worker_id (.claim place claimer stamp) place row.key row (change row)) :
    OutboxStep worker_id (.claim place claimer stamp) world
      (place.table.update holds change middle) := by
  intro sound
  obtain ⟨kept, moved⟩ := step sound
  refine ⟨kept.update place keeps leases, fun outbox key => ?_⟩
  by_cases same : outbox = place
  · subst same
    rw [row_update outbox holds change keeps]
    rcases moved outbox key with same | ⟨row, next, found, after, move⟩
    · rw [same]
      cases found : world.row outbox key with
      | none => exact .inl rfl
      | some row =>
        have named : row.key = key := OutboxTable.key_of_find? found
        subst named
        cases holds_ : holds row with
        | true => exact .inr ⟨row, _, rfl, by rw [Option.map_some, if_pos holds_], moves row found holds_⟩
        | false => exact .inl (by simp [holds_])
    · rw [after]
      exact .inr ⟨row, _, found, rfl, move.claim_any⟩
  · have other : (place.table.update holds change middle).row outbox key =
        middle.row outbox key := by
      rw [World.row, OutboxTable.find?, rows_update_other place same]
      rfl
    rw [other]
    exact moved outbox key

end Rows

section Operations

variable [Platform] {worker_id : String} {outbox : Outbox}

/-- The steps of a call of a worker, each of which moves rows as it may. -/
abbrev SafeCall {α : Type} (worker_id : String) (program : Op α) : Prop :=
  Prog.Keeps OutboxInTime (OutboxStep worker_id) program

omit [Platform] in
theorem safe_read {α : Type} (label : Label) (view : World → α) :
    SafeCall worker_id (Prog.read label view : Op α) :=
  Prog.Keeps.read fun world _ => .refl worker_id label world

omit [Platform] in
theorem safe_lift {α : Type} (checked : Except Error α) :
    SafeCall worker_id (lift checked) := by
  cases checked <;> exact trivial

omit [Platform] in
theorem safe_later (reading : Reading) (seconds : ℕ) : SafeCall worker_id (later reading seconds) := by
  rw [later]
  cases reading.plus (second * seconds) with
  | none => exact trivial
  | some ends => exact trivial

omit [Platform] in
theorem safe_timeOr (at_ : Option String) : SafeCall worker_id (timeOr at_) := by
  unfold timeOr
  split
  · exact trivial
  · exact safe_read _ _

theorem safe_audit {actor : Actor} {action : String} {result : AuditResult} {reason : String}
    {record_id : Option String} {details : List (String × Json)} :
    SafeCall worker_id (_audit actor action result reason record_id details none) :=
  Prog.Keeps.write fun _ _ => .of_rows fun outbox => by cases outbox <;> rfl

omit [Platform] in
theorem safe_getRow {Columns : Type} (table : OutboxTable Columns) (missing : String)
    (store : Store) (actor : Actor) (key : String) :
    SafeCall worker_id (getRow table missing store actor key) := by
  refine Prog.Keeps.bind (safe_read _ _) fun row => ?_
  cases row with
  | none => exact trivial
  | some row => exact Prog.Keeps.bind (safe_lift _) fun _ => trivial

omit [Platform] in
theorem safe_get_alert_delivery (store : Store) (actor : Actor) (delivery_id : String) :
    SafeCall worker_id (get_alert_delivery store actor delivery_id) := by
  refine Prog.Keeps.bind (safe_getRow _ _ _ _ _) fun row => ?_
  refine Prog.Keeps.bind (safe_read _ _) fun clock => ?_
  exact Prog.Keeps.bind (safe_lift _) fun _ => trivial

theorem safe_auditEach {Columns : Type} (actor : Actor) (action reason : String)
    (details : OutboxRow Columns → List (String × Json)) (rows : List (OutboxRow Columns)) :
    SafeCall worker_id (auditEach actor action reason details rows) := by
  induction rows with
  | nil => exact trivial
  | cons row rows ih => exact Prog.Keeps.bind safe_audit fun _ => ih

theorem safe_auditRestores (actor : Actor) (terminal : List (String × String)) :
    SafeCall worker_id (auditRestores actor terminal) := by
  induction terminal with
  | nil => exact trivial
  | cons item rest ih => exact Prog.Keeps.bind safe_audit fun _ => ih

theorem SameRows.audit (actor : Actor) (action : String) (result : AuditResult) (reason : String)
    (record_id : Option String) (details : List (String × Json)) (world : World) :
    SameRows world (World.audit actor action result reason record_id details none world) :=
  fun outbox => by cases outbox <;> rfl

/-- A use of an approval inside a transaction leaves the outboxes alone. -/
theorem SameRows.consumeWithin (store : Store) (actor : Actor) (use : Consumption)
    (world : World) :
    (∃ error refused, SeanOs.consumeWithin store actor use world = (.error error, refused) ∧
      SameRows world refused) ∨
    ∃ consumed, SeanOs.consumeWithin store actor use world = (.ok consumed, world) ∧
      SameRows world consumed := by
  rw [SeanOs.consumeWithin]
  split
  · exact .inl ⟨_, _, rfl, fun _ => rfl⟩
  dsimp only
  split
  next row _ _ =>
    refine .inr ⟨_, rfl, fun outbox => ?_⟩
    cases row.reusable <;> cases outbox <;> rfl
  next => exact .inl ⟨_, _, rfl, .audit _ _ _ _ _ _ world⟩

/-- The authorization of a row moves it from where it awaited its approval. -/
theorem safe_authorizeRow (outbox : Outbox) (values : Authorization)
    (waits : values.awaiting.awaiting = true) (store : Store) (actor : Actor) (use : Consumption)
    (key : String) (stamp : Option String) :
    SafeCall worker_id (authorizeRow outbox.table values store actor use key stamp) := by
  refine Prog.Keeps.transact fun world _ => ?_
  rw [Outbox.name_table]
  rcases SameRows.consumeWithin store actor use world with
    ⟨error, refused, ended, same⟩ | ⟨consumed, ended, same⟩
  · rw [ended]
    exact .of_rows same
  rw [ended]
  dsimp only
  split
  · refine .between same ?_ (.audit _ _ _ _ _ _ _)
    refine OutboxStep.update outbox (fun _ => rfl) ?_ ?_
    · exact fun _ _ _ written => .inl written
    · -- Only the row under the key that awaits its approval is updated.
      intro row _ holds
      simp only [Bool.and_eq_true, beq_iff_eq] at holds
      exact .authorized (by rw [holds.1]) (by rw [holds.2]; exact waits)
  · exact .refl _ _ world

theorem safe_authorize_backup_transfer (store : Store) (actor : Actor)
    (plan_sha256 approval_id : String) :
    SafeCall worker_id (authorize_backup_transfer store actor plan_sha256 approval_id) := by
  unfold authorize_backup_transfer
  split
  · exact trivial
  refine Prog.Keeps.bind (safe_getRow _ _ _ _ _) fun row => ?_
  split
  · exact trivial
  split
  · exact trivial
  refine Prog.Keeps.bind (safe_lift _) fun conditions => ?_
  exact Prog.Keeps.bind (safe_authorizeRow .backup_transfer _ rfl _ _ _ _ _) fun _ =>
    safe_getRow _ _ _ _ _

theorem safe_authorize_backup_restore (store : Store) (actor : Actor)
    (plan_sha256 approval_id : String) (at_ : Option String) :
    SafeCall worker_id (authorize_backup_restore store actor plan_sha256 approval_id at_) := by
  unfold authorize_backup_restore
  split
  · exact trivial
  refine Prog.Keeps.bind (safe_getRow _ _ _ _ _) fun row => ?_
  split
  · exact trivial
  split
  · exact trivial
  refine Prog.Keeps.bind (safe_timeOr at_) fun stamp => ?_
  refine Prog.Keeps.bind (safe_lift _) fun instant => ?_
  refine Prog.Keeps.bind (safe_lift _) fun inside => ?_
  split
  · exact trivial
  refine Prog.Keeps.bind (safe_lift _) fun conditions => ?_
  exact Prog.Keeps.bind (safe_authorizeRow .backup_restore _ rfl _ _ _ _ _) fun _ =>
    safe_getRow _ _ _ _ _

theorem safe_authorize_alert_delivery (store : Store) (actor : Actor)
    (delivery_id approval_id : String) :
    SafeCall worker_id (authorize_alert_delivery store actor delivery_id approval_id) := by
  unfold authorize_alert_delivery
  split
  · exact trivial
  refine Prog.Keeps.bind (safe_get_alert_delivery _ _ _) fun delivery => ?_
  dsimp only
  split
  · split <;> exact trivial
  · exact Prog.Keeps.bind (safe_authorizeRow .alert_delivery _ rfl _ _ _ _ _) fun _ =>
      safe_get_alert_delivery _ _ _

/-- A failed delivery is staged again. -/
theorem safe_reset_failed_alert_delivery (store : Store) (actor : Actor)
    (delivery_id reason : String) :
    SafeCall worker_id (reset_failed_alert_delivery store actor delivery_id reason) := by
  unfold reset_failed_alert_delivery
  -- What the scan of the text finds is arbitrary.
  generalize secret_findings (.obj [("reason", .str reason)]) "$" = findings
  split
  · exact trivial
  split
  · exact trivial
  split
  · exact trivial
  refine Prog.Keeps.bind (safe_read _ _) fun found => ?_
  cases found with
  | none => exact trivial
  | some row =>
    refine Prog.Keeps.bind (safe_lift _) fun _ => ?_
    split
    · exact safe_get_alert_delivery _ _ _
    split
    · exact trivial
    refine Prog.Keeps.bind (safe_read _ _) fun stamp => ?_
    refine Prog.Keeps.bind (Prog.Keeps.write fun world _ => ?_) fun _ =>
      Prog.Keeps.bind safe_audit fun _ => safe_get_alert_delivery _ _ _
    refine OutboxStep.clear .alert_delivery (fun _ => rfl) (fun _ => rfl) ?_
    intro row _ holds
    simp only [Bool.and_eq_true, beq_iff_eq] at holds
    exact .reset rfl holds.2 rfl

/-- A failure that is written in time ends an attempt of the worker that holds the lease. -/
theorem safe_failClaimed (outbox : Outbox) (values : Failure outbox.Columns)
    (own : values.table = outbox.table) (store : Store) (actor : Actor) (key error : String)
    (retry_seconds : ℤ) :
    SafeCall worker_id (failClaimed values store actor key worker_id error retry_seconds) := by
  unfold failClaimed
  rw [own]
  -- What the scan of the text finds is arbitrary.
  generalize secret_findings (.obj [("error", .str error)]) "$" = findings
  split
  · exact trivial
  split
  · exact trivial
  split
  · exact trivial
  refine Prog.Keeps.bind (safe_read _ _) fun found => ?_
  cases found with
  | none => exact trivial
  | some row =>
    refine Prog.Keeps.bind (safe_lift _) fun _ => ?_
    refine Prog.Keeps.bind (safe_read _ _) fun reading => ?_
    refine Prog.Keeps.bind (safe_later _ _) fun available => ?_
    refine Prog.Keeps.bind (safe_read _ _) fun stamp => ?_
    refine Prog.Keeps.bind (Prog.Keeps.write fun world inTime => ?_) fun _ =>
      Prog.Keeps.bind safe_audit fun _ => trivial
    rw [Outbox.name_table] at inTime ⊢
    refine OutboxStep.clear outbox (fun _ => rfl) (fun _ => rfl) ?_
    -- The row under the key is the one whose lease the worker holds.
    intro row found holds
    have named : row.key = key := beq_iff_eq.mp holds
    have held : (world.row outbox key).any (·.heldBy key worker_id) = true := inTime
    rw [named] at found ⊢
    rw [found] at held
    exact .ended held

/-- An attempt is held only by the worker that holds the lease. -/
theorem safe_holdClaimed (outbox : Outbox) (values : Holding outbox.Columns)
    (own : values.table = outbox.table) (store : Store) (actor : Actor) (key error : String) :
    SafeCall worker_id (holdClaimed values store actor key worker_id error) := by
  unfold holdClaimed
  rw [own]
  -- What the scan of the text finds is arbitrary.
  generalize secret_findings (.obj [("error", .str error)]) "$" = findings
  split
  · exact trivial
  split
  · exact trivial
  refine Prog.Keeps.bind (safe_read _ _) fun found => ?_
  cases found with
  | none => exact trivial
  | some row =>
    refine Prog.Keeps.bind (safe_lift _) fun _ => ?_
    refine Prog.Keeps.bind (safe_read _ _) fun stamp => ?_
    refine Prog.Keeps.bind (Prog.Keeps.write fun world _ => ?_) fun _ =>
      Prog.Keeps.bind safe_audit fun _ => trivial
    refine OutboxStep.clear outbox (fun _ => rfl) (fun _ => rfl) ?_
    intro row _ held
    have named : row.key = key := by
      rw [OutboxRow.heldBy, Bool.and_eq_true] at held
      exact beq_iff_eq.mp held.1
    rw [named]
    exact .ended held

/-- An attempt is completed only by the worker that holds the lease. -/
theorem safe_completeClaimed (outbox : Outbox) (values : Completion outbox.Columns)
    (own : values.table = outbox.table) (store : Store) (actor : Actor) (key : String)
    (receipt : Json) (at_ : Option String) :
    SafeCall worker_id (completeClaimed values store actor key worker_id receipt at_) := by
  unfold completeClaimed
  rw [own]
  refine Prog.Keeps.bind (safe_read _ _) fun killed => ?_
  refine Prog.Keeps.bind (safe_lift _) fun _ => ?_
  refine Prog.Keeps.bind (safe_timeOr at_) fun stamp => ?_
  dsimp only
  refine Prog.Keeps.bind (safe_read _ _) fun found => ?_
  cases found with
  | none =>
    refine Prog.Keeps.bind (safe_read _ _) fun existing => ?_
    cases existing with
    | none => exact trivial
    | some existing =>
      dsimp only
      split
      · exact trivial
      split
      · exact trivial
      refine Prog.Keeps.bind (safe_lift _) fun verified => ?_
      split
      · exact safe_getRow _ _ _ _ _
      · exact trivial
  | some row =>
    refine Prog.Keeps.bind (safe_lift _) fun _ => ?_
    refine Prog.Keeps.bind (safe_lift _) fun verified => ?_
    refine Prog.Keeps.bind (Prog.Keeps.transact fun world _ => ?_) fun _ =>
      Prog.Keeps.bind safe_audit fun _ => safe_getRow _ _ _ _ _
    split
    · refine OutboxStep.clear outbox (fun _ => rfl) (fun _ => rfl) ?_
      intro row _ holds
      have held : row.heldBy key worker_id = true := (Bool.and_eq_true _ _ ▸ holds).1
      have named : row.key = key := by
        have both := held
        rw [OutboxRow.heldBy, Bool.and_eq_true] at both
        exact beq_iff_eq.mp both.1
      rw [named]
      exact .ended held
    · exact .refl _ _ world

/-- A delivery is completed only by the worker that holds the lease. -/
theorem safe_complete_claimed_synthetic_alert_delivery (store : Store) (actor : Actor)
    (delivery_id : String) (receipt : Json) :
    SafeCall worker_id (complete_claimed_synthetic_alert_delivery store actor delivery_id
      worker_id receipt) := by
  refine Prog.Keeps.bind (safe_read _ _) fun killed => ?_
  refine Prog.Keeps.bind (safe_lift _) fun _ => ?_
  refine Prog.Keeps.bind (safe_read _ _) fun found => ?_
  cases found with
  | none => exact trivial
  | some row =>
    refine Prog.Keeps.bind (safe_lift _) fun _ => ?_
    refine Prog.Keeps.bind (safe_lift _) fun _ => ?_
    split
    · split
      · exact safe_get_alert_delivery _ _ _
      · exact trivial
    refine Prog.Keeps.bind (safe_read _ _) fun stamp => ?_
    refine Prog.Keeps.bind (safe_lift _) fun finished_at => ?_
    refine Prog.Keeps.bind (Prog.Keeps.transact fun world _ => ?_) fun _ =>
      Prog.Keeps.bind safe_audit fun _ => safe_get_alert_delivery _ _ _
    split
    · refine OutboxStep.clear .alert_delivery (fun _ => rfl) (fun _ => rfl) ?_
      intro row _ held
      have named : row.key = delivery_id := by
        rw [OutboxRow.heldBy, Bool.and_eq_true] at held
        exact beq_iff_eq.mp held.1
      rw [named]
      exact .ended held
    · exact .refl _ _ world

omit [Platform] in
/-- A lease written in UTC that has no owner, or is over as text at a time in UTC, is over. -/
theorem free_of_released {Columns : Type} {row : OutboxRow Columns} (reading : Reading)
    (utc : ∀ text, row.lease_expires_at = some text → ∃ ends : Reading, text = ends.utc.isoformat)
    (released : row.released reading.utc.isoformat = true) :
    row.lease_owner = none ∨ row.endedAt reading.utc.isoformat = true := by
  rw [OutboxRow.released, Bool.or_eq_true] at released
  rcases released with none_ | ended
  · exact .inl (Option.isNone_iff_eq_none.mp none_)
  · refine .inr ?_
    cases lease : row.lease_expires_at with
    | none =>
      rw [lease] at ended
      cases ended
    | some text =>
      obtain ⟨ends, rfl⟩ := utc text lease
      rw [lease] at ended
      -- Texts in UTC compare like the readings of the clock they were written from.
      have order : ends.utc.isoformat ≤ reading.utc.isoformat := by simpa using ended
      rw [OutboxRow.endedAt, lease, Option.bind_some, fromisoformat_isoformat,
        fromisoformat_isoformat]
      have notLater : ¬reading < ends := fun later =>
        absurd ((utc_isoformat_lt reading ends).mpr later) (not_lt.mpr order)
      show decide (ends.utc.instant ≤ reading.utc.instant) = true
      rw [Reading.instant_utc, Reading.instant_utc]
      exact decide_eq_true (by exact_mod_cast not_lt.mp notLater)

omit [Platform] in
/-- A claim leases or fails only rows whose lease is over. -/
theorem safe_claimRow (outbox : Outbox) (other : outbox ≠ .backup_restore)
    (worker_id : String) (moment ends : Reading) (inScope : OutboxRow outbox.Columns → Bool) :
    SafeCall worker_id (claimRow outbox.table worker_id moment.utc.isoformat ends.utc.isoformat
      inScope) := by
  refine Prog.Keeps.transact fun world _ sound => ?_
  rw [Outbox.name_table]
  have free : ∀ row next : OutboxRow outbox.Columns, world.row outbox row.key = some row →
      row.status = .AUTHORIZED → row.released moment.utc.isoformat = true →
        RowMove worker_id (.claim outbox worker_id moment.utc.isoformat) outbox row.key row next :=
    fun row next found open_ released => .claimed rfl open_
      (free_of_released moment (sound.leases outbox other row (mem_of_row found)) released)
  dsimp only
  split
  · refine OutboxStep.clear outbox (fun _ => rfl) (fun _ => rfl) ?_ sound
    intro row found holds
    simp only [Bool.and_eq_true, beq_iff_eq] at holds
    exact free row _ found holds.1 holds.2.2.1
  next chosen _ =>
    -- The rows that have no attempt left are failed first.
    refine OutboxStep.then_update outbox ?_ (fun _ => rfl) ?_ ?_ sound
    · refine OutboxStep.clear outbox (fun _ => rfl) (fun _ => rfl) ?_
      intro row found holds
      simp only [Bool.and_eq_true, beq_iff_eq] at holds
      exact free row _ found holds.1 holds.2.2.1
    · exact fun _ _ _ written => .inr ⟨ends, (Option.some.inj written).symm⟩
    · intro row found holds
      simp only [Bool.and_eq_true, beq_iff_eq] at holds
      exact free row _ found holds.2.1 holds.2.2

theorem safe_claim_authorized_backup_transfer (store : Store) (actor : Actor)
    (lease_seconds : ℤ) :
    SafeCall worker_id (claim_authorized_backup_transfer store actor worker_id lease_seconds) := by
  unfold claim_authorized_backup_transfer
  split
  · exact trivial
  split
  · exact trivial
  split
  · exact trivial
  refine Prog.Keeps.bind (safe_read _ _) fun killed => ?_
  split
  · exact Prog.Keeps.bind safe_audit fun _ => trivial
  refine Prog.Keeps.read_bind (fun world _ => .refl _ _ world) fun world => ?_
  refine Prog.Keeps.bind (safe_read _ _) fun reading => ?_
  rw [later]
  cases reading.plus (second * lease_seconds.toNat) with
  | none => exact trivial
  | some ends =>
    rw [Prog.bind_ret]
    refine Prog.Keeps.bind (safe_claimRow .backup_transfer (by simp) worker_id _ ends _)
      fun claimed => ?_
    refine Prog.Keeps.bind (safe_auditEach _ _ _ _ _) fun _ => ?_
    split
    · exact trivial
    refine Prog.Keeps.bind (safe_getRow _ _ _ _ _) fun row => ?_
    exact Prog.Keeps.bind safe_audit fun _ => trivial

theorem safe_claim_authorized_alert_delivery (store : Store) (actor : Actor)
    (lease_seconds : ℤ) :
    SafeCall worker_id (claim_authorized_alert_delivery store actor worker_id lease_seconds) := by
  unfold claim_authorized_alert_delivery
  split
  · exact trivial
  split
  · exact trivial
  refine Prog.Keeps.bind (safe_read _ _) fun killed => ?_
  split
  · exact Prog.Keeps.bind safe_audit fun _ => trivial
  split
  · exact Prog.Keeps.bind safe_audit fun _ => trivial
  refine Prog.Keeps.read_bind (fun world _ => .refl _ _ world) fun world => ?_
  refine Prog.Keeps.bind (safe_read _ _) fun reading => ?_
  rw [later]
  cases reading.plus (second * lease_seconds.toNat) with
  | none => exact trivial
  | some ends =>
    rw [Prog.bind_ret]
    refine Prog.Keeps.bind (safe_claimRow .alert_delivery (by simp) worker_id _ ends _)
      fun claimed => ?_
    refine Prog.Keeps.bind (safe_auditEach _ _ _ _ _) fun _ => ?_
    split
    · exact trivial
    refine Prog.Keeps.bind (safe_get_alert_delivery _ _ _) fun delivery => ?_
    exact Prog.Keeps.bind safe_audit fun _ => trivial

/-- The rows a claim of a restore fails or leases are among those it selected. -/
theorem selectRestore_among {instant : DateTime} {rows : List (OutboxRow RestoreColumns)}
    {terminal : List (String × String)} {chosen : Option (OutboxRow RestoreColumns)}
    (selected : selectRestore instant rows = .ok (terminal, chosen)) :
    ∀ item ∈ terminal, ∃ row ∈ rows, row.key = item.1 := by
  induction rows generalizing terminal chosen with
  | nil =>
    cases selected
    exact fun item there => nomatch there
  | cons row rows ih =>
    -- The row itself comes first, and the others are selected by the rest.
    have behind : ∀ {reason : String}, ((selectRestore instant rows).map fun rest =>
        ((row.key, reason) :: rest.1, rest.2)) = .ok (terminal, chosen) →
          ∀ item ∈ terminal, ∃ other ∈ row :: rows, other.key = item.1 := by
      intro reason mapped item there
      cases rest : selectRestore instant rows with
      | error error =>
        rw [rest] at mapped
        cases mapped
      | ok found =>
        rw [rest] at mapped
        cases mapped
        rcases List.mem_cons.mp there with rfl | later
        · exact ⟨row, List.mem_cons_self, rfl⟩
        · obtain ⟨other, among, same⟩ := ih rest item later
          exact ⟨other, List.mem_cons_of_mem _ among, same⟩
    rw [selectRestore] at selected
    obtain ⟨plan, _, selected⟩ := passed_of_bind selected
    split at selected
    · exact behind selected
    obtain ⟨stop, _, selected⟩ := passed_of_bind selected
    split at selected
    · exact behind selected
    obtain ⟨start, _, selected⟩ := passed_of_bind selected
    split at selected
    · cases selected
      exact fun item there => nomatch there
    · intro item there
      obtain ⟨other, among, same⟩ := ih selected item there
      exact ⟨other, List.mem_cons_of_mem _ among, same⟩

omit [Platform] in
/-- Failing some restores leaves every other row of the outboxes alone. -/
theorem row_failRestores_other {outbox : Outbox} (apart : outbox ≠ .backup_restore)
    (stamp : String) (terminal : List (String × String)) (world : World) :
    outbox.table.rows (failRestores stamp terminal world).db = outbox.table.rows world.db := by
  induction terminal generalizing world with
  | nil => rfl
  | cons item rest ih =>
    rw [failRestores, List.foldl_cons]
    exact (ih _).trans (rows_update_other .backup_restore apart world)

omit [Platform] in
/-- Failing some restores keeps the outboxes as they should be. -/
theorem OutboxesSound.failRestores {world : World} (sound : OutboxesSound world) (stamp : String)
    (terminal : List (String × String)) :
    OutboxesSound (SeanOs.failRestores stamp terminal world) := by
  induction terminal generalizing world with
  | nil => exact sound
  | cons item rest ih =>
    rw [SeanOs.failRestores, List.foldl_cons]
    exact ih (sound.update .backup_restore (fun _ => rfl) fun other => absurd rfl other)

omit [Platform] in
/-- Failing some restores changes only those of them that are authorized. -/
theorem row_failRestores (stamp key : String) (terminal : List (String × String))
    (world : World) :
    (failRestores stamp terminal world).row .backup_restore key =
      world.row .backup_restore key ∨
    ∃ row next, world.row .backup_restore key = some row ∧
      (failRestores stamp terminal world).row .backup_restore key = some next ∧
        row.status = .AUTHORIZED ∧ ∃ item ∈ terminal, item.1 = key := by
  induction terminal generalizing world with
  | nil => exact .inl rfl
  | cons item rest ih =>
    let failed : OutboxRow RestoreColumns → OutboxRow RestoreColumns := fun row =>
      { row.unleased with
        status := .FAILED, last_error := some (restoreUnavailable item.2), updated_at := stamp }
    let middle := backupRestoreOutbox.update
      (fun row => row.key == item.1 && row.status == .AUTHORIZED) failed world
    have after : middle.row .backup_restore key = (world.row .backup_restore key).map fun row =>
        if row.key == item.1 && row.status == .AUTHORIZED then failed row else row :=
      row_update .backup_restore _ failed (fun _ => rfl) key world
    rw [failRestores, List.foldl_cons]
    have later := ih middle
    cases found : world.row .backup_restore key with
    | none =>
      rw [after, found] at later
      rcases later with same | ⟨row, _, there, _⟩
      · exact .inl same
      · cases there
    | some row =>
      have named : row.key = key := OutboxTable.key_of_find? found
      rw [found, Option.map_some] at after
      by_cases here : (row.key == item.1 && row.status == .AUTHORIZED) = true
      · -- Whatever the rest does, the row was authorized and is one of them.
        rw [if_pos here] at after
        rw [Bool.and_eq_true, beq_iff_eq, beq_iff_eq] at here
        have one : ∃ item_ ∈ item :: rest, item_.1 = key :=
          ⟨item, List.mem_cons_self, here.1.symm.trans named⟩
        rcases later with same | ⟨_, next, _, there, _⟩
        · exact .inr ⟨row, failed row, rfl, same.trans after, here.2, one⟩
        · exact .inr ⟨row, next, rfl, there, here.2, one⟩
      · rw [if_neg here] at after
        rw [after] at later
        rcases later with same | ⟨_, next, same, there, open_, item_, among, name⟩
        · exact .inl same
        · cases same
          exact .inr ⟨row, next, rfl, there, open_, item_, List.mem_cons_of_mem _ among, name⟩

/-- A claim of a restore leases or fails only rows whose lease is over. -/
theorem safe_claimRestore (worker_id stamp : String) (instant : DateTime) (lease_seconds : ℕ) :
    SafeCall worker_id (claimRestore worker_id stamp instant lease_seconds) := by
  refine Prog.Keeps.transact fun world inTime sound => ?_
  have free : ∀ row next : OutboxRow RestoreColumns,
      world.row .backup_restore row.key = some row → row.status = .AUTHORIZED →
        row.released stamp = true → RowMove worker_id (.claim .backup_restore worker_id stamp)
          .backup_restore row.key row next := by
    intro row next found open_ released
    rw [OutboxRow.released, Bool.or_eq_true] at released
    by_cases owned : row.lease_owner = none
    · exact .claimed rfl open_ (.inl owned)
    · rcases released with none_ | ended
      · exact absurd (Option.isNone_iff_eq_none.mp none_) owned
      · exact .claimed rfl open_ (.inr (inTime row (mem_of_row found) open_ owned ended))
  dsimp only
  split
  · exact OutboxStep.refl _ _ world sound
  next terminal chosen selected =>
  -- What is failed was selected, so its lease is over, and no other row has its key.
  have failed : ∀ (row next : OutboxRow RestoreColumns) (key : String),
      world.row .backup_restore key = some row → (∃ item ∈ terminal, item.1 = key) →
        RowMove worker_id (.claim .backup_restore worker_id stamp) .backup_restore key row
          next := by
    rintro row next key found ⟨item, there, rfl⟩
    obtain ⟨other, among, named⟩ := selectRestore_among selected item there
    rw [List.mem_insertionSort, List.mem_filter] at among
    have same : world.row .backup_restore other.key = some other := row_of_mem sound among.1
    rw [named, found] at same
    cases same
    have ready := among.2
    simp only [Bool.and_eq_true, beq_iff_eq] at ready
    rw [← named] at found ⊢
    exact free row next found ready.1 ready.2.2
  have step : OutboxStep worker_id (.claim .backup_restore worker_id stamp) world
      (failRestores stamp terminal world) := by
    refine fun _ => ⟨sound.failRestores stamp terminal, fun outbox key => ?_⟩
    by_cases same : outbox = .backup_restore
    · subst same
      rcases row_failRestores stamp key terminal world with same | ⟨row, next, found, after, _, one⟩
      · exact .inl same
      · exact .inr ⟨row, next, found, after, failed row next key found one⟩
    · refine .inl ?_
      rw [World.row, OutboxTable.find?, row_failRestores_other same]
      rfl
  split
  · exact step sound
  split
  · exact OutboxStep.refl _ _ world sound
  split
  · refine OutboxStep.then_update .backup_restore step (fun _ => rfl)
      (fun other => absurd rfl other) ?_ sound
    intro row found holds
    simp only [Bool.and_eq_true, beq_iff_eq] at holds
    exact free row _ found holds.2.1 holds.2.2
  · exact OutboxStep.refl _ _ world sound

theorem safe_claim_authorized_backup_restore (store : Store) (actor : Actor)
    (lease_seconds : ℤ) (at_ : Option String) :
    SafeCall worker_id (claim_authorized_backup_restore store actor worker_id lease_seconds
      at_) := by
  unfold claim_authorized_backup_restore
  split
  · exact trivial
  split
  · exact trivial
  split
  · exact trivial
  refine Prog.Keeps.bind (safe_timeOr at_) fun stamp => ?_
  refine Prog.Keeps.bind (safe_lift _) fun instant => ?_
  refine Prog.Keeps.bind (safe_read _ _) fun killed => ?_
  split
  · exact Prog.Keeps.bind safe_audit fun _ => trivial
  refine Prog.Keeps.bind (safe_claimRestore _ _ _ _) fun claimed => ?_
  refine Prog.Keeps.bind (safe_auditRestores _ _) fun _ => ?_
  split
  · exact trivial
  refine Prog.Keeps.bind (safe_getRow _ _ _ _ _) fun row => ?_
  exact Prog.Keeps.bind safe_audit fun _ => trivial

/-- The calls of a worker on the three outboxes, for any actor, and those that stage and authorize. -/
inductive OutboxCall (worker_id : String) : Op Unit → Prop
  | claim_transfer (store : Store) (actor : Actor) (lease_seconds : ℤ) :
      OutboxCall worker_id
        (claim_authorized_backup_transfer store actor worker_id lease_seconds).call
  | claim_restore (store : Store) (actor : Actor) (lease_seconds : ℤ) (at_ : Option String) :
      OutboxCall worker_id
        (claim_authorized_backup_restore store actor worker_id lease_seconds at_).call
  | claim_delivery (store : Store) (actor : Actor) (lease_seconds : ℤ) :
      OutboxCall worker_id
        (claim_authorized_alert_delivery store actor worker_id lease_seconds).call
  | complete_transfer (store : Store) (actor : Actor) (key : String) (receipt : Json) :
      OutboxCall worker_id
        (complete_claimed_backup_transfer store actor key worker_id receipt).call
  | complete_restore (store : Store) (actor : Actor) (key : String) (receipt : Json)
      (at_ : Option String) :
      OutboxCall worker_id
        (complete_claimed_backup_restore store actor key worker_id receipt at_).call
  | complete_delivery (store : Store) (actor : Actor) (key : String) (receipt : Json) :
      OutboxCall worker_id
        (complete_claimed_synthetic_alert_delivery store actor key worker_id receipt).call
  | fail_transfer (store : Store) (actor : Actor) (key error : String) (retry_seconds : ℤ) :
      OutboxCall worker_id
        (fail_claimed_backup_transfer store actor key worker_id error retry_seconds).call
  | fail_restore (store : Store) (actor : Actor) (key error : String) (retry_seconds : ℤ) :
      OutboxCall worker_id
        (fail_claimed_backup_restore store actor key worker_id error retry_seconds).call
  | fail_delivery (store : Store) (actor : Actor) (key error : String) (retry_seconds : ℤ) :
      OutboxCall worker_id
        (fail_claimed_alert_delivery store actor key worker_id error retry_seconds).call
  | hold_transfer (store : Store) (actor : Actor) (key error : String) :
      OutboxCall worker_id
        (hold_claimed_backup_transfer_for_reconciliation store actor key worker_id error).call
  | hold_restore (store : Store) (actor : Actor) (key error : String) :
      OutboxCall worker_id
        (hold_claimed_backup_restore_for_reconciliation store actor key worker_id error).call
  | reset_delivery (store : Store) (actor : Actor) (key reason : String) :
      OutboxCall worker_id (reset_failed_alert_delivery store actor key reason).call
  | authorize_transfer (store : Store) (actor : Actor) (key approval_id : String) :
      OutboxCall worker_id (authorize_backup_transfer store actor key approval_id).call
  | authorize_restore (store : Store) (actor : Actor) (key approval_id : String)
      (at_ : Option String) :
      OutboxCall worker_id (authorize_backup_restore store actor key approval_id at_).call
  | authorize_delivery (store : Store) (actor : Actor) (key approval_id : String) :
      OutboxCall worker_id (authorize_alert_delivery store actor key approval_id).call

omit [Platform] in
theorem SafeCall.call {α : Type} {program : Op α} (kept : SafeCall worker_id program) :
    SafeCall worker_id program.call := Prog.Keeps.bind kept fun _ => trivial

/-- Every such call moves rows only as it may. -/
theorem OutboxCall.safe {program : Op Unit} (called : OutboxCall worker_id program) :
    SafeCall worker_id program := by
  cases called with
  | claim_transfer => exact (safe_claim_authorized_backup_transfer _ _ _).call
  | claim_restore => exact (safe_claim_authorized_backup_restore _ _ _ _).call
  | claim_delivery => exact (safe_claim_authorized_alert_delivery _ _ _).call
  | complete_transfer => exact (safe_completeClaimed .backup_transfer _ rfl _ _ _ _ _).call
  | complete_restore => exact (safe_completeClaimed .backup_restore _ rfl _ _ _ _ _).call
  | complete_delivery => exact (safe_complete_claimed_synthetic_alert_delivery _ _ _ _).call
  | fail_transfer => exact (safe_failClaimed .backup_transfer _ rfl _ _ _ _ _).call
  | fail_restore => exact (safe_failClaimed .backup_restore _ rfl _ _ _ _ _).call
  | fail_delivery => exact (safe_failClaimed .alert_delivery _ rfl _ _ _ _ _).call
  | hold_transfer => exact (safe_holdClaimed .backup_transfer _ rfl _ _ _ _).call
  | hold_restore => exact (safe_holdClaimed .backup_restore _ rfl _ _ _ _).call
  | reset_delivery => exact (safe_reset_failed_alert_delivery _ _ _ _).call
  | authorize_transfer => exact (safe_authorize_backup_transfer _ _ _ _).call
  | authorize_restore => exact (safe_authorize_backup_restore _ _ _ _ _).call
  | authorize_delivery => exact (safe_authorize_alert_delivery _ _ _ _).call

end Operations

/-- What anything else may do to the outboxes: add rows, and move those that await an approval. -/
structure OutboxDrift (world changed : World) : Prop where
  rows : ∀ (outbox : Outbox) (key : String) (row : OutboxRow outbox.Columns),
    world.row outbox key = some row → changed.row outbox key = some row ∨
      row.status.awaiting = true ∧
        ∃ next, changed.row outbox key = some next ∧ next.status.awaiting = true
  sound : OutboxesSound world → OutboxesSound changed

/-- The passing of time leaves the outboxes alone. -/
theorem OutboxDrift.clock (reading : Reading) (world : World) :
    OutboxDrift world { world with clock := reading } where
  rows outbox _ _ found := .inl (by cases outbox <;> exact found)
  sound sound :=
    ⟨fun outbox => by cases outbox <;> exact sound.unique _,
      fun outbox other => by
        cases outbox with
        | backup_transfer => exact sound.leases .backup_transfer other
        | backup_restore => exact absurd rfl other
        | alert_delivery => exact sound.leases .alert_delivery other⟩

/-- What a step of a call of a worker never does to a row of an outbox. -/
structure LeaseRespected (worker_id : String) (label : Label) (outbox : Outbox) (key : String)
    (world changed : World) : Prop where
  /-- A completion, failure or hold changes the row only where the worker holds its lease. -/
  ends : label = .complete outbox key worker_id ∨ label = .fail outbox key worker_id ∨
      label = .hold outbox key worker_id →
    changed.row outbox key = world.row outbox key ∨
      (world.row outbox key).any (·.heldBy key worker_id) = true
  /-- The lease of another worker is taken only by a claim, at a time at which it is over. -/
  live : ∀ row other, world.row outbox key = some row → row.status = .AUTHORIZED →
    row.lease_owner = some other → other ≠ worker_id →
      changed.row outbox key = some row ∨
        ∃ stamp, label = .claim outbox worker_id stamp ∧ row.endedAt stamp = true
  /-- Only an authorization makes a row authorized. -/
  authorized : ∀ next, changed.row outbox key = some next → next.status = .AUTHORIZED →
    (world.row outbox key).any (·.status == .AUTHORIZED) = true ∨ label = .authorize outbox key

/-- What is final is still there, as it was. -/
def FinalStays (start world : World) : Prop :=
  ∀ (outbox : Outbox) (key : String) (row : OutboxRow outbox.Columns),
    start.row outbox key = some row → row.status.final = true → world.row outbox key = some row

section Runs

variable {worker_id : String} {label : Label} {world changed : World}

/-- The lease of a row that a worker holds. -/
theorem OutboxRow.of_heldBy {Columns : Type} {key : String} {row : OutboxRow Columns}
    (held : row.heldBy key worker_id = true) :
    row.status = .AUTHORIZED ∧ row.lease_owner = some worker_id := by
  simp only [OutboxRow.heldBy, Bool.and_eq_true, beq_iff_eq] at held
  exact held.2

/-- Rows that are moved as a step may move them keep their leases. -/
theorem RowsMove.respected (moved : RowsMove worker_id label world changed) (outbox : Outbox)
    (key : String) : LeaseRespected worker_id label outbox key world changed := by
  rcases moved outbox key with same | ⟨row, next, before, after, move⟩
  · refine ⟨fun _ => .inl same, fun row _ found _ _ _ => .inl (same.trans found), ?_⟩
    intro next found open_
    rw [← same, found]
    exact .inl (by simp [open_])
  constructor
  · intro writes
    cases move with
    | authorized other => rcases writes with rfl | rfl | rfl <;> cases other
    | claimed other => rcases writes with rfl | rfl | rfl <;> cases other
    | ended held => exact .inr (by rw [before]; exact held)
    | reset other => rcases writes with rfl | rfl | rfl <;> cases other
  · intro found other there open_ owner apart
    cases before.symm.trans there
    cases move with
    | authorized _ waits =>
      rw [open_] at waits
      cases waits
    | claimed claims _ free =>
      rcases free with none_ | over_
      · rw [owner] at none_
        cases none_
      · exact .inr ⟨_, claims, over_⟩
    | ended held =>
      cases owner.symm.trans (OutboxRow.of_heldBy held).2
      exact absurd rfl apart
    | reset _ failed =>
      rw [open_] at failed
      cases failed
  · intro found there open_
    cases after.symm.trans there
    rw [before]
    cases move with
    | authorized writes => exact .inr writes
    | claimed _ was => exact .inl (by simp [was])
    | ended held => exact .inl (by simp [(OutboxRow.of_heldBy held).1])
    | reset _ _ staged =>
      rw [open_] at staged
      cases staged

/-- A row that is moved was not final. -/
theorem RowMove.open_ {outbox : Outbox} {key : String} {row next : OutboxRow outbox.Columns}
    (move : RowMove worker_id label outbox key row next) : row.status.final = false := by
  cases move with
  | authorized _ waits => exact OutboxStatus.open_of_awaiting waits
  | claimed _ open_ => rw [open_]; rfl
  | ended held => rw [(OutboxRow.of_heldBy held).1]; rfl
  | reset _ failed => rw [failed]; rfl

/-- The outboxes are as they should be, and what was final in one world still is. -/
def OutboxesKept (start world : World) : Prop := OutboxesSound world ∧ FinalStays start world

/-- A step of a call keeps what is final. -/
theorem OutboxesKept.step {start : World} (kept : OutboxesKept start world)
    (step : OutboxStep worker_id label world changed) : OutboxesKept start changed := by
  obtain ⟨sound, moved⟩ := step kept.1
  refine ⟨sound, fun outbox key row found final => ?_⟩
  have there := kept.2 outbox key row found final
  rcases moved outbox key with same | ⟨before, next, was, after, move⟩
  · exact same.trans there
  · -- A row that was moved was open.
    cases there.symm.trans was
    rw [move.open_] at final
    cases final

/-- What anything else does keeps what is final. -/
theorem OutboxesKept.drift {start : World} (kept : OutboxesKept start world)
    (drift : OutboxDrift world changed) : OutboxesKept start changed := by
  refine ⟨drift.sound kept.1, fun outbox key row found final => ?_⟩
  rcases drift.rows outbox key row (kept.2 outbox key row found final) with same | ⟨waits, _⟩
  · exact same
  · rw [OutboxStatus.open_of_awaiting waits] at final
    cases final

/--
Outbox workers whose lease is over do no harm in any run in which failures are written in time.

Every step respects the leases of all rows, and rows in a final state stay as they are.
-/
theorem stale_outbox [Platform] {κ : Type} [DecidableEq κ] (worker_id : κ → String) {start : World}
    (sound : OutboxesSound start) {middle last : Pool κ World Label Error}
    (before : Pool.Reaches (fun caller => OutboxCall (worker_id caller)) OutboxDrift
      (fun _ => OutboxInTime) (Pool.idle start) middle)
    (after : Pool.Reaches (fun caller => OutboxCall (worker_id caller)) OutboxDrift
      (fun _ => OutboxInTime) middle last) :
    (∀ caller label change next, last.running caller = .atom label change next →
      OutboxInTime label last.shared → ∀ outbox key,
        LeaseRespected (worker_id caller) label outbox key last.shared (change last.shared)) ∧
    FinalStays middle.shared last.shared := by
  have entered : ∀ caller program, OutboxCall (worker_id caller) program →
      SafeCall (worker_id caller) program := fun _ _ called => called.safe
  have step : ∀ {origin : World} caller label state changed, OutboxesKept origin state →
      OutboxInTime label state → OutboxStep (worker_id caller) label state changed →
        OutboxesKept origin changed := fun _ _ _ _ kept _ change => kept.step change
  have kept := before.kept entered (Pool.idle_kept _ start)
  have soundMiddle : OutboxesKept start middle.shared :=
    before.invariant entered step (fun _ _ kept drift => kept.drift drift)
      (Pool.idle_kept _ start) ⟨sound, fun _ _ _ found _ => found⟩
  have keptLast : OutboxesKept middle.shared last.shared :=
    after.invariant entered step (fun _ _ kept drift => kept.drift drift) kept
      ⟨soundMiddle.1, fun _ _ _ found _ => found⟩
  refine ⟨fun caller label change next ready inTime outbox key => ?_, keptLast.2⟩
  have own := after.kept entered kept caller
  rw [ready, Prog.keeps_atom] at own
  exact ((own _ inTime).1 keptLast.1).2.respected outbox key

end Runs

namespace Sample

/-- A world with one authorized delivery, at the first instant of the year 2030. -/
def delivering : World :=
  world { Database.empty with alert_delivery_outbox := [{
    key := "delivery", owner_scope := .IAC, status := .AUTHORIZED, approval_id := some "approval"
    attempt_count := 0, max_attempts := 3, available_at := "2029-12-31T00:00:00+00:00"
    lease_owner := none, lease_expires_at := none, last_error := none
    preflight_receipt_payload := none, receipt_payload := none
    created_at := "2029-12-31T00:00:00+00:00", updated_at := "2029-12-31T00:00:00+00:00"
    finished_at := none
    columns := {
      plan_id := "plan", incident_id := "incident", reopen_generation := 0, route_id := "route"
      destination_kind := "SYNTHETIC", destination_ref := "owner", alert_payload := .obj []
      payload_sha256 := "payload" } }] }

/-- The receipt of a delivery that used no network. -/
def receipt : Json :=
  .obj [("mode", .str "SYNTHETIC"), ("network_used", .bool false), ("external_effect", .bool false),
    ("delivery_id", .str "delivery"), ("payload_sha256", .str "payload"),
    ("delivered_at", .str "2030-01-01T01:00:00+00:00")]

/-- The keys of the sample outboxes are unique, and no lease is written yet. -/
theorem delivering_sound : OutboxesSound delivering where
  unique outbox := by cases outbox <;> decide
  leases outbox _ row there text written := by
    cases outbox with
    | backup_transfer | backup_restore => cases there
    | alert_delivery =>
      cases there with
      | head => cases written
      | tail _ none_ => cases none_

end Sample

section Examples

open Sample

local instance staleOutboxPlatform : Platform := platform []

/-- A worker leases the delivery, and finds that it may end its attempt as failed. -/
def Sample.firstLoses : List (Pool.Event Bool World Label Error) :=
  .start false (claim_authorized_alert_delivery ⟨.IAC⟩ worker "first" 60).call :: (steps 7 false ++
    .start false (fail_claimed_alert_delivery ⟨.IAC⟩ worker "delivery" "first" "no answer" 0).call ::
      steps 3 false)

/-- An hour later another worker leases the delivery and completes it. -/
def Sample.secondDelivers : List (Pool.Event Bool World Label Error) :=
  .outside hourPasses ::
    .start true (claim_authorized_alert_delivery ⟨.IAC⟩ worker "second" 60).call :: (steps 7 true ++
      .start true (complete_claimed_synthetic_alert_delivery ⟨.IAC⟩ worker "delivery" "second"
        receipt).call :: steps 4 true)

/-- The first worker tries to complete the delivery as well, with a lease that it has lost. -/
def Sample.staleCompletes : List (Pool.Event Bool World Label Error) :=
  .start false (complete_claimed_synthetic_alert_delivery ⟨.IAC⟩ worker "delivery" "first"
    receipt).call :: steps 4 false

/-- Any of these moves is one of the calls, or leaves the outboxes alone. -/
theorem Sample.reaches_delivering {permits : Bool → Label → World → Prop}
    {start pool : Pool Bool World Label Error} (check : Bool → Label → World → Bool)
    (sound : ∀ caller label state, check caller label state = true → permits caller label state)
    (events : List (Pool.Event Bool World Label Error))
    (some_ : ∀ event ∈ events, event ∈ firstLoses ++ (secondDelivers ++ staleCompletes))
    (passed : Pool.playableAll check events pool = true)
    (reached : Pool.Reaches (fun caller => OutboxCall (workerName caller)) OutboxDrift permits
      start pool) :
    Pool.Reaches (fun caller => OutboxCall (workerName caller)) OutboxDrift permits start
      (events.foldl Pool.play pool) := by
  refine reached.play check sound events (fun caller program there => ?_)
    (fun change there => ?_) passed
  · have known := some_ _ there
    simp only [firstLoses, secondDelivers, staleCompletes, steps, List.mem_append, List.mem_cons,
      List.mem_replicate, Pool.Event.start.injEq, reduceCtorEq, and_false, false_or, or_false]
      at known
    rcases known with (⟨rfl, rfl⟩ | ⟨rfl, rfl⟩) | (⟨rfl, rfl⟩ | ⟨rfl, rfl⟩) | ⟨rfl, rfl⟩
    · exact .claim_delivery _ _ _
    · exact .fail_delivery _ _ _ _ _
    · exact .claim_delivery _ _ _
    · exact .complete_delivery _ _ _ _
    · exact .complete_delivery _ _ _ _
  · have known := some_ _ there
    simp only [firstLoses, secondDelivers, staleCompletes, steps, List.mem_append, List.mem_cons,
      List.mem_replicate, Pool.Event.outside.injEq, reduceCtorEq, and_false, false_or, or_false]
      at known
    subst known
    exact fun world => .clock _ world

/-- The delivery is leased, failed in time, leased again an hour later, and made. -/
def Sample.delivered : Pool Bool World Label Error :=
  (firstLoses ++ (steps 2 false ++ secondDelivers)).foldl Pool.play (Pool.idle delivering)

/-- A delivery that was made stays made, though a worker that had leased it before completes it too. -/
theorem stale_outbox_in_time :
    (delivered.shared.row .alert_delivery "delivery").map (·.status) = some .SYNTHETIC_DELIVERED ∧
    FinalStays delivered.shared (staleCompletes.foldl Pool.play delivered).shared := by
  have inTime (caller : Bool) (label : Label) (world : World) :
      decide (OutboxInTime label world) = true → OutboxInTime label world := of_decide_eq_true
  refine ⟨by decide +kernel, (stale_outbox workerName delivering_sound
    (reaches_delivering (fun _ label world => decide (OutboxInTime label world)) inTime
      (firstLoses ++ (steps 2 false ++ secondDelivers)) (fun event there => ?_) (by decide +kernel)
      .refl)
    (reaches_delivering (fun _ label world => decide (OutboxInTime label world)) inTime
      staleCompletes (fun event there => ?_) (by decide +kernel) .refl)).2⟩
  · rcases List.mem_append.mp there with first | there
    · exact List.mem_append_left _ first
    rcases List.mem_append.mp there with step | second
    · rw [List.eq_of_mem_replicate step]
      exact List.mem_append_left _ (by simp [firstLoses, steps])
    · exact List.mem_append_right _ (List.mem_append_left _ second)
  · exact List.mem_append_right _ (List.mem_append_right _ there)

/-- A failure that is written too late makes a delivery authorized again that was delivered. -/
theorem stale_outbox_authorized :
    ∃ middle last : Pool Bool World Label Error,
      Pool.Reaches (fun caller => OutboxCall (workerName caller)) OutboxDrift (fun _ _ _ => True)
        (Pool.idle delivering) middle ∧
      Pool.Reaches (fun caller => OutboxCall (workerName caller)) OutboxDrift (fun _ _ _ => True)
        middle last ∧
      ¬FinalStays middle.shared last.shared := by
  have free : ∀ (caller : Bool) (label : Label) (world : World), true = true → True :=
    fun _ _ _ _ => trivial
  refine ⟨(firstLoses ++ secondDelivers).foldl Pool.play (Pool.idle delivering), _,
    reaches_delivering (fun _ _ _ => true) free _ ?_ (by decide +kernel) .refl,
    reaches_delivering (fun _ _ _ => true) free (steps 1 false) ?_ (by decide +kernel) .refl, ?_⟩
  · intro event there
    rw [← List.append_assoc]
    exact List.mem_append_left _ there
  · intro event there
    rw [List.eq_of_mem_replicate there]
    exact List.mem_append_left _ (by simp [firstLoses, steps])
  · -- The delivery was made before the step, and is authorized again after it.
    intro stays
    have delivered : (((firstLoses ++ secondDelivers).foldl Pool.play
        (Pool.idle delivering)).shared.row .alert_delivery "delivery").map (·.status) =
          some .SYNTHETIC_DELIVERED := by
      decide +kernel
    have again : (((steps 1 false).foldl Pool.play ((firstLoses ++ secondDelivers).foldl
        Pool.play (Pool.idle delivering))).shared.row .alert_delivery "delivery").map (·.status) =
          some .AUTHORIZED := by
      decide +kernel
    obtain ⟨row, found, status⟩ := Option.map_eq_some_iff.mp delivered
    rw [stays .alert_delivery "delivery" row found (by rw [status]; rfl), Option.map_some,
      status] at again
    cases again

end Examples

end SeanOs
