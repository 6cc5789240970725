import SeanOs.Lib.Among
import SeanOs.Sample
import SeanOs.Store.AlertDeliveries
import SeanOs.Store.ApprovalExpiry
import SeanOs.Store.BackupRestores
import SeanOs.Store.Logging

/-! An approval is consumed and its outbox row is authorized in one commit, or neither is. -/

namespace SeanOs

open Atomic Calendar

/-- The rows of an outbox are kept apart from the approvals and from the audit log. -/
def OutboxTable.Apart {Columns : Type} (table : OutboxTable Columns) : Prop :=
  ∀ db approvals audit_log,
    table.rows { db with approvals := approvals, audit_log := audit_log } = table.rows db

/-- A row as an authorization leaves it. -/
def OutboxRow.authorizedWith {Columns : Type} (approval_id stamp : String)
    (row : OutboxRow Columns) : OutboxRow Columns :=
  { row with status := .AUTHORIZED, approval_id := some approval_id, updated_at := stamp }

section Changes

variable {Columns : Type} (table : OutboxTable Columns)

/-- A change that leaves the approvals and the rows of an outbox alone. -/
structure SameAuthority (world changed : World) : Prop where
  approvals : changed.db.approvals = world.db.approvals
  rows : table.rows changed.db = table.rows world.db

/-- An approval is used up unless it is reusable, and the waiting row is authorized with it. -/
structure UsesApproval (awaiting : OutboxStatus) (approval_id key : String) (world changed : World) :
    Prop where
  approval : ∃ row, world.db.approval? approval_id = some row ∧ row.status = .APPROVED ∧
    changed.db.approvals = if row.reusable then world.db.approvals
      else (setApproval approval_id .CONSUMED world).db.approvals
  waiting : ∃ row ∈ table.rows world.db, row.key = key ∧ row.status = awaiting
  rows : ∃ stamp, table.rows changed.db = (table.rows world.db).map fun row =>
    if row.key == key && row.status == awaiting then row.authorizedWith approval_id stamp else row

/-- What a table promises: its rows have different keys, and their leases end at times. -/
structure SoundOutbox (world : World) : Prop where
  keyed : ((table.rows world.db).map (·.key)).Nodup
  leases : ∀ row ∈ table.rows world.db, ∀ text, given row.lease_expires_at = some text →
    ∃ moment, fromisoformat text = some moment ∧ moment.aware = true

/-- What others may do to an outbox: its rows stay in their scopes, and it keeps its promises. -/
structure AuthorityDrift (world changed : World) : Prop where
  stays : ∀ key row, table.find? key world.db = some row →
    ∃ later, table.find? key changed.db = some later ∧ later.owner_scope = row.owner_scope
  sound : SoundOutbox table world → SoundOutbox table changed

/-- A row is there that an actor may read. -/
def Legible (store : Store) (actor : Actor) (key : String) (world : World) : Prop :=
  ∃ row, table.find? key world.db = some row ∧
    _authorize store actor row.owner_scope.text [] "read" = .ok ()

end Changes

/-- How far an authorization is; a call whose row was taken away behind its back is lost. -/
inductive AuthorizePhase where
  | fresh | seen | authorized | lost
  deriving DecidableEq

section Moves

variable {Columns : Type} (table : OutboxTable Columns) (awaiting : OutboxStatus)
  (store : Store) (actor : Actor) (approval_id key : String)

/-- What a step of an authorization does, and how far the call is after it. -/
inductive AuthorizeMove : AuthorizePhase → Label → World → World → AuthorizePhase → Prop
  | same {phase : AuthorizePhase} {label : Label} {world changed : World}
      (same : SameAuthority table world changed) : AuthorizeMove phase label world changed phase
  | seen {label : Label} {world : World} (legible : Legible table store actor key world) :
      AuthorizeMove .fresh label world world .seen
  | authorized {label : Label} {world changed : World}
      (uses : UsesApproval table awaiting approval_id key world changed) :
      AuthorizeMove .seen label world changed .authorized
  | lost {label : Label} {world : World}
      (missing : ¬(Legible table store actor key world ∧ SoundOutbox table world)) :
      AuthorizeMove .authorized label world world .lost

/-- What holds in each phase. -/
def AuthorizeHolds : AuthorizePhase → World → Prop
  | .fresh, world => SoundOutbox table world
  | .seen, world | .authorized, world =>
    SoundOutbox table world ∧ Legible table store actor key world
  | .lost, _ => False

variable {table awaiting store actor approval_id key} {world changed : World}

theorem SameAuthority.refl (world : World) : SameAuthority table world world := ⟨rfl, rfl⟩

theorem SameAuthority.of_logged (apart : table.Apart) (logged : Logged world changed) :
    SameAuthority table world changed := by
  obtain ⟨audit_log, _, rfl⟩ := logged
  exact ⟨rfl, apart world.db world.db.approvals audit_log⟩

/-- The promises of a table depend on its rows only. -/
theorem SoundOutbox.of_rows (sound : SoundOutbox table world)
    (rows : table.rows changed.db = table.rows world.db) : SoundOutbox table changed :=
  ⟨rows ▸ sound.keyed, rows ▸ sound.leases⟩

/-- Whether a row may be read depends on the rows only. -/
theorem Legible.of_rows (legible : Legible table store actor key world)
    (rows : table.rows changed.db = table.rows world.db) :
    Legible table store actor key changed := by
  rwa [Legible, OutboxTable.find?, rows]

/-- An authorization leaves every row where it was, but for its state and its approval. -/
theorem UsesApproval.find? (uses : UsesApproval table awaiting approval_id key world changed)
    (other : String) : ∃ stamp, table.find? other changed.db = (table.find? other world.db).map
      fun row => if row.key == key && row.status == awaiting then
        row.authorizedWith approval_id stamp else row := by
  obtain ⟨stamp, rows⟩ := uses.rows
  refine ⟨stamp, ?_⟩
  -- The keys are searched as before.
  rw [OutboxTable.find?, OutboxTable.find?, rows, List.find?_map]
  congr 1
  refine congrArg (fun test => List.find? test (table.rows world.db)) (funext fun row => ?_)
  dsimp only [Function.comp]
  split <;> rfl

/-- What holds in each phase is kept by the moves. -/
theorem AuthorizeMove.holds {phase later : AuthorizePhase} {label : Label}
    (held : AuthorizeHolds table store actor key phase world)
    (move : AuthorizeMove table awaiting store actor approval_id key phase label world changed later) :
    AuthorizeHolds table store actor key later changed := by
  cases move with
  | same same =>
    cases phase with
    | fresh => exact held.of_rows same.rows
    | seen | authorized => exact ⟨held.1.of_rows same.rows, held.2.of_rows same.rows⟩
    | lost => exact held
  | seen legible => exact ⟨held, legible⟩
  | lost missing => exact missing ⟨held.2, held.1⟩
  | authorized uses =>
    obtain ⟨sound, row, found, allowed⟩ := held
    obtain ⟨stamp, rows⟩ := uses.rows
    refine ⟨⟨?_, ?_⟩, ?_⟩
    · rw [rows, List.map_map]
      refine (congrArg List.Nodup (List.map_congr_left fun row _ => ?_)).mpr sound.keyed
      dsimp only [Function.comp]
      split <;> rfl
    · rw [rows]
      intro row there
      obtain ⟨before, was, rfl⟩ := List.mem_map.mp there
      have leases := sound.leases before was
      split <;> exact leases
    · obtain ⟨_, after⟩ := uses.find? key
      rw [found] at after
      refine ⟨_, after, ?_⟩
      dsimp only
      split <;> exact allowed

/-- What holds in each phase is kept by the others. -/
theorem AuthorityDrift.holds {phase : AuthorizePhase}
    (held : AuthorizeHolds table store actor key phase world)
    (drift : AuthorityDrift table world changed) :
    AuthorizeHolds table store actor key phase changed := by
  have legible : Legible table store actor key world → Legible table store actor key changed := by
    rintro ⟨row, found, allowed⟩
    obtain ⟨later, stays, scope⟩ := drift.stays key row found
    exact ⟨later, stays, scope ▸ allowed⟩
  cases phase with
  | fresh => exact drift.sound held
  | seen | authorized => exact ⟨drift.sound held.1, legible held.2⟩
  | lost => exact held

end Moves

section Calls

variable [Platform] {Columns : Type} {table : OutboxTable Columns} {awaiting : OutboxStatus}
  {store : Store} {actor : Actor} {approval_id key : String}

/-- The programs that move as an authorization may, from some phase to some end. -/
abbrev Authorizing {α : Type} (table : OutboxTable Columns) (awaiting : OutboxStatus)
    (store : Store) (actor : Actor) (approval_id key : String)
    (ends : AuthorizePhase → Except Error α → Prop) (phase : AuthorizePhase) (program : Op α) :
    Prop :=
  Prog.Follows (fun _ _ => True) (AuthorizeMove table awaiting store actor approval_id key) ends
    phase program

/-- A call that raises has not authorized anything. -/
def Unauthorized {α : Type} (phase : AuthorizePhase) (outcome : Except Error α) : Prop :=
  ∀ error, outcome = .error error → phase ≠ .authorized

omit [Platform] in
/-- A program that only logs stays in its phase. -/
theorem authorizing_logging {α : Type} (apart : table.Apart) {program : Op α}
    (logging : Logging program) {phase : AuthorizePhase}
    {ends : AuthorizePhase → Except Error α → Prop} (ended : ∀ outcome, ends phase outcome) :
    Authorizing table awaiting store actor approval_id key ends phase program := by
  have kept : Prog.Keeps (fun _ _ => True) (fun _ => SameAuthority table) program :=
    logging.keeps fun _ _ _ logged => .of_logged apart logged
  exact kept.follows (fun _ _ _ _ same => .same same) ended

omit [Platform] in
/-- What only logs comes before the rest. -/
theorem authorizing_logs_bind {α β : Type} (apart : table.Apart) {program : Op α}
    {rest : α → Op β} {phase : AuthorizePhase} {ends : AuthorizePhase → Except Error β → Prop}
    (logging : Logging program)
    (follows : ∀ value, Authorizing table awaiting store actor approval_id key ends phase (rest value))
    (raised : ∀ error, ends phase (.error error)) :
    Authorizing table awaiting store actor approval_id key ends phase (program >>= rest) := by
  have first : Authorizing table awaiting store actor approval_id key
      (fun last _ => last = phase) phase program :=
    authorizing_logging apart logging (by exact fun _ => rfl)
  refine first.bind (fun last value same => ?_) fun last error same => ?_
  · subst same
    exact follows value
  · subst same
    exact raised error

omit [Platform] in
/-- The first read of a row sees whether it may be read. -/
theorem authorizing_getRow (missing : String) :
    Authorizing table awaiting store actor approval_id key
      (fun last outcome => last ≠ .authorized ∧ ∀ row, outcome = .ok row → last = .seen) .fresh
      (getRow table missing store actor key) := by
  refine .read_bind fun world _ => ?_
  cases found : table.find? key world.db with
  | none => exact ⟨.fresh, .same (.refl world), by nofun, fun _ read => nomatch read⟩
  | some row =>
    dsimp only
    cases allowed : _authorize store actor row.owner_scope.text [] "read" with
    | error error => exact ⟨.fresh, .same (.refl world), by nofun, fun _ read => nomatch read⟩
    | ok _ => exact ⟨.seen, .seen ⟨row, found, allowed⟩, by nofun, fun _ _ => rfl⟩

omit [Platform] in
/-- The last read of a row raises only where it was lost; what it reads has a lease that ends at a time. -/
theorem authorizing_reread (missing : String) :
    Authorizing table awaiting store actor approval_id key
      (fun last outcome => last = .lost ∨ ∃ row, outcome = .ok row ∧
        ∀ text, given row.lease_expires_at = some text →
          ∃ moment, fromisoformat text = some moment ∧ moment.aware = true) .authorized
      (getRow table missing store actor key) := by
  refine .read_bind fun world _ => ?_
  by_cases there : Legible table store actor key world ∧ SoundOutbox table world
  · obtain ⟨⟨row, found, allowed⟩, sound⟩ := there
    refine ⟨.authorized, .same (.refl world), ?_⟩
    rw [found]
    dsimp only
    rw [allowed]
    exact .inr ⟨row, rfl, sound.leases row (List.mem_of_find?_eq_some found)⟩
  · refine ⟨.lost, .lost there, ?_⟩
    cases table.find? key world.db with
    | none => exact .inl rfl
    | some row =>
      dsimp only
      cases _authorize store actor row.owner_scope.text [] "read" <;> exact .inl rfl

/-- A consumption inside a transaction is refused, or uses up the approval unless it is reusable. -/
theorem consumption_cases (store : Store) (actor : Actor) (use : Consumption) (world : World) :
    (∃ error refused, consumeWithin store actor use world = (.error error, refused) ∧
      Logged world refused) ∨
    ∃ row consumed, world.db.approval? use.approval_id = some row ∧ row.status = .APPROVED ∧
      consumeWithin store actor use world = (.ok consumed, world) ∧
      Logged (if row.reusable then world else setApproval use.approval_id .CONSUMED world) consumed := by
  rw [consumeWithin]
  split
  · exact .inl ⟨_, _, rfl, .refl world⟩
  dsimp only
  split
  next row found covered =>
    rw [found] at covered
    exact .inr ⟨row, _, found, (covered_of_consumeRefusal covered).2.1, rfl, _, _, rfl⟩
  next => exact .inl ⟨_, _, rfl, _, _, rfl⟩

/-- The transaction of an authorization does all of it, or raises and does nothing. -/
theorem authorizing_authorizeRow (apart : table.Apart) (values : Authorization)
    (waits : values.awaiting = awaiting) (use : Consumption) (named : use.approval_id = approval_id)
    (stamp : Option String) :
    Authorizing table awaiting store actor approval_id key
      (fun last outcome => match outcome with
        | .ok () => last = .authorized
        | .error _ => last = .seen) .seen
      (authorizeRow table values store actor use key stamp) := by
  subst waits named
  refine .transact fun world _ => ?_
  rcases consumption_cases store actor use world with
    ⟨error, refused, ended, logged⟩ | ⟨row, consumed, found, approved, ended, audit_log, drawn, same⟩
  · dsimp only
    rw [ended]
    exact ⟨.seen, .same (.of_logged apart logged), rfl⟩
  · dsimp only
    rw [ended]
    dsimp only
    have rows : table.rows consumed.db = table.rows world.db := by
      rw [same]
      split
      · exact apart world.db world.db.approvals audit_log
      · exact apart world.db _ audit_log
    split
    next met =>
      obtain ⟨waiting, there, holds⟩ := List.any_eq_true.mp met
      rw [Bool.and_eq_true, beq_iff_eq, beq_iff_eq] at holds
      refine ⟨.authorized, .authorized ⟨⟨row, found, approved, ?_⟩, ⟨waiting, rows ▸ there, holds⟩,
        stamp.getD world.clock.utc.isoformat, ?_⟩, rfl⟩
      · refine (table.frame _ consumed.db).1.trans ?_
        rw [same]
        split <;> rfl
      · refine (apart _ _ _).trans ?_
        rw [OutboxTable.update, table.rows_put, rows]
        rfl
    next => exact ⟨.seen, .same (.refl world), rfl⟩

omit [Platform] in
/-- A delivery that is read first is seen. -/
theorem authorizing_get_alert_delivery (key : String) :
    Authorizing alertDeliveryOutbox awaiting store actor approval_id key
      (fun last outcome => last ≠ .authorized ∧ ∀ delivery, outcome = .ok delivery → last = .seen)
      .fresh (get_alert_delivery store actor key) := by
  refine (authorizing_getRow _).bind (fun last row ended => ?_) fun last error ended => ?_
  · cases ended.2 row rfl
    refine .read_bind fun world _ => ⟨.seen, .same (.refl world), ?_⟩
    cases leaseState row world.clock with
    | error error => exact ⟨by nofun, fun _ read => nomatch read⟩
    | ok lease_state => exact ⟨by nofun, fun _ _ => rfl⟩
  · exact ⟨ended.1, fun _ read => nomatch read⟩

omit [Platform] in
/-- The state of a lease that ends at a time is known. -/
theorem leaseState_ok {row : OutboxRow DeliveryColumns} (clock : Reading)
    (ends : ∀ text, given row.lease_expires_at = some text →
      ∃ moment, fromisoformat text = some moment ∧ moment.aware = true) :
    ∃ lease_state, leaseState row clock = .ok lease_state := by
  rw [leaseState]
  split
  · exact ⟨_, rfl⟩
  split
  · exact ⟨_, rfl⟩
  cases expires : given row.lease_expires_at with
  | none => exact ⟨_, rfl⟩
  | some text =>
    obtain ⟨moment, read, aware⟩ := ends text expires
    dsimp only
    rw [reached, read]
    dsimp only
    rw [if_pos aware]
    exact ⟨_, rfl⟩

omit [Platform] in
/-- The last read of a delivery raises only where it was lost. -/
theorem authorizing_reread_delivery (key : String) :
    Authorizing alertDeliveryOutbox awaiting store actor approval_id key Unauthorized .authorized
      (get_alert_delivery store actor key) := by
  refine (authorizing_reread _).bind (fun last row ended => ?_) fun last error ended => ?_
  · refine .read_bind fun world _ => ⟨last, .same (.refl world), ?_⟩
    rcases ended with rfl | ⟨_, same, leases⟩
    · cases leaseState row world.clock <;> exact fun _ _ => by nofun
    · cases same
      obtain ⟨lease_state, known⟩ := leaseState_ok world.clock leases
      rw [known]
      exact fun _ raised => nomatch raised
  · rcases ended with rfl | ⟨_, same, _⟩
    · exact fun _ _ => by nofun
    · cases same

omit [Platform] in
/-- The last read of a backup row raises only where it was lost. -/
theorem authorizing_reread_row (missing : String) :
    Authorizing table awaiting store actor approval_id key Unauthorized .authorized
      (getRow table missing store actor key) := by
  refine (authorizing_reread missing).mono fun last outcome ended error raised => ?_
  rcases ended with rfl | ⟨_, same, _⟩
  · nofun
  · rw [same] at raised
    cases raised

/-- The transaction of an authorization comes before a last read of its row. -/
theorem authorizing_then {α : Type} (apart : table.Apart) (values : Authorization)
    (waits : values.awaiting = awaiting) (use : Consumption) (named : use.approval_id = approval_id)
    (stamp : Option String) {reread : Op α}
    (last : Authorizing table awaiting store actor approval_id key Unauthorized .authorized reread) :
    Authorizing table awaiting store actor approval_id key Unauthorized .seen
      (authorizeRow table values store actor use key stamp >>= fun _ => reread) := by
  refine (authorizing_authorizeRow apart values waits use named stamp).bind
    (fun phase _ ended => ?_) fun phase error ended => ?_
  · dsimp only at ended
    subst ended
    exact last
  · dsimp only at ended
    subst ended
    exact fun _ _ => by nofun

omit [Platform] in
/-- What a call has seen of its row comes before the rest. -/
theorem authorizing_seen {α β : Type} {program : Op α} {rest : α → Op β}
    (first : Authorizing table awaiting store actor approval_id key
      (fun last outcome => last ≠ .authorized ∧ ∀ value, outcome = .ok value → last = .seen) .fresh
      program)
    (follows : ∀ value,
      Authorizing table awaiting store actor approval_id key Unauthorized .seen (rest value)) :
    Authorizing table awaiting store actor approval_id key Unauthorized .fresh
      (program >>= rest) := by
  refine first.bind (fun last value ended => ?_) fun last error ended _ _ => ended.1
  cases ended.2 value rfl
  exact follows value

/-- The authorization of an alert delivery. -/
theorem authorizing_alert_delivery (delivery_id : String) :
    Authorizing alertDeliveryOutbox .STAGED store actor approval_id delivery_id Unauthorized .fresh
      (authorize_alert_delivery store actor delivery_id approval_id) := by
  unfold authorize_alert_delivery
  split
  · exact fun _ _ => by nofun
  refine authorizing_seen (authorizing_get_alert_delivery _) fun delivery => ?_
  dsimp only
  split
  · split
    · exact fun _ _ => by nofun
    · exact fun _ _ => by nofun
  · exact authorizing_then (by exact fun _ _ _ => rfl) _ (by exact rfl) _ (by exact rfl) none (authorizing_reread_delivery _)

/-- The authorization of a backup transfer. -/
theorem authorizing_backup_transfer (plan_sha256 : String) :
    Authorizing backupTransferOutbox .PREFLIGHT_VALIDATED store actor approval_id plan_sha256
      Unauthorized .fresh (authorize_backup_transfer store actor plan_sha256 approval_id) := by
  unfold authorize_backup_transfer
  split
  · exact fun _ _ => by nofun
  refine authorizing_seen (authorizing_getRow _) fun row => ?_
  split
  · exact fun _ _ => by nofun
  split
  · exact fun _ _ => by nofun
  refine authorizing_logs_bind (fun _ _ _ => rfl) (logging_lift _) (fun conditions => ?_)
    fun _ _ _ => by nofun
  exact authorizing_then (by exact fun _ _ _ => rfl) _ (by exact rfl) _ (by exact rfl) none (authorizing_reread_row _)

/-- The authorization of an isolated restore. -/
theorem authorizing_backup_restore (plan_sha256 : String) (at_ : Option String) :
    Authorizing backupRestoreOutbox .PREFLIGHT_VALIDATED store actor approval_id plan_sha256
      Unauthorized .fresh (authorize_backup_restore store actor plan_sha256 approval_id at_) := by
  unfold authorize_backup_restore
  split
  · exact fun _ _ => by nofun
  refine authorizing_seen (authorizing_getRow _) fun row => ?_
  split
  · exact fun _ _ => by nofun
  split
  · exact fun _ _ => by nofun
  refine authorizing_logs_bind (fun _ _ _ => rfl) (logging_timeOr at_) (fun stamp => ?_)
    fun _ _ _ => by nofun
  refine authorizing_logs_bind (fun _ _ _ => rfl) (logging_lift _) (fun instant => ?_)
    fun _ _ _ => by nofun
  refine authorizing_logs_bind (fun _ _ _ => rfl) (logging_lift _) (fun inside => ?_)
    fun _ _ _ => by nofun
  split
  · exact fun _ _ => by nofun
  refine authorizing_logs_bind (fun _ _ _ => rfl) (logging_lift _) (fun conditions => ?_)
    fun _ _ _ => by nofun
  exact authorizing_then (by exact fun _ _ _ => rfl) _ (by exact rfl) _ (by exact rfl) (some stamp) (authorizing_reread_row _)

end Calls

/-- A step uses up an approval. -/
def Consumes (approval_id : String) (step : Taken World Label) : Prop :=
  (step.before.db.approval? approval_id).map (·.status) = some .APPROVED ∧
    (step.after.db.approval? approval_id).map (·.status) = some .CONSUMED

/-- The approval that is found has the identifier it was searched by. -/
theorem record_id_of_approval? {db : Database} {id : String} {row : ApprovalRow}
    (found : db.approval? id = some row) : row.record_id = id := by
  simpa using List.find?_some found

section Rows

variable {Columns : Type} (table : OutboxTable Columns) (key : String)

/-- A step gives the row under a key the state of an authorized one, with an approval. -/
def AuthorizesRow (approval_id : String) (step : Taken World Label) : Prop :=
  ∃ row later, table.find? key step.before.db = some row ∧ row.status ≠ .AUTHORIZED ∧
    table.find? key step.after.db = some later ∧ later.status = .AUTHORIZED ∧
      later.approval_id = some approval_id

/-- A run of an authorization consumes its approval and authorizes its row together, or does neither. -/
structure WholeAuthorization {α : Type} (steps : List (Taken World Label))
    (outcome : Option (Except Error α)) : Prop where
  /-- A step uses up a single-use approval exactly where it authorizes the row with it. -/
  together : ∀ step ∈ steps, ∀ approval_id row,
    step.before.db.approval? approval_id = some row → row.reusable = false →
      (Consumes approval_id step ↔ AuthorizesRow table key approval_id step)
  /-- A call that raises has left the approvals and the rows of the outbox alone. -/
  failed : ∀ error, outcome = some (.error error) → ∀ step ∈ steps,
    SameAuthority table step.before step.after

variable {table key} {awaiting : OutboxStatus} {approval_id : String}

/-- A step that leaves approvals and rows alone neither uses up one nor authorizes the other. -/
theorem SameAuthority.neither {step : Taken World Label}
    (same : SameAuthority table step.before step.after) (id : String) :
    ¬Consumes id step ∧ ¬AuthorizesRow table key id step := by
  constructor
  · rintro ⟨approved, consumed⟩
    rw [Database.approval?, same.approvals, ← Database.approval?, approved] at consumed
    cases consumed
  · rintro ⟨row, later, found, other, after, status, _⟩
    rw [OutboxTable.find?, same.rows, ← OutboxTable.find?, found] at after
    cases after
    exact other status

/-- The step that authorizes uses up its single-use approval, and no other one. -/
theorem UsesApproval.together {step : Taken World Label}
    (uses : UsesApproval table awaiting approval_id key step.before step.after)
    (sound : SoundOutbox table step.before) (other : awaiting ≠ .AUTHORIZED) {id : String}
    {row : ApprovalRow} (found : step.before.db.approval? id = some row)
    (single : row.reusable = false) : Consumes id step ↔ AuthorizesRow table key id step := by
  obtain ⟨approval, there, approved, approvals⟩ := uses.approval
  obtain ⟨stamp, rows⟩ := uses.find? key
  obtain ⟨waiting, member, named, waits⟩ := uses.waiting
  -- The row that waits is the one under the key, of which there is no other.
  have current : table.find? key step.before.db = some waiting := by
    have unique : (⟨table.rows step.before.db, sound.keyed⟩ : Table (OutboxRow.key)).find?
        waiting.key = some waiting := Table.find?_of_mem member
    rwa [named] at unique
  have later : table.find? key step.after.db = some (waiting.authorizedWith approval_id stamp) := by
    rw [rows, current, Option.map_some, named, waits]
    simp
  constructor
  · rintro ⟨was, consumed⟩
    refine ⟨waiting, _, current, waits ▸ other, later, rfl, ?_⟩
    -- An approval that the step did not name has the state it had.
    by_contra apart
    have differs : id ≠ approval_id := fun same => apart (same ▸ rfl)
    have kept : step.after.db.approval? id = step.before.db.approval? id := by
      rw [Database.approval?, approvals]
      split
      · rfl
      · rw [← Database.approval?, approval?_setApproval, found, Option.map_some,
          if_neg (record_id_of_approval? found ▸ differs)]
    rw [kept, was] at consumed
    cases consumed
  · rintro ⟨_, after, _, _, known, _, with_⟩
    rw [later] at known
    cases known
    obtain rfl : approval_id = id := Option.some.inj with_
    rw [there] at found
    cases found
    refine ⟨by rw [there, Option.map_some, approved], ?_⟩
    rw [Database.approval?, approvals, single, if_neg Bool.false_ne_true, ← Database.approval?,
      approval?_setApproval, there, Option.map_some, Option.map_some,
      if_pos (record_id_of_approval? there)]

/-- Every run of a call that moves as an authorization may is whole. -/
theorem whole_of_authorizing {α : Type} {store : Store} {actor : Actor} {program : Op α}
    (other : awaiting ≠ .AUTHORIZED)
    (authorizing : Authorizing table awaiting store actor approval_id key Unauthorized .fresh program)
    {start last : World} {steps : List (Taken World Label)} {outcome : Option (Except Error α)}
    (sound : SoundOutbox table start)
    (run : program.Among (AuthorityDrift table) start steps outcome last) :
    WholeAuthorization table key steps outcome := by
  have held : AuthorizeHolds table store actor key .fresh start := sound
  obtain ⟨final, lost, path, ended⟩ := authorizing.among
    (fun _ _ _ _ _ held move => move.holds held) (fun _ _ _ held drift => drift.holds held) held run
  constructor
  · refine path.forall fun phase step later held move => ?_
    intro id row found single
    have neither : SameAuthority table step.before step.after →
        (Consumes id step ↔ AuthorizesRow table key id step) := fun same => by
      obtain ⟨unused, waiting⟩ : ¬Consumes id step ∧ ¬AuthorizesRow table key id step :=
        same.neither id
      exact iff_of_false unused waiting
    obtain ⟨label, before, after⟩ := step
    cases move with
    | same same => exact neither same
    | seen | lost => exact neither (.refl _)
    | authorized uses => exact uses.together held.1 other found single
  · -- On the way to a phase that is not the authorized one nothing was authorized.
    intro error raised
    refine (path.toward (fun phase => phase ≠ .authorized ∧ phase ≠ .lost) ?_ ?_).2
    · rintro phase ⟨label, before, after⟩ later _ move certain
      cases move with
      | same same => exact ⟨certain, same⟩
      | seen => exact ⟨⟨by nofun, by nofun⟩, .refl _⟩
      | authorized => exact absurd rfl certain.1
      | lost => exact absurd rfl certain.2
    · refine ⟨ended _ raised error rfl, ?_⟩
      rintro rfl
      exact lost

end Rows

section Authorizations

variable [Platform] (store : Store) (actor : Actor) (approval_id key : String)
  (at_ : Option String) (start last : World) (steps : List (Taken World Label))

/--
Authorization is atomic in every interleaving, with a crash at any point.

The approval is used up and the row is authorized with it in one step of the call, or neither is; a
call that raises has changed neither.
-/
theorem whole_authorization :
    (∀ outcome, SoundOutbox backupTransferOutbox start →
      (authorize_backup_transfer store actor key approval_id).Among
        (AuthorityDrift backupTransferOutbox) start steps outcome last →
          WholeAuthorization backupTransferOutbox key steps outcome) ∧
    (∀ outcome, SoundOutbox backupRestoreOutbox start →
      (authorize_backup_restore store actor key approval_id at_).Among
        (AuthorityDrift backupRestoreOutbox) start steps outcome last →
          WholeAuthorization backupRestoreOutbox key steps outcome) ∧
    ∀ outcome, SoundOutbox alertDeliveryOutbox start →
      (authorize_alert_delivery store actor key approval_id).Among
        (AuthorityDrift alertDeliveryOutbox) start steps outcome last →
          WholeAuthorization alertDeliveryOutbox key steps outcome :=
  ⟨fun _ sound run => whole_of_authorizing (by nofun) (authorizing_backup_transfer key) sound run,
    fun _ sound run => whole_of_authorizing (by nofun) (authorizing_backup_restore key at_) sound run,
    fun _ sound run => whole_of_authorizing (by nofun) (authorizing_alert_delivery key) sound run⟩

end Authorizations

section Examples

open Sample

local instance wholeAuthorizationPlatform : Platform := platform []

/-- A row that waits for its authorization. -/
def Sample.awaitingRow {χ : Type} (key : String) (status : OutboxStatus) (columns : χ) :
    OutboxRow χ where
  key := key
  owner_scope := .IAC
  status := status
  approval_id := none
  attempt_count := 0
  max_attempts := 3
  available_at := "2029-12-31T00:00:00+00:00"
  lease_owner := none
  lease_expires_at := none
  last_error := none
  preflight_receipt_payload := none
  receipt_payload := none
  created_at := "2029-12-31T00:00:00+00:00"
  updated_at := "2029-12-31T00:00:00+00:00"
  finished_at := none
  columns := columns

/-- A plan for the year 2030 with some members, each with its own name. -/
def Sample.namedPlan (names : List String) : Json :=
  .obj ([("window_start", .str "2030-01-01T00:00:00+00:00"),
    ("window_end", .str "2031-01-01T00:00:00+00:00")] ++ names.map fun name => (name, .str name))

/-- A transfer that waits for its authorization. -/
def Sample.awaitingTransfer : OutboxRow TransferColumns :=
  awaitingRow "transfer" .PREFLIGHT_VALIDATED {
    approval_target := "upload", proposal_sha256 := "proposal"
    plan_payload := namedPlan ["backup_sha256", "provider", "destination_ref", "data_region",
      "provider_endpoint", "provider_writer_identity_ref", "client_encryption_key_ref", "object_ref",
      "retention_mode", "retention_days", "max_cost_cad"] }

/-- A restore that waits for its authorization. -/
def Sample.awaitingRestore : OutboxRow RestoreColumns :=
  awaitingRow "restore" .PREFLIGHT_VALIDATED {
    approval_target := "isolated", upload_plan_sha256 := "upload", upload_receipt_sha256 := "receipt"
    restore_key_proposal_sha256 := "key"
    plan_payload := namedPlan ["provider", "data_region", "provider_endpoint", "destination_ref",
      "object_ref", "provider_version_ref", "provider_restore_identity_ref",
      "client_encryption_key_ref", "ciphertext_sha256", "expected_plaintext_sha256",
      "restore_target_ref", "max_cost_cad"] }

/-- A delivery that waits for its authorization. -/
def Sample.awaitingDelivery : OutboxRow DeliveryColumns :=
  awaitingRow "delivery" .STAGED {
    plan_id := "plan", incident_id := "incident", reopen_generation := 0
    route_id := "iac-operator", destination_kind := "EMAIL", destination_ref := "iac-ops-alias"
    alert_payload := .obj [], payload_sha256 := "" }

/-- A row of each outbox that waits for its authorization, with the approval of each. -/
def Sample.awaiting : World :=
  let until_ := "2099-01-01T00:00:00+00:00"
  let conditions (required : Except Error (List (String × Json))) : Json :=
    .obj (required.toOption.getD [])
  world { Database.empty with
    approvals := [approval until_,
      { approval until_ with
        record_id := "one", action_type := "RUN_INDEPENDENT_BACKUP_RESTORE_DRILL", target := "upload"
        conditions := conditions (_backup_transfer_approval_conditions awaitingTransfer) },
      { approval until_ with
        record_id := "two", action_type := "RUN_ISOLATED_BACKUP_RESTORE", target := "isolated"
        conditions := conditions (_backup_restore_approval_conditions awaitingRestore) }]
    backup_transfer_outbox := [awaitingTransfer], backup_restore_outbox := [awaitingRestore]
    alert_delivery_outbox := [awaitingDelivery] }

/-- Before each step of the call the kill switch is turned on by somebody else, and time passes. -/
def Sample.meanwhile (world : World) : World :=
  hourPasses { world with db := { world.db with kill_switch := "ON" } }

theorem Sample.drift_meanwhile {Columns : Type} (table : OutboxTable Columns)
    (kept : ∀ world, table.rows (meanwhile world).db = table.rows world.db) (world : World) :
    AuthorityDrift table world (meanwhile world) where
  stays key row found := by
    rw [OutboxTable.find?, kept]
    exact ⟨row, found, rfl⟩
  sound sound := by
    refine ⟨?_, ?_⟩
    · rw [kept]
      exact sound.keyed
    · rw [kept]
      exact sound.leases

/-- Each of the three authorizations uses up its approval, though others move before every step. -/
theorem whole_authorization_delivery :
    (∃ steps outcome last,
      (authorize_backup_transfer ⟨.IAC⟩ .sean "transfer" "one").Among
        (AuthorityDrift backupTransferOutbox) awaiting steps outcome last ∧
      last.db.approvals.map (·.status) = [.APPROVED, .CONSUMED, .APPROVED] ∧
      WholeAuthorization backupTransferOutbox "transfer" steps outcome) ∧
    (∃ steps outcome last,
      (authorize_backup_restore ⟨.IAC⟩ .sean "restore" "two" none).Among
        (AuthorityDrift backupRestoreOutbox) awaiting steps outcome last ∧
      last.db.approvals.map (·.status) = [.APPROVED, .APPROVED, .CONSUMED] ∧
      WholeAuthorization backupRestoreOutbox "restore" steps outcome) ∧
    ∃ steps outcome last,
      (authorize_alert_delivery ⟨.IAC⟩ .sean "delivery" (approval "").record_id).Among
        (AuthorityDrift alertDeliveryOutbox) awaiting steps outcome last ∧
      last.db.approvals.map (·.status) = [.CONSUMED, .APPROVED, .APPROVED] ∧
      WholeAuthorization alertDeliveryOutbox "delivery" steps outcome := by
  have whole (approval_id key : String) := whole_authorization ⟨.IAC⟩ .sean approval_id key none awaiting
  have transfers : SoundOutbox backupTransferOutbox awaiting := by
    refine ⟨by decide, fun row there text ends => ?_⟩
    cases List.mem_singleton.mp there
    cases ends
  have restores : SoundOutbox backupRestoreOutbox awaiting := by
    refine ⟨by decide, fun row there text ends => ?_⟩
    cases List.mem_singleton.mp there
    cases ends
  have deliveries : SoundOutbox alertDeliveryOutbox awaiting := by
    refine ⟨by decide, fun row there text ends => ?_⟩
    cases List.mem_singleton.mp there
    cases ends
  refine ⟨?_, ?_, ?_⟩
  · obtain ⟨steps, run⟩ := Prog.Among.amid (drift_meanwhile backupTransferOutbox fun _ => rfl)
      (authorize_backup_transfer ⟨.IAC⟩ .sean "transfer" "one") awaiting
    exact ⟨steps, _, _, run, by decide +kernel, (whole "one" "transfer" _ steps).1 _ transfers run⟩
  · obtain ⟨steps, run⟩ := Prog.Among.amid (drift_meanwhile backupRestoreOutbox fun _ => rfl)
      (authorize_backup_restore ⟨.IAC⟩ .sean "restore" "two" none) awaiting
    exact ⟨steps, _, _, run, by decide +kernel, (whole "two" "restore" _ steps).2.1 _ restores run⟩
  · obtain ⟨steps, run⟩ := Prog.Among.amid (drift_meanwhile alertDeliveryOutbox fun _ => rfl)
      (authorize_alert_delivery ⟨.IAC⟩ .sean "delivery" (approval "").record_id) awaiting
    exact ⟨steps, _, _, run, by decide +kernel, (whole _ "delivery" _ steps).2.2 _ deliveries run⟩

end Examples

end SeanOs
