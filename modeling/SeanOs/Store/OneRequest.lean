import SeanOs.Lib.Exclusive
import SeanOs.Lib.IsoLaws
import SeanOs.Store.BackupRestores
import SeanOs.Store.DeliveryLife

/-! One request at a time is open for a target, while nobody asks between another's look and insertion. -/

namespace SeanOs

open Atomic Calendar

namespace World

variable (world : World)

/-- What a request for a row asks about: the target and the scope of the row. -/
def requestTarget : Outbox → String → Option (String × Scope)
  | .backup_transfer, key =>
    (backupTransferOutbox.find? key world.db).map fun row => (row.columns.approval_target, .IAC)
  | .backup_restore, key =>
    (backupRestoreOutbox.find? key world.db).map fun row => (row.columns.approval_target, .IAC)
  | .alert_delivery, key =>
    (alertDeliveryOutbox.find? key world.db).map fun row => (key, row.owner_scope)

/-- The requests for a target of an outbox that are pending and have not ended. -/
def openRequests (outbox : Outbox) (target : String) : List ApprovalRow :=
  world.db.approvals.filter fun row => row.action_type == outbox.action && (row.target == target &&
    (row.status == .PENDING && reached row.expires_at world.clock != .ok true))

end World

/-- At most one request is open for each target, and calls that ask for the same get the same. -/
structure OneRequest (world : World) : Prop where
  single : ∀ outbox target, (world.openRequests outbox target).length ≤ 1
  same : ∀ outbox key max_impact expires_at one two,
    .requested outbox key max_impact expires_at one ∈ world.effects →
      .requested outbox key max_impact expires_at two ∈ world.effects → two = one

/-- A request for the approval of a row, and a record of its answer. -/
def answering (outbox : Outbox) (key max_impact expires_at : String) (request : Op String) :
    Op Unit :=
  request >>= fun approval_id =>
    Prog.write (.external (.requested outbox key max_impact expires_at approval_id)) fun world =>
      { world with effects := .requested outbox key max_impact expires_at approval_id ::
          world.effects }

/-- The calls of the operations that request an approval. -/
inductive RequestCall [Platform] : Op Unit → Prop
  | transfer (store : Store) (actor : Actor) (plan_sha256 max_impact expires_at : String) :
      RequestCall (answering .backup_transfer plan_sha256 max_impact expires_at
        (request_backup_transfer_approval store actor plan_sha256 max_impact expires_at))
  | restore (store : Store) (actor : Actor) (plan_sha256 max_impact expires_at : String) :
      RequestCall (answering .backup_restore plan_sha256 max_impact expires_at
        (request_backup_restore_approval store actor plan_sha256 max_impact expires_at))
  | delivery (store : Store) (actor : Actor) (delivery_id max_impact expires_at : String) :
      RequestCall (answering .alert_delivery delivery_id max_impact expires_at
        (request_alert_delivery_approval store actor delivery_id max_impact expires_at))

/-- A row requests an approval for a target of an outbox. -/
structure ApprovalRow.Asks (row : ApprovalRow) (outbox : Outbox) (target : String) : Prop where
  action : row.action_type = outbox.action
  target : row.target = target

/-- A request that was not decided: it is pending, or ended while it was. -/
def ApprovalRow.Undecided (row : ApprovalRow) : Prop :=
  row.status = .PENDING ∨ row.status = .EXPIRED

/-- A request with an identifier and an expiry is there for a target, and was not decided. -/
def World.HasRequest (world : World) (outbox : Outbox) (target expires_at approval_id : String) :
    Prop :=
  ∃ row ∈ world.db.approvals, row.record_id = approval_id ∧ row.Undecided ∧
    row.Asks outbox target ∧ row.expires_at = expires_at

/-- What the requests of a store satisfy between the steps of the calls. -/
structure RequestsSound (world : World) : Prop where
  /-- Identifiers are unique. -/
  distinct : (world.db.approvals.map (·.record_id)).Nodup
  /-- A request that was not decided is for a row that is there. -/
  targeted : ∀ row ∈ world.db.approvals, row.Undecided → ∀ outbox target, row.Asks outbox target →
    ∃ key, world.requestTarget outbox key = some (target, row.scope)
  /-- One request for a target is pending. -/
  single : ∀ one ∈ world.db.approvals, ∀ two ∈ world.db.approvals, one.status = .PENDING →
    two.status = .PENDING → ∀ outbox target, one.Asks outbox target → two.Asks outbox target →
      two = one
  /-- A request that is marked as ended has ended. -/
  ended : ∀ row ∈ world.db.approvals, row.status = .EXPIRED → ∀ outbox target,
    row.Asks outbox target → reached row.expires_at world.clock = .ok true
  /-- No two requests for a target end at the same time. -/
  alike : ∀ one ∈ world.db.approvals, ∀ two ∈ world.db.approvals, one.Undecided → two.Undecided →
    ∀ outbox target, one.Asks outbox target → two.Asks outbox target →
      two.expires_at = one.expires_at → two = one
  /-- What was answered is there. -/
  answered : ∀ outbox key max_impact expires_at approval_id,
    .requested outbox key max_impact expires_at approval_id ∈ world.effects →
      ∃ target scope, world.requestTarget outbox key = some (target, scope) ∧
        world.HasRequest outbox target expires_at approval_id

/-- What may happen besides: time goes on, and the approvals, the answers and the targets stay. -/
structure RequestsLeft (world changed : World) : Prop where
  clock : world.clock ≤ changed.clock
  approvals : changed.db.approvals = world.db.approvals
  effects : changed.effects = world.effects
  targets : ∀ outbox key asked, world.requestTarget outbox key = some asked →
    changed.requestTarget outbox key = some asked

section Rows

variable {world changed : World}

/-- The actions of two outboxes differ. -/
theorem Outbox.action_injective {one two : Outbox} (same : one.action = two.action) :
    one = two := by
  cases one <;> cases two <;> first | rfl | exact absurd same (by decide)

/-- The scope of a request is that of its target. -/
theorem requestTarget_scope {outbox : Outbox} {key other target : String} {one two : Scope}
    (here : world.requestTarget outbox key = some (target, one))
    (there : world.requestTarget outbox other = some (target, two)) : two = one := by
  cases outbox with
  | backup_transfer | backup_restore =>
    simp only [World.requestTarget, Option.map_eq_some_iff, Prod.mk.injEq] at here there
    obtain ⟨_, _, _, rfl⟩ := here
    obtain ⟨_, _, _, rfl⟩ := there
    rfl
  | alert_delivery =>
    -- The target of a delivery is its key, so both are the same row.
    simp only [World.requestTarget, Option.map_eq_some_iff, Prod.mk.injEq] at here there
    obtain ⟨row, found, rfl, rfl⟩ := here
    obtain ⟨next, again, rfl, rfl⟩ := there
    rw [found] at again
    rw [Option.some.inj again]

/-- What was reached stays reached. -/
theorem reached_mono {text : String} {before after : Reading} (later : before ≤ after)
    (past : reached text before = .ok true) : reached text after = .ok true := by
  rw [reached] at past ⊢
  cases read : fromisoformat text with
  | none =>
    rw [read] at past
    cases past
  | some moment =>
    rw [read] at past
    dsimp only at past ⊢
    split at past
    next aware =>
      rw [if_pos aware]
      have instant : moment.instant ≤ before.utc.instant := by simpa using past
      rw [Reading.instant_utc] at instant ⊢
      have step : (before.val : ℤ) ≤ after.val := by exact_mod_cast later
      simpa using instant.trans step
    next => cases past

/-- A time that a record may end at has not been reached when it is created. -/
theorem checkTimes_open {clock : Reading} {expires_at : String}
    (checked : checkTimes clock.utc.isoformat (some expires_at) = .ok ()) :
    reached expires_at clock ≠ .ok true := by
  intro past
  rw [reached] at past
  cases read : fromisoformat expires_at with
  | none =>
    rw [read] at past
    cases past
  | some moment =>
    rw [read] at past
    dsimp only at past
    split at past
    next aware =>
      have instant : moment.instant ≤ clock.utc.instant := by simpa using past
      have filled : given (some expires_at) = some expires_at := by
        have other : expires_at ≠ "" := by
          rintro rfl
          cases read
        simp [given, other]
      rw [checkTimes, filled, Option.map_some, read, fromisoformat_isoformat] at checked
      rw [Reading.instant_utc] at instant
      simp [aware] at checked
      omega
    next => cases past

theorem RequestsLeft.refl (world : World) : RequestsLeft world world :=
  ⟨le_rfl, rfl, rfl, fun _ _ _ => id⟩

/-- What leaves the outboxes, the approvals and the answers alone leaves the requests. -/
theorem RequestsLeft.of_eq (clock : changed.clock = world.clock)
    (approvals : changed.db.approvals = world.db.approvals)
    (effects : changed.effects = world.effects)
    (transfers : changed.db.backup_transfer_outbox = world.db.backup_transfer_outbox)
    (restores : changed.db.backup_restore_outbox = world.db.backup_restore_outbox)
    (deliveries : changed.db.alert_delivery_outbox = world.db.alert_delivery_outbox) :
    RequestsLeft world changed := by
  refine ⟨clock.ge, approvals, effects, fun outbox key asked there => ?_⟩
  rw [← there]
  cases outbox with
  | backup_transfer => exact congrArg (fun rows : List (OutboxRow TransferColumns) =>
      (rows.find? (·.key == key)).map fun row => (row.columns.approval_target, Scope.IAC)) transfers
  | backup_restore => exact congrArg (fun rows : List (OutboxRow RestoreColumns) =>
      (rows.find? (·.key == key)).map fun row => (row.columns.approval_target, Scope.IAC)) restores
  | alert_delivery => exact congrArg (fun rows : List (OutboxRow DeliveryColumns) =>
      (rows.find? (·.key == key)).map fun row => (key, row.owner_scope)) deliveries

theorem RequestsLeft.of_logged (logged : Logged world changed) : RequestsLeft world changed := by
  refine .of_eq logged.clock (logged.same fun _ _ => rfl) ?_ (logged.same fun _ _ => rfl)
    (logged.same fun _ _ => rfl) (logged.same fun _ _ => rfl)
  obtain ⟨_, _, rfl⟩ := logged
  rfl

/-- Changes that leave the requests keep what they satisfy. -/
theorem RequestsLeft.sound (left : RequestsLeft world changed) (sound : RequestsSound world) :
    RequestsSound changed where
  distinct := by
    rw [left.approvals]
    exact sound.distinct
  targeted := by
    rw [left.approvals]
    intro row there undecided outbox target asks
    obtain ⟨key, found⟩ := sound.targeted row there undecided outbox target asks
    exact ⟨key, left.targets _ _ _ found⟩
  single := by
    rw [left.approvals]
    exact sound.single
  ended := by
    rw [left.approvals]
    exact fun row there expired outbox target asks =>
      reached_mono left.clock (sound.ended row there expired outbox target asks)
  alike := by
    rw [left.approvals]
    exact sound.alike
  answered := by
    rw [left.effects]
    intro outbox key max_impact expires_at approval_id there
    obtain ⟨target, scope, found, has⟩ := sound.answered _ _ _ _ _ there
    refine ⟨target, scope, left.targets _ _ _ found, ?_⟩
    rw [World.HasRequest, left.approvals]
    exact has

end Rows

/-- What a call asks about: the row, and the target and the scope it found there. -/
structure Ask where
  outbox : Outbox
  key : String
  target : String
  scope : Scope

/-- The target of an ask is what a request for its row asks about. -/
def Ask.Known (ask : Ask) (world : World) : Prop :=
  world.requestTarget ask.outbox ask.key = some (ask.target, ask.scope)

/-- How far a call is, and what it has found. -/
inductive AskPhase where
  | start
  | known (ask : Ask)
  /-- It has the pending requests. -/
  | looked (ask : Ask) (rows : List ApprovalRow)
  | timed (ask : Ask) (rows : List ApprovalRow) (clock : Reading)
  /-- It has requests that are left. -/
  | seen (ask : Ask) (rows : List ApprovalRow)
  /-- It has found no pending request. -/
  | cleared (ask : Ask)
  /-- It has found none with that expiry either. -/
  | free (ask : Ask) (expires_at : String)
  | answered (ask : Ask) (expires_at approval_id : String)

namespace AskPhase

/-- What a call knows for good. -/
def knows : AskPhase → World → Prop
  | .start, _ => True
  | .known ask, world | .cleared ask, world | .free ask _, world => ask.Known world
  | .looked ask rows, world | .seen ask rows, world => ask.Known world ∧
    ∀ row ∈ rows, world.HasRequest ask.outbox ask.target row.expires_at row.record_id
  | .timed ask rows clock, world => ask.Known world ∧ clock ≤ world.clock ∧
    ∀ row ∈ rows, world.HasRequest ask.outbox ask.target row.expires_at row.record_id
  | .answered ask expires_at approval_id, world => ask.Known world ∧
    world.HasRequest ask.outbox ask.target expires_at approval_id

/-- What a call claims about a target, while nobody inserts a request for it. -/
def claims : AskPhase → Outbox × String → World → Prop
  | .looked ask rows, gate, world | .timed ask rows _, gate, world =>
    gate = (ask.outbox, ask.target) → ∀ row ∈ world.db.approvals, row.status = .PENDING →
      row.Asks ask.outbox ask.target → row ∈ rows
  | .cleared ask, gate, world => gate = (ask.outbox, ask.target) →
    ∀ row ∈ world.db.approvals, row.Asks ask.outbox ask.target → row.status ≠ .PENDING
  | .free ask expires_at, gate, world => gate = (ask.outbox, ask.target) →
    ∀ row ∈ world.db.approvals, row.Asks ask.outbox ask.target → row.status ≠ .PENDING ∧
      (row.Undecided → row.expires_at ≠ expires_at)
  | _, _, _ => True

/-- A call can answer with a request. -/
def tells : AskPhase → Ask → (expires_at approval_id : String) → Prop
  | .seen ask rows, asked, expires_at, approval_id => asked = ask ∧
    ∃ row ∈ rows, row.expires_at = expires_at ∧ row.record_id = approval_id
  | .answered ask expires approval, asked, expires_at, approval_id =>
    asked = ask ∧ expires_at = expires ∧ approval_id = approval
  | _, _, _, _ => False

end AskPhase

/-- What a step of a call does, and how far the call is after it. -/
inductive AskMove : AskPhase → Label → World → World → AskPhase → Prop
  | left {phase : AskPhase} {label : Label} {world changed : World}
      (other : ∀ outbox target, label ≠ .pending outbox target)
      (left : RequestsLeft world changed) : AskMove phase label world changed phase
  | known {ask : Ask} {world : World} (known : ask.Known world) :
      AskMove .start .select world world (.known ask)
  | looked {ask : Ask} {world : World} : AskMove (.known ask) (.pending ask.outbox ask.target)
      world world (.looked ask (pendingRequests ask.outbox.action ask.target ask.scope world.db))
  | timed {ask : Ask} {rows : List ApprovalRow} {world : World} :
      AskMove (.looked ask rows) .clock world world (.timed ask rows world.clock)
  | cleared {ask : Ask} {rows ended : List ApprovalRow} {clock : Reading} {world : World}
      (among : EndedAmong clock rows ended) (all : ∀ row ∈ rows, row ∈ ended) :
      AskMove (.timed ask rows clock) .records world (expireAll (ended.map (·.record_id)) world)
        (.cleared ask)
  | seen {ask : Ask} {rows ended active : List ApprovalRow} {clock : Reading} {world : World}
      (among : EndedAmong clock rows ended) (part : ∀ row ∈ active, row ∈ rows) :
      AskMove (.timed ask rows clock) .records world (expireAll (ended.map (·.record_id)) world)
        (.seen ask active)
  | free {ask : Ask} {expires_at : String} {world : World}
      (checked : checkTimes world.clock.utc.isoformat (some expires_at) = .ok ()) :
      AskMove (.cleared ask) .clock world world (.free ask expires_at)
  | requested {ask : Ask} {expires_at : String} {row : ApprovalRow} {world : World}
      (new : ∀ other ∈ world.db.approvals, other.record_id ≠ row.record_id)
      (pending : row.status = .PENDING) (asks : row.Asks ask.outbox ask.target)
      (owned : row.scope = ask.scope) (ends_ : row.expires_at = expires_at) :
      AskMove (.free ask expires_at) (.request ask.outbox ask.target) world
        (insertApproval row world) (.answered ask expires_at row.record_id)
  | told {phase : AskPhase} {ask : Ask} {max_impact expires_at approval_id : String}
      {world : World} (tells : phase.tells ask expires_at approval_id) :
      AskMove phase
        (.external (.requested ask.outbox ask.key max_impact expires_at approval_id)) world
        { world with effects :=
            .requested ask.outbox ask.key max_impact expires_at approval_id :: world.effects }
        phase

section Steps

variable {world changed : World}

/-- Changes that leave the requests leave what calls know. -/
theorem RequestsLeft.knows (left : RequestsLeft world changed) {phase : AskPhase}
    (knows : phase.knows world) : phase.knows changed := by
  have has {outbox : Outbox} {target expires_at approval_id : String}
      (there : world.HasRequest outbox target expires_at approval_id) :
      changed.HasRequest outbox target expires_at approval_id := by
    rw [World.HasRequest, left.approvals]
    exact there
  cases phase with
  | start => exact trivial
  | known ask | cleared ask | free ask _ => exact left.targets _ _ _ knows
  | looked ask rows | seen ask rows =>
    exact ⟨left.targets _ _ _ knows.1, fun row there => has (knows.2 row there)⟩
  | timed ask rows clock =>
    exact ⟨left.targets _ _ _ knows.1, knows.2.1.trans left.clock,
      fun row there => has (knows.2.2 row there)⟩
  | answered ask expires_at approval_id => exact ⟨left.targets _ _ _ knows.1, has knows.2⟩

/-- Changes that leave the requests leave what calls claim. -/
theorem RequestsLeft.claims (left : RequestsLeft world changed) {phase : AskPhase}
    {gate : Outbox × String} (claims : phase.claims gate world) : phase.claims gate changed := by
  cases phase with
  | start | known _ | seen _ _ | answered _ _ _ => exact trivial
  | looked ask rows | timed ask rows _ | cleared ask | free ask _ =>
    simp only [AskPhase.claims, left.approvals] at claims ⊢
    exact claims

section Expiry

variable {row : ApprovalRow} {ids : List String} {outbox : Outbox}
  {target expires_at approval_id : String}

@[simp] theorem expiredBy_record_id (ids : List String) (row : ApprovalRow) :
    (row.expiredBy ids).record_id = row.record_id := by
  rw [ApprovalRow.expiredBy]
  split <;> rfl

@[simp] theorem expiredBy_expires_at (ids : List String) (row : ApprovalRow) :
    (row.expiredBy ids).expires_at = row.expires_at := by
  rw [ApprovalRow.expiredBy]
  split <;> rfl

@[simp] theorem expiredBy_scope (ids : List String) (row : ApprovalRow) :
    (row.expiredBy ids).scope = row.scope := by
  rw [ApprovalRow.expiredBy]
  split <;> rfl

@[simp] theorem expiredBy_asks : (row.expiredBy ids).Asks outbox target ↔ row.Asks outbox target := by
  rw [ApprovalRow.expiredBy]
  split
  · exact ⟨fun asks => ⟨asks.action, asks.target⟩, fun asks => ⟨asks.action, asks.target⟩⟩
  · rfl

/-- A request that is still pending was not among those that expired. -/
theorem expiredBy_pending (pending : (row.expiredBy ids).status = .PENDING) :
    row.record_id ∉ ids ∧ row.expiredBy ids = row := by
  rw [ApprovalRow.expiredBy] at pending ⊢
  split at pending
  · cases pending
  next out => exact ⟨out, if_neg out⟩

/-- Only requests that have ended expire, none of which was decided. -/
def ExpiresEnded (ids : List String) (world : World) : Prop :=
  ∀ row ∈ world.db.approvals, row.record_id ∈ ids →
    row.Undecided ∧ reached row.expires_at world.clock = .ok true

/-- What was undecided before some of the requests expired is what is so afterwards. -/
theorem ExpiresEnded.undecided (ends_ : ExpiresEnded ids world) (there : row ∈ world.db.approvals) :
    (row.expiredBy ids).Undecided ↔ row.Undecided := by
  by_cases within : row.record_id ∈ ids
  · have before := (ends_ row there within).1
    rw [ApprovalRow.expiredBy, if_pos within]
    exact ⟨fun _ => before, fun _ => .inr rfl⟩
  · rw [ApprovalRow.expiredBy, if_neg within]

theorem mem_expireAll (ids : List String) (world : World) (row : ApprovalRow) :
    row ∈ (expireAll ids world).db.approvals ↔
      ∃ before ∈ world.db.approvals, before.expiredBy ids = row := by
  rw [expireAll_eq]
  exact List.mem_map

/-- The requests that calls have found stay where they are. -/
theorem ExpiresEnded.has (ends_ : ExpiresEnded ids world)
    (there : world.HasRequest outbox target expires_at approval_id) :
    (expireAll ids world).HasRequest outbox target expires_at approval_id := by
  obtain ⟨row, member, named, undecided, asks, expiry⟩ := there
  exact ⟨row.expiredBy ids, (mem_expireAll ids world _).mpr ⟨row, member, rfl⟩, by simpa using named,
    (ends_.undecided member).mpr undecided, expiredBy_asks.mpr asks, by simpa using expiry⟩

theorem requestTarget_expireAll (ids : List String) (world : World) (outbox : Outbox)
    (key : String) : (expireAll ids world).requestTarget outbox key =
      world.requestTarget outbox key := by
  rw [expireAll_eq]
  cases outbox <;> rfl

theorem ExpiresEnded.sound (ends_ : ExpiresEnded ids world) (sound : RequestsSound world) :
    RequestsSound (expireAll ids world) where
  distinct := by
    rw [expireAll_eq]
    dsimp only
    rw [List.map_map, show ((·.record_id) ∘ (·.expiredBy ids)) = ApprovalRow.record_id from
      funext fun row => expiredBy_record_id ids row]
    exact sound.distinct
  targeted := by
    intro row there undecided outbox target asks
    obtain ⟨before, member, rfl⟩ := (mem_expireAll ids world row).mp there
    rw [expiredBy_scope]
    obtain ⟨key, found⟩ := sound.targeted before member ((ends_.undecided member).mp undecided)
      outbox target (expiredBy_asks.mp asks)
    exact ⟨key, by rw [requestTarget_expireAll]; exact found⟩
  single := by
    intro one there two other pending pending_ outbox target asks asks_
    obtain ⟨first, member, rfl⟩ := (mem_expireAll ids world one).mp there
    obtain ⟨second, member_, rfl⟩ := (mem_expireAll ids world two).mp other
    obtain ⟨_, same⟩ := expiredBy_pending pending
    obtain ⟨_, same_⟩ := expiredBy_pending pending_
    rw [same] at pending asks ⊢
    rw [same_] at pending_ asks_ ⊢
    exact sound.single first member second member_ pending pending_ outbox target asks asks_
  ended := by
    intro row there expired outbox target asks
    obtain ⟨before, member, rfl⟩ := (mem_expireAll ids world row).mp there
    rw [expiredBy_expires_at, show (expireAll ids world).clock = world.clock by rw [expireAll_eq]]
    -- Either it expires now, or it had expired before.
    by_cases within : before.record_id ∈ ids
    · exact (ends_ before member within).2
    · rw [ApprovalRow.expiredBy, if_neg within] at expired asks
      exact sound.ended before member expired outbox target asks
  alike := by
    intro one there two other undecided undecided_ outbox target asks asks_ same
    obtain ⟨first, member, rfl⟩ := (mem_expireAll ids world one).mp there
    obtain ⟨second, member_, rfl⟩ := (mem_expireAll ids world two).mp other
    rw [expiredBy_expires_at, expiredBy_expires_at] at same
    rw [sound.alike first member second member_ ((ends_.undecided member).mp undecided)
      ((ends_.undecided member_).mp undecided_) outbox target (expiredBy_asks.mp asks)
      (expiredBy_asks.mp asks_) same]
  answered := by
    intro outbox key max_impact expires_at approval_id there
    rw [expireAll_eq] at there
    obtain ⟨target, scope, found, has⟩ := sound.answered _ _ _ _ _ there
    exact ⟨target, scope, by rw [requestTarget_expireAll]; exact found, ends_.has has⟩

theorem ExpiresEnded.knows (ends_ : ExpiresEnded ids world) {phase : AskPhase}
    (knows : phase.knows world) : phase.knows (expireAll ids world) := by
  have known {ask : Ask} (there : ask.Known world) : ask.Known (expireAll ids world) := by
    rw [Ask.Known, requestTarget_expireAll]
    exact there
  cases phase with
  | start => exact trivial
  | known ask | cleared ask | free ask _ => exact known knows
  | looked ask rows | seen ask rows =>
    exact ⟨known knows.1, fun row there => ends_.has (knows.2 row there)⟩
  | timed ask rows clock =>
    refine ⟨known knows.1, ?_, fun row there => ends_.has (knows.2.2 row there)⟩
    rw [expireAll_eq]
    exact knows.2.1
  | answered ask expires_at approval_id => exact ⟨known knows.1, ends_.has knows.2⟩

/-- What expires makes no request pending, so what calls claim stays. -/
theorem ExpiresEnded.claims (ends_ : ExpiresEnded ids world) {phase : AskPhase}
    {gate : Outbox × String} (claims : phase.claims gate world) :
    phase.claims gate (expireAll ids world) := by
  cases phase with
  | start | known _ | seen _ _ | answered _ _ _ => exact trivial
  | looked ask rows | timed ask rows _ =>
    intro same row there pending asks
    obtain ⟨before, member, rfl⟩ := (mem_expireAll ids world row).mp there
    obtain ⟨_, still⟩ := expiredBy_pending pending
    rw [still] at pending asks ⊢
    exact claims same before member pending asks
  | cleared ask =>
    intro same row there asks pending
    obtain ⟨before, member, rfl⟩ := (mem_expireAll ids world row).mp there
    obtain ⟨_, still⟩ := expiredBy_pending pending
    rw [still] at pending asks
    exact claims same before member asks pending
  | free ask expires_at =>
    intro same row there asks
    obtain ⟨before, member, rfl⟩ := (mem_expireAll ids world row).mp there
    obtain ⟨waits, other⟩ := claims same before member (expiredBy_asks.mp asks)
    refine ⟨fun pending => ?_, fun undecided => ?_⟩
    · obtain ⟨_, still⟩ := expiredBy_pending pending
      rw [still] at pending
      exact waits pending
    · rw [expiredBy_expires_at]
      exact other ((ends_.undecided member).mp undecided)

/-- The rows that a call found to have ended are the ones it lets expire. -/
theorem EndedAmong.expiresEnded {clock : Reading} {rows ended : List ApprovalRow}
    (among : EndedAmong clock rows ended) (sound : RequestsSound world)
    (later : clock ≤ world.clock) (found : ∀ row ∈ rows,
      world.HasRequest outbox target row.expires_at row.record_id) :
    ExpiresEnded (ended.map (·.record_id)) world := by
  intro row there within
  obtain ⟨read, member, named⟩ := List.mem_map.mp within
  obtain ⟨current, now_, same, undecided, _, expiry⟩ := found read (among.within read member)
  -- Identifiers are unique, so the row is the one that was read.
  have row_eq : row = current :=
    List.inj_on_of_nodup_map sound.distinct there now_ (named.symm.trans same.symm)
  subst row_eq
  refine ⟨undecided, ?_⟩
  rw [expiry]
  exact reached_mono later (among.reached read member)

end Expiry

section Insertion

variable {ask : Ask} {row : ApprovalRow} {expires_at : String}

theorem mem_insertApproval (row other : ApprovalRow) (world : World) :
    other ∈ (insertApproval row world).db.approvals ↔ other ∈ world.db.approvals ∨ other = row := by
  simp [insertApproval]

/-- A request asks for one target of one outbox. -/
theorem ApprovalRow.Asks.unique {one two : Outbox} {target other : String}
    (asks : row.Asks one target) (again : row.Asks two other) : two = one ∧ other = target :=
  ⟨Outbox.action_injective (again.action.symm.trans asks.action), again.target.symm.trans asks.target⟩

/-- A request that is new and asks for something no other one asks for keeps the requests sound. -/
theorem RequestsSound.insert (sound : RequestsSound world) (known : ask.Known world)
    (free : AskPhase.claims (.free ask expires_at) (ask.outbox, ask.target) world)
    (new : ∀ other ∈ world.db.approvals, other.record_id ≠ row.record_id)
    (pending : row.status = .PENDING) (asks : row.Asks ask.outbox ask.target)
    (owned : row.scope = ask.scope) (ends_ : row.expires_at = expires_at) :
    RequestsSound (insertApproval row world) where
  distinct := by
    show ((world.db.approvals ++ [row]).map (·.record_id)).Nodup
    rw [List.map_append, List.nodup_append]
    refine ⟨sound.distinct, List.nodup_singleton _, fun id there other here => ?_⟩
    obtain ⟨before, member, rfl⟩ := List.mem_map.mp there
    rw [List.map_singleton, List.mem_singleton] at here
    rw [here]
    exact new before member
  targeted := by
    intro other there undecided outbox target asked
    rcases (mem_insertApproval row other world).mp there with before | rfl
    · obtain ⟨key, found⟩ := sound.targeted other before undecided outbox target asked
      exact ⟨key, found⟩
    · obtain ⟨rfl, rfl⟩ := asks.unique asked
      rw [owned]
      exact ⟨ask.key, known⟩
  single := by
    intro one there two again waits waits_ outbox target asked asked_
    rcases (mem_insertApproval row one world).mp there with before | rfl <;>
      rcases (mem_insertApproval _ two world).mp again with before_ | rfl
    · exact sound.single one before two before_ waits waits_ outbox target asked asked_
    · obtain ⟨rfl, rfl⟩ := asks.unique asked_
      exact absurd waits (free rfl one before asked).1
    · obtain ⟨rfl, rfl⟩ := asks.unique asked
      exact absurd waits_ (free rfl two before_ asked_).1
    · rfl
  ended := by
    intro other there expired outbox target asked
    rcases (mem_insertApproval row other world).mp there with before | rfl
    · exact sound.ended other before expired outbox target asked
    · rw [pending] at expired
      cases expired
  alike := by
    intro one there two again waits waits_ outbox target asked asked_ same
    rcases (mem_insertApproval row one world).mp there with before | rfl <;>
      rcases (mem_insertApproval _ two world).mp again with before_ | rfl
    · exact sound.alike one before two before_ waits waits_ outbox target asked asked_ same
    · obtain ⟨rfl, rfl⟩ := asks.unique asked_
      exact absurd (same.symm.trans ends_) ((free rfl one before asked).2 waits)
    · obtain ⟨rfl, rfl⟩ := asks.unique asked
      exact absurd (same.trans ends_) ((free rfl two before_ asked_).2 waits_)
    · rfl
  answered := by
    intro outbox key max_impact expires approval_id there
    obtain ⟨target, scope, found, other, member, has⟩ := sound.answered _ _ _ _ _ there
    exact ⟨target, scope, found, other, (mem_insertApproval row other world).mpr (.inl member), has⟩

theorem knows_insertApproval {phase : AskPhase} (knows : phase.knows world) :
    phase.knows (insertApproval row world) := by
  have has {outbox : Outbox} {target expires_at approval_id : String}
      (there : world.HasRequest outbox target expires_at approval_id) :
      (insertApproval row world).HasRequest outbox target expires_at approval_id := by
    obtain ⟨other, member, known⟩ := there
    exact ⟨other, (mem_insertApproval row other world).mpr (.inl member), known⟩
  cases phase with
  | start => exact trivial
  | known ask | cleared ask | free ask _ => exact knows
  | looked ask rows | seen ask rows => exact ⟨knows.1, fun row there => has (knows.2 row there)⟩
  | timed ask rows clock => exact ⟨knows.1, knows.2.1, fun row there => has (knows.2.2 row there)⟩
  | answered ask expires_at approval_id => exact ⟨knows.1, has knows.2⟩

/-- A request for one target leaves what calls claim about others. -/
theorem claims_insertApproval {phase : AskPhase} {gate : Outbox × String}
    (asks : row.Asks ask.outbox ask.target) (other : gate ≠ (ask.outbox, ask.target))
    (claims : phase.claims gate world) : phase.claims gate (insertApproval row world) := by
  -- The new row does not ask for the target of the gate.
  have apart {asked : Ask} {next : ApprovalRow} (same : gate = (asked.outbox, asked.target))
      (there : next ∈ (insertApproval row world).db.approvals)
      (asks_ : next.Asks asked.outbox asked.target) : next ∈ world.db.approvals := by
    rcases (mem_insertApproval row next world).mp there with before | rfl
    · exact before
    · obtain ⟨one, two⟩ := asks.unique asks_
      exact absurd (by rw [same, one, two]) other
  cases phase with
  | start | known _ | seen _ _ | answered _ _ _ => exact trivial
  | looked asked rows | timed asked rows _ =>
    exact fun same next there pending asks_ => claims same next (apart same there asks_) pending asks_
  | cleared asked => exact fun same next there asks_ => claims same next (apart same there asks_) asks_
  | free asked expires => exact fun same next there asks_ => claims same next (apart same there asks_) asks_

end Insertion

/-- A step inserts a request for a target. -/
def Inserts (gate : Outbox × String) (label : Label) : Prop := label = .request gate.1 gate.2

/-- A step looks for the pending requests for a target. -/
def Looks (gate : Outbox × String) (label : Label) : Prop := label = .pending gate.1 gate.2

/-- What a step of a call keeps and learns about requests. -/
abbrev AskRule : AskPhase → Label → World → World → AskPhase → Prop :=
  Pool.ClaimRule Inserts Looks RequestsSound AskPhase.knows AskPhase.claims

section Moves

variable {phase later : AskPhase} {label : Label} {ask : Ask} {rows ended : List ApprovalRow}
  {clock : Reading}

/-- The pending requests that are found are the ones for the target. -/
theorem mem_pendingRequests (known : ask.Known world) (sound : RequestsSound world)
    (row : ApprovalRow) :
    row ∈ pendingRequests ask.outbox.action ask.target ask.scope world.db ↔
      row ∈ world.db.approvals ∧ row.status = .PENDING ∧ row.Asks ask.outbox ask.target := by
  rw [pendingRequests, List.mem_insertionSort, List.mem_filter]
  simp only [Bool.and_eq_true, beq_iff_eq]
  constructor
  · rintro ⟨there, action, target, _, pending⟩
    exact ⟨there, pending, action, target⟩
  · rintro ⟨there, pending, asks⟩
    -- The scope of a request is the one its row has.
    obtain ⟨key, found⟩ := sound.targeted row there (.inl pending) _ _ asks
    exact ⟨there, asks.action, asks.target, requestTarget_scope known found, pending⟩

/-- A step that leaves the requests alone may go on with what it knows anew. -/
theorem AskRule.of_left (left : RequestsLeft world changed) (sound : RequestsSound world)
    (known : later.knows changed)
    (claimed : ∀ gate, (¬Looks gate label → phase.claims gate world) → later.claims gate changed) :
    AskRule phase label world changed later where
  sound := left.sound sound
  kept _ := left.knows
  spared _ _ _ := left.claims
  known := known
  claimed := claimed

/-- A call that lets requests expire goes on with what that leaves. -/
theorem AskRule.of_expired (among : EndedAmong clock rows ended) (sound : RequestsSound world)
    (knows : AskPhase.knows (.timed ask rows clock) world)
    (known : later.knows (expireAll (ended.map (·.record_id)) world))
    (claimed : ∀ gate, AskPhase.claims (.timed ask rows clock) gate world →
      later.claims gate (expireAll (ended.map (·.record_id)) world)) :
    AskRule (.timed ask rows clock) .records world (expireAll (ended.map (·.record_id)) world)
      later := by
  have ends_ := among.expiresEnded sound knows.2.1 knows.2.2
  exact ⟨ends_.sound sound, fun _ => ends_.knows, fun _ _ _ => ends_.claims, known,
    fun gate before => claimed gate (before nofun)⟩

/-- Every step of a call keeps the requests sound, and learns only what holds. -/
theorem AskMove.rule (sound : RequestsSound world) (knows : phase.knows world)
    (inserting : ∀ gate, Inserts gate label → phase.claims gate world)
    (move : AskMove phase label world changed later) : AskRule phase label world changed later := by
  have still := RequestsLeft.refl world
  cases move with
  | left other left =>
    exact .of_left left sound (left.knows knows) fun gate claims => left.claims (claims (other _ _))
  | known known => exact .of_left still sound known fun _ _ => trivial
  | @looked ask =>
    refine .of_left still sound ⟨knows, fun row there => ?_⟩ fun gate _ _ row there pending asks =>
      (mem_pendingRequests knows sound row).mpr ⟨there, pending, asks⟩
    obtain ⟨member, pending, asks⟩ := (mem_pendingRequests knows sound row).mp there
    exact ⟨row, member, rfl, .inl pending, asks, rfl⟩
  | timed =>
    exact .of_left still sound ⟨knows.1, le_rfl, knows.2⟩ fun gate claims => claims nofun
  | cleared among all =>
    have ends_ := among.expiresEnded sound knows.2.1 knows.2.2
    have known : AskPhase.knows (.cleared _) world := knows.1
    refine .of_expired among sound knows (ends_.knows known)
      fun gate claims same row there asks pending => ?_
    obtain ⟨before, member, rfl⟩ := (mem_expireAll _ world row).mp there
    obtain ⟨out, kept⟩ := expiredBy_pending pending
    rw [kept] at pending asks
    -- A request that is still pending was read, and everything that was read has expired.
    exact out (List.mem_map.mpr ⟨before, all before (claims same before member pending asks), rfl⟩)
  | seen among part =>
    have ends_ := among.expiresEnded sound knows.2.1 knows.2.2
    refine .of_expired among sound knows ⟨?_, fun row there => ?_⟩ fun _ _ => trivial
    · rw [Ask.Known, requestTarget_expireAll]
      exact knows.1
    · exact ends_.has (knows.2.2 row (part row there))
  | free checked =>
    refine .of_left still sound knows fun gate claims same row there asks => ?_
    have waits := claims nofun same row there asks
    refine ⟨waits, fun undecided expiry => ?_⟩
    -- A request that is not pending any more has ended before the new one begins.
    have expired := undecided.resolve_left waits
    rw [← expiry] at checked
    exact checkTimes_open checked (sound.ended row there expired _ _ asks)
  | @requested ask expires_at row _ new pending asks owned ends_ =>
    have free := inserting (ask.outbox, ask.target) rfl
    refine ⟨sound.insert knows free new pending asks owned ends_, fun _ => knows_insertApproval,
      fun other gate apart => claims_insertApproval asks fun same => apart (by rw [same]; rfl),
      ⟨knows, row, (mem_insertApproval row row world).mpr (.inr rfl), rfl, .inl pending, asks, ends_⟩,
      fun _ _ => trivial⟩
  | @told _ ask max_impact expires_at approval_id _ tells =>
    refine ⟨⟨sound.distinct, sound.targeted, sound.single, sound.ended, sound.alike, ?_⟩, ?_, ?_, ?_, ?_⟩
    · intro outbox key impact expires id there
      rcases List.mem_cons.mp there with same | there
      · cases same
        refine ⟨ask.target, ask.scope, ?_⟩
        -- A call tells only what it knows.
        cases phase with
        | seen asked rows =>
          obtain ⟨rfl, row, member, rfl, rfl⟩ := tells
          exact ⟨knows.1, knows.2 row member⟩
        | answered asked expires approval =>
          obtain ⟨rfl, rfl, rfl⟩ := tells
          exact knows
        | start | known _ | looked _ _ | timed _ _ _ | cleared _ | free _ _ => exact tells.elim
      · exact sound.answered _ _ _ _ _ there
    · intro other there
      cases other <;> exact there
    · intro other gate _ there
      cases other <;> exact there
    · cases phase <;> exact knows
    · intro gate claims
      cases phase <;> exact claims nofun

end Moves

end Steps

section Calls

variable [Platform] {phase : AskPhase} {ask : Ask}

/-- A program that keeps to what calls may do, from some phase. -/
abbrev AskSteps {α : Type} (ends_ : AskPhase → Except Error α → Prop) : AskPhase → Op α → Prop :=
  Prog.Follows (fun _ _ => True) AskMove ends_

omit [Platform] in
/-- A check ends in the phase it is made in. -/
theorem asks_lift_bind {α β : Type} {ends_ : AskPhase → Except Error β → Prop}
    {checked : Except Error α} {rest : α → Op β} (failed : ∀ error, ends_ phase (.error error))
    (second : ∀ value, checked = .ok value → AskSteps ends_ phase (rest value)) :
    AskSteps ends_ phase (lift checked >>= rest) := by
  cases checked with
  | ok value => exact second value rfl
  | error error => exact failed error

/-- An event of the audit log changes no phase. -/
theorem asks_audit_bind {β : Type} {ends_ : AskPhase → Except Error β → Prop} {actor : Actor}
    {action reason : String} {result : AuditResult} {record_id correlation_id : Option String}
    {details : List (String × Json)} {rest : Unit → Op β}
    (second : AskSteps ends_ phase (rest ())) : AskSteps ends_ phase
      (_audit actor action result reason record_id details correlation_id >>= rest) :=
  .write_bind fun world _ =>
    ⟨phase, .left nofun (.of_logged (logged_audit _ _ _ _ _ _ _ world)), second⟩

omit [Platform] in
/-- A reading of the clock need not be used. -/
theorem asks_clock_bind {α β : Type} {ends_ : AskPhase → Except Error β → Prop}
    {view : World → α} {rest : α → Op β}
    (second : ∀ world, AskSteps ends_ phase (rest (view world))) :
    AskSteps ends_ phase (Prog.read .clock view >>= rest) :=
  .read_bind fun world _ => ⟨phase, .left nofun (.refl world), second world⟩

omit [Platform] in
/-- Who has read a row knows what to ask about. -/
theorem asks_getRow {Columns : Type} {table : OutboxTable Columns} {missing key : String}
    {store : Store} {actor : Actor} (asked : OutboxRow Columns → Ask)
    (known : ∀ row world, table.find? key world.db = some row → (asked row).Known world) :
    AskSteps (fun last outcome => ∀ row, outcome = .ok row → last = .known (asked row)) .start
      (getRow table missing store actor key) := by
  refine .read_bind fun world _ => ?_
  cases found : table.find? key world.db with
  | none => exact ⟨.start, .left nofun (.refl world), fun _ read => nomatch read⟩
  | some row =>
    refine ⟨.known (asked row), .known (known row world found), ?_⟩
    refine asks_lift_bind (fun _ _ => nofun) fun _ _ => ?_
    exact fun other read => by cases read; rfl

omit [Platform] in
/-- The insertion of a record changes no phase. -/
theorem asks_addRecord (row : RecordRow) :
    AskSteps (fun last outcome => outcome = .ok () → last = phase) phase (addRecord row) := by
  refine Prog.Follows.transact fun world _ => ?_
  split
  · exact ⟨phase, .left nofun (.refl world), nofun⟩
  · exact ⟨phase, .left nofun (.of_eq rfl rfl rfl rfl rfl rfl), fun _ => rfl⟩

/-- Who creates a record with an expiry has found that no request ended with it. -/
theorem asks_create_record {store : Store} {actor : Actor} {request : RecordRequest}
    {expires_at : String} (expires : request.expires_at = some expires_at)
    (starts : request.effective_at = none) :
    AskSteps (fun last outcome => ∀ record_id, outcome = .ok record_id → last = .free ask expires_at)
      (.cleared ask) (create_record store actor request) := by
  rw [create_record]
  intro world _
  refine ⟨.cleared ask, .left nofun (.of_eq rfl rfl rfl rfl rfl rfl), ?_⟩
  have guarded {phase : AskPhase} (error : Error) :
      ∀ id, (Except.error error : Except Error String) = .ok id → phase = .free ask expires_at :=
    fun _ => nofun
  refine @Prog.Follows.catch _ _ _ _ _ _ _ (fun last outcome => ∀ record_id, outcome = .ok record_id →
    last = .free ask expires_at) _ _ _ _ ?_ (fun _ _ => id) fun last error _ => ?_
  · refine asks_lift_bind guarded fun checked _ => ?_
    refine .read_bind fun stamped _ => ?_
    have begins : (given none).getD stamped.clock.utc.isoformat = stamped.clock.utc.isoformat := rfl
    rw [starts]
    -- The times are checked against the reading that is taken here.
    cases times : checkTimes stamped.clock.utc.isoformat (some expires_at) with
    | error error =>
      refine ⟨.cleared ask, .left nofun (.refl stamped), ?_⟩
      rw [expires]
      dsimp only
      rw [begins, times]
      exact guarded error
    | ok allowed =>
      refine ⟨.free ask expires_at, .free times, ?_⟩
      rw [expires]
      dsimp only
      rw [begins, times]
      refine asks_lift_bind guarded fun _ _ => ?_
      split
      · refine Prog.Follows.bind (asks_addRecord _) (fun last _ stays => ?_) fun _ _ _ => nofun
        cases stays rfl
        exact asks_audit_bind fun _ _ => rfl
      · exact guarded _
  · -- A refusal is logged, and every error is raised again.
    split
    case h_5 => exact guarded _
    all_goals exact asks_audit_bind (guarded _)

omit [Platform] in
/-- Who has found no request with an expiry may insert one, if its identifier is new. -/
theorem asks_addApproval {row : ApprovalRow} {expires_at : String} (pending : row.status = .PENDING)
    (asks : row.Asks ask.outbox ask.target) (owned : row.scope = ask.scope)
    (expires : row.expires_at = expires_at) :
    AskSteps (fun last outcome => outcome = .ok () →
        last = .answered ask expires_at row.record_id) (.free ask expires_at)
      (addApproval (.request ask.outbox ask.target) row) := by
  refine Prog.Follows.transact fun world _ => ?_
  split
  · exact ⟨_, .left nofun (.refl world), nofun⟩
  next new =>
    refine ⟨_, .requested (fun other there same => new ?_) pending asks owned expires,
      fun _ => rfl⟩
    exact List.any_eq_true.mpr ⟨other, there, by simpa using same⟩

/-- Who has found no pending request may insert one. -/
theorem asks_requestApproval {store : Store} {actor : Actor} {max_impact expires_at : String}
    {conditions : Option (List (String × Json))} :
    AskSteps (fun last outcome => ∀ approval_id, outcome = .ok approval_id →
        last = .answered ask expires_at approval_id) (.cleared ask)
      (requestApproval (.request ask.outbox ask.target) store actor ask.outbox.action ask.target
        ask.scope.text max_impact expires_at conditions) := by
  have failed {phase : AskPhase} (error : Error) : ∀ id, (Except.error error : Except Error String) =
      .ok id → phase = .answered ask expires_at id := fun _ => nofun
  rw [requestApproval]
  split
  · exact failed _
  refine asks_lift_bind failed fun _ _ => ?_
  refine Prog.Follows.bind (asks_create_record rfl rfl) (fun last record_id created => ?_)
    fun _ error _ => by exact failed error
  cases created record_id rfl
  rw [show Scope.read ask.scope.text = some ask.scope by cases ask.scope <;> decide]
  refine Prog.Follows.bind (asks_addApproval rfl ⟨rfl, rfl⟩ rfl rfl) (fun last _ inserted => ?_)
    fun _ error _ => by exact failed error
  cases inserted rfl
  exact asks_audit_bind fun id same => by cases same; rfl

/--
A request that finds one request pending is answered with that one, where it asks for the same, and is
refused otherwise.
-/
theorem requestOnce_pending {store : Store} {actor : Actor} {asking : Asking}
    {max_impact expires_at : String} {world : World} {row : ApprovalRow}
    (pending : pendingRequests asking.outbox.action asking.target asking.scope world.db = [row])
    (open_ : reached row.expires_at world.clock = .ok false) :
    (requestOnce store actor asking max_impact expires_at).run world =
      (if asking.sameAs max_impact expires_at row then .ok row.record_id
        else .error (.validation asking.different), world) := by
  -- What is pending has not ended, so nothing expires.
  have left : expireEnded world.clock [row] (.closed world) = (.ok [row], .closed world) := by
    have active : expireRequests world.clock [row] (.closed world) = (.ok [row], .closed world) := by
      rw [expireRequests, Script.check_bind, open_]
      rfl
    rw [expireEnded, Script.bind_ok active]
    rfl
  rw [requestOnce, Prog.run_bind, Prog.run_read, pending]
  dsimp only
  rw [clockNow, Prog.run_bind, Prog.run_read]
  dsimp only
  rw [Script.run_asStep_bind, left]
  dsimp only
  rw [if_neg (List.cons_ne_nil _ _), sameRequest]
  split <;> rfl

/-- Who knows what to ask about asks once, and can tell what it is answered. -/
theorem asks_requestOnce {store : Store} {actor : Actor} {asking : Asking}
    {max_impact expires_at : String} (outbox : asking.outbox = ask.outbox)
    (target : asking.target = ask.target) (owned : asking.scope = ask.scope) :
    AskSteps (fun last outcome => ∀ approval_id, outcome = .ok approval_id →
        last.tells ask expires_at approval_id) (.known ask)
      (requestOnce store actor asking max_impact expires_at) := by
  have failed {phase : AskPhase} (error : Error) : ∀ id, (Except.error error : Except Error String) =
      .ok id → phase.tells ask expires_at id := fun _ => nofun
  rw [requestOnce, outbox, target, owned]
  refine .read_bind fun looked _ => ⟨.looked ask _, .looked, ?_⟩
  generalize pendingRequests ask.outbox.action ask.target ask.scope looked.db = existing
  refine .read_bind fun timed _ => ⟨.timed ask existing timed.clock, .timed, ?_⟩
  generalize timed.clock = clock
  intro world _
  obtain ⟨ended, committed, among, left⟩ := expireEnded_run clock existing world
  dsimp only
  rw [committed]
  cases ran : (expireEnded clock existing (.closed world)).1 with
  | error error =>
    have nothing : ∀ row ∈ ([] : List ApprovalRow), row ∈ existing := nofun
    exact ⟨_, .seen among nothing, failed error⟩
  | ok active =>
    obtain ⟨part, all⟩ := left active ran
    by_cases none_ : active = []
    · subst none_
      -- Everything that was found has ended.
      refine ⟨.cleared ask, .cleared among fun row there => (all row there).resolve_right nofun, ?_⟩
      have asked := @asks_requestApproval _ ask store actor max_impact expires_at
        (some asking.conditions)
      refine asked.mono fun last outcome ended id same => ?_
      rw [ended id same]
      exact ⟨rfl, rfl, rfl⟩
    · refine ⟨.seen ask active, .seen among part, ?_⟩
      show AskSteps _ _ (if active = [] then _ else lift (sameRequest asking max_impact expires_at active))
      rw [if_neg none_]
      rcases active with _ | ⟨row, _ | ⟨_, _⟩⟩
      · exact absurd rfl none_
      · rw [sameRequest]
        split
        next same =>
          rw [Asking.sameAs, Bool.and_eq_true, Bool.and_eq_true, beq_iff_eq, beq_iff_eq] at same
          rintro id ⟨⟩
          exact ⟨rfl, row, .head _, same.2.2, rfl⟩
        · exact failed _
      · exact failed _

omit [Platform] in
/-- Who has read a delivery knows what to ask about. -/
theorem asks_get_alert_delivery (store : Store) (actor : Actor) (delivery_id : String) :
    AskSteps (fun last outcome => ∀ delivery, outcome = .ok delivery →
        last = .known ⟨.alert_delivery, delivery_id, delivery_id, delivery.row.owner_scope⟩) .start
      (get_alert_delivery store actor delivery_id) := by
  have failed {phase : AskPhase} (error : Error) : ∀ delivery,
      (Except.error error : Except Error Delivery) = .ok delivery → phase =
        .known ⟨.alert_delivery, delivery_id, delivery_id, delivery.row.owner_scope⟩ := fun _ => nofun
  refine Prog.Follows.bind (asks_getRow (fun row =>
    ⟨.alert_delivery, delivery_id, delivery_id, row.owner_scope⟩) fun row world found => ?_)
      (fun last row read => ?_) fun _ _ _ => by exact failed _
  · rw [Ask.Known, World.requestTarget, found]
    rfl
  rw [read row rfl]
  refine asks_clock_bind fun world => asks_lift_bind failed fun _ _ => ?_
  exact fun delivery same => by cases same; rfl

/-- Every call keeps to the steps of a request, and answers what it can tell. -/
theorem RequestCall.asks {program : Op Unit} (called : RequestCall program) :
    AskSteps (fun _ _ => True) .start program := by
  have failed {key expires_at : String} {outbox : Outbox} {phase : AskPhase} (error : Error) :
      ∀ id, (Except.error error : Except Error String) = .ok id →
        ∃ ask, ask.outbox = outbox ∧ ask.key = key ∧ phase.tells ask expires_at id := fun _ => nofun
  -- A call that can tell an answer records it.
  have records {outbox : Outbox} {key max_impact expires_at : String} {request : Op String}
      (asked : AskSteps (fun last outcome => ∀ id, outcome = .ok id →
        ∃ ask, ask.outbox = outbox ∧ ask.key = key ∧ last.tells ask expires_at id) .start request) :
      AskSteps (fun _ _ => True) .start
        (answering outbox key max_impact expires_at request) := by
    refine Prog.Follows.bind asked (fun last id told => ?_) fun _ _ _ => trivial
    obtain ⟨ask, rfl, rfl, tells⟩ := told id rfl
    exact .write_bind fun world _ => ⟨last, .told tells, trivial⟩
  cases called with
  | transfer store actor plan_sha256 max_impact expires_at =>
    refine records (Prog.Follows.bind (asks_getRow (fun row =>
      ⟨.backup_transfer, plan_sha256, row.columns.approval_target, .IAC⟩) fun row world found => ?_)
        (fun last row read => ?_) fun _ _ _ => by exact failed _)
    · rw [Ask.Known, World.requestTarget, found]
      rfl
    rw [read row rfl]
    refine asks_lift_bind failed fun _ _ => asks_lift_bind failed fun _ _ =>
      asks_lift_bind failed fun conditions _ => ?_
    refine (asks_requestOnce rfl rfl rfl).mono fun last outcome told id same => ?_
    exact ⟨_, rfl, rfl, told id same⟩
  | restore store actor plan_sha256 max_impact expires_at =>
    refine records (Prog.Follows.bind (asks_getRow (fun row =>
      ⟨.backup_restore, plan_sha256, row.columns.approval_target, .IAC⟩) fun row world found => ?_)
        (fun last row read => ?_) fun _ _ _ => by exact failed _)
    · rw [Ask.Known, World.requestTarget, found]
      rfl
    rw [read row rfl]
    refine asks_lift_bind failed fun _ _ => asks_lift_bind failed fun _ _ =>
      asks_lift_bind failed fun expiry _ => asks_lift_bind failed fun stop _ =>
        asks_lift_bind failed fun _ _ => asks_lift_bind failed fun conditions _ => ?_
    refine (asks_requestOnce rfl rfl rfl).mono fun last outcome told id same => ?_
    exact ⟨_, rfl, rfl, told id same⟩
  | delivery store actor delivery_id max_impact expires_at =>
    refine records (Prog.Follows.bind (asks_get_alert_delivery store actor delivery_id)
      (fun last delivery read => ?_) fun _ _ _ => by exact failed _)
    rw [read delivery rfl]
    refine asks_lift_bind failed fun _ _ => asks_lift_bind failed fun _ _ =>
      asks_lift_bind failed fun _ _ => ?_
    refine (asks_requestOnce rfl rfl rfl).mono fun last outcome told id same => ?_
    exact ⟨_, rfl, rfl, told id same⟩

end Calls

/-- The interleavings of requests, where an insertion excludes the callers between look and insertion. -/
abbrev RequestRun [Platform] {κ : Type} [DecidableEq κ] :
    Pool κ World Label Error → Pool κ World Label Error → Prop :=
  Pool.ExclusiveRun Inserts Inserts Looks (fun _ => RequestCall) RequestsLeft

/-- Requests that are sound are single, and identical calls got the same. -/
theorem RequestsSound.one {world : World} (sound : RequestsSound world) : OneRequest world := by
  refine ⟨fun outbox target => ?_, fun outbox key max_impact expires_at one two first second => ?_⟩
  · have distinct : (world.openRequests outbox target).Nodup :=
      (List.Nodup.of_map _ sound.distinct).filter _
    have alike : ∀ one ∈ world.openRequests outbox target,
        ∀ two ∈ world.openRequests outbox target, two = one := by
      intro one here two there
      simp only [World.openRequests, List.mem_filter, Bool.and_eq_true, beq_iff_eq] at here there
      exact sound.single one here.1 two there.1 here.2.2.2.1 there.2.2.2.1 outbox target
        ⟨here.2.1, here.2.2.1⟩ ⟨there.2.1, there.2.2.1⟩
    generalize world.openRequests outbox target = rows at distinct alike ⊢
    rcases rows with _ | ⟨one, _ | ⟨two, rest⟩⟩
    · exact Nat.zero_le _
    · exact le_rfl
    · -- Two rows of the list would be the same row twice.
      have same := alike one (.head _) two (.tail _ (.head _))
      subst same
      exact absurd (List.mem_cons_self ..) (List.nodup_cons.mp distinct).1
  · obtain ⟨target, scope, found, row, there, rfl, undecided, asks, expiry⟩ :=
      sound.answered _ _ _ _ _ first
    obtain ⟨other, scope_, again, next, there_, rfl, undecided_, asks_, expiry_⟩ :=
      sound.answered _ _ _ _ _ second
    rw [found] at again
    cases again
    rw [sound.alike row there next there_ undecided undecided_ outbox target asks asks_
      (expiry_.trans expiry.symm)]

/--
One request at a time is open in every run of requests on any connections, as long as no request is
inserted for a target while another call is between its look at that target and its insertion.
-/
theorem one_request [Platform] {κ : Type} [DecidableEq κ] {start : World}
    {last : Pool κ World Label Error} (sound : RequestsSound start)
    (run : RequestRun (Pool.idle start) last) : OneRequest last.shared := by
  have claiming := Pool.ExclusiveRun.claiming (fun _ => ⟨trivial, fun _ => trivial⟩)
    (fun _ _ called => called.asks)
    (fun _ _ _ _ _ sound knows inserting move => move.rule sound knows inserting)
    (fun _ _ sound left => ⟨left.sound sound, fun _ => left.knows, fun _ _ => left.claims⟩) sound run
  exact claiming.1.one

/-- The requests are sound where nothing was requested yet. -/
theorem requestsSound_of_none {world : World} (nothing : world.db.approvals = [])
    (unanswered : world.effects = []) : RequestsSound world := by
  constructor
  case distinct => simp [nothing]
  case answered =>
    rw [unanswered]
    nofun
  all_goals
    rw [nothing]
    nofun

section Examples

open Sample

local instance oneRequestPlatform : Platform := platform digests

/-- A world in which the delivery of the alert is staged. -/
def Sample.staged : World := world { Database.empty with
  alert_delivery_outbox := [{
    key := delivery_id, owner_scope := .IAC, status := .STAGED, approval_id := none
    attempt_count := 0, max_attempts := 3, available_at := "2029-12-31T00:00:00+00:00"
    lease_owner := none, lease_expires_at := none, last_error := none
    preflight_receipt_payload := none, receipt_payload := none
    created_at := "2029-12-31T00:00:00+00:00", updated_at := "2029-12-31T00:00:00+00:00"
    finished_at := none
    columns := {
      plan_id := plan_id, incident_id := incident_id, reopen_generation := 0
      route_id := "iac-operator", destination_kind := "EMAIL", destination_ref := "iac-ops-alias"
      alert_payload := alert, payload_sha256 := payload_sha256 } }] }

/-- The approval of that delivery is requested. -/
def Sample.request : Op Unit :=
  answering .alert_delivery delivery_id "one synthetic delivery" "2030-01-02T00:00:00+00:00"
    (request_alert_delivery_approval ⟨.IAC⟩ worker delivery_id "one synthetic delivery"
      "2030-01-02T00:00:00+00:00")

/-- One call asks from its beginning to its end, and then the other one. -/
def Sample.oneByOne : List (Pool.Event Bool World Label Error) :=
  .start false request :: steps 12 false ++ (.start true request :: steps 12 true)

/-- The second call asks after the first one has looked and before that one has inserted. -/
def Sample.between : List (Pool.Event Bool World Label Error) :=
  .start false request :: steps 5 false ++ (.start true request :: steps 12 true ++ steps 7 false)

theorem Sample.asked_of_mem {events : List (Pool.Event Bool World Label Error)}
    (only : events = oneByOne ∨ events = between) {event : Pool.Event Bool World Label Error}
    (there : event ∈ events) :
    (∃ caller, event = .act caller) ∨ ∃ caller, event = .start caller request := by
  rcases only with rfl | rfl
  all_goals
    simp only [oneByOne, between, steps, List.mem_cons, List.mem_append, List.mem_replicate] at there
    grind

/-- Calls that ask one by one are such a run. -/
theorem Sample.oneByOne_run : RequestRun (Pool.idle staged)
    (oneByOne.foldl Pool.play (Pool.idle staged)) := by
  refine Pool.ExclusiveRun.play Pool.lonely
    (fun _ _ lonely _ apart gate => Pool.not_mayReach_of_lonely lonely apart gate) (fun label => match label with | .request _ _ => false | _ => true)
    (fun label quiet gate targets => ?_) oneByOne (fun caller program there => ?_)
    (fun change there => ?_) (by decide +kernel) .refl
  · rw [targets] at quiet
    cases quiet
  · rcases asked_of_mem (.inl rfl) there with ⟨_, same⟩ | ⟨_, same⟩
    · cases same
    · cases same
      exact .delivery _ _ _ _ _
  · rcases asked_of_mem (.inl rfl) there with ⟨_, same⟩ | ⟨_, same⟩ <;> cases same

/-- Two calls that ask one by one get the same request. -/
theorem one_request_one_by_one : ∃ last : Pool Bool World Label Error,
    RequestRun (Pool.idle staged) last ∧ last.shared.effects.length = 2 ∧
      OneRequest last.shared :=
  ⟨_, oneByOne_run, by decide +kernel,
    one_request (requestsSound_of_none rfl rfl) oneByOne_run⟩

/-- A call that asks between the look and the insertion of another one leaves two requests open. -/
theorem one_request_between : ∃ (start : World) (last : Pool Bool World Label Error),
    RequestsSound start ∧ Pool.Reaches (fun _ => RequestCall) RequestsLeft (fun _ _ _ => True)
      (Pool.idle start) last ∧ ¬OneRequest last.shared := by
  refine ⟨staged, between.foldl Pool.play (Pool.idle staged),
    requestsSound_of_none rfl rfl, ?_, fun one => ?_⟩
  · refine Pool.Reaches.play (fun _ _ _ => true) (fun _ _ _ _ => trivial) between
      (fun caller program there => ?_) (fun change there => ?_) (Pool.playableAll_true _ _) .refl
    · rcases asked_of_mem (.inr rfl) there with ⟨_, same⟩ | ⟨_, same⟩
      · cases same
      · cases same
        exact .delivery _ _ _ _ _
    · rcases asked_of_mem (.inr rfl) there with ⟨_, same⟩ | ⟨_, same⟩ <;> cases same
  · have two : ((between.foldl Pool.play (Pool.idle staged)).shared.openRequests .alert_delivery
        delivery_id).length = 2 := by decide +kernel
    have bound := one.single .alert_delivery delivery_id
    omega

end Examples

end SeanOs
