import SeanOs.Policy
import SeanOs.Sample
import SeanOs.Store.AlertDeliveries
import SeanOs.Store.BackupRestores

/-! A single-use approval over all interleavings: what it permits, and when it permits it once. -/

namespace SeanOs

open Atomic

namespace World

/-- How often an approval was granted to a call. -/
def grants (id : String) (world : World) : ℕ :=
  world.db.audit_log.countP fun row =>
    row.action == "CONSUME_APPROVAL" && (row.result == .ALLOWED && row.affected_record_id == some id)

/-- How often a handler was invoked under an approval. -/
def invocations (id : String) (world : World) : ℕ :=
  world.effects.countP fun effect => match effect with
    | .handled _ _ approval_id => approval_id == some id
    | .upload_new _ | .put_object _ | .answered _ _ _ | .ticked _ | .requested _ _ _ _ _
    | .executed _ _ | .reported _ _ _ _ => false

/-- Whether a row of an outbox was authorized with an approval. -/
def authorizedWith (id : String) (world : World) (place : Outbox × String) : Prop :=
  world.db.approvalAt place.1 place.2 = some id

/-- Whether an approval is still to be consumed. -/
def approved (id : String) (world : World) : Prop :=
  ∃ row, world.db.approval? id = some row ∧ row.status = .APPROVED

instance (id : String) (world : World) : Decidable (world.approved id) :=
  match found : world.db.approval? id with
  | none => .isFalse fun given => by
    obtain ⟨row, there, _⟩ := given
    rw [found] at there
    cases there
  | some row =>
    if status : row.status = .APPROVED then .isTrue ⟨row, found, status⟩
    else .isFalse fun given => by
      obtain ⟨other, there, approved⟩ := given
      rw [found] at there
      cases there
      exact status approved

/-- Whether an approval can be used only once. -/
def singleUse (id : String) (world : World) : Prop :=
  ∀ row, world.db.approval? id = some row → row.reusable = false

end World

/-- Since some world, no handler ran under an approval and no row was authorized with it. -/
structure Unspent (id : String) (start now : World) : Prop where
  invocations : now.invocations id ≤ start.invocations id
  places : ∀ place, now.authorizedWith id place → start.authorizedWith id place

/-- Since some world, an approval led to at most one grant, and to one effect at most. -/
structure SingleEffect (id : String) (start now : World) : Prop where
  grants : now.grants id ≤ start.grants id + 1
  /-- Either one handler ran and no row was authorized, or one row was and no handler ran. -/
  effect :
    (now.invocations id ≤ start.invocations id + 1 ∧
      ∀ place, now.authorizedWith id place → start.authorizedWith id place) ∨
    (now.invocations id ≤ start.invocations id ∧ ∃ only, ∀ place,
      now.authorizedWith id place → start.authorizedWith id place ∨ place = only)

/-- A change that neither grants an approval nor acts on one, and does not restore it. -/
structure Quiet (id : String) (world changed : World) : Prop where
  singleUse : world.singleUse id → changed.singleUse id
  approved : changed.approved id → world.approved id
  grants : changed.grants id ≤ world.grants id
  invocations : changed.invocations id ≤ world.invocations id
  places : ∀ place, changed.authorizedWith id place → world.authorizedWith id place

namespace Quiet

variable {id : String} {world changed last : World}

theorem refl (id : String) (world : World) : Quiet id world world :=
  ⟨fun single => single, fun given => given, le_refl _, le_refl _, fun _ given => given⟩

theorem trans (first : Quiet id world changed) (second : Quiet id changed last) :
    Quiet id world last where
  singleUse single := second.singleUse (first.singleUse single)
  approved given := first.approved (second.approved given)
  grants := second.grants.trans first.grants
  invocations := second.invocations.trans first.invocations
  places place given := first.places place (second.places place given)

/-- A change outside the approvals, the audit log and the effects that authorizes no row is quiet. -/
theorem of_eq (approvals : changed.db.approvals = world.db.approvals)
    (audit_log : changed.db.audit_log = world.db.audit_log)
    (effects : changed.effects = world.effects)
    (places : ∀ place, changed.authorizedWith id place → world.authorizedWith id place) :
    Quiet id world changed where
  singleUse single row found := single row (by
    rw [Database.approval?, ← approvals]
    exact found)
  approved given := by
    obtain ⟨row, found, status⟩ := given
    rw [Database.approval?, approvals] at found
    exact ⟨row, found, status⟩
  grants := by rw [World.grants, World.grants, audit_log]
  invocations := by rw [World.invocations, World.invocations, effects]
  places := places

end Quiet

section Uses

variable [Platform] {id : String} {world changed : World}

/-- An audit event counts as a grant when it reports the consumption of the approval. -/
theorem grants_audit (id : String) (actor : Actor) (action : String) (result : AuditResult)
    (reason : String) (record_id : Option String) (details : List (String × Json))
    (correlation_id : Option String) (world : World) :
    (World.audit actor action result reason record_id details correlation_id world).grants id =
      world.grants id +
        if action == "CONSUME_APPROVAL" && (result == .ALLOWED && record_id == some id) then 1
        else 0 := by
  -- One event is appended, and it alone can change the count.
  rw [World.grants, World.audit, List.countP_append, List.countP_singleton, World.grants]

/-- An audit event that reports no consumption of the approval is quiet. -/
theorem Quiet.audit (actor : Actor) (action : String) (result : AuditResult) (reason : String)
    (record_id : Option String) (details : List (String × Json)) (correlation_id : Option String)
    (world : World)
    (other : (action == "CONSUME_APPROVAL" && (result == .ALLOWED && record_id == some id)) = false) :
    Quiet id world
      (World.audit actor action result reason record_id details correlation_id world) where
  singleUse single := single
  approved given := given
  grants := by simp [grants_audit, other]
  invocations := le_refl _
  places _ given := given

/-- A change that uses the approval up. -/
structure Consumed (id : String) (world changed : World) : Prop where
  singleUse : world.singleUse id → changed.singleUse id
  spent : ¬changed.approved id
  grants : changed.grants id ≤ world.grants id + 1
  invocations : changed.invocations id ≤ world.invocations id
  places : ∀ place, changed.authorizedWith id place → world.authorizedWith id place

omit [Platform] in
/-- Giving an approval another state keeps all approvals single-use that are. -/
theorem singleUse_setApproval {approval_id : String} {status : ApprovalStatus}
    (single : world.singleUse id) : (setApproval approval_id status world).singleUse id := by
  intro row found
  rw [approval?_setApproval] at found
  obtain ⟨before, was, rfl⟩ := Option.map_eq_some_iff.mp found
  split
  · exact single before was
  · exact single before was

/-- Granting a use of another approval is quiet. -/
theorem Quiet.grant {actor : Actor} {use : Consumption} {reusable : Bool}
    (other : use.approval_id ≠ id) (world : World) :
    Quiet id world (grantConsumption actor use reusable world) := by
  have spent : Quiet id world
      (if reusable then world else setApproval use.approval_id .CONSUMED world) := by
    split
    · exact .refl id world
    · -- The row of this approval is not the one that was consumed.
      refine ⟨singleUse_setApproval, ?_, le_refl _, le_refl _, fun _ given => given⟩
      rintro ⟨row, found, status⟩
      rw [approval?_setApproval] at found
      obtain ⟨before, was, rfl⟩ := Option.map_eq_some_iff.mp found
      have named : before.record_id = id := by simpa using List.find?_some was
      rw [if_neg (by rw [named]; exact Ne.symm other)] at status
      exact ⟨before, was, status⟩
  rw [grantConsumption]
  exact spent.trans (.audit _ _ _ _ _ _ _ _ (by simp [other]))

/-- Granting a use of a single-use approval uses it up. -/
theorem Consumed.grant {actor : Actor} {use : Consumption} (same : use.approval_id = id)
    (world : World) : Consumed id world (grantConsumption actor use false world) where
  singleUse single := singleUse_setApproval single
  spent := by
    rintro ⟨row, found, status⟩
    have after : (setApproval use.approval_id .CONSUMED world).db.approval? id = some row := found
    rw [approval?_setApproval] at after
    obtain ⟨before, was, rfl⟩ := Option.map_eq_some_iff.mp after
    have named : before.record_id = id := by simpa using List.find?_some was
    rw [if_pos (by rw [named, same])] at status
    cases status
  grants := by
    have once : ∀ condition : Bool, (if condition then 1 else 0) ≤ 1 := by decide
    rw [grantConsumption, grants_audit]
    exact Nat.add_le_add (le_refl (world.grants id)) (once _)
  invocations := le_refl _
  places _ given := given

/-- What a caller knows of an approval: nothing, or that it was granted to its call alone. -/
inductive Phase where
  | free | holding
  /-- The approval was found to be reusable, so nothing is promised. -/
  | unknown
  deriving DecidableEq

/-- A change that uses the approval up and authorizes one row with it. -/
structure Authorized (id : String) (only : Outbox × String) (world changed : World) : Prop where
  singleUse : world.singleUse id → changed.singleUse id
  approved : world.approved id
  spent : ¬changed.approved id
  grants : changed.grants id ≤ world.grants id + 1
  invocations : changed.invocations id ≤ world.invocations id
  places : ∀ place, changed.authorizedWith id place →
    world.authorizedWith id place ∨ place = only

/-- A change that invokes one handler under the approval. -/
structure Invoked (id : String) (world changed : World) : Prop where
  singleUse : world.singleUse id → changed.singleUse id
  approved : changed.approved id → world.approved id
  grants : changed.grants id ≤ world.grants id
  invocations : changed.invocations id ≤ world.invocations id + 1
  places : ∀ place, changed.authorizedWith id place → world.authorizedWith id place

/-- The steps a call takes, by what it knows of the approval before and after each. -/
inductive UseMove (id : String) : Phase → Label → World → World → Phase → Prop
  | quiet {phase : Phase} {label : Label} {world changed : World}
      (change : Quiet id world changed) : UseMove id phase label world changed phase
  | consume {world changed : World} (change : Consumed id world changed) :
      UseMove id .free (.consume id) world changed .holding
  | authorize {label : Label} {world changed : World} (only : Outbox × String)
      (change : Authorized id only world changed) : UseMove id .free label world changed .free
  | invoke {label : Label} {world changed : World} (change : Invoked id world changed) :
      UseMove id .holding label world changed .free
  /-- Steps from a world in which the approval is reusable are not accounted for. -/
  | excluded {phase : Phase} {label : Label} {world changed : World}
      (reusable : ¬world.singleUse id) : UseMove id phase label world changed .unknown
  | unknown {label : Label} {world changed : World} :
      UseMove id .unknown label world changed .unknown

/-- The account of a single-use approval: not used, held by one caller for an effect, or spent. -/
inductive Accounted {κ : Type} (id : String) (start world : World) (phases : κ → Phase) : Prop
  | unused (single : world.singleUse id) (grants : world.grants id ≤ start.grants id)
      (fresh : Unspent id start world) (idle : ∀ caller, phases caller = .free)
  | held (single : world.singleUse id) (holder : κ) (spent : ¬world.approved id)
      (grants : world.grants id ≤ start.grants id + 1) (fresh : Unspent id start world)
      (alone : ∀ caller, phases caller = .free ∨ caller = holder ∧ phases caller = .holding)
  | done (single : world.singleUse id) (spent : ¬world.approved id)
      (effect : SingleEffect id start world) (idle : ∀ caller, phases caller = .free)

end Uses

namespace Accounted

variable {κ : Type} [DecidableEq κ] {id : String} {start world changed : World}
  {phases : κ → Phase} {caller : κ}

omit [DecidableEq κ] in
theorem single (account : Accounted id start world phases) : world.singleUse id := by
  cases account <;> assumption

omit [DecidableEq κ] in
theorem known (account : Accounted id start world phases) (caller : κ) :
    phases caller ≠ .unknown := by
  cases account with
  | unused _ _ _ idle => simp [idle caller]
  | held _ holder _ _ _ alone =>
    rcases alone caller with free | ⟨_, holding⟩
    · simp [free]
    · simp [holding]
  | done _ _ _ idle => simp [idle caller]

omit [DecidableEq κ] in
/-- Whatever stage the account is at, there was at most one effect. -/
theorem effect (account : Accounted id start world phases) : SingleEffect id start world := by
  cases account with
  | unused _ grants fresh _ =>
    exact ⟨by omega, .inl ⟨fresh.invocations.trans (Nat.le_succ _), fresh.places⟩⟩
  | held _ _ _ grants fresh _ =>
    exact ⟨grants, .inl ⟨fresh.invocations.trans (Nat.le_succ _), fresh.places⟩⟩
  | done _ _ effect _ => exact effect

/-- A caller without the approval can start a call at any stage. -/
theorem begin_ (account : Accounted id start world phases) (caller : κ) :
    Accounted id start world (Function.update phases caller .free) := by
  have idle : (∀ other, phases other = .free) →
      ∀ other, Function.update phases caller Phase.free other = .free := by
    intro idle other
    by_cases same : other = caller
    · subst same
      simp
    · simpa [Function.update_of_ne same] using idle other
  cases account with
  | unused single grants fresh idle' => exact .unused single grants fresh (idle idle')
  | held single holder spent grants fresh alone =>
    -- The holder may be the caller itself, who then gives the approval up unused.
    refine .held single holder spent grants fresh fun other => ?_
    by_cases same : other = caller
    · subst same
      exact .inl (by simp)
    · simpa [Function.update_of_ne same] using alone other
  | done single spent effect idle' => exact .done single spent effect (idle idle')

omit [DecidableEq κ] in
/-- A quiet change leaves the account at its stage. -/
theorem quiet (account : Accounted id start world phases) (change : Quiet id world changed) :
    Accounted id start changed phases := by
  cases account with
  | unused single grants fresh idle =>
    exact .unused (change.singleUse single) (change.grants.trans grants)
      ⟨change.invocations.trans fresh.invocations,
        fun place given => fresh.places place (change.places place given)⟩ idle
  | held single holder spent grants fresh alone =>
    exact .held (change.singleUse single) holder (fun given => spent (change.approved given))
      (change.grants.trans grants)
      ⟨change.invocations.trans fresh.invocations,
        fun place given => fresh.places place (change.places place given)⟩ alone
  | done single spent effect idle =>
    refine .done (change.singleUse single) (fun given => spent (change.approved given))
      ⟨change.grants.trans effect.grants, ?_⟩ idle
    rcases effect.effect with ⟨ran, places⟩ | ⟨ran, only, places⟩
    · exact .inl ⟨change.invocations.trans ran,
        fun place given => places place (change.places place given)⟩
    · exact .inr ⟨change.invocations.trans ran, only,
        fun place given => places place (change.places place given)⟩

/-- Consuming an approval that is not used makes the caller its only holder. -/
theorem consume (account : Accounted id start world phases) (approved : world.approved id)
    (change : Consumed id world changed) :
    Accounted id start changed (Function.update phases caller .holding) := by
  cases account with
  | unused single grants fresh idle =>
    refine .held (change.singleUse single) caller change.spent
      (change.grants.trans (Nat.add_le_add_right grants 1))
      ⟨change.invocations.trans fresh.invocations,
        fun place given => fresh.places place (change.places place given)⟩ fun other => ?_
    by_cases same : other = caller
    · subst same
      exact .inr ⟨rfl, by simp⟩
    · exact .inl (by simpa [Function.update_of_ne same] using idle other)
  | held _ _ spent => exact absurd approved spent
  | done _ spent => exact absurd approved spent

omit [DecidableEq κ] in
/-- Authorizing a row spends the approval at once. -/
theorem authorize {only : Outbox × String} (account : Accounted id start world phases)
    (change : Authorized id only world changed) : Accounted id start changed phases := by
  cases account with
  | unused single grants fresh idle =>
    refine .done (change.singleUse single) change.spent
      ⟨change.grants.trans (Nat.add_le_add_right grants 1), .inr
        ⟨change.invocations.trans fresh.invocations, only, fun place given => ?_⟩⟩ idle
    rcases change.places place given with before | this
    · exact .inl (fresh.places place before)
    · exact .inr this
  | held _ _ spent => exact absurd change.approved spent
  | done _ spent => exact absurd change.approved spent

/-- The holder spends the approval on one handler. -/
theorem invoke (account : Accounted id start world phases) (holding : phases caller = .holding)
    (change : Invoked id world changed) :
    Accounted id start changed (Function.update phases caller .free) := by
  cases account with
  | unused _ _ _ idle => simp [idle caller] at holding
  | held single holder spent grants fresh alone =>
    refine .done (change.singleUse single) (fun given => spent (change.approved given))
      ⟨change.grants.trans grants, .inl ⟨change.invocations.trans
        (Nat.add_le_add_right fresh.invocations 1),
        fun place given => fresh.places place (change.places place given)⟩⟩ fun other => ?_
    by_cases same : other = caller
    · subst same
      simp
    · -- Nobody else was the holder, since this caller was.
      rcases alone caller with free | ⟨own, _⟩
      · simp [free] at holding
      · rcases alone other with free | ⟨also, _⟩
        · simpa [Function.update_of_ne same] using free
        · exact absurd (also.trans own.symm) same
  | done _ _ _ idle => simp [idle caller] at holding

/-- Every step that calls take keeps the account. -/
theorem move {label : Label} {later : Phase} (account : Accounted id start world phases)
    (permitted : label = .consume id → world.approved id)
    (move : UseMove id (phases caller) label world changed later) :
    Accounted id start changed (Function.update phases caller later) := by
  generalize here : phases caller = phase at move
  cases move with
  | quiet change =>
    rw [← here, Function.update_eq_self]
    exact account.quiet change
  | consume change => exact account.consume (permitted rfl) change
  | authorize _ change =>
    rw [← here, Function.update_eq_self]
    exact account.authorize change
  | invoke change => exact account.invoke here change
  | excluded reusable => exact absurd account.single reusable
  | unknown => exact absurd here (account.known caller)

end Accounted

section Calls

variable [Platform] {id : String}

/-- The approval is still to be consumed where a consumption of its own transaction is written. -/
def Undisturbed (id : String) (label : Label) (world : World) : Prop :=
  label = .consume id → world.approved id

instance (id : String) (label : Label) (world : World) : Decidable (Undisturbed id label world) :=
  inferInstanceAs (Decidable (_ → _))

/-- Every step of a program is quiet. -/
abbrev Silent {α : Type} (id : String) (program : Op α) : Prop :=
  Prog.Keeps (Undisturbed id) (fun _ => Quiet id) program

omit [Platform] in
theorem silent_read {α : Type} (label : Label) (view : World → α) :
    Silent id (Prog.read label view : Op α) :=
  .read fun world _ => .refl id world

omit [Platform] in
theorem silent_lift {α : Type} (checked : Except Error α) : Silent id (lift checked) := by
  cases checked with
  | ok value => exact trivial
  | error error => exact trivial

omit [Platform] in
theorem silent_timeOr (at_ : Option String) : Silent id (timeOr at_) := by
  unfold timeOr
  split
  · exact trivial
  · exact silent_read _ _

theorem silent_audit {actor : Actor} {action : String} {result : AuditResult} {reason : String}
    {record_id : Option String} {details : List (String × Json)} {correlation_id : Option String}
    (other : (action == "CONSUME_APPROVAL" && (result == .ALLOWED && record_id == some id)) = false) :
    Silent id (_audit actor action result reason record_id details correlation_id) :=
  .write fun world _ => .audit _ _ _ _ _ _ _ world other

omit [Platform] in
theorem silent_getRow {Columns : Type} (table : OutboxTable Columns) (missing : String)
    (store : Store) (actor : Actor) (key : String) :
    Silent id (getRow table missing store actor key) := by
  -- One query, and a check of what it found.
  apply Prog.Keeps.bind (silent_read _ _)
  intro row
  cases row with
  | none => exact trivial
  | some row => exact Prog.Keeps.bind (silent_lift _) fun _ => trivial

omit [Platform] in
theorem silent_get_alert_delivery (store : Store) (actor : Actor) (delivery_id : String) :
    Silent id (get_alert_delivery store actor delivery_id) := by
  apply Prog.Keeps.bind (silent_getRow _ _ _ _ _)
  intro row
  apply Prog.Keeps.bind (silent_read _ _)
  intro clock
  exact Prog.Keeps.bind (silent_lift _) fun _ => trivial

theorem silent_record_policy_decision (actor : Actor) (work_id : Option String) (allowed : Bool)
    (reason : String) (details : List (String × Json)) :
    Silent id (record_policy_decision actor work_id allowed reason details) :=
  silent_audit rfl

omit [Platform] in
theorem silent_completed_action_result (work_id task_type : String) :
    Silent id (completed_action_result work_id task_type) := by
  apply Prog.Keeps.bind (silent_read _ _)
  intro row
  cases row with
  | none => exact trivial
  | some row =>
    show Silent id (if row.task_type ≠ task_type then _ else _)
    split <;> exact trivial

theorem silent_record_action_result (actor : Actor) (work_id task_type : String) (result : Json) :
    Silent id (record_action_result actor work_id task_type result) := by
  unfold record_action_result
  dsimp only
  split
  · exact Prog.Keeps.bind (silent_audit rfl) fun _ => trivial
  · apply Prog.Keeps.bind (silent_read _ _)
    intro work
    apply Prog.Keeps.bind (silent_lift _)
    intro cost
    apply Prog.Keeps.bind (silent_read _ _)
    intro stamp
    -- The result goes to a table that no approval depends on.
    refine Prog.Keeps.bind (Prog.Keeps.transact fun world _ => ?_) fun _ =>
      Prog.Keeps.bind (silent_audit rfl) fun _ => trivial
    split
    · exact .refl id world
    split
    · exact .refl id world
    · refine .of_eq rfl rfl rfl fun place given => ?_
      obtain ⟨outbox, key⟩ := place
      cases outbox <;> exact given

/-- The phases a program goes through are those of a call. -/
abbrev Uses {α : Type} (id : String) (ends : Phase → Except Error α → Prop) (phase : Phase)
    (program : Op α) : Prop :=
  Prog.Follows (Undisturbed id) (UseMove id) ends phase program

omit [Platform] in
/-- A silent program ends in the phase it began in. -/
theorem Silent.uses {α : Type} {program : Op α} {phase : Phase}
    {ends : Phase → Except Error α → Prop} (silent : Silent id program)
    (ended : ∀ outcome, ends phase outcome) : Uses id ends phase program :=
  Prog.Keeps.follows silent (fun _ _ _ _ change => .quiet change) ended

omit [Platform] in
/-- A silent program, and what follows it from the phase it leaves. -/
theorem Silent.uses_bind {α β : Type} {program : Op α} {rest : α → Op β} {phase : Phase}
    {ends : Phase → Except Error β → Prop} (silent : Silent id program)
    (follows : ∀ value, Uses id ends phase (rest value))
    (raised : ∀ error, ends phase (.error error)) : Uses id ends phase (program >>= rest) := by
  have first : Uses id (fun last _ => last = phase) phase program := silent.uses fun _ => rfl
  refine Prog.Follows.bind first ?_ ?_
  · rintro last value rfl
    exact follows value
  · rintro last error rfl
    exact raised error

omit [Platform] in
/-- A call whose approval was found reusable is not accounted for any more. -/
theorem uses_unknown {α : Type} (program : Op α) {ends : Phase → Except Error α → Prop}
    (ended : ∀ outcome, ends .unknown outcome) : Uses id ends .unknown program :=
  Prog.follows_any (fun _ _ _ => .unknown) ended program

/-- Where a call ends that may have consumed one approval: it holds what it consumed. -/
def Entitled (id : String) (consumed : Option String) (phase : Phase) : Prop :=
  phase = .unknown ∨ (consumed = some id ∧ phase = .holding) ∨
    (consumed ≠ some id ∧ phase = .free)

/-- Where a call ends that consumed one approval, or raised and consumed none. -/
def EntitledOr {α : Type} (id : String) (consumed : α → Option String) (phase : Phase) :
    Except Error α → Prop
  | .ok value => Entitled id (consumed value) phase
  | .error _ => Entitled id none phase

omit [Platform] in
/-- A row that was found under an identifier is reusable only where the approval is. -/
theorem reusable_of_found {world : World} {row : ApprovalRow}
    (found : world.db.approval? id = some row) (reusable : row.reusable = true) :
    ¬world.singleUse id := by
  intro single
  rw [single row found] at reusable
  cases reusable

omit [Platform] in
/-- A call that consumed nothing yet may raise. -/
theorem entitledOr_raised {α : Type} (consumed : α → Option String) (error : Error) :
    EntitledOr id consumed .free (.error error) :=
  .inr (.inr ⟨by simp, rfl⟩)

/-- A use that is refused leaves the approval alone, and one that is granted uses it up. -/
theorem uses_concludeConsumption (actor : Actor) (use : Consumption) {row : Option ApprovalRow}
    (reason : Option String)
    (single : use.approval_id = id → ∀ found, row = some found → found.reusable = false) :
    Uses id (EntitledOr id fun _ => some use.approval_id) .free
      (concludeConsumption actor use row reason) := by
  have refused : ∀ reason, Uses id (EntitledOr id fun _ => some use.approval_id) .free
      (concludeConsumption actor use none reason) := by
    intro reason world _
    exact ⟨.free, .quiet (.audit _ _ _ _ _ _ _ world (by rfl)), entitledOr_raised _ _⟩
  cases row with
  | none => exact refused reason
  | some row =>
    cases reason with
    | some reason => exact refused (some reason)
    | none =>
      intro world _
      by_cases same : use.approval_id = id
      · -- The approval itself is consumed, and the caller holds it from here on.
        have once : row.reusable = false := single same row rfl
        refine ⟨.holding, ?_, .inr (.inl ⟨by rw [same], rfl⟩)⟩
        rw [once, same]
        exact .consume (.grant same world)
      · refine ⟨.free, .quiet (.grant same world), .inr (.inr ⟨?_, rfl⟩)⟩
        simpa using same

/-- A direct consumption grants its approval, or leaves it alone and raises. -/
theorem uses_consume_approval (store : Store) (actor : Actor) (use : Consumption) :
    Uses id (EntitledOr id fun _ => some use.approval_id) .free
      (consume_approval store actor use) := by
  rw [consume_approval]
  split
  · exact entitledOr_raised _ _
  intro world _
  by_cases single : use.approval_id = id → ∀ found,
      world.db.approval? use.approval_id = some found → found.reusable = false
  · -- The row that was found is single-use, whatever happens to the table meanwhile.
    refine ⟨.free, .quiet (.refl id world), ?_⟩
    exact (silent_timeOr use.at_).uses_bind
      (fun timestamp => uses_concludeConsumption actor use _ single) fun _ =>
      entitledOr_raised _ _
  · -- From a reusable row on, nothing is accounted for.
    push Not at single
    obtain ⟨same, row, found, reusable⟩ := single
    rw [same] at found
    refine ⟨.unknown, .excluded (reusable_of_found found (by simpa using reusable)), ?_⟩
    exact uses_unknown _ fun outcome => by cases outcome <;> exact .inl rfl

omit [Platform] in
/-- Only an approved row covers a use. -/
theorem approved_of_covered {store : Store} {actor : Actor} {use : Consumption}
    {timestamp : String} {row : ApprovalRow}
    (covered : consumeRefusal store actor use timestamp (some row) = none) :
    row.status = .APPROVED := by
  -- The third check of the source asks for the state.
  rw [consumeRefusal] at covered
  by_contra other
  split at covered
  · cases covered
  split at covered
  · cases covered
  · cases covered

/-- A use inside a transaction is refused quietly, or grants an approved row. -/
theorem consumeWithin_cases (id : String) (store : Store) (actor : Actor) (use : Consumption)
    (world : World) :
    (∃ error refused, consumeWithin store actor use world = (.error error, refused) ∧
      Quiet id world refused) ∨
    ∃ row, world.db.approval? use.approval_id = some row ∧ row.status = .APPROVED ∧
      consumeWithin store actor use world =
        (.ok (grantConsumption actor use row.reusable world), world) := by
  rw [consumeWithin]
  split
  · exact .inl ⟨_, _, rfl, .refl id world⟩
  dsimp only
  split
  next row found covered => exact .inr ⟨row, found, approved_of_covered (found ▸ covered), rfl⟩
  next => exact .inl ⟨_, _, rfl, .audit _ _ _ _ _ _ _ world (by rfl)⟩

omit [Platform] in
/-- After rows of one outbox were authorized with an approval, no other row is that was not. -/
theorem authorizedWith_update {Columns : Type} {table : OutboxTable Columns}
    {holds : OutboxRow Columns → Bool} {change : OutboxRow Columns → OutboxRow Columns}
    {key approval_id : String} (keeps : ∀ row, (change row).key = row.key)
    (names : ∀ row, (change row).approval_id = some approval_id)
    (only : ∀ row, holds row = true → row.key = key) (world : World) (place : Outbox × String)
    (given : (table.update holds change world).authorizedWith id place) :
    world.authorizedWith id place ∨ (approval_id = id ∧ place = (table.name, key)) := by
  obtain ⟨outbox, other⟩ := place
  by_cases own : outbox = table.name
  · -- In the outbox itself, the row under the key is the only one that may be new.
    subst own
    have here : (table.find? other (table.update holds change world).db).bind (·.approval_id) =
        some id := by
      rw [World.authorizedWith, table.approvalAt_self] at given
      exact given
    rw [OutboxTable.find?_update keeps] at here
    cases found : table.find? other world.db with
    | none => simp [found] at here
    | some row =>
      rw [found, Option.map_some, Option.bind_some] at here
      by_cases changes : holds row = true
      · rw [if_pos changes, names] at here
        have at_ : other = key := by
          rw [← OutboxTable.key_of_find? found]
          exact only row changes
        exact .inr ⟨Option.some.inj here, by rw [at_]⟩
      · rw [if_neg changes] at here
        refine .inl ?_
        rw [World.authorizedWith, table.approvalAt_self]
        show (table.find? other world.db).bind (·.approval_id) = some id
        rw [found]
        exact here
  · refine .inl ?_
    rw [World.authorizedWith, OutboxTable.update, table.approvalAt_other _ _ _ _ own] at given
    exact given

/-- A call ends holding nothing, or is not accounted for. -/
def Settled {α : Type} (last : Phase) (_ : Except Error α) : Prop :=
  last = .free ∨ last = .unknown

/-- Authorizing a row in the transaction that consumed its approval. -/
theorem useMove_authorize {Columns : Type} {table : OutboxTable Columns}
    {holds : OutboxRow Columns → Bool} {change : OutboxRow Columns → OutboxRow Columns}
    {actor : Actor} {use : Consumption} {row : ApprovalRow} {world last : World}
    (label : Label) (key : String) (keeps : ∀ row, (change row).key = row.key)
    (names : ∀ row, (change row).approval_id = some use.approval_id)
    (only : ∀ row, holds row = true → row.key = key)
    (found : world.db.approval? use.approval_id = some row) (approved : row.status = .APPROVED)
    (recorded : Quiet id
      (table.update holds change (grantConsumption actor use row.reusable world)) last) :
    ∃ later, UseMove id .free label world last later ∧
      (later = .free ∨ later = .unknown) := by
  -- The update changes neither the approvals nor the audit log, only the row.
  have frame := fun items => table.frame items (grantConsumption actor use row.reusable world).db
  by_cases same : use.approval_id = id
  · by_cases single : row.reusable = true
    · exact ⟨.unknown, .excluded (reusable_of_found (same ▸ found) single), .inr rfl⟩
    · rw [Bool.not_eq_true] at single
      rw [single] at recorded frame
      have consumed : Consumed id world (grantConsumption actor use false world) :=
        .grant same world
      have approvals := fun items => (frame items).1
      refine ⟨.free, .authorize (table.name, key) ⟨?_, ?_, ?_, ?_, ?_, ?_⟩, .inl rfl⟩
      · intro was
        refine recorded.singleUse fun item there => consumed.singleUse was item ?_
        rw [Database.approval?, OutboxTable.update, approvals] at there
        exact there
      · exact ⟨row, same ▸ found, approved⟩
      · rintro given
        obtain ⟨item, there, status⟩ := recorded.approved given
        rw [Database.approval?, OutboxTable.update, approvals] at there
        exact consumed.spent ⟨item, there, status⟩
      · refine recorded.grants.trans (le_trans (le_of_eq ?_) consumed.grants)
        rw [World.grants, OutboxTable.update, (frame _).2, World.grants]
      · exact recorded.invocations.trans consumed.invocations
      · intro place given
        rcases authorizedWith_update keeps names only _ place (recorded.places place given) with
          before | ⟨_, here⟩
        · exact .inl (consumed.places place before)
        · exact .inr here
  · have granted : Quiet id world (grantConsumption actor use row.reusable world) :=
      .grant same world
    have placed : Quiet id (grantConsumption actor use row.reusable world)
        (table.update holds change (grantConsumption actor use row.reusable world)) := by
      refine .of_eq (frame _).1 (frame _).2 rfl fun place given => ?_
      rcases authorizedWith_update keeps names only _ place given with before | ⟨here, _⟩
      · exact before
      · exact absurd here same
    exact ⟨.free, .quiet (granted.trans (placed.trans recorded)), .inl rfl⟩

/-- An authorization is refused quietly, or spends the approval on its row at once. -/
theorem uses_authorizeRow {Columns : Type} (table : OutboxTable Columns) (values : Authorization)
    (store : Store) (actor : Actor) (use : Consumption) (key : String) (stamp : Option String)
    (other : (values.action == "CONSUME_APPROVAL") = false) :
    Uses id Settled .free (authorizeRow table values store actor use key stamp) := by
  apply Prog.Follows.transact
  intro world _
  rcases consumeWithin_cases id store actor use world with
    ⟨error, refused, ended, quiet⟩ | ⟨row, found, approved, ended⟩
  · exact ⟨.free, by rw [ended]; exact .quiet quiet, .inl rfl⟩
  rw [ended]
  dsimp only
  split
  · refine useMove_authorize _ key ?_ ?_ ?_ found approved
      (Quiet.audit _ _ _ _ _ _ _ _ (by rw [other]; rfl))
    · exact fun _ => rfl
    · exact fun _ => rfl
    · intro item waits
      simp only [Bool.and_eq_true, beq_iff_eq] at waits
      exact waits.1
  · exact ⟨.free, .quiet (.refl id world), .inl rfl⟩

omit [Platform] in
/-- What a settled call does silently afterwards leaves it settled. -/
theorem uses_settled {α : Type} {program : Op α} {last : Phase} {before : Except Error Unit}
    (settled : Settled last before) (silent : Silent id program) :
    Uses id Settled last program := by
  rcases settled with rfl | rfl
  · exact silent.uses fun _ => .inl rfl
  · exact silent.uses fun _ => .inr rfl

/-- An authorization, and the silent read of the row behind it. -/
theorem uses_authorizeRow_bind {Columns α : Type} {table : OutboxTable Columns}
    {values : Authorization} {store : Store} {actor : Actor} {use : Consumption} {key : String}
    {stamp : Option String} {rest : Unit → Op α}
    (other : (values.action == "CONSUME_APPROVAL") = false) (silent : Silent id (rest ())) :
    Uses id Settled .free (authorizeRow table values store actor use key stamp >>= rest) := by
  refine Prog.Follows.bind (uses_authorizeRow table values store actor use key stamp other) ?_ ?_
  · exact fun last _ settled => uses_settled settled silent
  · exact fun last _ settled => settled

theorem uses_authorize_backup_transfer (store : Store) (actor : Actor)
    (plan_sha256 approval_id : String) :
    Uses id Settled .free (authorize_backup_transfer store actor plan_sha256 approval_id) := by
  unfold authorize_backup_transfer
  split
  · exact .inl rfl
  -- The row is read outside the transaction, which then judges it again.
  refine (silent_getRow _ _ _ _ _).uses_bind (fun row => ?_) fun _ => .inl rfl
  split
  · exact .inl rfl
  split
  · exact .inl rfl
  refine (silent_lift _).uses_bind (fun conditions => ?_) fun _ => .inl rfl
  exact uses_authorizeRow_bind rfl (silent_getRow _ _ _ _ _)

theorem uses_authorize_backup_restore (store : Store) (actor : Actor)
    (plan_sha256 approval_id : String) (at_ : Option String) :
    Uses id Settled .free (authorize_backup_restore store actor plan_sha256 approval_id at_) := by
  unfold authorize_backup_restore
  split
  · exact .inl rfl
  refine (silent_getRow _ _ _ _ _).uses_bind (fun row => ?_) fun _ => .inl rfl
  split
  · exact .inl rfl
  split
  · exact .inl rfl
  refine (silent_timeOr at_).uses_bind (fun stamp => ?_) fun _ => .inl rfl
  refine (silent_lift _).uses_bind (fun instant => ?_) fun _ => .inl rfl
  refine (silent_lift _).uses_bind (fun inside => ?_) fun _ => .inl rfl
  split
  · exact .inl rfl
  refine (silent_lift _).uses_bind (fun conditions => ?_) fun _ => .inl rfl
  exact uses_authorizeRow_bind rfl (silent_getRow _ _ _ _ _)

theorem uses_authorize_alert_delivery (store : Store) (actor : Actor)
    (delivery_id approval_id : String) :
    Uses id Settled .free (authorize_alert_delivery store actor delivery_id approval_id) := by
  unfold authorize_alert_delivery
  split
  · exact .inl rfl
  refine (silent_get_alert_delivery _ _ _).uses_bind (fun delivery => ?_) fun _ => .inl rfl
  dsimp only
  split
  · split
    · exact .inl rfl
    · exact .inl rfl
  · exact uses_authorizeRow_bind rfl (silent_get_alert_delivery _ _ _)

/-- A value consumes the approval it names, or none. -/
theorem uses_consumeNamed (store : Store) (actor : Actor) (use : Consumption)
    (approval_id : Option String) :
    Uses id (EntitledOr id fun consumed => consumed) .free
      (consumeNamed store actor use approval_id) := by
  cases approval_id with
  | some approval_id =>
    refine Prog.Follows.bind (uses_consume_approval store actor _) ?_ ?_
    · exact fun last value entitled => entitled
    · exact fun last error entitled => entitled
  | none =>
    -- Nothing was found, so nothing is consumed.
    refine (silent_audit ?_).uses_bind (fun _ => entitledOr_raised _ _) fun _ => entitledOr_raised _ _
    rfl

/-- A policy that requires an approval consumes the one that the work names. -/
theorem uses_consumeRequired (store : Store) (actor : Actor) (policy : ActionPolicy)
    (work : Work) :
    Uses id (EntitledOr id fun consumed => consumed) .free
      (consumeRequired store actor policy work) := by
  unfold consumeRequired
  split
  · exact .inr (.inr ⟨by simp, rfl⟩)
  split
  case h_1 approval target _ _ =>
    refine Prog.Follows.catch ?_ (fun last value entitled => entitled) ?_
    · exact (silent_lift _).uses_bind (fun _ => uses_consumeNamed store actor _ _)
        fun _ => entitledOr_raised _ _
    · -- Whatever was raised is raised again, and nothing was consumed.
      intro last error entitled
      cases error <;> exact entitled
  case h_2 => exact entitledOr_raised _ _

/-- The checks on work are silent but for the consumption of the approval it names. -/
theorem uses_permitWork (registry : ActionRegistry) (store : Store) (actor : Actor)
    (work : Work) :
    Uses id (EntitledOr id fun permitted => permitted.2.2) .free
      (permitWork registry store actor work) := by
  unfold permitWork
  refine (silent_read _ _).uses_bind (fun killed => ?_) (entitledOr_raised _)
  refine (silent_lift _).uses_bind (fun _ => ?_) (entitledOr_raised _)
  split
  · exact entitledOr_raised _ _
  refine (silent_lift _).uses_bind (fun _ => ?_) (entitledOr_raised _)
  refine (silent_lift _).uses_bind (fun estimated => ?_) (entitledOr_raised _)
  refine (silent_lift _).uses_bind (fun _ => ?_) (entitledOr_raised _)
  refine Prog.Follows.bind (uses_consumeRequired store actor _ work) ?_ ?_
  · exact fun last value entitled => entitled
  · exact fun last error entitled => entitled

omit [Platform] in
/-- A handler is invoked by the caller that holds the approval, if it is this approval. -/
theorem uses_invoke (handler : Handler) (work_id : Option String) (task_type : String)
    {approval_id : Option String} (payload : List (String × Json)) {last : Phase}
    (entitled : Entitled id approval_id last) :
    Uses id Settled last (invoke handler work_id task_type approval_id payload) := by
  have counted : ∀ world : World,
      World.invocations id
          { world with effects := .handled work_id task_type approval_id :: world.effects } =
        world.invocations id + if approval_id == some id then 1 else 0 := by
    intro world
    rw [World.invocations, List.countP_cons, World.invocations]
  have silent : Silent id (lift (handler payload)) := silent_lift _
  intro world _
  rcases entitled with rfl | ⟨same, rfl⟩ | ⟨other, rfl⟩
  · exact ⟨.unknown, .unknown, silent.uses fun _ => .inr rfl⟩
  · -- The approval is spent on this invocation.
    refine ⟨.free, .invoke ⟨fun single => single, fun given => given, le_refl _, ?_,
      fun _ given => given⟩, silent.uses fun _ => .inl rfl⟩
    refine le_of_eq ((counted world).trans ?_)
    rw [if_pos (by rw [same, beq_self_eq_true])]
  · refine ⟨.free, .quiet ⟨fun single => single, fun given => given, le_refl _, ?_,
      fun _ given => given⟩, silent.uses fun _ => .inl rfl⟩
    refine le_of_eq ((counted world).trans ?_)
    rw [if_neg (by simpa using other)]
    rfl

/-- An execution consumes at most one approval, and invokes at most one handler under it. -/
theorem uses_execute (registry : ActionRegistry) (store : Store) (actor : Actor) (work : Work) :
    Uses id (fun _ _ => True) .free (registry.execute store actor work) := by
  have stored : Silent id (storedResult work) := by
    unfold storedResult
    split
    · exact silent_completed_action_result _ _
    · exact trivial
  have storing : ∀ name result, Silent id (storeResult actor work name result) := by
    intro name result
    unfold storeResult
    split
    · exact silent_record_action_result _ _ _ _
    · exact trivial
  unfold ActionRegistry.execute
  refine stored.uses_bind (fun replay => ?_) fun _ => trivial
  split
  · exact (silent_record_policy_decision _ _ _ _ _).uses_bind (fun _ => trivial) fun _ => trivial
  have permitted : Uses id (EntitledOr id fun permitted => permitted.2.2) .free
      (tryCatch (permitWork registry store actor work) (refuseWork actor work)) := by
    refine Prog.Follows.catch (uses_permitWork registry store actor work) ?_ ?_
    · exact fun last value entitled => entitled
    · intro last error entitled
      have raised : ∀ error, EntitledOr id
          (fun permitted : (ActionPolicy × Handler) × Number × Option String => permitted.2.2) last
          (.error error) := fun _ => entitled
      unfold refuseWork
      split
      · exact (silent_record_policy_decision _ _ _ _ _).uses_bind (fun _ => raised _) raised
      · exact raised _
  refine Prog.Follows.bind permitted ?_ ?_
  · intro last value entitled
    -- The decision is recorded before the handler runs, and the result after it.
    refine (silent_record_policy_decision _ _ _ _ _).uses_bind (fun _ => ?_) fun _ => trivial
    refine Prog.Follows.bind (uses_invoke value.1.2 work.id value.1.1.name work.payload entitled) ?_ ?_
    · intro last result _
      exact Silent.uses (Prog.Keeps.bind (storing _ _) fun _ => trivial) fun _ => trivial
    · exact fun last error _ => trivial
  · exact fun last error _ => trivial

/-- The calls that can consume an approval, by any actor over any connection. -/
inductive ApprovalCall : Op Unit → Prop
  | execute (registry : ActionRegistry) (store : Store) (actor : Actor) (work : Work) :
      ApprovalCall (registry.execute store actor work).call
  | authorize_backup_transfer (store : Store) (actor : Actor) (plan_sha256 approval_id : String) :
      ApprovalCall (SeanOs.authorize_backup_transfer store actor plan_sha256 approval_id).call
  | authorize_backup_restore (store : Store) (actor : Actor) (plan_sha256 approval_id : String)
      (at_ : Option String) :
      ApprovalCall (SeanOs.authorize_backup_restore store actor plan_sha256 approval_id at_).call
  | authorize_alert_delivery (store : Store) (actor : Actor) (delivery_id approval_id : String) :
      ApprovalCall (SeanOs.authorize_alert_delivery store actor delivery_id approval_id).call
  | consume_approval (store : Store) (actor : Actor) (use : Consumption) :
      ApprovalCall (SeanOs.consume_approval store actor use).call

/-- Every such call goes through the phases of the account. -/
theorem ApprovalCall.uses {program : Op Unit} (called : ApprovalCall program) :
    Uses id (fun _ _ => True) .free program := by
  cases called with
  | execute registry store actor work => exact (uses_execute registry store actor work).call
  | authorize_backup_transfer store actor plan_sha256 approval_id =>
    exact ((uses_authorize_backup_transfer store actor plan_sha256 approval_id).mono
      fun _ _ _ => trivial).call
  | authorize_backup_restore store actor plan_sha256 approval_id at_ =>
    exact ((uses_authorize_backup_restore store actor plan_sha256 approval_id at_).mono
      fun _ _ _ => trivial).call
  | authorize_alert_delivery store actor delivery_id approval_id =>
    exact ((uses_authorize_alert_delivery store actor delivery_id approval_id).mono
      fun _ _ _ => trivial).call
  | consume_approval store actor use =>
    exact ((uses_consume_approval store actor use).mono fun _ _ _ => trivial).call

/--
A single-use approval leads to one grant and one effect at most, in every interleaving in which
it is still approved whenever a consumption of its own transaction is written.

The calls name any approvals, and anything else that happens only must not restore this one.
-/
theorem single_use {κ : Type} [DecidableEq κ] {start : World} {last : Pool κ World Label Error}
    (single : start.singleUse id)
    (reached : Pool.Reaches (fun _ => ApprovalCall) (Quiet id) (fun _ => Undisturbed id)
      (Pool.idle start) last) :
    SingleEffect id start last.shared := by
  -- The account is carried along the run, from an approval that no call has used yet.
  have initial : Pool.Phased (fun _ => Undisturbed id) (fun _ => UseMove id) (Accounted id start)
      (Pool.idle start : Pool κ World Label Error) :=
    ⟨fun _ => .free, .unused single (le_refl _) ⟨le_refl _, fun _ given => given⟩ fun _ => rfl,
      fun _ => trivial⟩
  obtain ⟨phases, account, _⟩ := Pool.Reaches.phased
    (fun caller program called => ⟨.free, called.uses, fun _ _ account => account.begin_ caller⟩)
    (fun caller label state changed phases later account permitted move =>
      account.move permitted move)
    (fun state changed phases account change => account.quiet change) initial reached
  exact account.effect

end Calls

namespace Sample

/-- A registry with one action, which requires an approval and always succeeds. -/
def registry : ActionRegistry := ⟨[({
  name := "DELIVER_ALERT", allowed_scopes := ["IAC"], external_effect := true, reversible := true
  approval_required := true, cost_bearing := false }, fun _ => .ok (.obj []))]⟩

/-- Work on that action that names one approval. -/
def work : Work where
  id := none
  task_type := "DELIVER_ALERT"
  owner_scope := .IAC
  payload := [("approval_id", .str "00000000-0000-4000-8000-000000000000"),
    ("action_target", .str "delivery")]

/-- A world that holds one approval until noon, which is single-use. -/
def approvedUntilNoon : World :=
  world { Database.empty with approvals := [approval "2030-01-01T12:00:00+00:00"] }

end Sample

section Examples

open Sample

local instance singleUsePlatform : Platform := platform []

/-- Some callers that are about to execute the same work. -/
def Sample.executing (callers : List Bool) : Pool Bool World Label Error :=
  callers.foldl (fun pool caller =>
    pool.begin_ caller (registry.execute ⟨.IAC⟩ .sean work).call) (Pool.idle approvedUntilNoon)

/-- The pool is reached by starting these calls, whatever steps are permitted. -/
theorem Sample.reaches_executing {permits : Bool → Label → World → Prop} (callers : List Bool) :
    Pool.Reaches (fun _ => ApprovalCall) (Quiet "00000000-0000-4000-8000-000000000000") permits
      (Pool.idle approvedUntilNoon) (executing callers) := by
  have started : ∀ pool : Pool Bool World Label Error,
      Pool.Reaches (fun _ => ApprovalCall) (Quiet "00000000-0000-4000-8000-000000000000") permits
        (Pool.idle approvedUntilNoon) pool →
      Pool.Reaches (fun _ => ApprovalCall) (Quiet "00000000-0000-4000-8000-000000000000") permits
        (Pool.idle approvedUntilNoon)
        (callers.foldl (fun pool caller =>
          pool.begin_ caller (registry.execute ⟨.IAC⟩ .sean work).call) pool) := by
    induction callers with
    | nil => exact fun pool reached => reached
    | cons caller callers ih =>
      exact fun pool reached => ih _ (.step reached (.start caller (.execute _ _ _ _)))
  exact started _ .refl

/-- The sample approval is single-use. -/
theorem Sample.single_approvedUntilNoon :
    approvedUntilNoon.singleUse "00000000-0000-4000-8000-000000000000" := by
  intro row found
  have first : approvedUntilNoon.db.approval? "00000000-0000-4000-8000-000000000000" =
      some (approval "2030-01-01T12:00:00+00:00") := by decide +kernel
  rw [first] at found
  cases found
  rfl

/-- One execution consumes the approval and has its one effect, and another one behind it has none. -/
theorem single_use_alone :
    SingleEffect "00000000-0000-4000-8000-000000000000" approvedUntilNoon
      ((List.replicate 6 false ++ List.replicate 6 true).foldl Pool.advance
        (Sample.executing [false, true])).shared :=
  single_use single_approvedUntilNoon (Pool.Reaches.schedule
    (fun _ label state => decide (Undisturbed "00000000-0000-4000-8000-000000000000" label state))
    (List.replicate 6 false ++ List.replicate 6 true)
    (fun _ _ _ passed => of_decide_eq_true passed) (by decide +kernel)
    (reaches_executing [false, true]))

/-- Two executions that both found the approval before either consumed it both run the handler. -/
theorem two_uses_of_single :
    ∃ last : Pool Bool World Label Error,
      Pool.Reaches (fun _ => ApprovalCall) (Quiet "00000000-0000-4000-8000-000000000000")
        (fun _ _ _ => True) (Pool.idle approvedUntilNoon) last ∧
      approvedUntilNoon.singleUse "00000000-0000-4000-8000-000000000000" ∧
      ¬SingleEffect "00000000-0000-4000-8000-000000000000" approvedUntilNoon last.shared := by
  -- Both callers get past the query before the first of them writes.
  refine ⟨[false, false, true, true, false, false, false, false, true, true, true, true].foldl
    Pool.advance (Sample.executing [false, true]), ?_, single_approvedUntilNoon, ?_⟩
  · exact Pool.Reaches.schedule (fun _ _ _ => true) _ (fun _ _ _ _ => trivial) (by decide +kernel)
      (reaches_executing [false, true])
  · intro single
    have twice : ([false, false, true, true, false, false, false, false, true, true, true,
        true].foldl Pool.advance (Sample.executing [false, true])).shared.grants
          "00000000-0000-4000-8000-000000000000" =
        approvedUntilNoon.grants "00000000-0000-4000-8000-000000000000" + 2 := by decide +kernel
    have grants := single.grants
    rw [twice] at grants
    omega

end Examples

end SeanOs
