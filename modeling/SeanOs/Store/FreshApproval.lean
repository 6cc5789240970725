import SeanOs.Lib.IsoOrder
import SeanOs.Store.ApprovalExpiry
import SeanOs.Store.DeliveryLife

/-! A delivery that was reset is authorized by a fresh approval, unless an approval was left over. -/

namespace SeanOs

open Atomic Calendar

/-- What stays of approvals and deliveries, whatever happens: whom they are for, and the time. -/
structure PurposesKept (world changed : World) : Prop where
  clock : world.clock ≤ changed.clock
  approvals : ∀ id row, world.db.approval? id = some row → ∃ next,
    changed.db.approval? id = some next ∧ next.action_type = row.action_type ∧
      next.target = row.target ∧ next.scope = row.scope ∧ next.expires_at = row.expires_at
  deliveries : ∀ key row, alertDeliveryOutbox.find? key world.db = some row → ∃ next,
    alertDeliveryOutbox.find? key changed.db = some next ∧ next.owner_scope = row.owner_scope

/-- A delivery becomes authorized with an approval. -/
def Authorizes (key id : String) (world changed : World) : Prop :=
  ∃ row next, alertDeliveryOutbox.find? key world.db = some row ∧
    alertDeliveryOutbox.find? key changed.db = some next ∧ row.status ≠ .AUTHORIZED ∧
      next.status = .AUTHORIZED ∧ next.approval_id = some id

/-- A failed delivery is staged again. -/
def Resets (key : String) (world changed : World) : Prop :=
  ∃ row next, alertDeliveryOutbox.find? key world.db = some row ∧
    alertDeliveryOutbox.find? key changed.db = some next ∧ row.status = .FAILED ∧
      next.status = .STAGED

/-- An approval could authorize a delivery of a scope now. -/
def World.Covers (world : World) (key : String) (scope : Scope) (id : String) : Prop :=
  ∃ approval, world.db.approval? id = some approval ∧ approval.status = .APPROVED ∧
    approval.action_type = "DELIVER_ALERT" ∧ approval.target = key ∧ approval.scope = scope ∧
      world.clock.utc.isoformat < approval.expires_at

/-- No approval is left over that could authorize a delivery now. -/
def NoneLeftOver (key : String) (world : World) : Prop :=
  ∀ row id, alertDeliveryOutbox.find? key world.db = some row → ¬world.Covers key row.owner_scope id

namespace PurposesKept

variable {world changed last : World}

theorem of_eq (clock : world.clock ≤ changed.clock)
    (approvals : changed.db.approvals = world.db.approvals)
    (deliveries : changed.db.alert_delivery_outbox = world.db.alert_delivery_outbox) :
    PurposesKept world changed where
  clock := clock
  approvals id row found := by
    refine ⟨row, ?_, rfl, rfl, rfl, rfl⟩
    rw [Database.approval?, approvals]
    exact found
  deliveries key row found := by
    refine ⟨row, ?_, rfl⟩
    rw [OutboxTable.find?, show alertDeliveryOutbox.rows changed.db = _ from deliveries]
    exact found

theorem refl (world : World) : PurposesKept world world := of_eq le_rfl rfl rfl

theorem trans (first : PurposesKept world changed) (second : PurposesKept changed last) :
    PurposesKept world last where
  clock := first.clock.trans second.clock
  approvals id row found := by
    obtain ⟨middle, there, action, target, scope, ends⟩ := first.approvals id row found
    obtain ⟨next, after, action_, target_, scope_, ends_⟩ := second.approvals id middle there
    exact ⟨next, after, action_.trans action, target_.trans target, scope_.trans scope,
      ends_.trans ends⟩
  deliveries key row found := by
    obtain ⟨middle, there, scope⟩ := first.deliveries key row found
    obtain ⟨next, after, scope_⟩ := second.deliveries key middle there
    exact ⟨next, after, scope_.trans scope⟩

theorem of_logged (logged : Logged world changed) : PurposesKept world changed :=
  of_eq logged.clock.ge (logged.same fun _ _ => rfl) (logged.same fun _ _ => rfl)

/-- A new state of an approval is not a new purpose. -/
theorem setApproval (id : String) (status : ApprovalStatus) (world : World) :
    PurposesKept world (setApproval id status world) where
  clock := le_rfl
  approvals other row found := by
    rw [approval?_setApproval, found, Option.map_some]
    refine ⟨_, rfl, ?_⟩
    split <;> exact ⟨rfl, rfl, rfl, rfl⟩
  deliveries key row found := ⟨row, found, rfl⟩

theorem expireAll (ids : List String) (world : World) :
    PurposesKept world (expireAll ids world) := by
  induction ids generalizing world with
  | nil => exact refl world
  | cons id ids ih => exact (setApproval id .EXPIRED world).trans (ih _)

/-- A new approval hides none that was there. -/
theorem insertApproval (row : ApprovalRow) (world : World) :
    PurposesKept world (insertApproval row world) where
  clock := le_rfl
  approvals id other found := by
    refine ⟨other, ?_, rfl, rfl, rfl, rfl⟩
    show (world.db.approvals ++ [row]).find? _ = _
    rw [List.find?_append, show world.db.approvals.find? _ = some other from found,
      Option.some_or]
  deliveries key row found := ⟨row, found, rfl⟩

/-- A new delivery hides none that was there. -/
theorem insertDelivery (row : OutboxRow DeliveryColumns) (world : World) :
    PurposesKept world (insertDelivery row world) := by
  unfold SeanOs.insertDelivery
  dsimp only
  split
  · exact refl world
  · refine ⟨le_rfl, fun _ other found => ⟨other, found, rfl, rfl, rfl, rfl⟩,
      fun key other found => ⟨other, ?_, rfl⟩⟩
    show (world.db.alert_delivery_outbox ++ [row]).find? _ = _
    rw [List.find?_append, show world.db.alert_delivery_outbox.find? _ = some other from found,
      Option.some_or]

/-- An update that keeps keys and scopes keeps the purposes. -/
theorem update {holds : OutboxRow DeliveryColumns → Bool}
    {change : OutboxRow DeliveryColumns → OutboxRow DeliveryColumns}
    (keys : ∀ row, (change row).key = row.key)
    (scopes : ∀ row, (change row).owner_scope = row.owner_scope) (world : World) :
    PurposesKept world (alertDeliveryOutbox.update holds change world) where
  clock := le_rfl
  approvals _ other found := ⟨other, found, rfl, rfl, rfl, rfl⟩
  deliveries key row found := by
    rw [OutboxTable.find?_update keys, found, Option.map_some]
    refine ⟨_, rfl, ?_⟩
    split
    · exact scopes row
    · rfl

end PurposesKept

/-- Nothing is authorized where the deliveries stay as they are. -/
theorem not_authorizes_of_rows {key id : String} {world changed : World}
    (same : changed.db.alert_delivery_outbox = world.db.alert_delivery_outbox) :
    ¬Authorizes key id world changed := by
  rintro ⟨row, next, found, after, open_, authorized, _⟩
  rw [OutboxTable.find?, show alertDeliveryOutbox.rows changed.db = _ from same] at after
  cases found.symm.trans after
  exact open_ authorized

/-- What a call knows about the delivery it works on: its key and its scope. -/
abbrev Known : Type := Option (String × Scope)

/-- What a step of an operation does, from what its call knew to what it knows then. -/
structure PurposeMove (known : Known) (label : Label) (world changed : World) (later : Known) :
    Prop where
  kept : PurposesKept world changed
  /-- The scope of a delivery is known from its row. -/
  learned : later = known ∨ ∃ key row, alertDeliveryOutbox.find? key world.db = some row ∧
    later = some (key, row.owner_scope)
  /-- A delivery is authorized with an approval that covers it. -/
  authorized : ∀ key id, label = .authorize .alert_delivery key → Authorizes key id world changed →
    ∃ scope, known = some (key, scope) ∧ world.Covers key scope id

/-- A step that keeps the purposes and authorizes nothing. -/
def AuthorizesNone (label : Label) (world changed : World) : Prop :=
  PurposesKept world changed ∧
    ∀ key id, label = .authorize .alert_delivery key → ¬Authorizes key id world changed

theorem AuthorizesNone.move {label : Label} {world changed : World} (known : Known)
    (quiet : AuthorizesNone label world changed) : PurposeMove known label world changed known :=
  ⟨quiet.1, .inl rfl, fun key id writes authorizes =>
    absurd authorizes (quiet.2 key id writes)⟩

theorem AuthorizesNone.of_logged {label : Label} {world changed : World}
    (logged : Logged world changed) : AuthorizesNone label world changed :=
  ⟨.of_logged logged, fun _ _ _ => not_authorizes_of_rows (logged.same fun _ _ => rfl)⟩

theorem deliveryWrites_none : DeliveryWrites AuthorizesNone where
  logged _ _ _ := .of_logged
  record _ _ := ⟨.of_eq le_rfl rfl rfl, by nofun⟩
  approval row world := ⟨.insertApproval row world, by nofun⟩
  requested _ _ row world := ⟨.insertApproval row world, by nofun⟩
  expired ids world := ⟨.expireAll ids world, by nofun⟩
  decided id status world := ⟨.setApproval id status world, by nofun⟩
  staged row world _ _ _ _ _ := ⟨.insertDelivery row world, by nofun⟩
  reset _ _ world := by
    refine ⟨.update ?_ ?_ world, by nofun⟩
    all_goals exact fun _ => rfl

section Operations

variable [Platform]

/-- The steps of a call, which knows at first nothing about any delivery. -/
abbrev Purposeful {α : Type} (program : Op α) : Prop :=
  Prog.Follows (fun _ _ => True) PurposeMove (fun _ _ => True) none program

omit [Platform] in
theorem purposeful_of_none {α : Type} {program : Op α}
    (keeps : Prog.Keeps (fun _ _ => True) AuthorizesNone program) : Purposeful program :=
  Prog.Keeps.follows keeps (fun _ _ _ _ quiet => quiet.move none) fun _ => trivial

/-- A use of an approval inside a transaction is refused, or the approval covers it. -/
theorem consumeWithin_covers (store : Store) (actor : Actor) (use : Consumption) (key : String)
    (scope : Scope) (action : use.action_type = "DELIVER_ALERT") (target : use.target = .str key)
    (inScope : use.scope = some scope) (now_ : use.at_ = none) (world : World) :
    (∃ error refused, consumeWithin store actor use world = (.error error, refused) ∧
      Logged world refused) ∨
    ∃ consumed, consumeWithin store actor use world = (.ok consumed, world) ∧
      PurposesKept world consumed ∧ world.Covers key scope use.approval_id ∧
        consumed.db.alert_delivery_outbox = world.db.alert_delivery_outbox := by
  rw [consumeWithin]
  split
  · exact .inl ⟨_, _, rfl, .refl world⟩
  dsimp only
  split
  next row found none_ =>
    refine .inr ⟨_, rfl, ?_, ?_, ?_⟩
    · cases row.reusable with
      | true => exact .of_logged (logged_audit ..)
      | false => exact .trans (.setApproval ..) (.of_logged (logged_audit ..))
    · obtain ⟨scoped_, approved, action_, target_, early⟩ :=
        covered_of_consumeRefusal (found ▸ none_)
      rw [inScope, Option.any_some] at scoped_
      rw [now_] at early
      rw [target] at target_
      exact ⟨row, found, approved, action_.trans action, Json.str.inj target_,
        by simpa using scoped_, not_le.mp early⟩
    · cases row.reusable <;> rfl
  next => exact .inl ⟨_, _, rfl, logged_audit ..⟩

/-- An authorization takes an approval that covers the delivery in the scope that is known. -/
theorem purposeful_authorizeRow (values : Authorization) (store : Store) (actor : Actor)
    (use : Consumption) (key : String) (scope : Scope)
    (action : use.action_type = "DELIVER_ALERT") (target : use.target = .str key)
    (inScope : use.scope = some scope) (now_ : use.at_ = none) :
    Prog.Follows (fun _ _ => True) PurposeMove (fun _ _ => True) (some (key, scope))
      (authorizeRow alertDeliveryOutbox values store actor use key none) := by
  refine Prog.Follows.transact fun world _ => ⟨some (key, scope), ?_, trivial⟩
  rcases consumeWithin_covers store actor use key scope action target inScope now_ world with
    ⟨error, refused, ran, logged⟩ | ⟨consumed, ran, kept, covers, same⟩
  · rw [ran]
    exact AuthorizesNone.move _ (.of_logged logged)
  rw [ran]
  dsimp only
  split
  · refine ⟨.trans kept (.trans (.update ?_ ?_ consumed) (.of_logged (logged_audit ..))),
      .inl rfl, fun other id writes authorizes => ?_⟩
    · exact fun _ => rfl
    · exact fun _ => rfl
    · -- The row that was authorized names the approval that was consumed.
      cases writes
      refine ⟨scope, rfl, ?_⟩
      obtain ⟨row, next, found, after, open_, authorized, named⟩ := authorizes
      have there : alertDeliveryOutbox.find? key consumed.db = some row := by
        rw [OutboxTable.find?, show alertDeliveryOutbox.rows consumed.db = _ from same]
        exact found
      have updated : alertDeliveryOutbox.find? key (alertDeliveryOutbox.update
          (fun row => row.key == key && row.status == values.awaiting) (fun row =>
            { row with
              status := .AUTHORIZED, approval_id := some use.approval_id
              updated_at := world.clock.utc.isoformat }) consumed).db = some next := after
      rw [OutboxTable.find?_update (by exact fun _ => rfl), there, Option.map_some] at updated
      have same_ := Option.some.inj updated
      split at same_
      · rw [← same_] at named
        rw [← Option.some.inj named]
        exact covers
      · rw [← same_] at authorized
        exact absurd authorized open_
  · exact AuthorizesNone.move _ (.of_logged (.refl world))

omit [Platform] in
/-- A call may stand still, whatever it knows. -/
theorem PurposeMove.still (known : Known) (label : Label) (world : World) :
    PurposeMove known label world world known :=
  AuthorizesNone.move known (.of_logged (.refl world))

omit [Platform] in
/-- A delivery whose row was read is known with its scope. -/
theorem purposeful_getRow (missing : String) (store : Store) (actor : Actor)
    (delivery_id : String) :
    Prog.Follows (fun _ _ => True) PurposeMove (fun known outcome => ∀ row,
      outcome = .ok row → known = some (delivery_id, row.owner_scope)) none
        (getRow alertDeliveryOutbox missing store actor delivery_id) := by
  intro world _
  dsimp only
  cases found : alertDeliveryOutbox.find? delivery_id world.db with
  | none => exact ⟨none, .still none _ world, fun _ read => nomatch read⟩
  | some row =>
    refine ⟨some (delivery_id, row.owner_scope), ⟨.refl world, .inr ⟨delivery_id, row, found, rfl⟩,
      fun _ _ _ authorizes => absurd authorizes (not_authorizes_of_rows rfl)⟩, ?_⟩
    cases checked : _authorize store actor row.owner_scope.text [] "read" with
    | error error =>
      show Prog.Follows _ _ _ _ (lift (_authorize store actor row.owner_scope.text [] "read") >>=
        fun _ => Prog.ret row)
      rw [checked]
      exact fun _ read => nomatch read
    | ok allowed =>
      show Prog.Follows _ _ _ _ (lift (_authorize store actor row.owner_scope.text [] "read") >>=
        fun _ => Prog.ret row)
      rw [checked]
      rintro _ ⟨⟩
      rfl

omit [Platform] in
/-- A delivery that was read is known with its scope. -/
theorem purposeful_get_alert_delivery (store : Store) (actor : Actor) (delivery_id : String) :
    Prog.Follows (fun _ _ => True) PurposeMove (fun known outcome => ∀ delivery,
      outcome = .ok delivery → known = some (delivery_id, delivery.row.owner_scope)) none
        (get_alert_delivery store actor delivery_id) := by
  refine Prog.Follows.bind (purposeful_getRow _ _ _ _) (fun known row read => ?_)
    fun _ _ _ _ none_ => nomatch none_
  obtain rfl := read row rfl
  intro world _
  refine ⟨_, .still _ _ world, ?_⟩
  show Prog.Follows _ _ _ _ (lift (leaseState row world.clock) >>= fun lease_state =>
    Prog.ret (Delivery.mk row lease_state (row.max_attempts - row.attempt_count)))
  cases leaseState row world.clock with
  | error error => exact fun _ none_ => nomatch none_
  | ok lease_state =>
    rintro _ ⟨⟩
    rfl

theorem purposeful_authorize_alert_delivery (store : Store) (actor : Actor)
    (delivery_id approval_id : String) :
    Purposeful (authorize_alert_delivery store actor delivery_id approval_id) := by
  unfold authorize_alert_delivery
  split
  · exact trivial
  refine Prog.Follows.bind (purposeful_get_alert_delivery _ _ _) (fun known delivery read => ?_)
    fun _ _ _ => trivial
  obtain rfl := read delivery rfl
  dsimp only
  split
  · split <;> exact trivial
  refine Prog.Follows.bind (purposeful_authorizeRow _ _ _ _ _ delivery.row.owner_scope rfl rfl rfl
    rfl) (fun last _ _ => ?_) fun _ _ _ => trivial
  exact Prog.Keeps.follows ((logging_get_alert_delivery store actor delivery_id).keeps
    fun _ _ _ logged => AuthorizesNone.of_logged logged)
    (fun _ _ _ _ quiet => quiet.move last) fun _ => trivial

/-- Every operation on deliveries and approvals is purposeful. -/
theorem DeliveryCall.purposeful (call : DeliveryCall) : Purposeful call.op := by
  have writes := deliveryWrites_none
  cases call with
  | stage_alert_delivery =>
    exact (purposeful_of_none (keeps_stage_alert_delivery writes _ _ _)).call
  | request_alert_delivery_approval =>
    exact (purposeful_of_none
      (keeps_request_alert_delivery_approval writes _ _ _ _ _)).call
  | create_approval =>
    exact (purposeful_of_none (keeps_create_approval writes.toApprovalWrites ..)).call
  | request_approval =>
    exact (purposeful_of_none (keeps_requestApproval writes.toApprovalWrites writes.approval ..)).call
  | decide_approval =>
    exact (purposeful_of_none (keeps_decide_approval writes.toApprovalWrites ..)).call
  | consume_approval =>
    refine (purposeful_of_none (keeps_consume_approval writes.toApprovalWrites _ _ _
      fun reusable world => ⟨?_, by nofun⟩)).call
    cases reusable with
    | true => exact .of_logged (logged_audit ..)
    | false => exact .trans (.setApproval ..) (.of_logged (logged_audit ..))
  | authorize_alert_delivery => exact (purposeful_authorize_alert_delivery _ _ _ _).call
  | claim_authorized_alert_delivery =>
    refine (purposeful_of_none (keeps_claim_authorized_alert_delivery writes _ _ _ _
      fun stamp lease inScope => Prog.Keeps.transact fun world _ => ⟨?_, by nofun⟩)).call
    dsimp only
    split
    · refine .update ?_ ?_ world
      all_goals exact fun _ => rfl
    · refine .trans (.update ?_ ?_ world) (.update ?_ ?_ _)
      all_goals exact fun _ => rfl
  | complete_claimed_synthetic_alert_delivery =>
    refine (purposeful_of_none (keeps_complete_claimed_synthetic writes.logged _ _ _ _ _
      fun _ _ world => ⟨.update ?_ ?_ world, by nofun⟩)).call
    all_goals exact fun _ => rfl
  | record_synthetic_alert_delivery =>
    refine (purposeful_of_none (keeps_record_synthetic writes _ _ _ _
      fun _ world => ⟨.update ?_ ?_ world, by nofun⟩)).call
    all_goals exact fun _ => rfl
  | fail_claimed_alert_delivery =>
    refine (purposeful_of_none (keeps_failClaimed writes.logged _ _ _ _ _ _ _
      fun _ _ _ world _ => ⟨.update ?_ ?_ world, by nofun⟩)).call
    all_goals exact fun _ => rfl
  | reset_failed_alert_delivery =>
    exact (purposeful_of_none (keeps_reset_failed_alert_delivery writes _ _ _ _)).call

/-- Any caller may make any of the calls. -/
def deliveryCalls {κ : Type} (_ : κ) (program : Op Unit) : Prop :=
  ∃ call : DeliveryCall, program = call.op

/-- Time passes, workers stop, and other operations keep what approvals and deliveries are for. -/
abbrev DeliveryReaches {κ : Type} [DecidableEq κ] :
    Pool κ World Label Error → Pool κ World Label Error → Prop :=
  Pool.Reaches deliveryCalls PurposesKept fun _ _ _ => True

/-- Every call knows only what is so. -/
def AllKnow {κ : Type} (world : World) (phases : κ → Known) : Prop :=
  ∀ caller key scope, phases caller = some (key, scope) → ∃ row,
    alertDeliveryOutbox.find? key world.db = some row ∧ row.owner_scope = scope

omit [Platform] in
/-- What is known stays so. -/
theorem AllKnow.kept {κ : Type} {world changed : World} {phases : κ → Known}
    (known : AllKnow world phases) (kept : PurposesKept world changed) : AllKnow changed phases := by
  intro caller key scope knows
  obtain ⟨row, found, same⟩ := known caller key scope knows
  obtain ⟨next, after, scope_⟩ := kept.deliveries key row found
  exact ⟨next, after, scope_.trans same⟩

omit [Platform] in
theorem AllKnow.move {κ : Type} [DecidableEq κ] {world changed : World} {phases : κ → Known}
    {caller : κ} {label : Label} {later : Known} (known : AllKnow world phases)
    (move : PurposeMove (phases caller) label world changed later) :
    AllKnow changed (Function.update phases caller later) := by
  intro other key scope knows
  have before : AllKnow changed phases := known.kept move.kept
  by_cases same : other = caller
  · subst same
    rw [Function.update_self] at knows
    rcases move.learned with stays | ⟨key_, row, found, learned⟩
    · exact before other key scope (stays.symm.trans knows)
    · -- What was learned was read from the row, whose scope stays.
      cases learned.symm.trans knows
      exact move.kept.deliveries key row found
  · rw [Function.update_of_ne same] at knows
    exact before other key scope knows

/-- The purposes are kept from some world on, and every call knows only what is so. -/
def SincePurposes {κ : Type} (from_ world : World) (phases : κ → Known) : Prop :=
  PurposesKept from_ world ∧ AllKnow world phases

/-- A run keeps the purposes from where it starts, and every call knows what is so. -/
theorem DeliveryReaches.since {κ : Type} [DecidableEq κ] (from_ : World)
    {start last : Pool κ World Label Error}
    (initial : Pool.Phased (fun _ _ _ => True) (fun _ => PurposeMove) (SincePurposes from_) start)
    (reached : DeliveryReaches start last) :
    Pool.Phased (fun _ _ _ => True) (fun _ => PurposeMove) (SincePurposes from_) last := by
  refine reached.phased ?_ ?_ ?_ initial
  · rintro caller _ ⟨call, rfl⟩
    refine ⟨none, call.purposeful, fun world phases holds => ⟨holds.1, ?_⟩⟩
    intro other key scope knows
    by_cases same : other = caller
    · subst same
      rw [Function.update_self] at knows
      cases knows
    · rw [Function.update_of_ne same] at knows
      exact holds.2 other key scope knows
  · exact fun caller label world changed phases later holds _ move =>
      ⟨holds.1.trans move.kept, holds.2.move move⟩
  · exact fun world changed phases holds kept => ⟨holds.1.trans kept, holds.2.kept kept⟩

/--
A delivery that was reset is authorized only with an approval that was approved after the reset, in
every interleaving in which no approval was left over at the reset that could authorize it then.
-/
theorem fresh_approval {κ : Type} [DecidableEq κ] {start : World}
    {before after waiting : Pool κ World Label Error} {key id : String} {caller : κ}
    {change : World → World} {next : World → Op Unit}
    (reached : DeliveryReaches (Pool.idle start) before)
    (stepped : Pool.Step deliveryCalls PurposesKept (fun _ _ _ => True) before after)
    (resets : Resets key before.shared after.shared) (fresh : NoneLeftOver key before.shared)
    (between : DeliveryReaches after waiting)
    (ready : waiting.running caller = .atom (.authorize .alert_delivery key) change next)
    (authorizes : Authorizes key id waiting.shared (change waiting.shared)) :
    (∃ approval, waiting.shared.db.approval? id = some approval ∧ approval.status = .APPROVED) ∧
      ∀ approval, before.shared.db.approval? id = some approval → approval.status ≠ .APPROVED := by
  -- Purposes are kept from the reset on, and calls know what is so when the delivery is authorized.
  have idle : Pool.Phased (fun _ _ _ => True) (fun _ => PurposeMove) (SincePurposes start)
      (Pool.idle start : Pool κ World Label Error) :=
    ⟨fun _ => none, ⟨.refl start, fun _ _ _ knows => nomatch knows⟩, fun _ => trivial⟩
  obtain ⟨_, here, running⟩ := DeliveryReaches.since start idle reached
  obtain ⟨phases, ⟨kept, known⟩, follows⟩ := DeliveryReaches.since before.shared
    ⟨_, ⟨.refl before.shared, here.2⟩, running⟩ (Pool.Reaches.trans (.step .refl stepped) between)
  have own := follows caller
  rw [ready] at own
  obtain ⟨_, move, _⟩ := own waiting.shared trivial
  obtain ⟨scope, knows, approval, found, approved, action, target, inScope, early⟩ :=
    move.authorized key id rfl authorizes
  refine ⟨⟨approval, found, approved⟩, fun earlier there already => ?_⟩
  -- The delivery has the scope it had at the reset, and so has the approval.
  obtain ⟨row, _, failed, _⟩ := resets
  obtain ⟨row_, now_, same⟩ := kept.deliveries key row failed
  obtain ⟨_, now__, scoped_⟩ := known caller key scope knows
  cases now_.symm.trans now__
  obtain ⟨_, later, action_, target_, scope_, ends_⟩ := kept.approvals id earlier there
  cases found.symm.trans later
  have ordered : before.shared.clock.utc.isoformat ≤ waiting.shared.clock.utc.isoformat :=
    not_lt.mp fun less => absurd ((utc_isoformat_lt _ _).mp less) (not_lt.mpr kept.clock)
  refine fresh row id failed ⟨earlier, there, already, action_.symm.trans action,
    target_.symm.trans target, ?_, ?_⟩
  · exact scope_.symm.trans (inScope.trans (scoped_.symm.trans same))
  · rw [← ends_]
    exact lt_of_le_of_lt ordered early

end Operations

section Examples

open Sample

local instance freshApprovalPlatform : Platform := platform []

/-- The identifier of an approval besides the one that was used. -/
def Sample.second : String := "00000000-0000-4000-8000-000000000002"

/-- A delivery that failed three times, and a second approval for it in some state. -/
def Sample.exhausted (status : ApprovalStatus) : World := world { Database.empty with
  approvals := [
    { approval "2099-01-01T00:00:00+00:00" with
      record_id := "00000000-0000-4000-8000-000000000001", target := delivery_id
      status := .CONSUMED },
    { approval "2099-01-01T00:00:00+00:00" with
      record_id := second, target := delivery_id, status := status }]
  alert_delivery_outbox := [{
    key := delivery_id, owner_scope := .IAC, status := .FAILED
    approval_id := some "00000000-0000-4000-8000-000000000001"
    attempt_count := 3, max_attempts := 3, available_at := "2029-12-31T00:00:00+00:00"
    lease_owner := none, lease_expires_at := none, last_error := some "no answer"
    preflight_receipt_payload := none, receipt_payload := none
    created_at := "2029-12-31T00:00:00+00:00", updated_at := "2029-12-31T00:00:00+00:00"
    finished_at := none
    columns := {
      plan_id := plan_id, incident_id := incident_id, reopen_generation := 0
      route_id := "iac-operator", destination_kind := "EMAIL", destination_ref := "iac-ops-alias"
      alert_payload := alert, payload_sha256 := payload_sha256 } }] }

/-- The delivery is about to be reset. -/
def Sample.resetting (status : ApprovalStatus) : Pool Unit World Label Error :=
  (.start () (DeliveryCall.reset_failed_alert_delivery ⟨.IAC⟩ .sean delivery_id
    "route repaired").op :: steps 2 ()).foldl Pool.play (Pool.idle (exhausted status))

/-- It was reset, some calls were made, and it is about to be authorized with that approval. -/
def Sample.authorizing (status : ApprovalStatus)
    (between : List (Pool.Event Unit World Label Error)) : Pool Unit World Label Error :=
  (between ++ .start () (DeliveryCall.authorize_alert_delivery ⟨.IAC⟩ .sean delivery_id
    second).op :: steps 2 ()).foldl Pool.play ((resetting status).advance ())

/-- The second approval is given. -/
def Sample.decision : List (Pool.Event Unit World Label Error) :=
  .start () (DeliveryCall.decide_approval ⟨.IAC⟩ .sean second true "route repaired").op ::
    steps 4 ()

/-- What is started in these runs is one of the calls. -/
theorem Sample.reaches_play {pool last : Pool Unit World Label Error}
    (events : List (Pool.Event Unit World Label Error))
    (known : ∀ event ∈ events, event = .act () ∨ ∃ call : DeliveryCall, event = .start () call.op)
    (reached : DeliveryReaches pool last) :
    DeliveryReaches pool (events.foldl Pool.play last) := by
  refine reached.play (fun _ _ _ => true) (fun _ _ _ _ => trivial) events
    (fun _ _ there => ?_) (fun _ there => ?_) ?_
  · rcases known _ there with step | ⟨call, same⟩
    · cases step
    · cases same
      exact ⟨call, rfl⟩
  · rcases known _ there with step | ⟨_, same⟩
    · cases step
    · cases same
  · exact Pool.playableAll_true events last

/-- The events of the runs are steps and starts of calls. -/
theorem Sample.known_steps (count : ℕ) (call : DeliveryCall) :
    ∀ event ∈ (.start () call.op :: steps count () : List (Pool.Event Unit World Label Error)),
      event = .act () ∨ ∃ call : DeliveryCall, event = .start () call.op := by
  rintro event (_ | ⟨_, there⟩)
  · exact .inr ⟨call, rfl⟩
  · exact .inl (List.eq_of_mem_replicate there)

/-- The delivery of the sample is reset, whatever state the second approval has. -/
theorem Sample.resetting_resets {status : ApprovalStatus}
    (failed : (alertDeliveryOutbox.find? delivery_id (resetting status).shared.db).map (·.status) =
      some .FAILED)
    (staged : (alertDeliveryOutbox.find? delivery_id
      ((resetting status).advance ()).shared.db).map (·.status) = some .STAGED) :
    Resets delivery_id (resetting status).shared ((resetting status).advance ()).shared := by
  obtain ⟨row, found, was⟩ := Option.map_eq_some_iff.mp failed
  obtain ⟨next, after, is⟩ := Option.map_eq_some_iff.mp staged
  exact ⟨row, next, found, after, was, is⟩

/-- The delivery of the sample is about to be authorized with the second approval. -/
theorem Sample.authorizing_ready {pool : Pool Unit World Label Error}
    (known : pool.next? () = some (.authorize .alert_delivery delivery_id))
    (staged : (alertDeliveryOutbox.find? delivery_id pool.shared.db).map (·.status) = some .STAGED)
    (granted : (alertDeliveryOutbox.find? delivery_id (pool.advance ()).shared.db).map
      (fun row => (row.status, row.approval_id)) = some (.AUTHORIZED, some second)) :
    ∃ change next, pool.running () = .atom (.authorize .alert_delivery delivery_id) change next ∧
      Authorizes delivery_id second pool.shared (change pool.shared) := by
  obtain ⟨change, next, ready, moved⟩ := Pool.ready_of_next known
  rw [moved] at granted
  obtain ⟨row, found, was⟩ := Option.map_eq_some_iff.mp staged
  obtain ⟨next_, after, both⟩ := Option.map_eq_some_iff.mp granted
  obtain ⟨is, named⟩ := Prod.mk.inj both
  exact ⟨change, next, ready, row, next_, found, after, by rw [was]; simp, is, named⟩

/-- The run of the sample up to the reset, the reset, and the run after it. -/
theorem Sample.reaches_reset (status : ApprovalStatus) :
    DeliveryReaches (Pool.idle (exhausted status)) (resetting status) :=
  reaches_play _ (known_steps 2 (.reset_failed_alert_delivery ⟨.IAC⟩ .sean delivery_id
    "route repaired")) .refl

theorem Sample.step_reset {status : ApprovalStatus} {label : Label}
    (known : (resetting status).next? () = some label) :
    Pool.Step deliveryCalls PurposesKept (fun _ _ _ => True) (resetting status)
      ((resetting status).advance ()) := by
  obtain ⟨_, _, ready, _⟩ := Pool.ready_of_next known
  exact .advance () ready trivial

/-- An approval that is decided after the reset authorizes the delivery again. -/
theorem fresh_approval_decided :
    (∃ approval, (authorizing .PENDING decision).shared.db.approval? second = some approval ∧
      approval.status = .APPROVED) ∧
    ∀ approval, (resetting .PENDING).shared.db.approval? second = some approval →
      approval.status ≠ .APPROVED := by
  obtain ⟨change, next, ready, authorizes⟩ := authorizing_ready
    (show (authorizing .PENDING decision).next? () = _ by decide +kernel) (by decide +kernel)
    (by decide +kernel)
  refine fresh_approval (reaches_reset .PENDING)
    (step_reset (show (resetting .PENDING).next? () = some .outbox by decide +kernel))
    (resetting_resets (by decide +kernel) (by decide +kernel)) ?_ ?_ ready authorizes
  · -- The one approval that is left over is not approved yet.
    rintro row id _ ⟨approval, found, approved, _⟩
    have none_ : ((resetting .PENDING).shared.db.approvals.all (·.status != .APPROVED)) = true := by
      decide +kernel
    have other := List.all_eq_true.mp none_ approval (List.mem_of_find?_eq_some found)
    rw [approved] at other
    cases other
  · refine reaches_play _ (fun event there => ?_) .refl
    rcases List.mem_append.mp there with first | last
    · exact known_steps 4 (.decide_approval ⟨.IAC⟩ .sean second true "route repaired") event first
    · exact known_steps 2 (.authorize_alert_delivery ⟨.IAC⟩ .sean delivery_id second) event last

/-- A second approval that was given before the reset authorizes the delivery again. -/
theorem fresh_approval_left_over :
    ∃ (before after waiting : Pool Unit World Label Error) (change : World → World)
      (next : World → Op Unit), DeliveryReaches (Pool.idle (exhausted .APPROVED)) before ∧
        Pool.Step deliveryCalls PurposesKept (fun _ _ _ => True) before after ∧
        Resets delivery_id before.shared after.shared ∧ DeliveryReaches after waiting ∧
        waiting.running () = .atom (.authorize .alert_delivery delivery_id) change next ∧
        Authorizes delivery_id second waiting.shared (change waiting.shared) ∧
        ∃ approval, before.shared.db.approval? second = some approval ∧
          approval.status = .APPROVED := by
  obtain ⟨change, next, ready, authorizes⟩ := authorizing_ready
    (show (authorizing .APPROVED []).next? () = _ by decide +kernel) (by decide +kernel)
    (by decide +kernel)
  refine ⟨_, _, _, change, next, reaches_reset .APPROVED,
    step_reset (show (resetting .APPROVED).next? () = some .outbox by decide +kernel),
    resetting_resets (by decide +kernel) (by decide +kernel), ?_, ready, authorizes, ?_⟩
  · exact reaches_play _ (known_steps 2 (.authorize_alert_delivery ⟨.IAC⟩ .sean delivery_id
      second)) .refl
  · have left : (((resetting .APPROVED).shared.db.approval? second).map (·.status)) =
        some .APPROVED := by
      decide +kernel
    obtain ⟨approval, found, approved⟩ := Option.map_eq_some_iff.mp left
    exact ⟨approval, found, approved⟩

end Examples

end SeanOs
