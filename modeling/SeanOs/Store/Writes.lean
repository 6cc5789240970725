import SeanOs.Store.AlertDeliveries
import SeanOs.Store.Logging

/-! What the operations on approvals and alert deliveries write, as rules for any permitted changes. -/

namespace SeanOs

open Atomic Calendar

variable {permits : Label → World → Prop} {changes : Label → World → World → Prop}

/-- What the operations on approvals write is permitted. -/
structure ApprovalWrites (changes : Label → World → World → Prop) : Prop where
  logged : ∀ label world changed, Logged world changed → changes label world changed
  record : ∀ row world, changes .records world (insertRecord row world)
  approval : ∀ row world, changes .records world (insertApproval row world)
  requested : ∀ outbox target row world,
    changes (.request outbox target) world (insertApproval row world)
  expired : ∀ ids world, changes .records world (expireAll ids world)
  decided : ∀ id status world, changes .records world (setApproval id status world)

section Approvals

variable [Platform] (writes : ApprovalWrites changes)

include writes

omit [Platform] in
theorem keeps_addRecord (row : RecordRow) : Prog.Keeps permits changes (addRecord row) := by
  refine Prog.Keeps.transact fun world _ => ?_
  -- An identifier that is taken leaves everything as it was.
  split
  · exact writes.logged _ _ _ (.refl world)
  · exact writes.record _ world

theorem keeps_create_record (store : Store) (actor : Actor) (request : RecordRequest) :
    Prog.Keeps permits changes (create_record store actor request) := by
  have records {α : Type} {program : Op α} (logging : Logging program) :
      Prog.Keeps permits changes program := logging.keeps writes.logged
  refine Prog.Keeps.bind (records logging_uuid4) fun record_id => ?_
  refine Prog.Keeps.catch ?_ fun error => ?_
  · refine Prog.Keeps.bind (records (logging_lift _)) fun checked => ?_
    refine Prog.Keeps.bind (records (logging_read _ _)) fun stamp => ?_
    refine Prog.Keeps.bind (records (logging_lift _)) fun _ => ?_
    -- The one write is that of the record, and a check may stand in its place.
    split
    · refine Prog.Keeps.bind (keeps_addRecord writes _) fun _ => ?_
      exact Prog.Keeps.bind (records (logging_audit _ _ _ _ _ _ _)) fun _ => trivial
    · exact trivial
  · -- A refusal is logged, and other errors are not.
    split
    case h_5 => exact trivial
    all_goals exact Prog.Keeps.bind (records (logging_audit _ _ _ _ _ _ _)) fun _ => trivial

omit [Platform] in
theorem keeps_addApproval {label : Label}
    (inserted : ∀ row world, changes label world (insertApproval row world)) (row : ApprovalRow) :
    Prog.Keeps permits changes (addApproval label row) := by
  refine Prog.Keeps.transact fun world _ => ?_
  -- An identifier that is taken leaves everything as it was.
  split
  · exact writes.logged _ _ _ (.refl world)
  · exact inserted _ world

theorem keeps_create_approval (store : Store) (actor : Actor)
    (action_type target scope max_impact approver expires_at : String)
    (conditions : Option (List (String × Json))) (reusable : Bool) :
    Prog.Keeps permits changes (create_approval store actor action_type target scope max_impact
      approver expires_at conditions reusable) := by
  unfold create_approval
  split
  · exact trivial
  split
  · exact trivial
  refine Prog.Keeps.bind (keeps_create_record writes _ _ _) fun approval_id => ?_
  cases Scope.read scope with
  | none => exact trivial
  | some known =>
    refine Prog.Keeps.bind (keeps_addApproval writes writes.approval _) fun _ => ?_
    exact Prog.Keeps.bind ((logging_audit _ _ _ _ _ _ _).keeps writes.logged) fun _ => trivial

theorem keeps_requestApproval {label : Label}
    (inserted : ∀ row world, changes label world (insertApproval row world)) (store : Store)
    (actor : Actor) (action_type target scope max_impact expires_at : String)
    (conditions : Option (List (String × Json))) :
    Prog.Keeps permits changes (requestApproval label store actor action_type target scope
      max_impact expires_at conditions) := by
  unfold requestApproval
  split
  · exact trivial
  refine Prog.Keeps.bind ((logging_lift _).keeps writes.logged) fun _ => ?_
  refine Prog.Keeps.bind (keeps_create_record writes _ _ _) fun approval_id => ?_
  cases Scope.read scope with
  | none => exact trivial
  | some known =>
    refine Prog.Keeps.bind (keeps_addApproval writes inserted _) fun _ => ?_
    exact Prog.Keeps.bind ((logging_audit _ _ _ _ _ _ _).keeps writes.logged) fun _ => trivial

theorem keeps_requestOnce (store : Store) (actor : Actor) (asking : Asking)
    (max_impact expires_at : String) :
    Prog.Keeps permits changes (requestOnce store actor asking max_impact expires_at) := by
  have logs {α : Type} {program : Op α} (logging : Logging program) :
      Prog.Keeps permits changes program := logging.keeps writes.logged
  unfold requestOnce
  refine Prog.Keeps.bind (logs (logging_read _ _)) fun existing => ?_
  refine Prog.Keeps.bind (logs (logging_read _ _)) fun clock => ?_
  refine Prog.Keeps.bind (Prog.Keeps.transact fun world _ => ?_) fun active => ?_
  · obtain ⟨ended, committed, _⟩ := expireEnded_run clock existing world
    dsimp only
    rw [committed]
    exact writes.expired _ world
  split
  · exact keeps_requestApproval writes (writes.requested _ _) _ _ _ _ _ _ _ _
  · exact logs (logging_lift _)

theorem keeps_decide_approval (store : Store) (actor : Actor) (approval_id : String)
    (approve : Bool) (reason : String) :
    Prog.Keeps permits changes (decide_approval store actor approval_id approve reason) := by
  have records {α : Type} {program : Op α} (logging : Logging program) :
      Prog.Keeps permits changes program := logging.keeps writes.logged
  unfold decide_approval
  -- What the scan of the text finds is arbitrary.
  generalize secret_findings (.obj [("reason", .str reason)]) "$" = findings
  split
  · exact trivial
  split
  · exact trivial
  split
  · exact trivial
  refine Prog.Keeps.bind (records (logging_read _ _)) fun found => ?_
  cases found with
  | none => exact trivial
  | some row =>
    refine Prog.Keeps.bind (records (logging_lift _)) fun _ => ?_
    split
    · exact trivial
    refine Prog.Keeps.bind (records (logging_read _ _)) fun clock => ?_
    refine Prog.Keeps.bind (records (logging_lift _)) fun expired => ?_
    split
    · refine Prog.Keeps.bind (Prog.Keeps.write fun world _ => writes.decided _ _ world) fun _ => ?_
      exact Prog.Keeps.bind (records (logging_audit _ _ _ _ _ _ _)) fun _ => trivial
    · refine Prog.Keeps.bind (Prog.Keeps.transact fun world _ => ?_) fun _ => ?_
      · -- What is not pending any more is left alone.
        split
        · split
          · exact writes.decided _ _ world
          · exact writes.logged _ _ _ (.refl world)
        · exact writes.logged _ _ _ (.refl world)
      · exact Prog.Keeps.bind (records (logging_audit _ _ _ _ _ _ _)) fun _ => trivial

theorem keeps_consume_approval (store : Store) (actor : Actor) (use : Consumption)
    (consumed : ∀ reusable world, changes (.consume use.approval_id) world
      (grantConsumption actor use reusable world)) :
    Prog.Keeps permits changes (consume_approval store actor use) := by
  have records {α : Type} {program : Op α} (logging : Logging program) :
      Prog.Keeps permits changes program := logging.keeps writes.logged
  unfold consume_approval
  split
  · exact trivial
  refine Prog.Keeps.bind (records (logging_read _ _)) fun found => ?_
  refine Prog.Keeps.bind (records (logging_timeOr _)) fun timestamp => ?_
  unfold concludeConsumption
  split
  · exact Prog.Keeps.write fun world _ => consumed _ world
  · refine Prog.Keeps.bind (Prog.Keeps.write fun world _ => ?_) fun _ => trivial
    exact writes.logged _ _ _ (logged_audit _ _ _ _ _ _ _ world)

end Approvals

/-- What the operations on alert deliveries write outside any lease is permitted. -/
structure DeliveryWrites (changes : Label → World → World → Prop) : Prop
    extends ApprovalWrites changes where
  staged : ∀ row world, row.status = .STAGED → row.attempt_count = 0 → 0 < row.max_attempts →
    row.lease_owner = none → row.lease_expires_at = none →
      changes .outbox world (insertDelivery row world)
  reset : ∀ key stamp world, changes .outbox world (alertDeliveryOutbox.update
    (fun row => row.key == key && row.status == .FAILED) (fun row =>
      { row.unleased with
        status := .STAGED, approval_id := none, attempt_count := 0, available_at := stamp
        last_error := some recoveryReset, receipt_payload := none, finished_at := none
        updated_at := stamp }) world)

theorem logging_get_alert_delivery (store : Store) (actor : Actor) (delivery_id : String)
    [Platform] : Logging (get_alert_delivery store actor delivery_id) := by
  refine Prog.Keeps.bind (logging_getRow _ _ _ _ _) fun row => ?_
  refine Prog.Keeps.bind (logging_read _ _) fun clock => ?_
  exact Prog.Keeps.bind (logging_lift _) fun _ => trivial

section Deliveries

variable [Platform] (writes : DeliveryWrites changes)

include writes

theorem keeps_stage_alert_delivery (store : Store) (actor : Actor) (plan_id : String) :
    Prog.Keeps permits changes (stage_alert_delivery store actor plan_id) := by
  have logs {α : Type} {program : Op α} (logging : Logging program) :
      Prog.Keeps permits changes program := logging.keeps writes.logged
  unfold stage_alert_delivery get_alert_observation get_alert_incident
  refine Prog.Keeps.bind (Prog.Keeps.bind (logs (logging_read _ _)) fun found => ?_)
    fun observation => ?_
  · cases found with
    | none => exact trivial
    | some row => exact Prog.Keeps.bind (logs (logging_lift _)) fun _ => trivial
  refine Prog.Keeps.bind (logs (logging_lift _)) fun _ => ?_
  refine Prog.Keeps.bind (logs (logging_lift _)) fun route => ?_
  refine Prog.Keeps.bind (logs (logging_lift _)) fun code => ?_
  refine Prog.Keeps.bind (Prog.Keeps.bind (logs (logging_read _ _)) fun found => ?_)
    fun incident => ?_
  · cases found with
    | none => exact trivial
    | some row => exact Prog.Keeps.bind (logs (logging_lift _)) fun _ => trivial
  refine Prog.Keeps.bind (logs (logging_lift _)) fun _ => ?_
  refine Prog.Keeps.bind (logs (logging_lift _)) fun alert => ?_
  refine Prog.Keeps.bind (logs (logging_read _ _)) fun stamp => ?_
  refine Prog.Keeps.bind (logs (logging_lift _)) fun reference => ?_
  refine Prog.Keeps.bind (Prog.Keeps.write fun world _ =>
    writes.staged _ world rfl rfl (by simp) rfl rfl) fun _ => ?_
  refine Prog.Keeps.bind (logs (logging_get_alert_delivery _ _ _)) fun delivery => ?_
  refine Prog.Keeps.bind (logs (logging_lift _)) fun _ => ?_
  exact Prog.Keeps.bind (logs (logging_audit _ _ _ _ _ _ _)) fun _ => trivial

theorem keeps_reset_failed_alert_delivery (store : Store) (actor : Actor)
    (delivery_id reason : String) :
    Prog.Keeps permits changes (reset_failed_alert_delivery store actor delivery_id reason) := by
  have logs {α : Type} {program : Op α} (logging : Logging program) :
      Prog.Keeps permits changes program := logging.keeps writes.logged
  unfold reset_failed_alert_delivery
  generalize secret_findings (.obj [("reason", .str reason)]) "$" = findings
  split
  · exact trivial
  split
  · exact trivial
  split
  · exact trivial
  refine Prog.Keeps.bind (logs (logging_read _ _)) fun found => ?_
  cases found with
  | none => exact trivial
  | some row =>
    refine Prog.Keeps.bind (logs (logging_lift _)) fun _ => ?_
    split
    · exact logs (logging_get_alert_delivery _ _ _)
    split
    · exact trivial
    refine Prog.Keeps.bind (logs (logging_read _ _)) fun stamp => ?_
    refine Prog.Keeps.bind (Prog.Keeps.write fun world _ => writes.reset _ _ world) fun _ => ?_
    exact Prog.Keeps.bind (logs (logging_audit _ _ _ _ _ _ _)) fun _ =>
      logs (logging_get_alert_delivery _ _ _)

theorem keeps_request_alert_delivery_approval (store : Store) (actor : Actor)
    (delivery_id max_impact expires_at : String) :
    Prog.Keeps permits changes
      (request_alert_delivery_approval store actor delivery_id max_impact expires_at) := by
  have logs {α : Type} {program : Op α} (logging : Logging program) :
      Prog.Keeps permits changes program := logging.keeps writes.logged
  unfold request_alert_delivery_approval
  refine Prog.Keeps.bind (logs (logging_get_alert_delivery _ _ _)) fun delivery => ?_
  refine Prog.Keeps.bind (logs (logging_lift _)) fun _ => ?_
  refine Prog.Keeps.bind (logs (logging_lift _)) fun _ => ?_
  refine Prog.Keeps.bind (logs (logging_lift _)) fun _ => ?_
  exact keeps_requestOnce writes.toApprovalWrites _ _ _ _ _

theorem keeps_authorize_alert_delivery (store : Store) (actor : Actor)
    (delivery_id approval_id : String)
    (authorized : ∀ values use, values.awaiting = .STAGED → Prog.Keeps permits changes
      (authorizeRow alertDeliveryOutbox values store actor use delivery_id none)) :
    Prog.Keeps permits changes (authorize_alert_delivery store actor delivery_id approval_id) := by
  have logs {α : Type} {program : Op α} (logging : Logging program) :
      Prog.Keeps permits changes program := logging.keeps writes.logged
  unfold authorize_alert_delivery
  split
  · exact trivial
  refine Prog.Keeps.bind (logs (logging_get_alert_delivery _ _ _)) fun delivery => ?_
  dsimp only
  split
  · split <;> exact trivial
  · exact Prog.Keeps.bind (authorized _ _ rfl) fun _ => logs (logging_get_alert_delivery _ _ _)

theorem keeps_claim_authorized_alert_delivery (store : Store) (actor : Actor)
    (worker_id : String) (lease_seconds : ℤ)
    (claimed : ∀ stamp lease inScope, Prog.Keeps permits changes
      (claimRow alertDeliveryOutbox worker_id stamp lease inScope)) :
    Prog.Keeps permits changes
      (claim_authorized_alert_delivery store actor worker_id lease_seconds) := by
  have logs {α : Type} {program : Op α} (logging : Logging program) :
      Prog.Keeps permits changes program := logging.keeps writes.logged
  unfold claim_authorized_alert_delivery
  split
  · exact trivial
  split
  · exact trivial
  refine Prog.Keeps.bind (logs (logging_read _ _)) fun killed => ?_
  split
  · exact Prog.Keeps.bind (logs (logging_audit _ _ _ _ _ _ _)) fun _ => trivial
  split
  · exact Prog.Keeps.bind (logs (logging_audit _ _ _ _ _ _ _)) fun _ => trivial
  refine Prog.Keeps.bind (logs (logging_read _ _)) fun stamp => ?_
  refine Prog.Keeps.bind (logs (logging_read _ _)) fun reading => ?_
  refine Prog.Keeps.bind (logs (logging_later _ _)) fun lease => ?_
  refine Prog.Keeps.bind (claimed _ _ _) fun outcome => ?_
  refine Prog.Keeps.bind (logs (logging_auditEach _ _ _ _ _)) fun _ => ?_
  split
  · exact trivial
  refine Prog.Keeps.bind (logs (logging_get_alert_delivery _ _ _)) fun delivery => ?_
  exact Prog.Keeps.bind (logs (logging_audit _ _ _ _ _ _ _)) fun _ => trivial

omit writes in
theorem keeps_failClaimed {Columns : Type}
    (logged : ∀ label world changed, Logged world changed → changes label world changed)
    (values : Failure Columns) (store : Store) (actor : Actor) (key worker_id error : String)
    (retry_seconds : ℤ)
    (failed : ∀ status available stamp world, status = .FAILED ∨ status = .AUTHORIZED →
      changes (.fail values.table.name key worker_id) world
        (values.table.update (·.key == key) (fun row =>
          { row.unleased with
            status := status, available_at := available, last_error := some error
            updated_at := stamp }) world)) :
    Prog.Keeps permits changes
      (failClaimed values store actor key worker_id error retry_seconds) := by
  have logs {α : Type} {program : Op α} (logging : Logging program) :
      Prog.Keeps permits changes program := logging.keeps logged
  unfold failClaimed
  generalize secret_findings (.obj [("error", .str error)]) "$" = findings
  split
  · exact trivial
  split
  · exact trivial
  split
  · exact trivial
  refine Prog.Keeps.bind (logs (logging_read _ _)) fun found => ?_
  cases found with
  | none => exact trivial
  | some row =>
    refine Prog.Keeps.bind (logs (logging_lift _)) fun _ => ?_
    refine Prog.Keeps.bind (logs (logging_read _ _)) fun clock => ?_
    refine Prog.Keeps.bind (logs (logging_later _ _)) fun available => ?_
    refine Prog.Keeps.bind (logs (logging_read _ _)) fun stamp => ?_
    refine Prog.Keeps.bind (Prog.Keeps.write fun world _ => failed _ _ _ world ?_) fun _ => ?_
    · -- The row is tried again while it has attempts left.
      split
      · exact .inl rfl
      · exact .inr rfl
    exact Prog.Keeps.bind (logs (logging_audit _ _ _ _ _ _ _)) fun _ => trivial

omit writes in
theorem keeps_holdClaimed {Columns : Type}
    (logged : ∀ label world changed, Logged world changed → changes label world changed)
    (values : Holding Columns) (store : Store) (actor : Actor) (key worker_id error : String)
    (held : ∀ stamp world, changes (.hold values.table.name key worker_id) world
      (values.table.update (·.heldBy key worker_id) (fun row =>
        { row.unleased with
          status := .RECONCILIATION_REQUIRED, last_error := some error, updated_at := stamp })
        world)) :
    Prog.Keeps permits changes (holdClaimed values store actor key worker_id error) := by
  have logs {α : Type} {program : Op α} (logging : Logging program) :
      Prog.Keeps permits changes program := logging.keeps logged
  unfold holdClaimed
  generalize secret_findings (.obj [("error", .str error)]) "$" = findings
  split
  · exact trivial
  split
  · exact trivial
  refine Prog.Keeps.bind (logs (logging_read _ _)) fun found => ?_
  cases found with
  | none => exact trivial
  | some row =>
    refine Prog.Keeps.bind (logs (logging_lift _)) fun _ => ?_
    refine Prog.Keeps.bind (logs (logging_read _ _)) fun stamp => ?_
    refine Prog.Keeps.bind (Prog.Keeps.write fun world _ => held _ world) fun _ => ?_
    exact Prog.Keeps.bind (logs (logging_audit _ _ _ _ _ _ _)) fun _ => trivial

omit writes in
theorem keeps_completeClaimed {Columns : Type}
    (logged : ∀ label world changed, Logged world changed → changes label world changed)
    (values : Completion Columns) (store : Store) (actor : Actor) (key worker_id : String)
    (receipt : Json) (at_ : Option String)
    (completed : ∀ verified stamp world, changes (.complete values.table.name key worker_id) world
      (values.table.update (fun row =>
          row.heldBy key worker_id && row.lease_expires_at.any (stamp < ·)) (fun row =>
        { row.unleased with
          status := values.done, receipt_payload := some verified
          finished_at := some (verified.getD values.finished), updated_at := stamp
          last_error := none }) world)) :
    Prog.Keeps permits changes
      (completeClaimed values store actor key worker_id receipt at_) := by
  have logs {α : Type} {program : Op α} (logging : Logging program) :
      Prog.Keeps permits changes program := logging.keeps logged
  refine Prog.Keeps.bind (logs (logging_read _ _)) fun killed => ?_
  refine Prog.Keeps.bind (logs (logging_lift _)) fun _ => ?_
  refine Prog.Keeps.bind (logs (logging_timeOr _)) fun stamp => ?_
  refine Prog.Keeps.bind (logs (logging_read _ _)) fun found => ?_
  cases found with
  | none =>
    refine Prog.Keeps.bind (logs (logging_read _ _)) fun existing => ?_
    cases existing with
    | none => exact trivial
    | some existing =>
      dsimp only
      split
      · exact trivial
      split
      · exact trivial
      refine Prog.Keeps.bind (logs (logging_lift _)) fun verified => ?_
      split
      · exact logs (logging_getRow _ _ _ _ _)
      · exact trivial
  | some row =>
    refine Prog.Keeps.bind (logs (logging_lift _)) fun _ => ?_
    refine Prog.Keeps.bind (logs (logging_lift _)) fun verified => ?_
    refine Prog.Keeps.bind (Prog.Keeps.transact fun world _ => ?_) fun _ =>
      Prog.Keeps.bind (logs (logging_audit _ _ _ _ _ _ _)) fun _ => logs (logging_getRow _ _ _ _ _)
    split
    · exact completed _ _ world
    · exact logged _ _ _ (.refl world)

omit writes in
theorem keeps_complete_claimed_synthetic
    (logged : ∀ label world changed, Logged world changed → changes label world changed)
    (store : Store) (actor : Actor)
    (delivery_id worker_id : String) (receipt : Json)
    (completed : ∀ finished_at stamp world,
      changes (.complete .alert_delivery delivery_id worker_id) world
        (alertDeliveryOutbox.update (·.heldBy delivery_id worker_id) (fun row =>
          { row.unleased with
            status := .SYNTHETIC_DELIVERED, receipt_payload := some receipt.sorted
            finished_at := finished_at, updated_at := stamp, last_error := none }) world)) :
    Prog.Keeps permits changes (complete_claimed_synthetic_alert_delivery store actor delivery_id
      worker_id receipt) := by
  have logs {α : Type} {program : Op α} (logging : Logging program) :
      Prog.Keeps permits changes program := logging.keeps logged
  refine Prog.Keeps.bind (logs (logging_read _ _)) fun killed => ?_
  refine Prog.Keeps.bind (logs (logging_lift _)) fun _ => ?_
  refine Prog.Keeps.bind (logs (logging_read _ _)) fun found => ?_
  cases found with
  | none => exact trivial
  | some row =>
    refine Prog.Keeps.bind (logs (logging_lift _)) fun _ => ?_
    refine Prog.Keeps.bind (logs (logging_lift _)) fun _ => ?_
    split
    · split
      · exact logs (logging_get_alert_delivery _ _ _)
      · exact trivial
    refine Prog.Keeps.bind (logs (logging_read _ _)) fun stamp => ?_
    refine Prog.Keeps.bind (logs (logging_lift _)) fun finished_at => ?_
    refine Prog.Keeps.bind (Prog.Keeps.transact fun world _ => ?_) fun _ =>
      Prog.Keeps.bind (logs (logging_audit _ _ _ _ _ _ _)) fun _ =>
        logs (logging_get_alert_delivery _ _ _)
    split
    · exact completed _ _ world
    · exact logged _ _ _ (.refl world)

theorem keeps_record_synthetic (store : Store) (actor : Actor) (delivery_id : String)
    (receipt : Json)
    (recorded : ∀ stamp world, changes .outbox world (alertDeliveryOutbox.update
      (fun row => row.key == delivery_id && row.status == .AUTHORIZED) (fun row =>
        { row with
          status := .SYNTHETIC_DELIVERED, attempt_count := row.attempt_count + 1
          receipt_payload := some receipt.sorted, finished_at := some (.str stamp)
          updated_at := stamp }) world)) :
    Prog.Keeps permits changes
      (record_synthetic_alert_delivery store actor delivery_id receipt) := by
  have logs {α : Type} {program : Op α} (logging : Logging program) :
      Prog.Keeps permits changes program := logging.keeps writes.logged
  refine Prog.Keeps.bind (logs (logging_get_alert_delivery _ _ _)) fun delivery => ?_
  refine Prog.Keeps.bind (logs (logging_lift _)) fun _ => ?_
  refine Prog.Keeps.bind (logs (logging_lift _)) fun _ => ?_
  split
  · split <;> exact trivial
  split
  · exact trivial
  refine Prog.Keeps.bind (logs (logging_read _ _)) fun stamp => ?_
  refine Prog.Keeps.bind (Prog.Keeps.write fun world _ => recorded _ world) fun _ => ?_
  exact Prog.Keeps.bind (logs (logging_audit _ _ _ _ _ _ _)) fun _ =>
    logs (logging_get_alert_delivery _ _ _)

end Deliveries

section Alone

variable [Platform]

omit [Platform] in
/-- What is logged behind a program that only logs was logged by both. -/
theorem leaves_logged {α : Type} {program : Op α} {before world : World}
    (so_far : Logged before world) (logging : Logging program) :
    Prog.Leaves program world (Logged before) := so_far.trans (logging.run world)

omit [Platform] in
/-- A row that was read is the one under its key, and nothing was changed. -/
theorem run_getRow {Columns : Type} (table : OutboxTable Columns) (missing : String)
    (store : Store) (actor : Actor) (key : String) (world : World) :
    ∃ outcome, (getRow table missing store actor key).run world = (outcome, world) ∧
      ∀ row, outcome = .ok row → table.find? key world.db = some row := by
  unfold getRow select
  rw [Prog.run_bind, Prog.run_read]
  dsimp only
  cases found : table.find? key world.db with
  | none => exact ⟨.error (.validation missing), rfl, fun _ read => nomatch read⟩
  | some row =>
    dsimp only
    rw [run_lift_bind]
    cases _authorize store actor row.owner_scope.text [] "read" with
    | error error => exact ⟨.error error, rfl, fun _ read => nomatch read⟩
    | ok allowed => exact ⟨.ok row, rfl, fun _ read => congrArg some (Except.ok.inj read)⟩

omit [Platform] in
/-- A delivery that was read is the row under its identifier, and nothing was changed. -/
theorem run_get_alert_delivery (store : Store) (actor : Actor) (delivery_id : String)
    (world : World) :
    ∃ outcome, (get_alert_delivery store actor delivery_id).run world = (outcome, world) ∧
      ∀ delivery, outcome = .ok delivery →
        alertDeliveryOutbox.find? delivery_id world.db = some delivery.row := by
  obtain ⟨outcome, ran, known⟩ := run_getRow alertDeliveryOutbox "Alert delivery not found" store
    actor delivery_id world
  rw [get_alert_delivery, Prog.run_bind, ran]
  cases outcome with
  | error error => exact ⟨.error error, rfl, fun _ read => nomatch read⟩
  | ok row =>
    dsimp only
    rw [Prog.run_bind, clockNow, Prog.run_read]
    dsimp only
    rw [run_lift_bind]
    cases leaseState row world.clock with
    | error error => exact ⟨.error error, rfl, fun _ read => nomatch read⟩
    | ok lease_state =>
      refine ⟨.ok ⟨row, lease_state, row.max_attempts - row.attempt_count⟩, rfl,
        fun delivery read => ?_⟩
      cases read
      exact known row rfl

/-- A failure, run alone, only logs, or it ends the attempt of the row that its worker holds. -/
theorem run_failClaimed {Columns : Type} (values : Failure Columns) (store : Store) (actor : Actor)
    (key worker_id error : String) (retry_seconds : ℤ) (world : World) :
    Prog.Leaves (failClaimed values store actor key worker_id error retry_seconds) world
      fun last => Logged world last ∨ ∃ row ∈ values.table.rows world.db,
        row.heldBy key worker_id = true ∧ ∃ available stamp,
          Logged (values.table.update (·.key == key) (fun row_ =>
            { row_.unleased with
              status := if row.max_attempts ≤ row.attempt_count then .FAILED else .AUTHORIZED
              available_at := available, last_error := some error, updated_at := stamp }) world)
            last := by
  unfold failClaimed
  generalize secret_findings (.obj [("error", .str error)]) "$" = findings
  split
  · exact .inl (.refl world)
  split
  · exact .inl (.refl world)
  split
  · exact .inl (.refl world)
  refine Prog.Leaves.read ?_
  dsimp only
  cases found : (values.table.rows world.db).find? (·.heldBy key worker_id) with
  | none => exact .inl (.refl world)
  | some row =>
    refine leaves_lift (fun _ _ => ?_) (.inl (.refl world))
    refine Prog.Leaves.read ?_
    rw [later]
    cases world.clock.plus (second * retry_seconds.toNat) with
    | none => exact .inl (.refl world)
    | some available =>
      refine Prog.Leaves.read (Prog.Leaves.write ?_)
      have held : row.heldBy key worker_id = true := by simpa using List.find?_some found
      refine .inr ⟨row, List.mem_of_find?_eq_some found, held, available.utc.isoformat,
        world.clock.utc.isoformat, ?_⟩
      exact leaves_logged (.refl _)
        (Prog.Keeps.bind (logging_audit _ _ _ _ _ _ _) fun _ => trivial)

/-- A receipt that is recorded past the workers only logs, or it delivers an authorized row. -/
theorem run_record_synthetic (store : Store) (actor : Actor) (delivery_id : String)
    (receipt : Json) (world : World) :
    Prog.Leaves (record_synthetic_alert_delivery store actor delivery_id receipt) world
      fun last => Logged world last ∨ ∃ row,
        alertDeliveryOutbox.find? delivery_id world.db = some row ∧ row.status = .AUTHORIZED ∧
          _authorize store actor row.owner_scope.text [] "write" = .ok () ∧
            checkSyntheticReceipt delivery_id row.columns.payload_sha256 receipt = .ok () ∧
              ∃ stamp, Logged (alertDeliveryOutbox.update
                (fun row => row.key == delivery_id && row.status == .AUTHORIZED) (fun row =>
                  { row with
                    status := .SYNTHETIC_DELIVERED, attempt_count := row.attempt_count + 1
                    receipt_payload := some receipt.sorted, finished_at := some (.str stamp)
                    updated_at := stamp }) world) last := by
  unfold record_synthetic_alert_delivery
  have still := Logged.refl world
  obtain ⟨outcome, ran, known⟩ := run_get_alert_delivery store actor delivery_id world
  refine Prog.Leaves.bind (fun delivery changed read => ?_) fun error changed read => ?_
  · rw [ran] at read
    cases read
    refine leaves_lift (fun _ allowed => ?_) (.inl still)
    refine leaves_lift (fun _ checked => ?_) (.inl still)
    split
    · split <;> exact .inl still
    split
    · exact .inl still
    next open_ =>
      refine Prog.Leaves.read (Prog.Leaves.write ?_)
      refine .inr ⟨delivery.row, known delivery rfl, not_not.mp open_, allowed, checked, world.clock.utc.isoformat, ?_⟩
      exact leaves_logged (.refl _) (Prog.Keeps.bind (logging_audit _ _ _ _ _ _ _) fun _ =>
        logging_get_alert_delivery _ _ _)
  · rw [ran] at read
    cases read
    exact .inl still

/-- A completion, run alone, only logs, or it delivers the row that its worker holds. -/
theorem run_complete_claimed_synthetic (store : Store) (actor : Actor)
    (delivery_id worker_id : String) (receipt : Json) (world : World) :
    Prog.Leaves (complete_claimed_synthetic_alert_delivery store actor delivery_id worker_id
      receipt) world fun last => Logged world last ∨ ∃ row,
        alertDeliveryOutbox.find? delivery_id world.db = some row ∧
          checkSyntheticReceipt delivery_id row.columns.payload_sha256 receipt = .ok () ∧
            ∃ stamp finished_at, Logged (alertDeliveryOutbox.update (·.heldBy delivery_id worker_id)
              (fun row =>
                { row.unleased with
                  status := .SYNTHETIC_DELIVERED, receipt_payload := some receipt.sorted
                  finished_at := finished_at, updated_at := stamp, last_error := none }) world)
              last := by
  have still := Logged.refl world
  refine Prog.Leaves.read (leaves_lift (fun _ _ => ?_) (.inl still))
  refine Prog.Leaves.read ?_
  dsimp only
  cases found : alertDeliveryOutbox.find? delivery_id world.db with
  | none => exact .inl still
  | some row =>
    refine leaves_lift (fun _ _ => ?_) (.inl still)
    refine leaves_lift (fun _ checked => ?_) (.inl still)
    rw [checkDeliveryReceipt] at checked
    obtain ⟨_, matched, _⟩ := passed_of_bind checked
    split
    · split
      · exact .inl (leaves_logged still (logging_get_alert_delivery _ _ _))
      · exact .inl still
    refine Prog.Leaves.read (leaves_lift (fun finished_at _ => ?_) (.inl still))
    refine Prog.Leaves.transact (fun value changed ended => ?_) fun error changed ended => ?_
    · split at ended
      · cases ended
        refine .inr ⟨row, rfl, matched, world.clock.utc.isoformat, finished_at, ?_⟩
        exact leaves_logged (.refl _) (Prog.Keeps.bind (logging_audit _ _ _ _ _ _ _) fun _ =>
          logging_get_alert_delivery _ _ _)
      · cases ended
    · split at ended
      · cases ended
      · cases ended
        exact .inl still

end Alone

end SeanOs
