import SeanOs.Store.StaleOutbox
import SeanOs.Store.Writes

/-! The calls on the outboxes leave the evidence of preflights alone, in any interleaving. -/

namespace SeanOs

open Atomic Calendar

section Changes

variable {Columns : Type} {table : OutboxTable Columns}

/-- A change of a row that leaves its preflight alone, and neither stages nor validates it. -/
structure EvidenceKept (row next : OutboxRow Columns) : Prop where
  key : next.key = row.key
  columns : next.columns = row.columns
  receipt : next.preflight_receipt_payload = row.preflight_receipt_payload
  staged : next.status = .STAGED → row.status = .STAGED
  validated : next.status = .PREFLIGHT_VALIDATED → row.status = .PREFLIGHT_VALIDATED

theorem EvidenceKept.refl (row : OutboxRow Columns) : EvidenceKept row row :=
  ⟨rfl, rfl, rfl, id, id⟩

theorem EvidenceKept.trans {row next last : OutboxRow Columns} (first : EvidenceKept row next)
    (second : EvidenceKept next last) : EvidenceKept row last where
  key := second.key.trans first.key
  columns := second.columns.trans first.columns
  receipt := second.receipt.trans first.receipt
  staged now_ := first.staged (second.staged now_)
  validated now_ := first.validated (second.validated now_)

/-- A change of an outbox in which rows keep their preflights, and new rows have none. -/
structure PreflightsKept (table : OutboxTable Columns) (world changed : World) : Prop where
  kept : ∀ key row, table.find? key world.db = some row →
    ∃ next, table.find? key changed.db = some next ∧ EvidenceKept row next
  new : ∀ key next, table.find? key world.db = none → table.find? key changed.db = some next →
    next.status ≠ .PREFLIGHT_VALIDATED ∧ next.preflight_receipt_payload = none

/-- What leaves the rows of an outbox alone keeps its preflights. -/
theorem PreflightsKept.of_rows {world changed : World}
    (same : table.rows changed.db = table.rows world.db) :
    PreflightsKept table world changed := by
  have found (key : String) : table.find? key changed.db = table.find? key world.db := by
    rw [OutboxTable.find?, same, OutboxTable.find?]
  constructor
  · intro key row there
    exact ⟨row, (found key).trans there, .refl row⟩
  · intro key next none_ there
    rw [found, none_] at there
    cases there

theorem PreflightsKept.trans {world middle last : World}
    (first : PreflightsKept table world middle) (second : PreflightsKept table middle last) :
    PreflightsKept table world last := by
  constructor
  · intro key row there
    obtain ⟨next, found, kept⟩ := first.kept key row there
    obtain ⟨last_, after, then_⟩ := second.kept key next found
    exact ⟨last_, after, kept.trans then_⟩
  · intro key next none_ there
    -- The row is new in the first change or in the second one.
    cases found : table.find? key middle.db with
    | none => exact second.new key next found there
    | some row =>
      obtain ⟨unvalidated, empty⟩ := first.new key row none_ found
      obtain ⟨last_, after, kept⟩ := second.kept key row found
      cases after.symm.trans there
      exact ⟨fun now_ => unvalidated (kept.validated now_), kept.receipt.trans empty⟩

/-- An update whose every change of a row keeps its preflight keeps the preflights. -/
theorem PreflightsKept.update {holds : OutboxRow Columns → Bool}
    {change : OutboxRow Columns → OutboxRow Columns} (keeps : ∀ row, (change row).key = row.key)
    (kept : ∀ row, holds row = true → EvidenceKept row (change row)) (world : World) :
    PreflightsKept table world (table.update holds change world) := by
  constructor
  · intro key row there
    refine ⟨_, by rw [OutboxTable.find?_update keeps, there, Option.map_some], ?_⟩
    split
    · next met => exact kept row met
    · exact .refl row
  · intro key next none_ there
    rw [OutboxTable.find?_update keeps, none_] at there
    cases there

end Changes

/-- A step that keeps the preflights of both backup outboxes. -/
structure EvidenceStep (world changed : World) : Prop where
  transfers : PreflightsKept backupTransferOutbox world changed
  restores : PreflightsKept backupRestoreOutbox world changed

theorem EvidenceStep.of_rows {world changed : World} (same : SameRows world changed) :
    EvidenceStep world changed where
  transfers := .of_rows (same .backup_transfer)
  restores := .of_rows (same .backup_restore)

theorem EvidenceStep.of_logged {world changed : World} (logged : Logged world changed) :
    EvidenceStep world changed := by
  obtain ⟨_, _, rfl⟩ := logged
  exact .of_rows fun outbox => by cases outbox <;> rfl

theorem EvidenceStep.refl (world : World) : EvidenceStep world world := .of_rows fun _ => rfl

theorem EvidenceStep.trans {world middle last : World} (first : EvidenceStep world middle)
    (second : EvidenceStep middle last) : EvidenceStep world last where
  transfers := first.transfers.trans second.transfers
  restores := first.restores.trans second.restores

/-- An update of one outbox keeps the preflights where it keeps those of the rows it changes. -/
theorem EvidenceStep.update (place : Outbox) {holds : OutboxRow place.Columns → Bool}
    {change : OutboxRow place.Columns → OutboxRow place.Columns}
    (keeps : ∀ row, (change row).key = row.key)
    (kept : place ≠ .alert_delivery → ∀ row, holds row = true → EvidenceKept row (change row))
    (world : World) : EvidenceStep world (place.table.update holds change world) := by
  -- The other outboxes are not updated, and a delivery has no preflight.
  cases place with
  | backup_transfer => exact ⟨.update keeps (kept nofun) world, .of_rows rfl⟩
  | backup_restore => exact ⟨.of_rows rfl, .update keeps (kept nofun) world⟩
  | alert_delivery => exact ⟨.of_rows rfl, .of_rows rfl⟩

section Calls

variable [Platform] {worker_id : String}

/-- The programs whose every step keeps the preflights. -/
abbrev KeepsEvidence {α : Type} (program : Op α) : Prop :=
  Prog.Keeps (fun _ _ => True) (fun _ => EvidenceStep) program

omit [Platform] in
theorem Logging.keepsEvidence {α : Type} {program : Op α} (logging : Logging program) :
    KeepsEvidence program :=
  logging.keeps fun _ _ _ => .of_logged

/-- An authorization keeps the preflight of the row, which is staged or validated no more. -/
theorem evidence_authorizeRow (outbox : Outbox) (values : Authorization) (store : Store)
    (actor : Actor) (use : Consumption) (key : String) (stamp : Option String) :
    KeepsEvidence (authorizeRow outbox.table values store actor use key stamp) := by
  refine Prog.Keeps.transact fun world _ => ?_
  rcases SameRows.consumeWithin store actor use world with
    ⟨error, refused, ended, same⟩ | ⟨consumed, ended, same⟩
  · rw [ended]
    exact .of_rows same
  rw [ended]
  dsimp only
  split
  · refine EvidenceStep.trans (.of_rows same) (EvidenceStep.trans ?_
      (.of_logged (logged_audit _ _ _ _ _ _ _ _)))
    refine EvidenceStep.update outbox ?_ ?_ consumed
    · exact fun _ => rfl
    · exact fun _ row _ => ⟨rfl, rfl, rfl, nofun, nofun⟩
  · exact .refl world

omit [Platform] in
/-- A claim keeps the preflights of the rows it fails and of the row it leases. -/
theorem evidence_claimRow (outbox : Outbox) (worker_id stamp lease : String)
    (inScope : OutboxRow outbox.Columns → Bool) :
    KeepsEvidence (claimRow outbox.table worker_id stamp lease inScope) := by
  refine Prog.Keeps.transact fun world _ => ?_
  have failed (holds : OutboxRow outbox.Columns → Bool) (reason : Option String) :
      EvidenceStep world (outbox.table.update holds (fun row =>
        { row.unleased with status := .FAILED, last_error := reason, updated_at := stamp })
        world) := by
    refine EvidenceStep.update outbox ?_ ?_ world
    · exact fun _ => rfl
    · exact fun _ row _ => ⟨rfl, rfl, rfl, nofun, nofun⟩
  dsimp only
  split
  · exact failed _ _
  · refine EvidenceStep.trans (failed _ _) (EvidenceStep.update outbox ?_ ?_ _)
    · exact fun _ => rfl
    · exact fun _ row _ => ⟨rfl, rfl, rfl, id, id⟩

omit [Platform] in
/-- A claim of a restore keeps the preflights of the rows it fails one after another. -/
theorem evidence_failRestores (stamp : String) (terminal : List (String × String))
    (world : World) : EvidenceStep world (failRestores stamp terminal world) := by
  -- The induction takes one failed row after another.
  induction terminal generalizing world with
  | nil => exact .refl world
  | cons item rest ih =>
    refine EvidenceStep.trans ?_ (ih _)
    refine EvidenceStep.update .backup_restore ?_ ?_ world
    · exact fun _ => rfl
    · exact fun _ row _ => ⟨rfl, rfl, rfl, nofun, nofun⟩

theorem evidence_claimRestore (worker_id stamp : String) (instant : DateTime)
    (lease_seconds : ℕ) :
    KeepsEvidence (claimRestore worker_id stamp instant lease_seconds) := by
  refine Prog.Keeps.transact fun world _ => ?_
  dsimp only
  split
  · exact .refl world
  next terminal chosen _ =>
    have failed := evidence_failRestores stamp terminal world
    split
    · exact failed
    · split
      · exact .refl world
      · split
        · refine failed.trans (EvidenceStep.update .backup_restore ?_ ?_ _)
          · exact fun _ => rfl
          · exact fun _ row _ => ⟨rfl, rfl, rfl, id, id⟩
        · exact .refl world

theorem evidence_authorize_backup_transfer (store : Store) (actor : Actor)
    (plan_sha256 approval_id : String) :
    KeepsEvidence (authorize_backup_transfer store actor plan_sha256 approval_id) := by
  unfold authorize_backup_transfer
  split
  · exact trivial
  refine Prog.Keeps.bind (logging_getRow _ _ _ _ _).keepsEvidence fun row => ?_
  split
  · exact trivial
  split
  · exact trivial
  refine Prog.Keeps.bind (logging_lift _).keepsEvidence fun conditions => ?_
  exact Prog.Keeps.bind (evidence_authorizeRow .backup_transfer _ _ _ _ _ _) fun _ =>
    (logging_getRow _ _ _ _ _).keepsEvidence

theorem evidence_authorize_backup_restore (store : Store) (actor : Actor)
    (plan_sha256 approval_id : String) (at_ : Option String) :
    KeepsEvidence (authorize_backup_restore store actor plan_sha256 approval_id at_) := by
  unfold authorize_backup_restore
  split
  · exact trivial
  refine Prog.Keeps.bind (logging_getRow _ _ _ _ _).keepsEvidence fun row => ?_
  split
  · exact trivial
  split
  · exact trivial
  refine Prog.Keeps.bind (logging_timeOr at_).keepsEvidence fun stamp => ?_
  refine Prog.Keeps.bind (logging_lift _).keepsEvidence fun instant => ?_
  refine Prog.Keeps.bind (logging_lift _).keepsEvidence fun inside => ?_
  split
  · exact trivial
  refine Prog.Keeps.bind (logging_lift _).keepsEvidence fun conditions => ?_
  exact Prog.Keeps.bind (evidence_authorizeRow .backup_restore _ _ _ _ _ _) fun _ =>
    (logging_getRow _ _ _ _ _).keepsEvidence

theorem evidence_claim_authorized_backup_transfer (store : Store) (actor : Actor)
    (worker_id : String) (lease_seconds : ℤ) :
    KeepsEvidence (claim_authorized_backup_transfer store actor worker_id lease_seconds) := by
  unfold claim_authorized_backup_transfer
  split
  · exact trivial
  split
  · exact trivial
  split
  · exact trivial
  refine Prog.Keeps.bind (logging_read _ _).keepsEvidence fun killed => ?_
  split
  · exact Prog.Keeps.bind (logging_audit _ _ _ _ _ _ _).keepsEvidence fun _ => trivial
  refine Prog.Keeps.bind (logging_read _ _).keepsEvidence fun stamp => ?_
  refine Prog.Keeps.bind (logging_read _ _).keepsEvidence fun reading => ?_
  refine Prog.Keeps.bind (logging_later _ _).keepsEvidence fun lease => ?_
  refine Prog.Keeps.bind (evidence_claimRow .backup_transfer worker_id _ _ _) fun claimed => ?_
  refine Prog.Keeps.bind (logging_auditEach _ _ _ _ _).keepsEvidence fun _ => ?_
  split
  · exact trivial
  refine Prog.Keeps.bind (logging_getRow _ _ _ _ _).keepsEvidence fun row => ?_
  exact Prog.Keeps.bind (logging_audit _ _ _ _ _ _ _).keepsEvidence fun _ => trivial

theorem logging_auditRestores (actor : Actor) (terminal : List (String × String)) :
    Logging (auditRestores actor terminal) := by
  -- One event is logged after another.
  induction terminal with
  | nil => exact trivial
  | cons item rest ih => exact Prog.Keeps.bind (logging_audit _ _ _ _ _ _ _) fun _ => ih

theorem evidence_claim_authorized_backup_restore (store : Store) (actor : Actor)
    (worker_id : String) (lease_seconds : ℤ) (at_ : Option String) :
    KeepsEvidence (claim_authorized_backup_restore store actor worker_id lease_seconds at_) := by
  unfold claim_authorized_backup_restore
  split
  · exact trivial
  split
  · exact trivial
  split
  · exact trivial
  refine Prog.Keeps.bind (logging_timeOr at_).keepsEvidence fun stamp => ?_
  refine Prog.Keeps.bind (logging_lift _).keepsEvidence fun instant => ?_
  refine Prog.Keeps.bind (logging_read _ _).keepsEvidence fun killed => ?_
  split
  · exact Prog.Keeps.bind (logging_audit _ _ _ _ _ _ _).keepsEvidence fun _ => trivial
  refine Prog.Keeps.bind (evidence_claimRestore worker_id _ _ _) fun claimed => ?_
  refine Prog.Keeps.bind (logging_auditRestores _ _).keepsEvidence fun _ => ?_
  split
  · exact trivial
  refine Prog.Keeps.bind (logging_getRow _ _ _ _ _).keepsEvidence fun row => ?_
  exact Prog.Keeps.bind (logging_audit _ _ _ _ _ _ _).keepsEvidence fun _ => trivial

omit [Platform] in
/-- What is written of approvals and deliveries leaves the backup outboxes alone. -/
theorem evidenceWrites : DeliveryWrites fun _ => EvidenceStep where
  logged _ _ _ := .of_logged
  record row world := .of_rows fun outbox => by cases outbox <;> rfl
  approval row world := .of_rows fun outbox => by cases outbox <;> rfl
  requested outbox target row world := .of_rows fun outbox => by cases outbox <;> rfl
  expired ids world := by
    rw [expireAll_eq]
    exact .of_rows fun outbox => by cases outbox <;> rfl
  decided id status world := .of_rows fun outbox => by cases outbox <;> rfl
  staged row world _ _ _ _ _ := by
    rw [insertDelivery]
    dsimp only
    split
    · exact .refl world
    · exact ⟨.of_rows rfl, .of_rows rfl⟩
  reset key stamp world := ⟨.of_rows rfl, .of_rows rfl⟩

/-- The failure of an attempt keeps the preflights of its outbox. -/
theorem evidence_failClaimed (outbox : Outbox) (values : Failure outbox.Columns)
    (own : values.table = outbox.table) (store : Store) (actor : Actor)
    (key worker_id error : String) (retry_seconds : ℤ) :
    KeepsEvidence (failClaimed values store actor key worker_id error retry_seconds) := by
  refine keeps_failClaimed evidenceWrites.logged values store actor key worker_id error
    retry_seconds fun status available stamp world next => ?_
  rw [own]
  refine EvidenceStep.update outbox ?_ ?_ world
  · exact fun _ => rfl
  · rcases next with rfl | rfl
    · exact fun _ row _ => ⟨rfl, rfl, rfl, nofun, nofun⟩
    · exact fun _ row _ => ⟨rfl, rfl, rfl, nofun, nofun⟩

theorem evidence_holdClaimed (outbox : Outbox) (values : Holding outbox.Columns)
    (own : values.table = outbox.table) (store : Store) (actor : Actor)
    (key worker_id error : String) :
    KeepsEvidence (holdClaimed values store actor key worker_id error) := by
  refine keeps_holdClaimed evidenceWrites.logged values store actor key worker_id error
    fun stamp world => ?_
  rw [own]
  refine EvidenceStep.update outbox ?_ ?_ world
  · exact fun _ => rfl
  · exact fun _ row _ => ⟨rfl, rfl, rfl, nofun, nofun⟩

/-- The completion of an attempt keeps the preflights, as it stages and validates nothing. -/
theorem evidence_completeClaimed (outbox : Outbox) (values : Completion outbox.Columns)
    (own : values.table = outbox.table) (later : values.done.awaiting = false) (store : Store)
    (actor : Actor) (key worker_id : String) (receipt : Json) (at_ : Option String) :
    KeepsEvidence (completeClaimed values store actor key worker_id receipt at_) := by
  refine keeps_completeClaimed evidenceWrites.logged values store actor key worker_id receipt at_
    fun verified stamp world => ?_
  rw [own]
  refine EvidenceStep.update outbox ?_ ?_ world
  · exact fun _ => rfl
  · intro _ row _
    refine ⟨rfl, rfl, rfl, fun staged => ?_, fun validated => ?_⟩
    · have same : values.done = .STAGED := staged
      rw [same] at later
      cases later
    · have same : values.done = .PREFLIGHT_VALIDATED := validated
      rw [same] at later
      cases later

/-- Every call on the outboxes keeps the preflights. -/
theorem OutboxCall.keepsEvidence {program : Op Unit} (called : OutboxCall worker_id program) :
    KeepsEvidence program := by
  have call {α : Type} {program : Op α} (kept : KeepsEvidence program) :
      KeepsEvidence program.call := Prog.Keeps.bind kept fun _ => trivial
  cases called with
  | claim_transfer => exact call (evidence_claim_authorized_backup_transfer _ _ _ _)
  | claim_restore => exact call (evidence_claim_authorized_backup_restore _ _ _ _ _)
  | claim_delivery =>
    exact call (keeps_claim_authorized_alert_delivery evidenceWrites _ _ _ _ fun _ _ _ =>
      evidence_claimRow .alert_delivery _ _ _ _)
  | complete_transfer => exact call (evidence_completeClaimed .backup_transfer _ rfl rfl _ _ _ _ _ _)
  | complete_restore => exact call (evidence_completeClaimed .backup_restore _ rfl rfl _ _ _ _ _ _)
  | complete_delivery =>
    exact call (keeps_complete_claimed_synthetic evidenceWrites.logged _ _ _ _ _ fun _ _ _ =>
      ⟨.of_rows rfl, .of_rows rfl⟩)
  | fail_transfer => exact call (evidence_failClaimed .backup_transfer _ rfl _ _ _ _ _ _)
  | fail_restore => exact call (evidence_failClaimed .backup_restore _ rfl _ _ _ _ _ _)
  | fail_delivery => exact call (evidence_failClaimed .alert_delivery _ rfl _ _ _ _ _ _)
  | hold_transfer => exact call (evidence_holdClaimed .backup_transfer _ rfl _ _ _ _ _)
  | hold_restore => exact call (evidence_holdClaimed .backup_restore _ rfl _ _ _ _ _)
  | reset_delivery => exact call (keeps_reset_failed_alert_delivery evidenceWrites _ _ _ _)
  | authorize_transfer => exact call (evidence_authorize_backup_transfer _ _ _ _)
  | authorize_restore => exact call (evidence_authorize_backup_restore _ _ _ _ _)
  | authorize_delivery =>
    exact call (keeps_authorize_alert_delivery evidenceWrites _ _ _ _ fun _ _ _ =>
      evidence_authorizeRow .alert_delivery _ _ _ _ _ _)

end Calls

end SeanOs
