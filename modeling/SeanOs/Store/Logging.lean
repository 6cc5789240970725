import SeanOs.Store.Outbox

/-! Programs that read the database, and write nothing but events of the audit log. -/

namespace SeanOs

open Atomic Calendar

/-- A change of the audit log and of the random identifiers that were drawn, and of nothing else. -/
def Logged (world changed : World) : Prop :=
  ∃ audit_log drawn, changed =
    { world with db := { world.db with audit_log := audit_log }, drawn := drawn }

namespace Logged

variable {world changed last : World}

theorem refl (world : World) : Logged world world := ⟨world.db.audit_log, world.drawn, rfl⟩

theorem trans (first : Logged world changed) (second : Logged changed last) :
    Logged world last := by
  obtain ⟨_, _, rfl⟩ := first
  obtain ⟨audit_log, drawn, rfl⟩ := second
  exact ⟨audit_log, drawn, rfl⟩

/-- What is read from the tables other than the audit log is what it was. -/
theorem same {α : Type} {view : Database → α} (logged : Logged world changed)
    (blind : ∀ db audit_log, view { db with audit_log := audit_log } = view db) :
    view changed.db = view world.db := by
  obtain ⟨audit_log, _, rfl⟩ := logged
  exact blind world.db audit_log

theorem clock (logged : Logged world changed) : changed.clock = world.clock := by
  obtain ⟨_, _, rfl⟩ := logged
  rfl

end Logged

/-- A program whose every step changes the audit log at most. -/
abbrev Logging {α : Type} (program : Op α) : Prop :=
  Prog.Keeps (fun _ _ => True) (fun _ => Logged) program

/-- A program that only logs keeps any changes that logging is one of. -/
theorem Logging.keeps {α : Type} {program : Op α} {permits : Label → World → Prop}
    {changes : Label → World → World → Prop} (logging : Logging program)
    (allowed : ∀ label world changed, Logged world changed → changes label world changed) :
    Prog.Keeps permits changes program := by
  induction program with
  | ret value => exact trivial
  | raise error => exact trivial
  | atom label act next ih =>
    rw [Logging, Prog.keeps_atom] at logging
    rw [Prog.keeps_atom]
    intro world _
    obtain ⟨logged, rest⟩ := logging world trivial
    exact ⟨allowed label world _ logged, ih world rest⟩

/-- A program that only logs leaves a world that was only logged to. -/
theorem Logging.run {α : Type} {program : Op α} (logging : Logging program) (world : World) :
    Logged world (program.run world).2 :=
  Prog.Keeps.run .refl (fun _ _ _ => .trans) logging world

section Programs

theorem logging_read {α : Type} (label : Label) (view : World → α) :
    Logging (Prog.read label view : Op α) :=
  Prog.Keeps.read fun world _ => .refl world

theorem logging_lift {α : Type} (checked : Except Error α) : Logging (lift checked) := by
  cases checked <;> exact trivial

theorem logging_getRow {Columns : Type} [Platform] (table : OutboxTable Columns)
    (missing : String) (store : Store) (actor : Actor) (key : String) :
    Logging (getRow table missing store actor key) := by
  refine Prog.Keeps.bind (logging_read _ _) fun row => ?_
  cases row with
  | none => exact trivial
  | some row => exact Prog.Keeps.bind (logging_lift _) fun _ => trivial

variable [Platform]

omit [Platform] in
theorem logging_timeOr (at_ : Option String) : Logging (timeOr at_) := by
  unfold timeOr
  split
  · exact trivial
  · exact logging_read _ _

omit [Platform] in
theorem logging_later (reading : Reading) (seconds : ℕ) : Logging (later reading seconds) := by
  rw [later]
  cases reading.plus (second * seconds) with
  | none => exact trivial
  | some ends => exact trivial

theorem logging_uuid4 : Logging uuid4 := by
  rw [uuid4, Logging, Prog.keeps_atom]
  exact fun world _ => ⟨⟨world.db.audit_log, world.drawn + 1, rfl⟩, trivial⟩

theorem logged_audit (actor : Actor) (action : String) (result : AuditResult) (reason : String)
    (record_id : Option String) (details : List (String × Json)) (correlation_id : Option String)
    (world : World) :
    Logged world (World.audit actor action result reason record_id details correlation_id world) :=
  ⟨_, _, rfl⟩

theorem logging_audit (actor : Actor) (action : String) (result : AuditResult) (reason : String)
    (record_id : Option String) (details : List (String × Json)) (correlation_id : Option String) :
    Logging (_audit actor action result reason record_id details correlation_id) :=
  Prog.Keeps.write fun world _ => logged_audit _ _ _ _ _ _ _ world

theorem logging_auditEach {Columns : Type} (actor : Actor) (action reason : String)
    (details : OutboxRow Columns → List (String × Json)) (rows : List (OutboxRow Columns)) :
    Logging (auditEach actor action reason details rows) := by
  -- One event is logged after another.
  induction rows with
  | nil => exact trivial
  | cons row rows ih => exact Prog.Keeps.bind (logging_audit _ _ _ _ _ _ _) fun _ => ih

end Programs

end SeanOs
