import SeanOs.Sample
import SeanOs.Store.WorkQueue

/-! The health of the runtime, and the alerts a snapshot of it is classified into. -/

namespace SeanOs

open Atomic Calendar

/-- The checks a database makes of itself. -/
structure SelfCheck where
  integrity_check : Database → String
  foreign_key_check : Database → List Json

/-- What the checks of a database found. -/
structure Integrity where
  database : String
  foreign_key_violations : List Json

/-- Whether the checks found nothing. -/
def Integrity.ok (integrity : Integrity) : Bool :=
  integrity.database == "ok" && integrity.foreign_key_violations.isEmpty

/-- A worker as it was last seen, and whether that is too long ago. -/
structure WorkerHealth where
  row : HeartbeatRow
  stale : Bool

/-- Whether a worker is running and was seen lately. -/
def WorkerHealth.active (worker : WorkerHealth) : Bool :=
  worker.row.status ≠ .STOPPED && !worker.stale

/-- A budget, and the units that are left of it. -/
structure BudgetHealth where
  row : BudgetRow
  available_units : Number

/-- How many rows have each of the states that occur, by the names of the states. -/
def statusCounts (statuses : List String) : List (String × ℕ) :=
  (sortedSet statuses).map fun status => (status, statuses.count status)

/-- How many rows have a state, which is none where the state does not occur. -/
def countOf (counts : List (String × ℕ)) (status : String) : ℕ := (counts.lookup status).getD 0

/-- A snapshot of the health of the runtime. -/
structure Health where
  healthy : Bool
  kill_switch : Bool
  integrity : Integrity
  queue : List (String × ℕ)
  workers : List WorkerHealth
  delivery_outbox : List (String × ℕ)
  backup_transfer_outbox : List (String × ℕ)
  backup_restore_outbox : List (String × ℕ)
  budgets : List BudgetHealth
  needs_attention : ℕ
  active_worker_count : ℕ

section Snapshots

variable [Platform]

/-- The checks of the database on itself. -/
def integrity_check (self : SelfCheck) : Op Integrity := do
  let database ← select self.integrity_check
  let foreign_keys ← select self.foreign_key_check
  return ⟨database, foreign_keys⟩

/-- The budget of a scope for a period or the current one, and what is left of it. -/
def budget_status (scope : Scope) (period_key : Option String) : Op (Option BudgetHealth) := do
  let current ← Prog.read .clock World.current_period
  match ← select fun db => db.budgets.find? (scope, (given period_key).getD current) with
  | none => return none
  | some row =>
    let left := Double.sub (Double.sub row.limit_units row.used_units) row.reserved_units
    return some ⟨row, if Double.exceeds left (.finite 0) then left else .finite 0⟩

/-- The budgets of some scopes, those that have one. -/
def budgetsOf : List Scope → Op (List BudgetHealth)
  | [] => return []
  | scope :: scopes => do
    let budget ← budget_status scope none
    let budgets ← budgetsOf scopes
    return budget.toList ++ budgets

/-- The scope a snapshot is asked for, if it is for one scope only. -/
def healthScope (store : Store) : Option String → Except Error (Option Scope)
  | none => .ok none
  | some scope =>
    match Scope.read (upper scope) with
    | none => .error (.validation "Runtime health scope is invalid")
    | some known =>
      if known ∈ store.allowed_scopes then .ok (some known)
      else .error (.authorization
        (upper scope ++ " is outside the database's " ++ store.profileText ++ " scope profile"))

namespace Database

variable (scope : Option Scope) (db : Database)

/-- The workers of a scope in the order of their names, each with whether it is stale. -/
def workersOf (cutoff : String) : List WorkerHealth :=
  let rows := db.worker_heartbeats.rows.filter fun row => scope.all (row.owner_scope == ·.text)
  (rows.insertionSort (·.worker_id ≤ ·.worker_id)).map fun row =>
    ⟨row, row.status ≠ .STOPPED && row.last_seen_at < cutoff⟩

/-- How many items of work of a scope have each state. -/
def workCounts : List (String × ℕ) :=
  statusCounts ((db.work_queue.rows.filter fun row => scope.all (row.owner_scope == ·)).map
    (·.status.text))

/-- How many rows of an outbox have each state. -/
def outboxCounts {Columns : Type} (rows : List (OutboxRow Columns)) : List (String × ℕ) :=
  statusCounts (rows.map (·.status.text))

/-- How many alert deliveries of a scope have each state. -/
def deliveryCounts : List (String × ℕ) :=
  outboxCounts (db.alert_delivery_outbox.filter fun row => scope.all (row.owner_scope == ·))

/-- The counts of an outbox that only the scope IAC has. -/
def backupCounts {Columns : Type} (rows : List (OutboxRow Columns)) : List (String × ℕ) :=
  if scope.all (· = .IAC) then outboxCounts rows else []

end Database

/-- A snapshot of the health of the runtime, of all scopes or of one. -/
def runtime_health (self : SelfCheck) (store : Store) (stale_after_seconds : ℤ)
    (require_active_worker : Bool) (scope_name : Option String) : Op Health := do
  let scope ← lift (healthScope store scope_name)
  let clock ← clockNow
  let cutoff ← fromNow clock (-stale_after_seconds)
  let workers ← select (Database.workersOf scope · cutoff)
  let counts ← select (Database.workCounts scope)
  let delivery_counts ← select (Database.deliveryCounts scope)
  let backup_counts ← select fun db => Database.backupCounts scope db.backup_transfer_outbox
  let restore_counts ← select fun db => Database.backupCounts scope db.backup_restore_outbox
  let scopes := scope.elim (store.allowed_scopes.insertionSort (·.text ≤ ·.text)) fun one => [one]
  let budgets ← budgetsOf scopes
  let integrity ← integrity_check self
  let active_workers := workers.filter (·.active)
  let killed ← kill_switch_enabled
  let healthy := integrity.ok && (!killed && (!workers.any (·.stale) &&
    (countOf counts "DEAD_LETTER" == 0 && (countOf counts "POLICY_BLOCKED" == 0 &&
      (countOf delivery_counts "FAILED" == 0 && (countOf backup_counts "FAILED" == 0 &&
        (countOf backup_counts "RECONCILIATION_REQUIRED" == 0 &&
          (countOf restore_counts "FAILED" == 0 &&
            (countOf restore_counts "RECONCILIATION_REQUIRED" == 0 &&
              (!require_active_worker || !active_workers.isEmpty))))))))))
  let needs_attention := (["APPROVAL_BLOCKED", "BUDGET_BLOCKED", "POLICY_BLOCKED", "DEAD_LETTER"].map
      (countOf counts)).sum +
    countOf delivery_counts "FAILED" + countOf backup_counts "FAILED" +
    countOf backup_counts "RECONCILIATION_REQUIRED" + countOf restore_counts "FAILED" +
    countOf restore_counts "RECONCILIATION_REQUIRED"
  -- The kill switch is asked once more for the snapshot itself.
  let kill_switch ← kill_switch_enabled
  return {
    healthy := healthy, kill_switch := kill_switch, integrity := integrity, queue := counts
    workers := workers, delivery_outbox := delivery_counts
    backup_transfer_outbox := backup_counts, backup_restore_outbox := restore_counts
    budgets := budgets, needs_attention := needs_attention
    active_worker_count := active_workers.length }

/-- An alert, which delivers nothing by itself. -/
structure Alert where
  code : String
  severity : String
  summary : String
  deriving DecidableEq

/-- An alert under a condition. -/
def alertIf (condition : Bool) (code severity summary : String) : List Alert :=
  if condition then [⟨code, severity, summary⟩] else []

/-- The alert about items of work in some state. -/
def queueAlert (queue : List (String × ℕ)) (status severity summary : String) : List Alert :=
  let count := countOf queue status
  alertIf (count ≠ 0) status severity (toString count ++ " work item(s): " ++ summary)

/-- Convert a snapshot of the health into deterministic, non-delivering alerts. -/
def classify_alerts (health : Health) (backup_ok : Option Bool) : List Alert :=
  alertIf (!health.integrity.ok) "DATABASE_INTEGRITY_FAILED" "CRITICAL"
      "Database integrity check failed" ++
    alertIf health.kill_switch "KILL_SWITCH_ACTIVE" "CRITICAL" "Runtime kill switch is active" ++
    alertIf (health.workers.any (·.stale)) "STALE_WORKER" "CRITICAL"
      "At least one runtime worker is stale" ++
    queueAlert health.queue "DEAD_LETTER" "CRITICAL" "Work reached the dead-letter queue" ++
    queueAlert health.queue "POLICY_BLOCKED" "HIGH" "Work was blocked by runtime policy" ++
    queueAlert health.queue "BUDGET_BLOCKED" "HIGH" "Work was blocked by its budget ceiling" ++
    queueAlert health.queue "APPROVAL_BLOCKED" "ATTENTION" "Work requires an exact approval" ++
    alertIf (health.active_worker_count == 0) "NO_ACTIVE_WORKER" "CRITICAL"
      "No active runtime worker is reporting" ++
    alertIf (countOf health.delivery_outbox "FAILED" ≠ 0) "ALERT_DELIVERY_FAILED" "CRITICAL"
      "Synthetic alert delivery exhausted retries" ++
    alertIf (countOf health.backup_transfer_outbox "FAILED" ≠ 0) "BACKUP_TRANSFER_FAILED" "CRITICAL"
      "Backup transfer exhausted retries" ++
    alertIf (countOf health.backup_transfer_outbox "RECONCILIATION_REQUIRED" ≠ 0)
      "BACKUP_TRANSFER_RECONCILIATION_REQUIRED" "CRITICAL"
      "Backup provider write result requires manual reconciliation" ++
    alertIf (countOf health.backup_restore_outbox "FAILED" ≠ 0) "BACKUP_RESTORE_FAILED" "CRITICAL"
      "Isolated backup restore exhausted retries or its approved window" ++
    alertIf (countOf health.backup_restore_outbox "RECONCILIATION_REQUIRED" ≠ 0)
      "BACKUP_RESTORE_RECONCILIATION_REQUIRED" "CRITICAL"
      "Isolated restore artifact requires manual reconciliation" ++
    alertIf (backup_ok = some false) "BACKUP_FAILED" "CRITICAL" "Latest verified backup failed"

namespace Health

variable (health : Health)

/-- Whether a snapshot shows nothing wrong, where an active worker may be asked for. -/
def sound (require_active_worker : Bool) : Prop :=
  health.integrity.ok = true ∧ health.kill_switch = false ∧ health.workers.any (·.stale) = false ∧
    countOf health.queue "DEAD_LETTER" = 0 ∧ countOf health.queue "POLICY_BLOCKED" = 0 ∧
    countOf health.delivery_outbox "FAILED" = 0 ∧
    countOf health.backup_transfer_outbox "FAILED" = 0 ∧
    countOf health.backup_transfer_outbox "RECONCILIATION_REQUIRED" = 0 ∧
    countOf health.backup_restore_outbox "FAILED" = 0 ∧
    countOf health.backup_restore_outbox "RECONCILIATION_REQUIRED" = 0 ∧
    (require_active_worker = true → health.active_worker_count ≠ 0)

/-- The counts that ask for attention: where they are kept, their state and the alert about them. -/
def attended : List (List (String × ℕ) × String × String) :=
  [(health.queue, "APPROVAL_BLOCKED", "APPROVAL_BLOCKED"),
    (health.queue, "BUDGET_BLOCKED", "BUDGET_BLOCKED"),
    (health.queue, "POLICY_BLOCKED", "POLICY_BLOCKED"),
    (health.queue, "DEAD_LETTER", "DEAD_LETTER"),
    (health.delivery_outbox, "FAILED", "ALERT_DELIVERY_FAILED"),
    (health.backup_transfer_outbox, "FAILED", "BACKUP_TRANSFER_FAILED"),
    (health.backup_transfer_outbox, "RECONCILIATION_REQUIRED",
      "BACKUP_TRANSFER_RECONCILIATION_REQUIRED"),
    (health.backup_restore_outbox, "FAILED", "BACKUP_RESTORE_FAILED"),
    (health.backup_restore_outbox, "RECONCILIATION_REQUIRED",
      "BACKUP_RESTORE_RECONCILIATION_REQUIRED")]

/-- An alert that pages somebody: a critical one, or the one about policy. -/
def Pages (alerts : List Alert) : Prop :=
  ∃ alert ∈ alerts, alert.severity = "CRITICAL" ∨ alert.code = "POLICY_BLOCKED"

/-- The health of a snapshot and its alerts agree. -/
structure Agrees : Prop where
  pages : health.healthy = false ↔ Pages (classify_alerts health none)
  attention : health.needs_attention =
    (health.attended.map fun entry => countOf entry.1 entry.2.1).sum
  counted : ∀ entry ∈ health.attended, countOf entry.1 entry.2.1 ≠ 0 →
    ∃ alert ∈ classify_alerts health none, alert.code = entry.2.2

end Health

omit [Platform] in
/-- What occurs among alerts under a condition. -/
theorem exists_alertIf {condition : Bool} {code severity summary : String} {holds : Alert → Prop} :
    (∃ alert ∈ alertIf condition code severity summary, holds alert) ↔
      condition = true ∧ holds ⟨code, severity, summary⟩ := by
  rw [alertIf]
  -- There is one alert where the condition is met, and none otherwise.
  split
  next met => simp [met]
  next unmet => simp [unmet]

omit [Platform] in
/-- What occurs in one of two lists of alerts. -/
theorem exists_append {one two : List Alert} {holds : Alert → Prop} :
    (∃ alert ∈ one ++ two, holds alert) ↔
      (∃ alert ∈ one, holds alert) ∨ ∃ alert ∈ two, holds alert := by
  -- An alert of both lists is one of either.
  constructor
  · rintro ⟨alert, there, held⟩
    exact (List.mem_append.mp there).imp (⟨alert, ·, held⟩) (⟨alert, ·, held⟩)
  · rintro (⟨alert, there, held⟩ | ⟨alert, there, held⟩)
    · exact ⟨alert, List.mem_append_left _ there, held⟩
    · exact ⟨alert, List.mem_append_right _ there, held⟩

omit [Platform] in
/-- A snapshot pages exactly where something is wrong with it. -/
theorem Health.pages_iff (health : Health) :
    Pages (classify_alerts health none) ↔ ¬health.sound true := by
  rw [Pages, classify_alerts, sound]
  simp only [queueAlert, exists_append, exists_alertIf]
  -- Only the alerts about budgets and approvals do not page.
  have budget : ¬("HIGH" = "CRITICAL" ∨ "BUDGET_BLOCKED" = "POLICY_BLOCKED") := by decide
  have approval : ¬("ATTENTION" = "CRITICAL" ∨ "APPROVAL_BLOCKED" = "POLICY_BLOCKED") := by decide
  simp only [budget, approval, and_false, or_false, true_or, or_true, and_true, reduceCtorEq]
  cases health.integrity.ok <;> cases health.kill_switch <;> cases health.workers.any (·.stale) <;>
    simp
  grind

omit [Platform] in
/-- Every count that asks for attention has its alert. -/
theorem Health.alerted (health : Health) : ∀ entry ∈ health.attended,
    countOf entry.1 entry.2.1 ≠ 0 →
      ∃ alert ∈ classify_alerts health none, alert.code = entry.2.2 := by
  -- Every count that needs attention is one of the conditions of an alert.
  unfold attended classify_alerts
  simp only [queueAlert, exists_append, exists_alertIf]
  simp

/-- What a snapshot that is taken with nothing in between says about itself. -/
theorem runtime_health_ok {self : SelfCheck} {store : Store} {stale_after_seconds : ℤ}
    {require_active_worker : Bool} {scope_name : Option String} {world : World} {health : Health}
    (taken : ((runtime_health self store stale_after_seconds require_active_worker
      scope_name).run world).1 = .ok health) :
    (health.healthy = true ↔ health.sound require_active_worker) ∧ health.needs_attention =
      (health.attended.map fun entry => countOf entry.1 entry.2.1).sum := by
  rw [runtime_health, run_lift_bind] at taken
  cases known : healthScope store scope_name with
  | error error =>
    rw [known] at taken
    cases taken
  | ok scope =>
    rw [known] at taken
    simp only [clockNow, select, integrity_check, kill_switch_enabled, Prog.run_bind,
      Prog.run_read, Prog.pure_def, Prog.run_ret] at taken
    -- The cutoff and the budgets may raise, and then there is no snapshot.
    split at taken
    next cutoff changed _ =>
      split at taken
      next budgets last _ =>
        cases taken
        refine ⟨?_, ?_⟩
        · rw [Health.sound]
          simp only [Bool.and_eq_true, Bool.or_eq_true, Bool.not_eq_true', beq_iff_eq,
            List.isEmpty_eq_false_iff, ← List.length_pos_iff]
          cases require_active_worker <;> simp [Nat.pos_iff_ne_zero]
        · simp [Health.attended, Nat.add_assoc]
      next => cases taken
    next => cases taken

/-- A snapshot that asks for an active worker is unhealthy exactly where its alerts page somebody. -/
theorem health_alerts_agree (self : SelfCheck) (store : Store) (stale_after_seconds : ℤ)
    (scope_name : Option String) (world : World) :
    ∀ health, ((runtime_health self store stale_after_seconds true scope_name).run world).1 =
      .ok health → health.Agrees := by
  -- What is shown and what is alerted are counted by two lists, which are compared entry by entry.
  intro health taken
  obtain ⟨healthy, attention⟩ := runtime_health_ok taken
  refine ⟨?_, attention, health.alerted⟩
  rw [health.pages_iff, ← healthy, Bool.not_eq_true]

end Snapshots

section Examples

open Sample

local instance monitoringPlatform : Platform := platform []

/-- Checks that find nothing. -/
def Sample.soundDatabase : SelfCheck := ⟨fun _ => "ok", fun _ => []⟩

/-- A database with a worker that was last seen a day ago, and two items that will not be run again. -/
def Sample.troubled : Database :=
  let item (id : String) (status : WorkStatus) : WorkRow := {
    id := id, task_type := "REVENUE_QUALIFY", owner_scope := .IAC, payload := .obj []
    status := status, priority := 100, attempts := 3, max_attempts := 3
    available_at := "2029-12-31T00:00:00+00:00", lease_owner := none, lease_expires_at := none
    last_error := some "no answer", created_at := "2029-12-31T00:00:00+00:00"
    updated_at := "2029-12-31T00:00:00+00:00" }
  { Database.empty with
    work_queue := ⟨[item "one" .DEAD_LETTER, item "two" .POLICY_BLOCKED], by decide⟩
    worker_heartbeats := ⟨[{
      worker_id := "first", owner_scope := "IAC", status := .WORKING, current_work_id := some "one"
      last_seen_at := "2029-12-31T00:00:00+00:00", details := .obj [] }], by decide⟩ }

/-- A stale worker and two dead items are unhealthy, need attention, and have their alerts. -/
theorem health_alerts_agree_troubled : ∃ health,
    ((runtime_health soundDatabase ⟨.IAC⟩ 90 true (some "iac")).run (world troubled)).1 =
      .ok health ∧ health.healthy = false ∧ health.needs_attention = 2 ∧ health.Agrees := by
  have known : ((runtime_health soundDatabase ⟨.IAC⟩ 90 true (some "iac")).run
      (world troubled)).1.toOption.map (fun health => (health.healthy, health.needs_attention)) =
        some (false, 2) := by
    decide +kernel
  -- A health is taken here, and what it says is found by running it.
  cases taken : ((runtime_health soundDatabase ⟨.IAC⟩ 90 true (some "iac")).run
      (world troubled)).1 with
  | error error =>
    rw [taken] at known
    cases known
  | ok health =>
    rw [taken] at known
    have said : (health.healthy, health.needs_attention) = (false, 2) := Option.some.inj known
    obtain ⟨unhealthy, attention⟩ := Prod.mk.inj said
    exact ⟨health, rfl, unhealthy, attention,
      health_alerts_agree soundDatabase ⟨.IAC⟩ 90 (some "iac") _ health taken⟩

end Examples

end SeanOs
