import SeanOs.Errors
import SeanOs.Lib.Double
import SeanOs.Lib.Interleave
import SeanOs.Lib.IsoText
import SeanOs.Lib.Json
import SeanOs.Lib.Table

/-! The tables of the store, the world its operations run in, and the labels of their atomic steps. -/

namespace SeanOs

open Calendar

/-- The owner scopes of records and work. -/
inductive Scope where
  | PERSONAL | IAC | SHARED
  deriving DecidableEq

namespace Scope

/-- The name of a scope. -/
def text : Scope → String
  | PERSONAL => "PERSONAL"
  | IAC => "IAC"
  | SHARED => "SHARED"

/-- The scope a name names. -/
def read (name : String) : Option Scope := [PERSONAL, IAC, SHARED].find? (·.text == name)

end Scope

/-- The kinds of canonical records. -/
inductive EntityType where
  | GOAL | IDEA | PROJECT | TASK | DECISION | KNOWLEDGE | AGENT | APPROVAL
  deriving DecidableEq

namespace EntityType

/-- The name of a kind of record. -/
def text : EntityType → String
  | GOAL => "GOAL"
  | IDEA => "IDEA"
  | PROJECT => "PROJECT"
  | TASK => "TASK"
  | DECISION => "DECISION"
  | KNOWLEDGE => "KNOWLEDGE"
  | AGENT => "AGENT"
  | APPROVAL => "APPROVAL"

/-- The kind of record a name names. -/
def read (name : String) : Option EntityType :=
  [GOAL, IDEA, PROJECT, TASK, DECISION, KNOWLEDGE, AGENT, APPROVAL].find? (·.text == name)

end EntityType

/-- Who a store operation acts for. -/
structure Actor where
  id : String
  scopes : List Scope
  is_sean : Bool
  deriving DecidableEq

namespace Actor

/-- The one actor with every authority. -/
def sean : Actor := ⟨"sean", [.PERSONAL, .IAC, .SHARED], true⟩

end Actor

/-- A row of `records`. -/
structure RecordRow where
  id : String
  entity_type : EntityType
  owner_scope : Scope
  confidentiality : String
  portable_on_sale : Bool
  source : String
  source_locator : Option String
  created_by : String
  created_at : String
  updated_at : String
  effective_at : String
  expires_at : Option String
  confidence : ℚ
  permitted_principals : List String
  retention_rule : String
  payload : Json
  version : ℕ

/-- A row of `project_state`. -/
structure ProjectStateRow where
  record_id : String
  state : String
  reason : String
  review_at : Option String
  reopen_trigger : Option String
  changed_at : String

/-- The states of an approval. -/
inductive ApprovalStatus where
  | PENDING | APPROVED | DENIED | EXPIRED | CONSUMED
  deriving DecidableEq

/-- The name of an approval state. -/
def ApprovalStatus.text : ApprovalStatus → String
  | PENDING => "PENDING"
  | APPROVED => "APPROVED"
  | DENIED => "DENIED"
  | EXPIRED => "EXPIRED"
  | CONSUMED => "CONSUMED"

/-- A row of `approvals`. -/
structure ApprovalRow where
  record_id : String
  action_type : String
  target : String
  scope : Scope
  max_impact : String
  conditions : Json
  approver : String
  status : ApprovalStatus
  expires_at : String
  reusable : Bool
  deriving DecidableEq

/-- The results an audit event can report. -/
inductive AuditResult where
  | ALLOWED | DENIED | FAILED
  deriving DecidableEq

/-- The name of an audit result. -/
def AuditResult.text : AuditResult → String
  | ALLOWED => "ALLOWED"
  | DENIED => "DENIED"
  | FAILED => "FAILED"

/-- A row of `audit_log`, whose sequence number is its position. -/
structure AuditRow where
  event_id : String
  occurred_at : String
  actor_id : String
  action : String
  result : AuditResult
  policy_reason : String
  affected_record_id : Option String
  correlation_id : String
  details : Json
  deriving DecidableEq

/-- The states of the rows of the three outboxes. -/
inductive OutboxStatus where
  | STAGED | PREFLIGHT_VALIDATED | AUTHORIZED | COMPLETED | RESTORED | SYNTHETIC_DELIVERED | FAILED
  | RECONCILIATION_REQUIRED
  deriving DecidableEq

/-- The name of an outbox state. -/
def OutboxStatus.text : OutboxStatus → String
  | STAGED => "STAGED"
  | PREFLIGHT_VALIDATED => "PREFLIGHT_VALIDATED"
  | AUTHORIZED => "AUTHORIZED"
  | COMPLETED => "COMPLETED"
  | RESTORED => "RESTORED"
  | SYNTHETIC_DELIVERED => "SYNTHETIC_DELIVERED"
  | FAILED => "FAILED"
  | RECONCILIATION_REQUIRED => "RECONCILIATION_REQUIRED"

/-- A row of an outbox: the columns the three outboxes share, and its own columns beside them. -/
structure OutboxRow (Columns : Type) where
  /-- The primary key: `plan_sha256`, `restore_plan_sha256` or `delivery_id`. -/
  key : String
  owner_scope : Scope
  status : OutboxStatus
  approval_id : Option String
  attempt_count : ℕ
  max_attempts : ℕ
  available_at : String
  lease_owner : Option String
  lease_expires_at : Option String
  last_error : Option String
  preflight_receipt_payload : Option Json
  receipt_payload : Option Json
  created_at : String
  updated_at : String
  /-- When the work was done: `completed_at` or `delivered_at`. -/
  finished_at : Option Json
  columns : Columns
  deriving DecidableEq

/-- The columns only `backup_transfer_outbox` has. -/
structure TransferColumns where
  approval_target : String
  proposal_sha256 : String
  plan_payload : Json
  deriving DecidableEq

/-- The columns only `backup_restore_outbox` has. -/
structure RestoreColumns where
  approval_target : String
  upload_plan_sha256 : String
  upload_receipt_sha256 : String
  restore_key_proposal_sha256 : String
  plan_payload : Json
  deriving DecidableEq

/-- The columns only `alert_delivery_outbox` has. -/
structure DeliveryColumns where
  plan_id : String
  incident_id : String
  reopen_generation : ℕ
  route_id : String
  destination_kind : String
  destination_ref : String
  alert_payload : Json Wide
  payload_sha256 : String
  deriving DecidableEq

/-- The states of a work item. -/
inductive WorkStatus where
  | QUEUED | RUNNING | SUCCEEDED | FAILED | DEAD_LETTER | BUDGET_BLOCKED | APPROVAL_BLOCKED
  | POLICY_BLOCKED
  deriving DecidableEq

/-- The name of a work state. -/
def WorkStatus.text : WorkStatus → String
  | QUEUED => "QUEUED"
  | RUNNING => "RUNNING"
  | SUCCEEDED => "SUCCEEDED"
  | FAILED => "FAILED"
  | DEAD_LETTER => "DEAD_LETTER"
  | BUDGET_BLOCKED => "BUDGET_BLOCKED"
  | APPROVAL_BLOCKED => "APPROVAL_BLOCKED"
  | POLICY_BLOCKED => "POLICY_BLOCKED"

/-- A row of `work_queue`. -/
structure WorkRow where
  id : String
  task_type : String
  owner_scope : Scope
  payload : Json
  status : WorkStatus
  priority : ℤ
  attempts : ℕ
  max_attempts : ℕ
  available_at : String
  lease_owner : Option String
  lease_expires_at : Option String
  last_error : Option String
  created_at : String
  updated_at : String
  deriving DecidableEq

/-- Units of cost, as a column of numbers of at least zero can hold them. -/
abbrev Units : Type := { units : Number // Double.storable units = true }

/-- A row of `budgets`. -/
structure BudgetRow where
  owner_scope : Scope
  period_key : String
  limit_units : Units
  used_units : Units
  reserved_units : Units
  updated_at : String
  deriving DecidableEq

/-- A row of `cost_reservations`. -/
structure ReservationRow where
  work_id : String
  owner_scope : Scope
  period_key : String
  units : Units
  created_at : String
  deriving DecidableEq

/-- A row of `usage_events`. -/
structure UsageRow where
  id : String
  work_id : String
  owner_scope : Scope
  period_key : String
  units : Units
  occurred_at : String
  deriving DecidableEq

/-- A row of `action_executions`. -/
structure ExecutionRow where
  work_id : String
  task_type : String
  result : Json
  completed_at : String
  deriving DecidableEq

/-- A row of `alert_observations`. -/
structure ObservationRow where
  plan_id : String
  owner_scope : Scope
  route_id : String
  plan_payload : Json Wide
  first_seen_at : String
  last_seen_at : String
  occurrence_count : ℕ
  deriving DecidableEq

/-- A row of `alert_incidents`. -/
structure IncidentRow where
  incident_id : String
  owner_scope : Scope
  route_id : String
  alert_code : String
  severity : String
  current_summary : String
  resolved : Bool
  first_seen_at : String
  last_seen_at : String
  occurrence_count : ℕ
  reopen_count : ℕ
  resolved_at : Option String
  resolved_by : Option String
  resolution_reason : Option String
  deriving DecidableEq

/-- A row of `command_requests`. -/
structure CommandRow where
  id : String
  external_request_id : String
  request_sha256 : String
  submitted_by : String
  owner_scope : Scope
  command_type : String
  work_id : String
  submitted_at : String
  deriving DecidableEq

/-- A row of `coding_delivery_requests`, whose primary key may be null. -/
structure CodingRequestRow where
  external_id : Option String
  request_sha256 : String
  work_id : String
  created_at : String
  deriving DecidableEq

/-- A row of `schedule_dispatches`. -/
structure DispatchRow where
  schedule_name : String
  period_key : String
  work_id : String
  dispatched_at : String
  deriving DecidableEq

/-- The states a worker reports. -/
inductive WorkerStatus where
  | STARTING | IDLE | WORKING | STOPPING | STOPPED | ERROR
  deriving DecidableEq

/-- The name of the state of a worker. -/
def WorkerStatus.text : WorkerStatus → String
  | STARTING => "STARTING"
  | IDLE => "IDLE"
  | WORKING => "WORKING"
  | STOPPING => "STOPPING"
  | STOPPED => "STOPPED"
  | ERROR => "ERROR"

/-- A row of `worker_heartbeats`. -/
structure HeartbeatRow where
  worker_id : String
  owner_scope : String
  status : WorkerStatus
  current_work_id : Option String
  last_seen_at : String
  details : Json
  deriving DecidableEq

/-- A row of `relationships`. -/
structure RelationshipRow where
  id : String
  from_record_id : String
  relationship_type : String
  to_record_id : String
  created_at : String

/-- A row of `report_runs`. -/
structure ReportRow where
  id : String
  cadence : String
  period_key : String
  owner_scope : Scope
  record_id : String
  generated_at : String
  deriving DecidableEq

/-- A row of `connector_config`. -/
structure ConnectorRow where
  connector_name : String
  enabled : Bool
  mode : String
  deriving DecidableEq

/-- A row of `imported_artifacts`. -/
structure ImportRow where
  connector_name : String
  external_id : String
  content_sha256 : String
  record_id : String
  imported_at : String
  deriving DecidableEq

/-- A row of `coding_deliveries`, whose status is always that it was delivered. -/
structure CodingDeliveryRow where
  delivery_id : String
  external_id : String
  content_sha256 : String
  project_id : String
  task_id : String
  repository : String
  base_revision : String
  branch_name : String
  review_ref : String
  artifact_record_id : String
  activity_units : ℤ
  cost_units : Number
  delivered_at : String
  deriving DecidableEq

/-- The tables of the store, each as the list of its rows. -/
structure Database where
  /-- The value of `kill_switch` in `runtime_state`. -/
  kill_switch : String
  records : List RecordRow
  relationships : List RelationshipRow
  project_state : List ProjectStateRow
  approvals : List ApprovalRow
  audit_log : List AuditRow
  backup_transfer_outbox : List (OutboxRow TransferColumns)
  backup_restore_outbox : List (OutboxRow RestoreColumns)
  alert_delivery_outbox : List (OutboxRow DeliveryColumns)
  work_queue : Table WorkRow.id
  budgets : Table fun row : BudgetRow => (row.owner_scope, row.period_key)
  cost_reservations : Table ReservationRow.work_id
  usage_events : List UsageRow
  action_executions : Table ExecutionRow.work_id
  command_requests : Table CommandRow.external_request_id
  coding_delivery_requests : List CodingRequestRow
  schedule_dispatches : Table fun row : DispatchRow => (row.schedule_name, row.period_key)
  worker_heartbeats : Table HeartbeatRow.worker_id
  alert_observations : List ObservationRow
  alert_incidents : List IncidentRow
  report_runs : Table fun row : ReportRow => (row.cadence, row.period_key, row.owner_scope)
  connector_config : List ConnectorRow
  imported_artifacts : Table fun row : ImportRow => (row.connector_name, row.external_id)
  coding_deliveries : List CodingDeliveryRow

/-- A database without rows, whose kill switch is off. -/
def Database.empty : Database where
  kill_switch := "OFF"
  records := []
  relationships := []
  project_state := []
  approvals := []
  audit_log := []
  backup_transfer_outbox := []
  backup_restore_outbox := []
  alert_delivery_outbox := []
  work_queue := .empty
  budgets := .empty
  cost_reservations := .empty
  usage_events := []
  action_executions := .empty
  command_requests := .empty
  coding_delivery_requests := []
  schedule_dispatches := .empty
  worker_heartbeats := .empty
  alert_observations := []
  alert_incidents := []
  report_runs := .empty
  connector_config := []
  imported_artifacts := .empty
  coding_deliveries := []

/-- The outboxes. -/
inductive Outbox where
  | backup_transfer | backup_restore | alert_delivery
  deriving DecidableEq

/-- What a call does outside the database. -/
inductive Effect where
  /-- A registered handler was invoked for work, under an approval if its action needed one. -/
  | handled (work_id : Option String) (task_type : String) (approval_id : Option String)
  /-- The uploader was called for a plan. -/
  | upload_new (plan_sha256 : String)
  /-- The provider client was asked to write the object of a plan. -/
  | put_object (plan_sha256 : String)
  /-- A request with some content was answered with the work it is done as. -/
  | answered (external_request_id request_sha256 work_id : String)
  /-- A tick returned, for which the local clock showed some time. -/
  | ticked (wall : Reading)
  /-- A request for the approval of a row of an outbox was answered with an approval. -/
  | requested (outbox : Outbox) (key max_impact expires_at approval_id : String)
  /-- An execution of work returned a result. -/
  | executed (work_id : String) (result : Json)
  /-- A call for the report of a period returned a payload. -/
  | reported (cadence period_key : String) (scope : Scope) (payload : Json)
  deriving DecidableEq

/-- What a path of the file system leads to. -/
inductive Node where
  | file (mode : ℕ) (content : List UInt8)
  | directory (mode : ℕ)
  deriving DecidableEq

/-- What is at a path: whether that is a symbolic link, and what it leads to, if to anything. -/
structure Entry where
  symlink : Bool
  node : Option Node
  deriving DecidableEq

/-- A path with nothing at it. -/
def Entry.absent : Entry := ⟨false, none⟩

/-- Everything the operations of any number of connections share. -/
structure World where
  db : Database
  /-- What the clock shows now. -/
  clock : Reading
  /-- How many random identifiers were drawn so far. -/
  drawn : ℕ
  /-- What was done outside the database so far, latest first. -/
  effects : List Effect
  /-- What is at each path of the file system. -/
  files : String → Entry

/-- The sections of a report that go back to the report before it. -/
inductive ReportSection where
  | approval_outcomes | completed_work | project_changes
  deriving DecidableEq

/-- The atomic steps of operations: one statement or one whole transaction each. -/
inductive Label where
  /-- A reading of the clock. -/
  | clock
  /-- A draw of a random identifier. -/
  | draw
  /-- A query outside any transaction. -/
  | select
  /-- The query for the kill switch. -/
  | kill_switch
  /-- The insertion of an audit event in a transaction of its own. -/
  | audit
  /-- A transaction of an operation on records or approvals other than consumption. -/
  | records
  /-- The query for the requests that are pending for a target of an outbox. -/
  | pending (outbox : Outbox) (target : String)
  /-- The insertion of a request for a target of an outbox. -/
  | request (outbox : Outbox) (target : String)
  /-- The transaction that consumes an approval, and does nothing else. -/
  | consume (approval_id : String)
  /-- The transaction that consumes an approval and authorizes a row of an outbox with it. -/
  | authorize (outbox : Outbox) (key : String)
  /-- The transaction that leases a row of an outbox, with the time it compares leases with. -/
  | claim (outbox : Outbox) (worker_id stamp : String)
  /-- The write of a failed attempt. -/
  | fail (outbox : Outbox) (key worker_id : String)
  /-- The write of a finished attempt. -/
  | complete (outbox : Outbox) (key worker_id : String)
  /-- The write of an attempt whose result is unknown. -/
  | hold (outbox : Outbox) (key worker_id : String)
  /-- Any other transaction on an outbox. -/
  | outbox
  /-- A transaction on the observations and the incidents of alerts. -/
  | alerts
  /-- The transaction that leases a work item, with the time it compares leases with. -/
  | claim_work (worker_id stamp : String)
  /-- The write of a completed work item. -/
  | complete_work (work_id worker_id : String)
  /-- The write of a failed work item. -/
  | fail_work (work_id worker_id : String)
  /-- The write of a blocked work item. -/
  | block_work (work_id worker_id : String)
  /-- Any other transaction on the work queue or its budgets. -/
  | work
  /-- The query for the result of work. -/
  | replay (work_id : String)
  /-- The write of the result of work. -/
  | receipt (work_id : String)
  /-- The transaction that queues the work of a request, and of a coding delivery if it is one. -/
  | submit (external_request_id : String) (external_id : Option (Option String))
  /-- The query for the request of a coding delivery, by a principal with some content. -/
  | coding_request (external_id : Option String) (submitted_by request_sha256 : String)
  /-- The transaction that queues the work of a schedule for a period. -/
  | dispatch (schedule_name period_key : String)
  /-- The query for the report of a period. -/
  | report_lookup (cadence period_key : String) (scope : Scope)
  /-- The query for a section of a report. -/
  | report_section (part : ReportSection)
  /-- The transaction that creates the record of the report of a period. -/
  | report_record (cadence period_key : String) (scope : Scope)
  /-- The insertion of the report of a period. -/
  | report (cadence period_key : String) (scope : Scope)
  /-- A change of what is at a path of the file system. -/
  | file (path : String)
  /-- Something outside the database. -/
  | external (effect : Effect)
  deriving DecidableEq

/-- A store operation as its atomic steps. -/
abbrev Op (α : Type) : Type := Atomic.Prog World Label Error α

end SeanOs
