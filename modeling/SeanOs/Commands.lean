import SeanOs.Policy
import SeanOs.Store.WorkQueue

/-! The command gateway: named commands that become durable work, once for each request. -/

namespace SeanOs

open Atomic

variable [Platform]

/-- What a command is done as, and the fields it takes. -/
structure CommandSpec where
  action_type : String
  required : List String
  optional : List String

/-- The commands of the interface. -/
def COMMANDS : List (String × CommandSpec) :=
  [("CREATE_RECORD", ⟨"CREATE_IAC_RECORD", ["entity_type", "payload"],
      ["confidence", "effective_at", "expires_at", "retention_rule"]⟩),
    ("UPDATE_RECORD", ⟨"UPDATE_IAC_RECORD", ["record_id", "payload", "expected_version"], []⟩),
    ("LINK_RECORDS", ⟨"LINK_IAC_RECORDS",
      ["from_record_id", "relationship_type", "to_record_id"], []⟩),
    ("CAPTURE_IDEA", ⟨"CAPTURE_IAC_IDEA", ["name", "hypothesis", "evidence"], []⟩),
    ("EVALUATE_IDEA", ⟨"EVALUATE_IAC_IDEA", ["idea_id", "evidence_strength", "recommendation"], []⟩),
    ("CREATE_IAC_GOAL", ⟨"CREATE_IAC_GOAL", ["name", "success_metric"], []⟩),
    ("CREATE_PROJECT", ⟨"CHIEF_CREATE_PROJECT",
      ["goal_id", "name", "tasks", "success_metric", "stop_condition"],
      ["idea_id", "portfolio_metrics"]⟩),
    ("REVIEW_PORTFOLIO", ⟨"CHIEF_REVIEW_PORTFOLIO", ["project_ids"],
      ["capacity_limit", "low_fit_threshold"]⟩),
    ("QUALIFY_REVENUE", ⟨"REVENUE_QUALIFY",
      ["signal_id", "goal_id", "account_alias", "icp_fit", "urgency", "evidence_strength",
        "estimated_value", "synthetic"], []⟩),
    ("COMPARE_REVENUE_PORTFOLIO", ⟨"REVENUE_COMPARE_PORTFOLIO", ["goal_id", "candidates"],
      ["research_capacity"]⟩),
    ("IMPORT_CLAUDE_ARTIFACT", ⟨"IMPORT_CLAUDE_ARTIFACT",
      ["external_id", "content", "source_uri", "captured_at", "synthetic"], ["metadata"]⟩),
    ("REGISTER_CODING_DELIVERY", ⟨"REGISTER_CODING_DELIVERY",
      ["external_id", "project_id", "task_id", "repository", "base_revision", "branch_name",
        "review_ref", "summary", "changed_paths", "test_results", "activity_units",
        "estimated_cost_units", "synthetic"], []⟩),
    ("GENERATE_REPORT", ⟨"GENERATE_OPERATIONAL_REPORT", ["cadence"], ["period_key"]⟩),
    ("REQUEST_CUSTOMER_CONTACT_APPROVAL", ⟨"REQUEST_CUSTOMER_CONTACT_APPROVAL",
      ["target", "draft_record_id", "max_impact", "expires_at"], []⟩)]

/-- What a submission comes to: its work, whether it was there before, and how far it is. -/
structure Submission where
  work_id : String
  deduplicated : Bool
  status : String

/-- The digest of the content of a command. -/
def requestDigest (command scope : String) (payload : List (String × Json)) : String :=
  Platform.sha256 (Json.canonical (.obj [("command_type", .str command), ("scope", .str scope),
    ("payload", .obj payload)]))

/-- The checks on a command of a known type. -/
def checkCommand (spec : CommandSpec) (external_request_id : String)
    (payload : List (String × Json)) : Except Error Unit := do
  refuseIf (strip external_request_id = "") (.validation "External request ID is required")
  let fields := payload.map (·.1)
  let missing := spec.required.filter (· ∉ fields)
  let extras := fields.filter fun field => field ∉ spec.required ∧ field ∉ spec.optional
  refuseIf (missing ≠ [] ∨ extras ≠ []) (.validation ("Command fields invalid; missing=" ++
    displayed (sortedSet missing) ++ ", extra=" ++ displayed (sortedSet extras)))
  let findings := secret_findings (.obj payload) "$"
  refuseIf (findings ≠ []) (.validation
    ("Secret-like material is prohibited in durable command payloads: " ++
      ", ".intercalate (findings.map (·.path))))

/-- The request of a coding delivery, and the command it came with. -/
def Database.codingRequest (external_id : Option String) (db : Database) :
    Option (CodingRequestRow × CommandRow) :=
  -- A null is not equal to anything.
  external_id.bind fun id =>
    (db.coding_delivery_requests.find? (·.external_id == some id)).bind fun delivery =>
      (db.command_requests.rows.find? (·.work_id == delivery.work_id)).map (delivery, ·)

/-- The work of a command that a principal has submitted. -/
def Database.submittedWork (work_id submitted_by : String) (db : Database) : Option WorkRow :=
  if db.command_requests.rows.any fun row =>
      row.work_id == work_id && row.submitted_by == submitted_by then
    db.work_queue.find? work_id
  else none

/-- Insert a command, whose identifier and whose request must be new. -/
def insertCommand (row : CommandRow) (world : World) : Except Error World :=
  if world.db.command_requests.rows.any (·.id == row.id) then
    .error (.integrity "command_requests.id")
  else match world.db.command_requests.insert? row with
    | none => .error (.integrity "command_requests.external_request_id")
    | some commands => .ok { world with db := { world.db with command_requests := commands } }

/-- Insert the request of a coding delivery, which must be new unless it is null. -/
def insertCodingRequest (row : CodingRequestRow) (world : World) : Except Error World :=
  if row.external_id.isSome ∧
      world.db.coding_delivery_requests.any (·.external_id == row.external_id) = true then
    .error (.integrity "coding_delivery_requests.external_id")
  else if world.db.coding_delivery_requests.any (·.work_id == row.work_id) then
    .error (.integrity "coding_delivery_requests.work_id")
  else .ok { world with db := { world.db with
    coding_delivery_requests := world.db.coding_delivery_requests ++ [row] } }

/-- Narrow interface boundary for ChatGPT or another UI. Never executes work inline. -/
structure CommandGateway where
  store : Store
  actor : Actor

namespace CommandGateway

variable (gateway : CommandGateway)

/-- How far the work of a command is, for the principal that submitted it. -/
def status (work_id : String) : Op String := do
  match ← select (Database.submittedWork work_id gateway.actor.id) with
  | none => throw (.authorization "Command is not visible to this interface principal")
  | some row => return row.status.text

/-- The answer to a command whose work is there already. -/
def deduplicated (work_id : String) : Op Submission := do
  return ⟨work_id, true, ← gateway.status work_id⟩

/-- The coding delivery that a command registers, and the answer if it is registered already. -/
def findCodingRequest (command digest : String) (payload : List (String × Json)) :
    Op (Option (Option String) × Option Submission) :=
  if command ≠ "REGISTER_CODING_DELIVERY" then return (none, none)
  else do
    let external_id ← lift (boundText ((payload.lookup "external_id").getD .null))
    match ← Prog.read (.coding_request external_id gateway.actor.id digest) fun world =>
        world.db.codingRequest external_id with
    | none => return (some external_id, none)
    | some (delivery, request) =>
      if request.submitted_by ≠ gateway.actor.id then
        throw (.authorization "Coding delivery is not visible to this principal")
      else if delivery.request_sha256 ≠ digest then
        throw (.validation "Coding delivery ID was reused with different request content")
      else do
        let answer ← gateway.deduplicated delivery.work_id
        return (some external_id, some answer)

/-- The transaction of a new command: its work, its request, and its coding delivery if it is one. -/
def queueCommand (work : WorkRow) (request : CommandRow) (external_id : Option (Option String)) :
    Statements Unit := do
  Script.beginImmediate nestedTransaction
  Script.execute (insertWork work)
  Script.execute (insertCommand request)
  match external_id with
  | none => Script.commit
  | some external_id => do
    Script.execute (insertCodingRequest ⟨external_id, request.request_sha256, work.id,
      request.submitted_at⟩)
    Script.commit

/-- Queue the work of a new command. -/
def submitNew (spec : CommandSpec) (external_request_id command digest : String)
    (payload : List (String × Json)) (external_id : Option (Option String)) : Op Submission := do
  let request_id ← uuid4
  let work_id ← uuid4
  let stamp ← now
  -- What raises inside the transaction is rolled back.
  Script.asStep (.submit external_request_id external_id) (queueCommand
    (queuedRow work_id spec.action_type (Json.obj payload).sorted 100 stamp)
    ⟨request_id, external_request_id, digest, gateway.actor.id, .IAC, command, work_id, stamp⟩
    external_id)
  record_policy_decision gateway.actor (some work_id) true "Whitelisted interface command queued"
    [("command_type", .str command), ("external_request_id", .str external_request_id)]
  return ⟨work_id, false, "QUEUED"⟩

/-- Submit a command under a request ID, which stands for one content only. -/
def submit (external_request_id command_type : String) (payload : List (String × Json))
    (scope : String) : Op Submission :=
  if scope ≠ "IAC" then
    throw (.authorization "v0.1 command interface is isolated to IAC scope")
  else do
    lift (_authorize gateway.store gateway.actor scope [] "write")
    let command := upper command_type
    match COMMANDS.lookup command with
    | none => throw (.authorization "Command type is not exposed by the interface")
    | some spec => do
      lift (checkCommand spec external_request_id payload)
      let digest := requestDigest command scope payload
      match ← select fun db => db.command_requests.find? external_request_id with
      | some existing =>
        if existing.request_sha256 ≠ digest then
          throw (.validation "Request ID was reused with different command content")
        else gateway.deduplicated existing.work_id
      | none => do
        match ← gateway.findCodingRequest command digest payload with
        | (_, some answer) => return answer
        | (external_id, none) =>
          gateway.submitNew spec external_request_id command digest payload external_id

/-- A call of the gateway, and the answer its caller gets. -/
def answer (external_request_id command_type : String) (payload : List (String × Json))
    (scope : String) : Op Unit := do
  let submission ← gateway.submit external_request_id command_type payload scope
  let answered : Effect := .answered external_request_id
    (requestDigest (upper command_type) scope payload) submission.work_id
  Prog.write (.external answered) fun world => { world with effects := answered :: world.effects }

end CommandGateway

end SeanOs
