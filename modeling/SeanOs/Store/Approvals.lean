import SeanOs.Store.Core

/-! Canonical records and the approvals that are kept as such: creation, decision and consumption. -/

namespace SeanOs

variable [Platform]

open Atomic Calendar

/-- The rules records can be retained under. -/
def RETENTION_RULES : List String := ["retain", "until_expired", "legal_hold"]

/-- What a caller asks for when it creates a record. -/
structure RecordRequest where
  entity_type : String
  scope : String
  payload : List (String × Json)
  confidentiality : Option String := none
  portable_on_sale : Option Bool := none
  source : String := "user"
  source_locator : Option String := none
  permitted_principals : List String := []
  confidence : Option ℚ := none
  correlation_id : Option String := none
  effective_at : Option String := none
  expires_at : Option String := none
  retention_rule : String := "retain"

/-- The confidentiality a record has unless its creator says otherwise. -/
def defaultConfidentiality : Scope → String
  | .PERSONAL => "PRIVATE"
  | .IAC => "EXECUTIVE"
  | .SHARED => "CONFIDENTIAL"

/-- The checks on a record that need no clock: its kind, its scope and its portability. -/
def checkRecord (store : Store) (actor : Actor) (entity_type scope : String)
    (principals : List String) (request : RecordRequest) :
    Except Error (EntityType × Scope × Bool × ℚ) := do
  let kind ← (EntityType.read entity_type).elim
    (.error (.validation ("Unknown entity type: " ++ entity_type))) .ok
  let findings := secret_findings (.obj request.payload) "$"
  if findings ≠ [] then
    throw (.validation ("Secret-like material is prohibited in canonical record payloads: " ++
      ", ".intercalate (findings.map (·.path))))
  _authorize store actor scope principals "write"
  let known ← (Scope.read scope).elim (.error (.validation ("Unknown scope: " ++ scope))) .ok
  if known = .SHARED ∧ principals = [] then
    throw (.validation "SHARED records require explicit permitted principals")
  if known = .SHARED ∧ request.portable_on_sale = none then
    throw (.validation "SHARED portability must be explicit")
  let portable := request.portable_on_sale.getD (known == .IAC)
  if known = .PERSONAL ∧ portable then
    throw (.validation "PERSONAL records cannot be portable on IAC sale")
  if request.retention_rule ∉ RETENTION_RULES then
    throw (.validation "Unknown retention rule")
  let confidence := request.confidence.getD (if request.source = "user" then 1 else 1 / 2)
  if ¬(0 ≤ confidence ∧ confidence ≤ 1) then
    throw (.validation "Confidence must be between 0 and 1")
  return (kind, known, portable, confidence)

/-- The checks on the times of a record: both with an offset, and the end behind the start. -/
def checkTimes (effective_at : String) (expires_at : Option String) : Except Error Unit :=
  match fromisoformat effective_at, (given expires_at).map fromisoformat with
  | none, _ => .error (.validation "effective_at/expires_at must be ISO-8601 timestamps")
  | _, some none => .error (.validation "effective_at/expires_at must be ISO-8601 timestamps")
  | some effective, none =>
    if effective.aware then .ok ()
    else .error (.validation "effective_at/expires_at must include a timezone")
  | some effective, some (some expires) =>
    if ¬(effective.aware ∧ expires.aware) then
      .error (.validation "effective_at/expires_at must include a timezone")
    else if expires.instant ≤ effective.instant then
      .error (.validation "expires_at must be after effective_at")
    else .ok ()

/-- The constraints of the table on the confidentiality of a record. -/
def confidentialityAllowed (scope : Scope) (confidentiality : String) : Bool :=
  confidentiality ∈ ["PRIVATE", "CONFIDENTIAL", "EXECUTIVE", "MANAGEMENT", "GENERAL"] &&
    (scope ≠ .SHARED || confidentiality ∈ ["PRIVATE", "CONFIDENTIAL"])

/-- Insert a record, and the lifecycle state of a project with it. -/
def insertRecord (row : RecordRow) (world : World) : World :=
  let records := world.db.records ++ [row]
  let project : ProjectStateRow := ⟨row.id, "INCUBATOR", "Created", none, none, row.created_at⟩
  let project_state := if row.entity_type = .PROJECT then world.db.project_state ++ [project]
    else world.db.project_state
  { world with db := { world.db with records := records, project_state := project_state } }

/-- Insert a record in a transaction of its own, which fails if its identifier is taken. -/
def addRecord (row : RecordRow) : Op Unit :=
  Prog.transact .records fun world =>
    if world.db.records.any (·.id == row.id) then
      (.error (.integrity "UNIQUE constraint failed: records.id"), world)
    else (.ok (), insertRecord row world)

/-- Create a canonical record, or record that it was refused. -/
def create_record (store : Store) (actor : Actor) (request : RecordRequest) : Op String := do
  let entity_type := upper request.entity_type
  let scope := upper request.scope
  let principals := sortedSet request.permitted_principals
  let details := [("entity_type", Json.str entity_type), ("scope", Json.str scope)]
  let record_id ← uuid4
  tryCatch
    (do
      let (kind, known, portable, confidence) ←
        lift (checkRecord store actor entity_type scope principals request)
      let confidentiality :=
        (given request.confidentiality).getD (defaultConfidentiality known)
      let stamp ← now
      let effective_at := (given request.effective_at).getD stamp
      lift (checkTimes effective_at request.expires_at)
      let row : RecordRow := {
        id := record_id, entity_type := kind, owner_scope := known
        confidentiality := confidentiality, portable_on_sale := portable
        source := request.source, source_locator := request.source_locator
        created_by := actor.id, created_at := stamp, updated_at := stamp
        effective_at := effective_at, expires_at := request.expires_at
        confidence := confidence, permitted_principals := principals
        retention_rule := request.retention_rule
        payload := Json.sorted (.obj request.payload), version := 1 }
      if confidentialityAllowed known confidentiality then
        addRecord row
      else
        throw (.integrity "CHECK constraint failed: records")
      _audit actor "CREATE_RECORD" .ALLOWED "Authorized scoped write" (some record_id) details
        request.correlation_id
      return record_id)
    fun error => match error with
      | .authorization _ | .policy_denied _ _ | .validation _ | .integrity _ => do
        _audit actor "CREATE_RECORD" .DENIED error.message (some record_id) details
          request.correlation_id
        throw error
      | _ => throw error

/-- The row of an approval. -/
def Database.approval? (db : Database) (approval_id : String) : Option ApprovalRow :=
  db.approvals.find? (·.record_id == approval_id)

/-- Insert an approval. -/
def insertApproval (row : ApprovalRow) (world : World) : World :=
  { world with db := { world.db with approvals := world.db.approvals ++ [row] } }

/-- Insert an approval in a transaction of its own, which fails if its identifier is taken. -/
def addApproval (label : Label) (row : ApprovalRow) : Op Unit :=
  Prog.transact label fun world =>
    if world.db.approvals.any (·.record_id == row.record_id) then
      (.error (.integrity "UNIQUE constraint failed: approvals.record_id"), world)
    else (.ok (), insertApproval row world)

/-- Give an approval another state, whatever state it has. -/
def setApproval (approval_id : String) (status : ApprovalStatus) (world : World) : World :=
  let approvals := world.db.approvals.map fun row =>
    if row.record_id = approval_id then { row with status := status } else row
  { world with db := { world.db with approvals := approvals } }

omit [Platform] in
/-- The row of an approval after some approval was given another state. -/
theorem approval?_setApproval (approval_id : String) (status : ApprovalStatus) (id : String)
    (world : World) :
    (setApproval approval_id status world).db.approval? id =
      (world.db.approval? id).map fun row =>
        if row.record_id = approval_id then { row with status := status } else row := by
  -- The identifiers stay, so the same row is found, with its new state if it was the one.
  have same : ((fun row : ApprovalRow => row.record_id == id) ∘ fun row : ApprovalRow =>
      if row.record_id = approval_id then { row with status := status } else row) =
        fun row => row.record_id == id := by
    funext row
    show ((if row.record_id = approval_id then { row with status := status } else row).record_id
      == id) = (row.record_id == id)
    split <;> rfl
  rw [Database.approval?, Database.approval?, setApproval, List.find?_map, same]

/-- Whether a new approval would hold secret-like material. -/
def approvalSecret (action_type target max_impact : String) (conditions : List (String × Json)) :
    Bool :=
  secret_findings (.obj [("action_type", .str action_type), ("target", .str target),
    ("max_impact", .str max_impact), ("conditions", .obj conditions)]) "$" ≠ []

/-- Record an explicit approval. -/
def create_approval (store : Store) (actor : Actor)
    (action_type target scope max_impact approver expires_at : String)
    (conditions : Option (List (String × Json))) (reusable : Bool) : Op String :=
  if !actor.is_sean then
    throw (.authorization "Only Sean may create approvals in v0.1")
  else if approvalSecret action_type target max_impact (conditions.getD []) then
    throw (.validation "Secret-like material is prohibited in approval records")
  else do
    let approval_id ← create_record store actor {
      entity_type := "APPROVAL", scope := scope
      payload := [("action_type", .str action_type), ("target", .str target)]
      source := "approval-queue", portable_on_sale := some (scope == "IAC")
      permitted_principals := if scope = "SHARED" then [approver] else []
      expires_at := some expires_at, retention_rule := "until_expired" }
    -- The scope is stored as it was given, and the table takes only the three names.
    match Scope.read scope with
    | none => throw (.integrity "CHECK constraint failed: approvals")
    | some known => do
      addApproval .records {
        record_id := approval_id, action_type := action_type, target := target, scope := known
        max_impact := max_impact, conditions := Json.sorted (.obj (conditions.getD []))
        approver := approver, status := .APPROVED, expires_at := expires_at
        reusable := reusable }
      _audit actor "CREATE_APPROVAL" .ALLOWED "Explicit approval recorded" (some approval_id)
        [("action_type", .str action_type), ("target", .str target), ("reusable", .bool reusable)]
        none
      return approval_id

/-- Record a request that awaits a decision, under the label its insertion has. -/
def requestApproval (label : Label) (store : Store) (actor : Actor)
    (action_type target scope max_impact expires_at : String)
    (conditions : Option (List (String × Json))) : Op String :=
  if approvalSecret action_type target max_impact (conditions.getD []) then
    throw (.validation "Secret-like material is prohibited in approval records")
  else do
    lift (_authorize store actor scope [] "write")
    let approval_id ← create_record store actor {
      entity_type := "APPROVAL", scope := scope
      payload := [("action_type", .str action_type), ("target", .str target)]
      source := "approval-request", portable_on_sale := some (scope == "IAC")
      expires_at := some expires_at, retention_rule := "until_expired" }
    match Scope.read scope with
    | none => throw (.integrity "CHECK constraint failed: approvals")
    | some known => do
      addApproval label {
        record_id := approval_id, action_type := action_type, target := target, scope := known
        max_impact := max_impact, conditions := Json.sorted (.obj (conditions.getD []))
        approver := "sean", status := .PENDING, expires_at := expires_at, reusable := false }
      _audit actor "REQUEST_APPROVAL" .ALLOWED "Bounded approval requested" (some approval_id)
        [("action_type", .str action_type), ("target", .str target),
          ("max_impact", .str max_impact)] none
      return approval_id

/-- Record a request that awaits a decision. -/
def request_approval : Store → Actor → (action_type target scope max_impact expires_at : String) →
    Option (List (String × Json)) → Op String := requestApproval .records

/-- Whether a time has come by a clock, as instants. -/
def reached (text : String) (clock : Reading) : Except Error Bool :=
  match fromisoformat text with
  | none => .error (.value ("Invalid isoformat string: " ++ text))
  | some moment =>
    if moment.aware then .ok (moment.instant ≤ clock.utc.instant)
    else .error (.value "can't compare offset-naive and offset-aware datetimes")

/-- Approve or deny a pending request, unless it expired. -/
def decide_approval (store : Store) (actor : Actor) (approval_id : String) (approve : Bool)
    (reason : String) : Op ApprovalStatus :=
  if !actor.is_sean then
    throw (.authorization "Only Sean may decide approval requests")
  else if strip reason = "" then
    throw (.validation "Approval decisions require a reason")
  else if secret_findings (.obj [("reason", .str reason)]) "$" ≠ [] then
    throw (.validation "Secret-like material is prohibited in approval evidence")
  else do
    match ← select (·.approval? approval_id) with
    | none => throw (.validation "Approval not found")
    | some row => do
      lift (_authorize store actor row.scope.text [] "write")
      if row.status ≠ .PENDING then
        throw (.validation "Approval is not pending")
      else do
        let clock ← clockNow
        let expired ← lift (reached row.expires_at clock)
        if expired then do
          Prog.write .records (setApproval approval_id .EXPIRED)
          _audit actor "DECIDE_APPROVAL" .DENIED "Approval request expired" (some approval_id)
            [("status", .str "EXPIRED")] none
          throw (.validation "Approval request expired")
        else do
          let status : ApprovalStatus := if approve then .APPROVED else .DENIED
          Prog.transact .records fun world =>
            -- The decision is written only where the request is still pending.
            match world.db.approval? approval_id with
            | some current =>
              if current.status = .PENDING then (.ok (), setApproval approval_id status world)
              else (.error (.validation "Approval is not pending"), world)
            | none => (.error (.validation "Approval is not pending"), world)
          _audit actor "DECIDE_APPROVAL" .ALLOWED reason (some approval_id)
            [("status", .str status.text)] none
          return status

/-- What a caller asks for when it consumes an approval. -/
structure Consumption where
  approval_id : String
  action_type : String
  /-- The target as the caller has it, which matches an approval only where it is a text. -/
  target : Json
  at_ : Option String := none
  scope : Option Scope := none
  conditions : Option (List (String × Json)) := none

/-- Why an approval does not cover a use at one time, if it does not. -/
def consumeRefusal (store : Store) (actor : Actor) (use : Consumption) (timestamp : String) :
    Option ApprovalRow → Option String
  | none => some "Approval not found"
  | some row =>
    if row.scope ∉ store.allowed_scopes ∨ row.scope ∉ actor.scopes then
      some "Approval scope is not authorized for this actor or database"
    else if use.scope.any (row.scope ≠ ·) then
      some "Approval scope does not match the action scope"
    else if row.status ≠ .APPROVED then
      some ("Approval status is " ++ row.status.text)
    else if row.action_type ≠ use.action_type ∨ .str row.target ≠ use.target then
      some "Approval does not match exact action and target"
    else if use.conditions.any fun conditions => !Json.equal row.conditions (.obj conditions) then
      some "Approval conditions do not match the exact action plan"
    -- The two times are compared as texts.
    else if row.expires_at ≤ timestamp then
      some "Approval expired"
    else none

/-- Whether the conditions of a use hold secret-like material. -/
def Consumption.secret (use : Consumption) : Bool :=
  use.conditions.any fun conditions => secret_findings (.obj conditions) "$" ≠ []

/-- The details of the audit event of a consumption. -/
def Consumption.details (use : Consumption) : List (String × Json) :=
  [("action_type", .str use.action_type), ("target", use.target)]

/-- Record that a use was refused. -/
def refuseConsumption (actor : Actor) (use : Consumption) (reason : String) : World → World :=
  World.audit actor "CONSUME_APPROVAL" .DENIED reason (some use.approval_id) use.details none

/-- Consume an approval that is not reusable, and record the use. -/
def grantConsumption (actor : Actor) (use : Consumption) (reusable : Bool) (world : World) :
    World :=
  World.audit actor "CONSUME_APPROVAL" .ALLOWED "Exact active approval matched"
    (some use.approval_id) use.details none
    (if reusable then world else setApproval use.approval_id .CONSUMED world)

/-- Write the consumption of an approval that was found to cover a use, or refuse it. -/
def concludeConsumption (actor : Actor) (use : Consumption) :
    Option ApprovalRow → Option String → Op Unit
  | some row, none =>
    -- The row is not read again: the write does not ask what state it has now.
    Prog.write (.consume use.approval_id) (grantConsumption actor use row.reusable)
  | _, reason => do
    Prog.write .audit (refuseConsumption actor use (reason.getD "Approval not found"))
    throw (.authorization (reason.getD "Approval not found"))

/-- Consume an approval in a transaction of its own. -/
def consume_approval (store : Store) (actor : Actor) (use : Consumption) : Op Unit :=
  if use.secret then
    throw (.validation "Secret-like material is prohibited in approval conditions")
  else do
    let row ← select (·.approval? use.approval_id)
    let timestamp ← timeOr use.at_
    concludeConsumption actor use row (consumeRefusal store actor use timestamp row)

/-- Consume an approval inside a transaction of the caller, which commits or rolls back with it. -/
def consumeWithin (store : Store) (actor : Actor) (use : Consumption) (world : World) :
    Except Error World × World :=
  if use.secret then
    (.error (.validation "Secret-like material is prohibited in approval conditions"), world)
  else
    let row := world.db.approval? use.approval_id
    let timestamp := (given use.at_).getD world.clock.utc.isoformat
    match row, consumeRefusal store actor use timestamp row with
    | some row, none => (.ok (grantConsumption actor use row.reusable world), world)
    -- The refusal is committed with its audit event before the caller rolls back.
    | _, reason => (.error (.authorization (reason.getD "Approval not found")),
        refuseConsumption actor use (reason.getD "Approval not found") world)

end SeanOs
