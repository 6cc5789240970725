import SeanOs.ChiefOfStaff

/-! The connector gate, and the two adapters behind it that take evidence in without any network. -/

namespace SeanOs

open Atomic

/-- What an offline import is given: one artifact, and where and when it was taken. -/
structure ImportEnvelope where
  external_id : String
  content : String
  source_uri : String
  captured_at : String
  synthetic : Bool
  metadata : List (String × Json)

/-- How an artifact that is imported is answered. -/
structure Imported where
  record_id : String
  content_sha256 : String
  deduplicated : Bool
  deriving DecidableEq

/-- How a coding delivery is answered, whose status is always that it was delivered. -/
structure Delivered where
  delivery_id : String
  record_id : String
  content_sha256 : String
  deduplicated : Bool
  deriving DecidableEq

/-- The evidence of a coding delivery that has passed its checks. -/
structure CodingEvidence where
  external_id : String
  repository : String
  base_revision : String
  branch_name : String
  review_ref : String
  summary : String
  changed_paths : Json
  test_results : Json
  activity : ℤ
  cost : Number

/-- A member that a payload must have. -/
def member (name : String) (payload : List (String × Json)) : Except Error Json :=
  (payload.lookup name).elim (.error (.key name)) .ok

/-- The row of a connector. -/
def Database.connector? (db : Database) (connector_name : String) : Option ConnectorRow :=
  db.connector_config.find? (·.connector_name == connector_name)

/-- The delivery that is recorded under an identifier of its sender. -/
def Database.codingDelivery? (db : Database) (external_id : String) : Option CodingDeliveryRow :=
  db.coding_deliveries.find? (·.external_id == external_id)

/-- Whether a record is linked to another one in some way. -/
def Database.linked (db : Database) (from_record_id relationship_type to_record_id : String) : Bool :=
  db.relationships.any fun row => row.from_record_id == from_record_id &&
    (row.relationship_type == relationship_type && row.to_record_id == to_record_id)

section Gate

variable [Platform]

/-- The modes of a connector. -/
def CONNECTOR_MODES : List String := ["SYNTHETIC_ONLY", "LIVE"]

/-- Set whether a connector is enabled, and its mode. -/
def setConnector (row : ConnectorRow) (world : World) : World :=
  let connector_config := world.db.connector_config.map fun other =>
    if other.connector_name = row.connector_name then row else other
  { world with db := { world.db with connector_config := connector_config } }

namespace ConnectorGate

/-- Configure a connector, which only Sean may do. -/
def configure (actor : Actor) (connector_name : String) (enabled : Bool) (mode : String) : Op Unit :=
  if !actor.is_sean then
    throw (.authorization "Only Sean may configure integration gates")
  else do
    let name := upper connector_name
    let mode := upper mode
    let supported ← select fun db => db.connector_config.map (·.connector_name)
    if name ∉ supported then
      throw (.validation "Unknown connector")
    else if mode ∉ CONNECTOR_MODES then
      throw (.validation "Unknown connector mode")
    else if enabled ∧ (mode = "LIVE" ∨ name ≠ "CLAUDE_IMPORT") then
      throw (.authorization "Only synthetic Claude import may be enabled in v0.1")
    else do
      Prog.write .records (setConnector ⟨name, enabled, mode⟩)
      record_policy_decision actor none true "Connector gate configured"
        [("connector_name", .str name), ("enabled", .bool enabled), ("mode", .str mode)]

/-- The connectors in the order of their names. -/
def statuses : Op (List ConnectorRow) := select fun db =>
  db.connector_config.insertionSort fun one two => one.connector_name ≤ two.connector_name

/-- Why a connector does not take an artifact, if it does not. -/
def refusal (connector_name : String) (synthetic : Bool) : Option ConnectorRow → Except Error Unit
  | none => .error (.authorization ("Connector " ++ connector_name ++ " is disabled"))
  | some row =>
    if !row.enabled then
      .error (.authorization ("Connector " ++ connector_name ++ " is disabled"))
    else if row.mode = "SYNTHETIC_ONLY" ∧ !synthetic then
      .error (.authorization "Connector permits synthetic artifacts only")
    else .ok ()

/-- Refuse an artifact that a connector does not take. -/
def require_enabled (connector_name : String) (synthetic : Bool) : Op Unit := do
  let row ← select (·.connector? (upper connector_name))
  lift (refusal connector_name synthetic row)

end ConnectorGate

/-- Read the record that a value names. -/
def get_named (store : Store) (actor : Actor) (record_id : Json) : Op RecordView := do
  match ← lift (boundText record_id) with
  | some record_id => get_record store actor record_id
  | none => do
    -- A null equals no identifier, and is recorded as it is.
    _audit actor "READ_RECORD" .DENIED "Record not found" none [] none
    throw (.key "None")

end Gate

/-- The offline import of artifacts: it calls no one, and executes nothing that it imports. -/
structure ClaudeImportAdapter where
  store : Store
  actor : Actor

namespace ClaudeImportAdapter

variable [Platform] (adapter : ClaudeImportAdapter)

/-- The checks on an envelope that need no project. -/
def checkEnvelope (envelope : ImportEnvelope) (scope : String) : Except Error Unit :=
  if scope ≠ "IAC" then
    .error (.authorization "v0.1 Claude import is isolated to IAC scope")
  else if strip envelope.external_id = "" ∨ strip envelope.source_uri = "" ∨
      strip envelope.captured_at = "" then
    .error (.validation "Import requires external ID, source URI, and capture time")
  else if strip envelope.content = "" then
    .error (.validation "Empty artifacts are not imported")
  else .ok ()

/-- The project that the metadata of an envelope names, if they name one. -/
def namedProject (envelope : ImportEnvelope) (scope : String) : Op (Option RecordRow) :=
  match payloadValue "project_id" envelope.metadata with
  | none => return none
  | some project_id => do
    let project ← get_named adapter.store adapter.actor project_id
    if project.row.entity_type ≠ .PROJECT ∨ project.row.owner_scope.text ≠ scope then
      throw (.validation "Imported project reference is invalid")
    else return some project.row

/-- The record of an artifact: evidence that no one trusts and nothing executes. -/
def artifactRequest (envelope : ImportEnvelope) (scope digest : String) : RecordRequest where
  entity_type := "KNOWLEDGE"
  scope := scope
  payload := [("kind", .str "CLAUDE_IMPORTED_ARTIFACT"), ("content", .str envelope.content),
    ("content_sha256", .str digest), ("captured_at", .str envelope.captured_at),
    ("metadata", .obj envelope.metadata), ("synthetic", .bool envelope.synthetic),
    ("trust", .str "UNTRUSTED_EVIDENCE"), ("instruction_execution", .str "DISABLED")]
  source := "claude-import"
  source_locator := some envelope.source_uri

/-- Insert the import of an artifact, unless its connector has one under the same identifier. -/
def addImport (row : ImportRow) : Op Unit :=
  Prog.transact .records fun world =>
    match world.db.imported_artifacts.insert? row with
    | none => (.error (.integrity "UNIQUE constraint failed: imported_artifacts"), world)
    | some imported => (.ok (), { world with db := { world.db with imported_artifacts := imported } })

/-- Link the record of an artifact to its project, if it has one. -/
def linkProject (record_id : String) : Option RecordRow → Op Unit
  | none => return ()
  | some project => do
    let _ ← link_records adapter.store adapter.actor record_id "EVIDENCE_FOR" project.id

/-- Record the import of an artifact whose record is there, and link that to its project. -/
def recordImport (envelope : ImportEnvelope) (digest : String) (project : Option RecordRow)
    (record_id : String) : Op Imported := do
  let stamp ← now
  addImport ⟨"CLAUDE_IMPORT", envelope.external_id, digest, record_id, stamp⟩
  adapter.linkProject record_id project
  record_policy_decision adapter.actor (some record_id) true
    "Synthetic Claude artifact imported as untrusted evidence"
    [("external_id", .str envelope.external_id), ("sha256", .str digest)]
  return ⟨record_id, digest, false⟩

/-- Import one artifact as evidence, once under its identifier. -/
def ingest (envelope : ImportEnvelope) (scope : String) : Op Imported := do
  ConnectorGate.require_enabled "CLAUDE_IMPORT" envelope.synthetic
  lift (checkEnvelope envelope scope)
  let project ← adapter.namedProject envelope scope
  let digest := Platform.sha256 envelope.content
  match ← select (·.imported_artifacts.find? ("CLAUDE_IMPORT", envelope.external_id)) with
  | some existing =>
    if existing.content_sha256 ≠ digest then
      throw (.validation "External artifact changed; import under a new immutable ID")
    else return ⟨existing.record_id, digest, true⟩
  | none => do
    let record_id ← create_record adapter.store adapter.actor (artifactRequest envelope scope digest)
    adapter.recordImport envelope digest project record_id

end ClaudeImportAdapter

/-- The record of coding deliveries that are done: it calls no model and no host of repositories. -/
structure CodingDeliveryAdapter where
  store : Store
  actor : Actor

namespace CodingDeliveryAdapter

variable [Platform] (adapter : CodingDeliveryAdapter)

/-- A member that must be a text which is not blank. -/
def filledMember (name : String) (payload : List (String × Json)) : Except Error String := do
  match ← member name payload with
  | .str text =>
    if strip text = "" then
      throw (.validation "Coding delivery text fields must be non-empty")
    else return text
  | _ => throw (.validation "Coding delivery text fields must be non-empty")

/-- The texts of a list that is not empty and holds no blank ones, if the value is such a list. -/
def filledTexts : Json → Option (List String)
  | .arr items =>
    if items.isEmpty then none
    else items.mapM fun
      | .str text => if strip text = "" then none else some text
      | _ => none
  | _ => none

/-- Whether a repository is named by its owner and its own name. -/
def ownerAndName (repository : String) : Bool :=
  match repository.toList.splitOn '/' with
  | [owner, name] => !owner.isEmpty && !name.isEmpty
  | _ => false

/-- Whether a path may lead out of the repository. -/
def escapesRepository (path : String) : Bool :=
  path.toList.head? == some '/' || (path.toList.splitOn '/').contains ['.', '.']

/-- The activity units of a delivery, which are a positive integer. -/
def activityUnits : Json → Except Error ℤ
  | .int units =>
    if units ≤ 0 then .error (.validation "Coding activity units must be a positive integer")
    else .ok units
  | _ => .error (.validation "Coding activity units must be a positive integer")

/-- The cost units of a delivery, which are not below zero or at it. -/
def costUnits : Json → Except Error Number
  | .bool _ => .error (.validation "Coding cost units must be positive")
  | value => match value.numeric with
    | none => .error (.validation "Coding cost units must be positive")
    | some _ => do
      let units ← toFloat value
      if isAtMostZero units then throw (.validation "Coding cost units must be positive")
      return units

/-- The checks on the evidence of a delivery, in the order in which they are made. -/
def checkEvidence (payload : List (String × Json)) : Except Error CodingEvidence := do
  let external_id ← filledMember "external_id" payload
  let repository ← filledMember "repository" payload
  let base_revision ← filledMember "base_revision" payload
  let branch_name ← filledMember "branch_name" payload
  let review_ref ← filledMember "review_ref" payload
  let summary ← filledMember "summary" payload
  refuseIf (!ownerAndName (strip repository)) (.validation "Repository must use owner/name form")
  refuseIf (lower (strip branch_name) ∈ ["main", "master"])
    (.validation "Coding delivery must use a review branch")
  let paths ← member "changed_paths" payload
  refuseIf (filledTexts paths).isNone (.validation "Coding delivery requires changed paths")
  refuseIf ((filledTexts paths).any (·.any escapesRepository))
    (.validation "Changed paths must remain repository-relative")
  let tests ← member "test_results" payload
  refuseIf (filledTexts tests).isNone (.validation "Coding delivery requires test results")
  let activity ← member "activity_units" payload
  let cost ← member "estimated_cost_units" payload
  let activity ← activityUnits activity
  let cost ← costUnits cost
  return {
    external_id := external_id, repository := strip repository, base_revision := base_revision
    branch_name := branch_name, review_ref := review_ref, summary := summary
    changed_paths := paths, test_results := tests, activity := activity, cost := cost }

/-- A delivery is for a task and a project of the company. -/
def checkPlace (project task : RecordRow) : Except Error Unit :=
  refuseIf (project.entity_type ≠ .PROJECT || task.entity_type ≠ .TASK ||
      project.owner_scope ≠ .IAC || task.owner_scope ≠ .IAC)
    (.validation "Coding delivery requires IAC project and task records")

/-- Link two records, unless they are linked in this way already. -/
def _ensure_link (record_id relationship_type target_id : String) : Op Unit := do
  let linked ← select (·.linked record_id relationship_type target_id)
  if linked then return ()
  else do
    let _ ← link_records adapter.store adapter.actor record_id relationship_type target_id

/-- The first record of a delivery with some identifier among the records of deliveries. -/
def recovered (external_id : String) : List RecordRow → Except Error (Option RecordRow)
  | [] => .ok none
  | row :: rows => do
    let found ← payloadMember "external_id" row.payload
    if found = some (.str external_id) then return some row
    else recovered external_id rows

/-- The record of a delivery, as its evidence describes it. -/
def deliveryRequest (evidence : CodingEvidence) (delivery_id digest project_id task_id : String) :
    RecordRequest where
  entity_type := "KNOWLEDGE"
  scope := "IAC"
  payload := [("kind", .str "CLAUDE_CODE_DELIVERY"), ("status", .str "DELIVERED"),
    ("delivery_id", .str delivery_id), ("external_id", .str evidence.external_id),
    ("content_sha256", .str digest), ("project_id", .str project_id), ("task_id", .str task_id),
    ("repository", .str evidence.repository), ("base_revision", .str evidence.base_revision),
    ("branch_name", .str evidence.branch_name), ("review_ref", .str evidence.review_ref),
    ("summary", .str evidence.summary), ("changed_paths", evidence.changed_paths),
    ("test_results", evidence.test_results), ("activity_units", .int evidence.activity),
    ("cost_units", .float evidence.cost), ("synthetic", .bool true),
    ("network_used", .bool false), ("external_effect", .bool false)]
  source := "claude-code-delivery"
  source_locator := some evidence.review_ref
  confidence := some 1

/-- The identifier of a recovered delivery, whose record holds the same evidence. -/
def recoveredId (digest : String) (row : RecordRow) : Except Error String := do
  let found ← payloadMember "content_sha256" row.payload
  refuseIf (found ≠ some (.str digest)) (.validation "Recovered coding delivery evidence has changed")
  let delivery_id ← payloadMember "delivery_id" row.payload
  let delivery_id ← delivery_id.elim (.error (.key "delivery_id")) boundText
  delivery_id.elim (.error (.integrity "NOT NULL constraint failed")) .ok

/-- The identifier and the record of a delivery: the ones that were found, or new ones. -/
def evidenceRecord (evidence : CodingEvidence) (digest project_id task_id : String) :
    Option RecordRow → Op (String × String)
  | some row => do
    let delivery_id ← lift (recoveredId digest row)
    return (delivery_id, row.id)
  | none => do
    let delivery_id ← uuid4
    let record_id ← create_record adapter.store adapter.actor
      (deliveryRequest evidence delivery_id digest project_id task_id)
    return (delivery_id, record_id)

/-- What the table refuses of a delivery whichever others it holds. -/
def checkDeliveryRow (row : CodingDeliveryRow) : Except Error Unit := do
  -- The driver takes no wider integer, and binds what is no number as a null.
  refuseIf (2 ^ 63 ≤ row.activity_units) .overflow
  refuseIf (row.cost_units = .nan)
    (.integrity "NOT NULL constraint failed: coding_deliveries.cost_units")

/-- Insert a delivery in a transaction of its own. -/
def addDelivery (row : CodingDeliveryRow) : Op Unit :=
  Prog.transact .records fun world =>
    let taken := world.db.coding_deliveries.any fun other =>
      other.delivery_id == row.delivery_id || other.external_id == row.external_id
    if taken then (.error (.integrity "UNIQUE constraint failed: coding_deliveries"), world)
    else
      let coding_deliveries := world.db.coding_deliveries ++ [row]
      (.ok (), { world with db := { world.db with coding_deliveries := coding_deliveries } })

/-- Record a delivery that no row was found of. -/
def recordNew (evidence : CodingEvidence) (digest project_id task_id : String) : Op Delivered := do
  let rows ← select fun db => db.records.filter (·.source == "claude-code-delivery")
  let found ← lift (recovered evidence.external_id rows)
  let (delivery_id, record_id) ← adapter.evidenceRecord evidence digest project_id task_id found
  let stamp ← now
  let row : CodingDeliveryRow := {
    delivery_id := delivery_id, external_id := evidence.external_id, content_sha256 := digest
    project_id := project_id, task_id := task_id, repository := evidence.repository
    base_revision := evidence.base_revision, branch_name := evidence.branch_name
    review_ref := evidence.review_ref, artifact_record_id := record_id
    activity_units := evidence.activity, cost_units := evidence.cost, delivered_at := stamp }
  lift (checkDeliveryRow row)
  addDelivery row
  adapter._ensure_link record_id "DELIVERS" task_id
  adapter._ensure_link record_id "EVIDENCE_FOR" project_id
  record_policy_decision adapter.actor (some record_id) true
    "Synthetic coding delivery recorded without network or repository mutation"
    [("delivery_id", .str delivery_id), ("project_id", .str project_id),
      ("task_id", .str task_id), ("tool", .str "claude-code-synthetic"),
      ("cost_units", .float evidence.cost), ("activity_units", .int evidence.activity),
      ("network_used", .bool false), ("external_effect", .bool false)]
  return ⟨delivery_id, record_id, digest, found.isSome⟩

/-- Record a delivery whose evidence has passed its checks, once under its identifier. -/
def recordEvidence (evidence : CodingEvidence) (digest project_id task_id : String) :
    Op Delivered := do
  match ← select (·.codingDelivery? evidence.external_id) with
  | some existing =>
    if existing.content_sha256 ≠ digest then
      throw (.validation "Coding delivery ID was reused with different evidence")
    else do
      adapter._ensure_link existing.artifact_record_id "DELIVERS" task_id
      adapter._ensure_link existing.artifact_record_id "EVIDENCE_FOR" project_id
      return ⟨existing.delivery_id, existing.artifact_record_id, digest, true⟩
  | none => adapter.recordNew evidence digest project_id task_id

/-- Check where a delivery belongs, and the evidence for it. -/
def acceptedEvidence (payload : List (String × Json)) :
    Op (RecordRow × RecordRow × CodingEvidence) := do
  let synthetic ← lift (member "synthetic" payload)
  ConnectorGate.require_enabled "CLAUDE_IMPORT" synthetic.truthy
  if synthetic ≠ .bool true then
    throw (.authorization "v0.1 coding delivery accepts synthetic evidence only")
  else do
    let project_id ← lift (member "project_id" payload)
    let project ← get_named adapter.store adapter.actor project_id
    let task_id ← lift (member "task_id" payload)
    let task ← get_named adapter.store adapter.actor task_id
    lift (checkPlace project.row task.row)
    let linked ← select (·.linked task.row.id "BELONGS_TO" project.row.id)
    if !linked then
      throw (.validation "Coding delivery task is not linked to the project")
    else do
      let evidence ← lift (checkEvidence payload)
      return (project.row, task.row, evidence)

/-- Record a coding delivery that is done, with its links and its evidence. -/
def record (payload : List (String × Json)) : Op Delivered := do
  let (project, task, evidence) ← adapter.acceptedEvidence payload
  adapter.recordEvidence evidence (Platform.sha256 (Json.canonical (.obj payload))) project.id task.id

end CodingDeliveryAdapter

end SeanOs
