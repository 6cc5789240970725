import SeanOs.Store.AlertIncidents

/-! Canonical records after their creation: reads, links and the lifecycle of projects. -/

namespace SeanOs

variable [Platform]

open Atomic Calendar

/-- Whether a record holds at the time it is read. -/
inductive Currentness where
  | FUTURE | EXPIRED | CURRENT
  deriving DecidableEq

/-- A record as a read returns it. -/
structure RecordView where
  row : RecordRow
  currentness : Currentness

/-- A time that is stored as text. -/
def storedMoment (text : String) : Except Error DateTime :=
  match fromisoformat text with
  | none => .error (.value ("Invalid isoformat string: " ++ text))
  | some moment => .ok moment

/-- Whether a record holds at a time, by its own times. -/
def currentness (row : RecordRow) (clock : Reading) : Except Error Currentness := do
  -- Both times are read before either of them is compared.
  let _ ← storedMoment row.effective_at
  let expires := given row.expires_at
  let _ ← expires.elim (.ok none) fun text => (storedMoment text).map some
  let begun ← reached row.effective_at clock
  if !begun then return .FUTURE
  let ended ← expires.elim (.ok false) fun text => reached text clock
  return if ended then .EXPIRED else .CURRENT

/-- The row of a record. -/
def Database.record? (db : Database) (record_id : String) : Option RecordRow :=
  db.records.find? (·.id == record_id)

/-- Read a record, if the actor may. -/
def get_record (store : Store) (actor : Actor) (record_id : String) : Op RecordView := do
  match ← select (·.record? record_id) with
  | none => do
    _audit actor "READ_RECORD" .DENIED "Record not found" (some record_id) [] none
    throw (.key record_id)
  | some row =>
    match _authorize store actor row.owner_scope.text row.permitted_principals "read" with
    | .error (.authorization message) => do
      _audit actor "READ_RECORD" .DENIED message (some record_id) [] none
      throw (.authorization message)
    | .error error => throw error
    | .ok _ => do
      _audit actor "READ_RECORD" .ALLOWED "Authorized scoped read" (some record_id) [] none
      let clock ← clockNow
      let state ← lift (currentness row clock)
      return ⟨row, state⟩

/-- The identifiers of the records of a kind, or of all kinds, in the order of their creation. -/
def Database.recordIds (entity_type : Option EntityType) (db : Database) : List String :=
  let rows := db.records.filter fun row => entity_type.all (row.entity_type == ·)
  (rows.insertionSort fun one two =>
    one.created_at < two.created_at ∨ one.created_at = two.created_at ∧ one.id ≤ two.id).map (·.id)

/-- Read records one after another, without those the actor may not read. -/
def visibleRecords (store : Store) (actor : Actor) : List String → Op (List RecordView)
  | [] => return []
  | id :: ids => do
    let visible ← tryCatch (do
        let record ← get_record store actor id
        return [record]) fun error => match error with
      | .authorization _ => return []
      | error => throw error
    let rest ← visibleRecords store actor ids
    return visible ++ rest

/-- The kind that is asked for, if any is. -/
def listedKind : Option String → Except Error (Option EntityType)
  | none => .ok none
  | some name => match EntityType.read (upper name) with
    | none => .error (.validation ("Unknown entity type: " ++ upper name))
    | some kind => .ok (some kind)

/-- Read all records of a kind, or of all kinds, that the actor may read. -/
def list_records (store : Store) (actor : Actor) (entity_type : Option String) :
    Op (List RecordView) := do
  let kind ← lift (listedKind entity_type)
  let ids ← select (Database.recordIds kind)
  let visible ← visibleRecords store actor ids
  _audit actor "LIST_RECORDS" .ALLOWED "Returned authorized records only" none
    [("entity_type", kind.elim .null fun kind => .str kind.text),
      ("record_count", .int visible.length)] none
  return visible

/-- Give a record another payload, under the next version. -/
def setPayload (record_id : String) (payload : Json) (stamp : String) (world : World) : World :=
  let records := world.db.records.map fun row =>
    if row.id = record_id then
      { row with payload := payload, updated_at := stamp, version := row.version + 1 }
    else row
  { world with db := { world.db with records := records } }

/-- Give a record another payload where it still has the expected version. -/
def replacePayload (record_id : String) (payload : Json) (stamp : String) (expected_version : ℤ) :
    Op Bool :=
  Prog.transact .records fun world =>
    if (world.db.record? record_id).any fun row => (row.version : ℤ) == expected_version then
      (.ok true, setPayload record_id payload stamp world)
    else (.ok false, world)

/-- Change the payload of a record whose version is the expected one. -/
def update_record (store : Store) (actor : Actor) (record_id : String)
    (payload : List (String × Json)) (expected_version : ℤ) (correlation_id : Option String) :
    Op ℤ := do
  let findings := secret_findings (.obj payload) "$"
  if findings ≠ [] then do
    _audit actor "UPDATE_RECORD" .DENIED "Secret-like material is prohibited" (some record_id)
      [("finding_paths", .arr (findings.map (.str ·.path)))] none
    throw (.validation "Secret-like material is prohibited in canonical record payloads")
  else do
    let current ← get_record store actor record_id
    lift (_authorize store actor current.row.owner_scope.text current.row.permitted_principals
      "write")
    let stamp ← now
    let written ← replacePayload record_id (Json.obj payload).sorted stamp expected_version
    if !written then do
      _audit actor "UPDATE_RECORD" .DENIED "Version conflict" (some record_id)
        [("expected_version", .int expected_version)] correlation_id
      throw (.validation "Version conflict: reload the record before updating")
    else do
      let version := expected_version + 1
      _audit actor "UPDATE_RECORD" .ALLOWED "Authorized versioned update" (some record_id)
        [("version", .int version)] correlation_id
      return version

/-- Insert a relationship. -/
def insertRelationship (row : RelationshipRow) (world : World) : World :=
  { world with db := { world.db with relationships := world.db.relationships ++ [row] } }

/-- Insert a relationship in a transaction of its own, unless it is there already. -/
def addRelationship (row : RelationshipRow) : Op Unit :=
  Prog.transact .records fun world =>
    let taken := world.db.relationships.any fun other => other.id == row.id ||
      other.from_record_id == row.from_record_id &&
        (other.relationship_type == row.relationship_type && other.to_record_id == row.to_record_id)
    if taken then (.error (.integrity "UNIQUE constraint failed: relationships"), world)
    else (.ok (), insertRelationship row world)

/-- Link two records that the actor may read, if it may write the first one. -/
def link_records (store : Store) (actor : Actor) (from_record_id relationship_type to_record_id :
    String) : Op String := do
  let source ← get_record store actor from_record_id
  let target ← get_record store actor to_record_id
  lift (_authorize store actor source.row.owner_scope.text source.row.permitted_principals "write")
  if source.row.owner_scope ≠ target.row.owner_scope ∧ source.row.owner_scope ≠ .SHARED ∧
      target.row.owner_scope ≠ .SHARED then do
    _audit actor "LINK_RECORDS" .DENIED "Direct PERSONAL-IAC links are prohibited"
      (some from_record_id) [("to_record_id", .str to_record_id)] none
    throw (.authorization
      "Direct PERSONAL-IAC links are prohibited; use a SHARED gateway record")
  else do
    let relationship_id ← uuid4
    let stamp ← now
    addRelationship ⟨relationship_id, from_record_id, upper relationship_type, to_record_id, stamp⟩
    _audit actor "LINK_RECORDS" .ALLOWED "Authorized relationship" (some from_record_id)
      [("relationship_id", .str relationship_id), ("to_record_id", .str to_record_id),
        ("relationship_type", .str (upper relationship_type))] none
    return relationship_id

/-- The states of a project. -/
def PROJECT_STATES : List String := ["ACTIVE", "INCUBATOR", "PAUSED", "KILLED"]

/-- Overwrite the lifecycle state of a project, whatever it is. -/
def setProjectState (next : ProjectStateRow) (world : World) : World :=
  let project_state := world.db.project_state.map fun row =>
    if row.record_id = next.record_id then next else row
  { world with db := { world.db with project_state := project_state } }

/-- Write the lifecycle state of a project, which for a killed one needs a reason and a trigger. -/
def writeProjectState (next : ProjectStateRow) : Op Unit :=
  Prog.transact .records fun world =>
    let unexplained := next.state = "KILLED" ∧
      ¬(reasonCounts next.reason ∧ next.reopen_trigger.any reasonCounts)
    if unexplained ∧ world.db.project_state.any (·.record_id == next.record_id) then
      (.error (.integrity "CHECK constraint failed: project_state"), world)
    else (.ok (), setProjectState next world)

/-- Change the lifecycle state of a project. -/
def transition_project (store : Store) (actor : Actor) (record_id state reason : String)
    (reopen_trigger review_at : Option String) : Op Unit := do
  let record ← get_record store actor record_id
  let state := upper state
  if record.row.entity_type ≠ .PROJECT then
    throw (.validation "Only PROJECT records have lifecycle state")
  else if state ∉ PROJECT_STATES then
    throw (.validation ("Unknown project state: " ++ state))
  else if strip reason = "" then
    throw (.validation "Lifecycle changes require a reason")
  else if state = "KILLED" ∧ strip (reopen_trigger.getD "") = "" then
    throw (.validation "KILLED projects require a reopen trigger")
  else do
    let stamp ← now
    writeProjectState ⟨record_id, state, reason, review_at, reopen_trigger, stamp⟩
    _audit actor "TRANSITION_PROJECT" .ALLOWED reason (some record_id) [("state", .str state)] none

end SeanOs
