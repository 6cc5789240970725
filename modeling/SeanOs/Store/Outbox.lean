import SeanOs.Backup.Adapter
import SeanOs.Store.Approvals

/-! The operations the three outboxes share: authorization, leases, and the ends of an attempt. -/

namespace SeanOs

open Atomic Calendar

/-- The approval a row of an outbox was authorized with. -/
def Database.approvalAt (db : Database) : Outbox → String → Option String
  | .backup_transfer, key =>
    (db.backup_transfer_outbox.find? (·.key == key)).bind (·.approval_id)
  | .backup_restore, key =>
    (db.backup_restore_outbox.find? (·.key == key)).bind (·.approval_id)
  | .alert_delivery, key =>
    (db.alert_delivery_outbox.find? (·.key == key)).bind (·.approval_id)

/-- Where one outbox is kept in the database. -/
structure OutboxTable (Columns : Type) where
  name : Outbox
  /-- The rows of the outbox. -/
  rows : Database → List (OutboxRow Columns)
  /-- A database with other rows in the outbox. -/
  put : List (OutboxRow Columns) → Database → Database
  /-- The rows that were put are there. -/
  rows_put : ∀ items db, rows (put items db) = items
  /-- The approval of a row is found under the name of its outbox. -/
  approvalAt_self : ∀ db key,
    db.approvalAt name key = ((rows db).find? (·.key == key)).bind (·.approval_id)
  /-- The other outboxes are left alone. -/
  approvalAt_other : ∀ items db other key, other ≠ name →
    (put items db).approvalAt other key = db.approvalAt other key
  /-- The approvals and the audit log are left alone. -/
  frame : ∀ items db,
    (put items db).approvals = db.approvals ∧ (put items db).audit_log = db.audit_log

namespace OutboxTable

variable {Columns : Type} (table : OutboxTable Columns)

/-- The row under a key. -/
def find? (key : String) (db : Database) : Option (OutboxRow Columns) :=
  (table.rows db).find? (·.key == key)

/-- Change the rows that meet a condition, as one `UPDATE` statement does. -/
def update (holds : OutboxRow Columns → Bool) (change : OutboxRow Columns → OutboxRow Columns)
    (world : World) : World :=
  let rows := (table.rows world.db).map fun row => if holds row then change row else row
  { world with db := table.put rows world.db }

/-- Whether an `UPDATE` with that condition would change a row. -/
def matches_ (holds : OutboxRow Columns → Bool) (world : World) : Bool :=
  (table.rows world.db).any holds

variable {table} {holds : OutboxRow Columns → Bool}
  {change : OutboxRow Columns → OutboxRow Columns}

/-- An update that keeps the keys changes the row under a key where it meets the condition. -/
theorem find?_update (keeps : ∀ row, (change row).key = row.key) (key : String) (world : World) :
    table.find? key (table.update holds change world).db =
      (table.find? key world.db).map fun row => if holds row then change row else row := by
  -- The keys are searched as before, and only the row that is found may differ.
  have same : ((fun row : OutboxRow Columns => row.key == key) ∘
      fun row => if holds row then change row else row) = fun row => row.key == key := by
    funext row
    show ((if holds row then change row else row).key == key) = (row.key == key)
    split
    · rw [keeps]
    · rfl
  rw [find?, find?, update, table.rows_put, List.find?_map, same]

/-- The row that is found has the key it was searched by. -/
theorem key_of_find? {key : String} {db : Database} {row : OutboxRow Columns}
    (found : table.find? key db = some row) : row.key = key := by
  simpa using List.find?_some found

end OutboxTable

namespace OutboxRow

variable {Columns : Type}

/-- Whether a row is the authorized row under a key that a worker holds the lease of. -/
def heldBy (key worker_id : String) (row : OutboxRow Columns) : Bool :=
  row.key == key && (row.status == .AUTHORIZED && row.lease_owner == some worker_id)

/-- Whether the lease of a row has no owner or has ended, by the texts of the times. -/
def released (stamp : String) (row : OutboxRow Columns) : Bool :=
  row.lease_owner.isNone || row.lease_expires_at.any (· ≤ stamp)

/-- A row without a lease. -/
def unleased (row : OutboxRow Columns) : OutboxRow Columns :=
  { row with lease_owner := none, lease_expires_at := none }

/-- The order rows are claimed in. -/
def before (one two : OutboxRow Columns) : Bool :=
  one.created_at < two.created_at || (one.created_at == two.created_at && one.key ≤ two.key)

end OutboxRow

section Operations

variable [Platform] {Columns : Type}

/-- Read a row that the actor may read. -/
def getRow (table : OutboxTable Columns) (missing : String) (store : Store) (actor : Actor)
    (key : String) : Op (OutboxRow Columns) := do
  match ← select (table.find? key) with
  | none => throw (.validation missing)
  | some row => do
    lift (_authorize store actor row.owner_scope.text [] "read")
    return row

/-- The values in which the authorizations of the outboxes differ. -/
structure Authorization where
  /-- The state a row awaits its approval in. -/
  awaiting : OutboxStatus
  /-- What is said when the row changed meanwhile. -/
  raced : String
  action : String
  reason : String
  affected : String
  details : List (String × Json)

/-- Consume an approval and authorize a row with it, or do neither. -/
def authorizeRow (table : OutboxTable Columns) (values : Authorization) (store : Store)
    (actor : Actor) (use : Consumption) (key : String) (stamp : Option String) : Op Unit :=
  Prog.transact (.authorize table.name key) fun world =>
    match consumeWithin store actor use world with
    | (.error error, refused) => (.error error, refused)
    | (.ok consumed, _) =>
      let waits := fun row : OutboxRow Columns => row.key == key && row.status == values.awaiting
      if table.matches_ waits consumed then
        let authorized := table.update waits (fun row =>
          { row with
            status := .AUTHORIZED, approval_id := some use.approval_id
            updated_at := stamp.getD world.clock.utc.isoformat }) consumed
        (.ok (), World.audit actor values.action .ALLOWED values.reason (some values.affected)
          values.details none authorized)
      -- The consumption is rolled back with the rest of the transaction.
      else (.error (.validation values.raced), world)

/-- Lease the first row that is ready, and fail the rows that have no attempt left. -/
def claimRow (table : OutboxTable Columns) (worker_id stamp lease : String)
    (inScope : OutboxRow Columns → Bool) :
    Op (List (OutboxRow Columns) × Option String) :=
  Prog.transact (.claim table.name worker_id stamp) fun world =>
    let exhausted := fun row : OutboxRow Columns =>
      row.status == .AUTHORIZED && (row.max_attempts ≤ row.attempt_count &&
        (row.released stamp && inScope row))
    let failed := table.update exhausted (fun row =>
      { row.unleased with
        status := .FAILED, last_error := some "Lease expired after maximum attempts"
        updated_at := stamp }) world
    let ready := fun row : OutboxRow Columns =>
      row.status == .AUTHORIZED && (row.available_at ≤ stamp &&
        (row.attempt_count < row.max_attempts && (row.released stamp && inScope row)))
    let terminal := (table.rows world.db).filter exhausted
    match (((table.rows failed.db).filter ready).insertionSort (·.before ·)).head? with
    | none => (.ok (terminal, none), failed)
    | some chosen =>
      let free := fun row : OutboxRow Columns =>
        row.key == chosen.key && (row.status == .AUTHORIZED && row.released stamp)
      (.ok (terminal, some chosen.key), table.update free (fun row =>
        { row with
          lease_owner := some worker_id, lease_expires_at := some lease
          attempt_count := row.attempt_count + 1, updated_at := stamp }) failed)

/-- Record an audit event for each of a list of rows, one after another. -/
def auditEach (actor : Actor) (action reason : String)
    (details : OutboxRow Columns → List (String × Json)) : List (OutboxRow Columns) → Op Unit
  | [] => .ret ()
  | row :: rows => do
    _audit actor action .FAILED reason (some row.key) (details row) none
    auditEach actor action reason details rows

/-- The values in which the failures of the outboxes differ. -/
structure Failure (Columns : Type) where
  table : OutboxTable Columns
  /-- What is said about an empty error, a secret one and a delay out of bounds. -/
  missing : String
  secret : String
  delay : String
  /-- What is said to a worker without the lease. -/
  unleased : String
  /-- The scope the worker must be able to write. -/
  scope : OutboxRow Columns → String
  action : String
  /-- The details of the audit event, from the row, the worker and the next state. -/
  details : OutboxRow Columns → String → OutboxStatus → List (String × Json)

/-- End an attempt that failed: the row is tried again later, or has no attempt left. -/
def failClaimed (values : Failure Columns) (store : Store) (actor : Actor)
    (key worker_id error : String) (retry_seconds : ℤ) : Op OutboxStatus :=
  if strip error = "" then throw (.validation values.missing)
  else if secret_findings (.obj [("error", .str error)]) "$" ≠ [] then
    throw (.validation values.secret)
  else if retry_seconds < 0 ∨ 3600 < retry_seconds then throw (.validation values.delay)
  else do
    match ← select fun db => (values.table.rows db).find? (·.heldBy key worker_id) with
    | none => throw (.authorization values.unleased)
    | some row => do
      lift (_authorize store actor (values.scope row) [] "write")
      let status : OutboxStatus :=
        if row.max_attempts ≤ row.attempt_count then .FAILED else .AUTHORIZED
      let available ← later (← clockNow) retry_seconds.toNat
      let stamp ← now
      -- The write asks neither for the state of the row nor for its lease.
      Prog.write (.fail values.table.name key worker_id)
        (values.table.update (·.key == key) fun row =>
          { row.unleased with
            status := status, available_at := available, last_error := some error
            updated_at := stamp })
      _audit actor values.action .FAILED error (some key) (values.details row worker_id status) none
      return status

/-- The values in which holding an attempt differs between the outboxes. -/
structure Holding (Columns : Type) where
  table : OutboxTable Columns
  missing : String
  secret : String
  unleased : String
  action : String
  details : List (String × Json)

/-- Terminally hold a row whose attempt ended in an unknown way. -/
def holdClaimed (values : Holding Columns) (store : Store) (actor : Actor)
    (key worker_id error : String) : Op OutboxStatus :=
  if strip error = "" then throw (.validation values.missing)
  else if secret_findings (.obj [("error", .str error)]) "$" ≠ [] then
    throw (.validation values.secret)
  else do
    match ← select fun db => (values.table.rows db).find? (·.heldBy key worker_id) with
    | none => throw (.authorization values.unleased)
    | some _ => do
      lift (_authorize store actor "IAC" [] "write")
      let stamp ← now
      Prog.write (.hold values.table.name key worker_id)
        (values.table.update (·.heldBy key worker_id) fun row =>
          { row.unleased with
            status := .RECONCILIATION_REQUIRED, last_error := some error, updated_at := stamp })
      _audit actor values.action .FAILED error (some key) values.details none
      return .RECONCILIATION_REQUIRED

/-- The values in which completing an attempt differs between the two backup outboxes. -/
structure Completion (Columns : Type) where
  table : OutboxTable Columns
  /-- The state of a completed row. -/
  done : OutboxStatus
  plan : Columns → Json
  /-- The check of a receipt against the plan of its row. -/
  verify : Json → Json → Except Error Json
  /-- The member of a receipt that says when the work was done. -/
  finished : String
  killed : String
  unleased : String
  raced : String
  missing : String
  action : String
  reason : String
  details : List (String × Json)

/-- Complete an attempt with a verified receipt, unless the lease ended or changed. -/
def completeClaimed (values : Completion Columns) (store : Store) (actor : Actor)
    (key worker_id : String) (receipt : Json) (at_ : Option String) :
    Op (OutboxRow Columns) := do
  lift (refuseIf (← kill_switch_enabled) (.authorization values.killed))
  let stamp ← timeOr at_
  let live := fun row : OutboxRow Columns =>
    row.heldBy key worker_id && row.lease_expires_at.any (stamp < ·)
  match ← select fun db => (values.table.rows db).find? live with
  | none => do
    -- A completed row may be completed once more with the receipt it has.
    match ← select (values.table.find? key) with
    | none => throw (.authorization values.unleased)
    | some existing =>
      if existing.status ≠ values.done then throw (.authorization values.unleased)
      else match existing.receipt_payload with
        | none => throw (.value "the JSON object must be str, bytes or bytearray, not NoneType")
        | some prior => do
          let verified ← lift (values.verify receipt (values.plan existing.columns))
          if verified.equal prior then getRow values.table values.missing store actor key
          else throw (.authorization values.unleased)
  | some row => do
    lift (_authorize store actor row.owner_scope.text [] "write")
    let verified ← lift (values.verify receipt (values.plan row.columns))
    Prog.transact (.complete values.table.name key worker_id) fun world =>
      if values.table.matches_ live world then
        (.ok (), values.table.update live (fun row =>
          { row.unleased with
            status := values.done, receipt_payload := some verified
            finished_at := some (verified.getD values.finished), updated_at := stamp
            last_error := none }) world)
      else (.error (.authorization values.raced), world)
    _audit actor values.action .ALLOWED values.reason (some key) values.details none
    getRow values.table values.missing store actor key

/-- The values in which the guards of the two backup outboxes differ. -/
structure Guard (Columns : Type) where
  table : OutboxTable Columns
  malformed : String
  naive : String
  missing : String
  unauthorized : String
  unleased : String
  expired : String
  /-- Whether a time is in the window of a row, where the guard asks for it. -/
  inWindow : OutboxRow Columns → DateTime → Except Error Bool
  outside : String
  action : String

/-- Why an attempt may not go on at some time, if it may not. -/
def guardRefusal (values : Guard Columns) (killed : Bool) (worker_id : String)
    (checked_at : DateTime) : Option (OutboxRow Columns) → Except Error (Option String)
  | none => .ok (some (if killed then "Kill switch is ON" else values.missing))
  | some row =>
    if killed then .ok (some "Kill switch is ON")
    else if row.status ≠ .AUTHORIZED ∨ (given row.approval_id).isNone then
      .ok (some values.unauthorized)
    else match given row.lease_expires_at with
      | none => .ok (some values.unleased)
      | some lease_expires_at =>
        if row.lease_owner ≠ some worker_id then .ok (some values.unleased)
        else match fromisoformat lease_expires_at with
          | none => .error (.value ("Invalid isoformat string: " ++ lease_expires_at))
          | some expires =>
            if !expires.aware then
              .error (.value "can't compare offset-naive and offset-aware datetimes")
            else if expires.instant ≤ checked_at.instant then .ok (some values.expired)
            else (values.inWindow row checked_at).map fun inside =>
              if inside then none else some values.outside

/-- Check the kill switch and the lease before an irreversible stage. -/
def guardClaimed (values : Guard Columns) (store : Store) (actor : Actor)
    (key worker_id : String) (at_ : Option String) : Op (OutboxRow Columns) := do
  lift (_authorize store actor "IAC" [] "write")
  let stamp ← timeOr at_
  match fromisoformat stamp with
  | none => throw (.validation values.malformed)
  | some checked_at =>
    if !checked_at.aware then throw (.validation values.naive)
    else do
      let row ← select (values.table.find? key)
      let killed ← kill_switch_enabled
      match ← lift (guardRefusal values killed worker_id checked_at row) with
      | some reason => do
        _audit actor values.action .DENIED reason (some key)
          [("scope", .str "IAC"), ("worker_id", .str worker_id),
            ("network_performed", .bool false)] none
        throw (.authorization reason)
      | none => getRow values.table values.missing store actor key

end Operations

end SeanOs
