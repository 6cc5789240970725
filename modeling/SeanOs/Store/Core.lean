import SeanOs.Security
import SeanOs.Store.Database

/-! What all store operations share: the clock, the audit log, scope authority and the kill switch. -/

namespace SeanOs

variable [Platform]

open Atomic Calendar

/-- The profiles a database can be bound to. -/
inductive Profile where
  | DEVELOPMENT | IAC | PERSONAL
  deriving DecidableEq

/-- An open store: the profile its database is bound to. -/
structure Store where
  scope_profile : Profile

namespace Store

/-- The name of the profile. -/
def profileText (store : Store) : String :=
  match store.scope_profile with
  | .DEVELOPMENT => "DEVELOPMENT"
  | .IAC => "IAC"
  | .PERSONAL => "PERSONAL"

/-- The scopes the profile allows. -/
def allowed_scopes (store : Store) : List Scope :=
  match store.scope_profile with
  | .DEVELOPMENT => [.PERSONAL, .IAC, .SHARED]
  | .IAC => [.IAC]
  | .PERSONAL => [.PERSONAL, .SHARED]

end Store

/-- The current UTC time. -/
def clockNow : Op Reading := Prog.read .clock (·.clock)

/-- The current UTC time as text. -/
def now : Op String := Prog.read .clock fun world => world.clock.utc.isoformat

/-- A text that was given and is not empty. -/
def given (text : Option String) : Option String := text.filter (· ≠ "")

/-- A time that was given, or the current one. -/
def timeOr (at_ : Option String) : Op String :=
  match given at_ with
  | some time => .ret time
  | none => now

/-- The text of a time some seconds ahead. -/
def later (reading : Reading) (seconds : ℕ) : Op String :=
  -- The factors stand in the order in which the product of an unknown number stays as it is.
  match reading.plus (second * seconds) with
  | some reading => .ret reading.utc.isoformat
  | none => .raise .overflow

/-- The text of a time some seconds from now, either way. -/
def fromNow (reading : Reading) (seconds : ℤ) : Op String :=
  match reading.shift (seconds * second) with
  | some reading => .ret reading.utc.isoformat
  | none => .raise .overflow

/-- Draw a random identifier. -/
def uuid4 : Op String :=
  .atom .draw (fun world => { world with drawn := world.drawn + 1 })
    fun world => .ret (Platform.uuid4 world.drawn)

/-- Read from the database in one query of its own. -/
def select {α : Type} (query : Database → α) : Op α := Prog.read .select fun world => query world.db

/-- Sorted texts without duplicates. -/
def sortedSet (texts : List String) : List String := texts.dedup.insertionSort (· ≤ ·)

/-- The envelope every audit event starts from. -/
def auditEnvelope (result : AuditResult) : List (String × Json) :=
  [("evidence", .arr []), ("model", .null), ("tool", .null), ("cost_units", .int 0),
    ("outcome", .str result.text), ("rollback_status", .str "NOT_APPLICABLE")]

/-- What an audit event says, redacted if it looks secret: its reason and its details. -/
def auditEvidence (result : AuditResult) (reason : String) (details : List (String × Json)) :
    String × Json :=
  let envelope := Json.update (auditEnvelope result) details
  let findings := secret_findings (.obj [("reason", .str reason), ("details", .obj envelope)]) "$"
  if findings = [] then (reason, Json.sorted (.obj envelope))
  else
    ("Sensitive audit detail redacted", Json.sorted (.obj (auditEnvelope result ++
      [("sensitive_detail_redacted", .bool true), ("finding_count", .int findings.length),
        ("finding_types", .arr ((sortedSet (findings.map (·.type))).map .str))])))

namespace World

/-- Insert an audit event, with a fresh event and correlation identifier. -/
def audit (actor : Actor) (action : String) (result : AuditResult) (reason : String)
    (record_id : Option String) (details : List (String × Json))
    (correlation_id : Option String) (world : World) : World :=
  let evidence := auditEvidence result reason details
  let row : AuditRow := {
    event_id := Platform.uuid4 world.drawn
    occurred_at := world.clock.utc.isoformat
    actor_id := actor.id
    action := action
    result := result
    policy_reason := evidence.1
    affected_record_id := record_id
    correlation_id := correlation_id.getD (Platform.uuid4 (world.drawn + 1))
    details := evidence.2 }
  { world with
    db := { world.db with audit_log := world.db.audit_log ++ [row] }
    drawn := world.drawn + 2 }

end World

/-- Record an audit event in a transaction of its own. -/
def _audit (actor : Actor) (action : String) (result : AuditResult) (reason : String)
    (record_id : Option String) (details : List (String × Json))
    (correlation_id : Option String) : Op Unit :=
  Prog.write .audit (World.audit actor action result reason record_id details correlation_id)

/-- Refuse an action on a scope that the actor or the database has no authority for. -/
def _authorize (store : Store) (actor : Actor) (scope : String) (principals : List String)
    (action : String) : Except Error Unit :=
  match Scope.read scope with
  | none => .error (.validation ("Unknown scope: " ++ scope))
  | some known =>
    if known ∉ store.allowed_scopes then
      .error (.authorization
        (scope ++ " is outside the database's " ++ store.profileText ++ " scope profile"))
    else if actor.is_sean then .ok ()
    else if known ∉ actor.scopes then
      .error (.authorization (actor.id ++ " has no " ++ scope ++ " scope"))
    else if known = .SHARED ∧ actor.id ∉ principals then
      .error (.authorization (actor.id ++ " is not explicitly permitted for SHARED record"))
    else if action = "write" ∧ known = .PERSONAL ∧ actor.id ≠ "sean" then
      .error (.authorization "Only Sean may write PERSONAL records in v0.1")
    else .ok ()

/-- Go on with the value of a check, or raise its error. -/
def lift {α : Type} : Except Error α → Op α
  | .ok value => .ret value
  | .error error => .raise error

omit [Platform] in
@[simp] theorem run_lift {α : Type} (checked : Except Error α) (world : World) :
    (lift checked).run world = (checked, world) := by
  cases checked <;> rfl

omit [Platform] in
/-- A check goes on in the world it was made in. -/
theorem run_lift_bind {α β : Type} (checked : Except Error α) (rest : α → Op β) (world : World) :
    (lift checked >>= rest).run world = match checked with
      | .ok value => (rest value).run world
      | .error error => (.error error, world) := by
  cases checked <;> rfl

omit [Platform] in
/-- Checks in sequence pass when the first one passes, and the rest does with its value. -/
theorem passed_of_bind {α β : Type} {checked : Except Error α} {rest : α → Except Error β}
    {value : β} (passed : (checked >>= rest) = .ok value) :
    ∃ first, checked = .ok first ∧ rest first = .ok value := by
  cases checked with
  | error error => cases passed
  | ok first => exact ⟨first, rfl, passed⟩

omit [Platform] in
/-- What follows a check starts from the same world, if the check passes. -/
theorem leaves_lift {α β : Type} {checked : Except Error α} {rest : α → Op β} {world : World}
    {holds : World → Prop}
    (follows : ∀ value, checked = .ok value → Prog.Leaves (rest value) world holds)
    (now : holds world) : Prog.Leaves (lift checked >>= rest) world holds := by
  cases checked with
  | ok value => exact follows value rfl
  | error error => exact now

/-- Whether the kill switch is on. -/
def kill_switch_enabled : Op Bool :=
  Prog.read .kill_switch fun world => world.db.kill_switch == "ON"

/-- Turn the kill switch, which only Sean may do. -/
def set_kill_switch (actor : Actor) (enabled : Bool) : Op Unit :=
  if actor.is_sean then do
    let value := if enabled then "ON" else "OFF"
    Prog.write .records fun world => { world with db := { world.db with kill_switch := value } }
    _audit actor "SET_KILL_SWITCH" .ALLOWED ("Kill switch " ++ value) none [] none
  else do
    _audit actor "SET_KILL_SWITCH" .DENIED "Only Sean controls the kill switch" none [] none
    throw (.authorization "Only Sean controls the kill switch")

end SeanOs
