import SeanOs.Store.Approvals
import SeanOs.Lib.Double

/-! The registry of actions: the policy of each, the checks before it, and its handler. -/

namespace SeanOs

open Atomic

/-- What may be done under a registered action. -/
structure ActionPolicy where
  name : String
  allowed_scopes : List String
  external_effect : Bool
  reversible : Bool
  approval_required : Bool
  cost_bearing : Bool
  prohibited : Bool := false

/-- A handler: what it returns for a payload, or how it raises. -/
abbrev Handler : Type := List (String × Json) → Except Error Json

/-- The registered actions, each with its handler. -/
structure ActionRegistry where
  entries : List (ActionPolicy × Handler)

/-- Work as a registry is given it. -/
structure Work where
  id : Option String
  task_type : String
  owner_scope : Scope
  payload : List (String × Json)

/-- The entry of an action. -/
def ActionRegistry.entry? (registry : ActionRegistry) (task_type : String) :
    Option (ActionPolicy × Handler) :=
  registry.entries.find? (·.1.name == task_type)

/-- Register an action under a name no other action has. -/
def ActionRegistry.register (registry : ActionRegistry) (policy : ActionPolicy)
    (handler : Handler) : Except Error ActionRegistry :=
  if (registry.entry? policy.name).isSome then
    .error (.value ("Action already registered: " ++ policy.name))
  else .ok ⟨registry.entries ++ [(policy, handler)]⟩

namespace ActionRegistry

variable {registry registered : ActionRegistry} {policy : ActionPolicy} {handler : Handler}

/-- No two actions of a registry have one name. -/
def Distinct (registry : ActionRegistry) : Prop := (registry.entries.map (·.1.name)).Nodup

/-- A registration adds one action under a name that no other one has. -/
theorem register_ok (passed : registry.register policy handler = .ok registered) :
    registry.entry? policy.name = none ∧
      registered.entries = registry.entries ++ [(policy, handler)] := by
  rw [register] at passed
  -- A name that is taken is refused.
  split at passed
  · cases passed
  next free =>
    cases passed
    exact ⟨by simpa using free, rfl⟩

/-- A registration keeps the names different. -/
theorem register_distinct (distinct : registry.Distinct)
    (passed : registry.register policy handler = .ok registered) : registered.Distinct := by
  obtain ⟨free, entries⟩ := register_ok passed
  rw [Distinct, entries, List.map_append, List.nodup_append]
  refine ⟨distinct, List.nodup_singleton _, ?_⟩
  -- Nothing is found under the new name, so no action has it.
  rintro name there other (last : other ∈ [policy.name]) rfl
  obtain ⟨entry, known, rfl⟩ := List.mem_map.mp there
  rw [List.mem_singleton] at last
  exact List.find?_eq_none.mp free entry known (by simp [last])

/-- A registered action is found under its name, and every other one is what it was. -/
theorem entry?_register (passed : registry.register policy handler = .ok registered)
    (name : String) :
    registered.entry? name =
      if policy.name = name then some (policy, handler) else registry.entry? name := by
  obtain ⟨free, entries⟩ := register_ok passed
  rw [ entry?, entries, List.find?_append]
  -- The new entry is found under its name, which was free, and every other one as before.
  by_cases same : policy.name = name
  · subst same
    rw [if_pos rfl, ← entry?, free]
    simp
  · rw [if_neg same, ← entry?]
    simp [same]

end ActionRegistry

/-- Whether a number in a text may stand next to a character. No number stands next to one of the
four separators of files, groups, records and units, which are space otherwise. -/
def surroundsNumber (character : Char) : Bool :=
  isSpace character && !(character.val ≥ 0x1C && character.val ≤ 0x1F)

/-- The number in a text, without what may surround it. -/
def numberText (text : String) : String :=
  String.ofList
    ((text.toList.dropWhile surroundsNumber).reverse.dropWhile surroundsNumber).reverse

/-- The float a value is converted to. -/
def toFloat [Platform] : Json → Except Error Number
  | .bool value => .ok (.finite (if value then 1 else 0))
  | .int value => match Double.ofInt value with
    | some number => .ok number
    | none => .error .overflow
  | .float value => .ok value
  | .str text => match Double.parse (asciiDigits (numberText text)).toList with
    | some number => .ok number
    | none => .error (.value ("could not convert string to float: " ++ text))
  | _ => .error (.value "float() argument must be a string or a real number")

/-- Whether a number is above zero. -/
def isAboveZero : Number → Bool
  | .finite value => 0 < value
  | .infinite negative => !negative
  | _ => false

/-- Whether a number is zero or below it, which what is no number is not. -/
def isAtMostZero : Number → Bool
  | .finite value => value ≤ 0
  | .negZero => true
  | .infinite negative => negative
  | .nan => false

/-- The cost a payload declares. -/
def estimatedCost [Platform] (payload : List (String × Json)) : Except Error Number :=
  toFloat ((payload.lookup "estimated_cost_units").getD (.int 0))

/-- A value that a payload has under a name, if it is there and counts as true. -/
def payloadValue (key : String) (payload : List (String × Json)) : Option Json :=
  (payload.lookup key).filter Json.truthy

/-- The text a column of texts is compared with a value as, if the value is not bound as null. -/
def boundText [Platform] : Json → Except Error (Option String)
  | .str text => .ok (some text)
  | .bool value => .ok (some (if value then "1" else "0"))
  | .int value =>
    if -2 ^ 63 ≤ value ∧ value < 2 ^ 63 then .ok (some (toString value)) else .error .overflow
  | .null | .float .nan => .ok none
  | .float value => .ok (some (Platform.realText value))
  | .arr _ => .error (.port "ProgrammingError" "type 'list' is not supported")
  | .obj _ => .error (.port "ProgrammingError" "type 'dict' is not supported")

/-- Refuse by policy where there is a reason to. -/
def denyFor : Option String → Except Error Unit
  | some reason => .error (.policy_denied reason false)
  | none => .ok ()

/-- Why a policy does not permit work of some cost, if it does not. -/
def policyRefusal (policy : ActionPolicy) (estimated : Number) : Option String :=
  if isAboveZero estimated ∧ !policy.cost_bearing then
    some ("Non-cost-bearing action " ++ policy.name ++ " declared a cost")
  else if policy.cost_bearing ∧ isAtMostZero estimated then
    some ("Cost-bearing action " ++ policy.name ++ " requires a positive estimate")
  else if policy.external_effect ∧ !policy.approval_required then
    some ("External action " ++ policy.name ++ " must require approval")
  else if !policy.reversible ∧ !policy.approval_required then
    some ("Irreversible action " ++ policy.name ++ " must require approval")
  else none

/-- Why a policy does not permit any work of some scope, if it does not. -/
def scopeRefusal (policy : ActionPolicy) (work : Work) : Option String :=
  if policy.prohibited then some ("Action " ++ policy.name ++ " is prohibited")
  else if work.owner_scope.text ∉ policy.allowed_scopes then
    some ("Action " ++ policy.name ++ " is not permitted in " ++ work.owner_scope.text ++ " scope")
  else none

section Execute

variable [Platform]

/-- Record a decision by policy. -/
def record_policy_decision (actor : Actor) (work_id : Option String) (allowed : Bool)
    (reason : String) (details : List (String × Json)) : Op Unit :=
  _audit actor "POLICY_DECISION" (if allowed then .ALLOWED else .DENIED) reason work_id details none

/-- The durable result of work that was executed before, as the same action. -/
def completed_action_result (work_id task_type : String) : Op (Option Json) := do
  match ← Prog.read (.replay work_id) fun world => world.db.action_executions.find? work_id with
  | none => return none
  | some row =>
    if row.task_type ≠ task_type then
      throw (.validation "Work ID was previously executed as a different action type")
    -- A stored null is read as no result.
    else return if row.result = .null then none else some row.result

/-- The cost recorded with a result, from the payload of the work item if there is one. -/
def recordedCost : Option Json → Except Error Json
  | none => .ok (.float (.finite 0))
  | some (.obj payload) => (estimatedCost payload).map .float
  | some _ => .ok (.int 0)

/-- Store the result of work, unless it has one. -/
def record_action_result (actor : Actor) (work_id task_type : String) (result : Json) :
    Op Unit := do
  let findings := secret_findings result "$"
  if findings ≠ [] then
    _audit actor "RECORD_ACTION_RESULT" .DENIED
      "Secret-like material is prohibited in durable action results" (some work_id)
      [("finding_paths", .arr (findings.map (.str ·.path)))] none
    throw (.validation "Secret-like material is prohibited in durable action results")
  else do
    let work ← select fun db => db.work_queue.find? work_id
    let cost ← lift (recordedCost (work.map (·.payload)))
    let stamp ← now
    Prog.transact (.receipt work_id) fun world =>
      if (world.db.work_queue.find? work_id).isNone then
        (.error (.integrity "FOREIGN KEY constraint failed"), world)
      else
        -- The statement ignores the row where the work has a result already.
        match world.db.action_executions.insert? ⟨work_id, task_type, result.sorted, stamp⟩ with
        | none => (.ok (), world)
        | some stored => (.ok (), { world with db := { world.db with action_executions := stored } })
    _audit actor "RECORD_ACTION_RESULT" .ALLOWED "Durable execution receipt stored" (some work_id)
      [("task_type", .str task_type), ("tool", .str "registered_handler"),
        ("cost_units", cost), ("outcome", .str "SUCCEEDED"),
        ("rollback_status", .str "AVAILABLE")] none

/-- Consume the approval a value names, if it names one. -/
def consumeNamed (store : Store) (actor : Actor) (use : Consumption) :
    Option String → Op (Option String)
  | some approval_id => do
    consume_approval store actor { use with approval_id := approval_id }
    return some approval_id
  | none => do
    -- A null equals no identifier, and is recorded as it is.
    _audit actor "CONSUME_APPROVAL" .DENIED "Approval not found" none use.details none
    throw (.authorization "Approval not found")

/-- Refuse by policy where a consumption was refused. -/
def refusedByPolicy {α : Type} : Error → Op α
  | .authorization message => throw (.policy_denied message true)
  | .policy_denied reason _ => throw (.policy_denied reason true)
  | error => throw error

/-- Consume the approval that work names, where its policy requires one. -/
def consumeRequired (store : Store) (actor : Actor) (policy : ActionPolicy) (work : Work) :
    Op (Option String) :=
  if !policy.approval_required then return none
  else match payloadValue "approval_id" work.payload, payloadValue "action_target" work.payload with
    | some approval, some target =>
      tryCatch
        (do
          let approval_id ← lift (boundText approval)
          consumeNamed store actor {
            approval_id := "", action_type := policy.name, target := target
            scope := some work.owner_scope } approval_id)
        refusedByPolicy
    | _, _ => throw (.policy_denied
        ("Action " ++ policy.name ++ " requires an exact approval and target") true)

/-- Check work against the policy of its action, and consume the approval it needs. -/
def permitWork (registry : ActionRegistry) (store : Store) (actor : Actor) (work : Work) :
    Op ((ActionPolicy × Handler) × Number × Option String) := do
  let killed ← kill_switch_enabled
  lift (denyFor (if killed then some "Kill switch is ON; execution denied" else none))
  match registry.entry? work.task_type with
  | none => lift (.error (.policy_denied
      ("No registered action policy or handler for " ++ work.task_type) false))
  | some entry => do
    lift (denyFor (scopeRefusal entry.1 work))
    let estimated ← lift (estimatedCost work.payload)
    lift (denyFor (policyRefusal entry.1 estimated))
    let approval_id ← consumeRequired store actor entry.1 work
    return (entry, estimated, approval_id)

/-- The identifiers in a payload, as evidence of what an action was about. -/
def payloadEvidence (payload : List (String × Json)) : List Json :=
  payload.filterMap fun member => match member.2 with
    | .str text =>
      if "_id".toList.isSuffixOf member.1.toList then
        some (.obj [("field", .str member.1), ("record_id", .str text)])
      else none
    | _ => none

/-- Invoke a handler, which may do anything outside the database. -/
def invoke (handler : Handler) (work_id : Option String) (task_type : String)
    (approval_id : Option String) (payload : List (String × Json)) : Op Json := do
  Prog.write (.external (.handled work_id task_type approval_id)) fun world =>
    { world with effects := .handled work_id task_type approval_id :: world.effects }
  lift (handler payload)

/-- Record a refusal by policy, and raise the error again. -/
def refuseWork {α : Type} (actor : Actor) (work : Work) (error : Error) : Op α :=
  match error with
  | .policy_denied reason _ => do
    record_policy_decision actor work.id false reason
      [("task_type", .str work.task_type), ("tool", .str "policy_registry"),
        ("rollback_status", .str "NOT_STARTED"), ("outcome", .str "DENIED")]
    throw error
  | _ => throw error

/-- The durable result of work that has an identifier and was executed before. -/
def storedResult (work : Work) : Op (Option Json) :=
  match given work.id with
  | some work_id => completed_action_result work_id work.task_type
  | none => .ret none

/-- Store the result of work that has an identifier. -/
def storeResult (actor : Actor) (work : Work) (name : String) (result : Json) : Op Unit :=
  match given work.id with
  | some work_id => record_action_result actor work_id name result
  | none => .ret ()

/-- Execute work under the policy of its action, at most once where its result was stored. -/
def ActionRegistry.execute (registry : ActionRegistry) (store : Store) (actor : Actor)
    (work : Work) : Op Json := do
  match ← storedResult work with
  | some result => do
    record_policy_decision actor work.id true
      "Returning durable result; handler replay suppressed" [("task_type", .str work.task_type)]
    return result
  | none => do
    let (entry, estimated, approval_id) ←
      tryCatch (permitWork registry store actor work) (refuseWork actor work)
    record_policy_decision actor work.id true "Registered action policy satisfied"
      [("task_type", .str entry.1.name), ("tool", .str "registered_handler"),
        ("cost_units", .float estimated), ("evidence", .arr (payloadEvidence work.payload)),
        ("rollback_status",
          .str (if entry.1.reversible then "AVAILABLE" else "NOT_AVAILABLE")),
        ("outcome", .str "AUTHORIZED")]
    let result ← invoke entry.2 work.id entry.1.name approval_id work.payload
    storeResult actor work entry.1.name result
    return result

end Execute

end SeanOs
