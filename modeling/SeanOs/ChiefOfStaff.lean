import SeanOs.Policy
import SeanOs.Shown
import SeanOs.Store.Records

/-! The planning loop of the Chief of Staff: projects, their evaluation and the portfolio review. -/

namespace SeanOs

open Atomic Calendar

/-- The bounds on what the planning loop may create. -/
structure PlanningLimits where
  max_tasks_per_project : ℕ := 5
  allowed_scopes : List Scope := [.IAC]

/-- The deterministic, bounded planning loop of an agent, which creates records only. -/
structure ChiefOfStaff where
  store : Store
  actor : Actor
  limits : PlanningLimits := {}

/-- The metrics a project is ranked by. -/
def REQUIRED_METRICS : List String :=
  ["strategic_fit", "expected_value", "urgency", "confidence", "effort", "risk"]

/-- The metrics of a project that was created without any. -/
def defaultMetrics : List (String × Json) :=
  REQUIRED_METRICS.map fun name => (name, .float (.finite (1 / 2)))

/-- Whether an object has exactly the required metrics. -/
def hasRequiredMetrics (metrics : List (String × Json)) : Bool :=
  REQUIRED_METRICS.all (fun name => metrics.any (·.1 == name)) &&
    metrics.all (·.1 ∈ REQUIRED_METRICS)

/-- Whether a float is between zero and one. -/
def isBounded : Number → Bool
  | .finite value => 0 ≤ value ∧ value ≤ 1
  | .negZero => true
  | _ => false

/-- The value of a member that every payload of a record may have. -/
def payloadMember (name : String) : Json → Except Error (Option Json)
  | .obj members => .ok (members.lookup name)
  | _ => .error (.value "object has no attribute 'get'")

section Projects

variable [Platform]

/-- The floats of some metrics, up to the first one that is no float or is out of bounds. -/
def boundedMetrics : List (String × Json) → Except Error (Option (List (String × Json)))
  | [] => .ok (some [])
  | (name, value) :: metrics => do
    let number ← toFloat value
    if !isBounded number then return none
    let rest ← boundedMetrics metrics
    return rest.map ((name, .float number) :: ·)

/-- The metrics a project is created with. -/
def projectMetrics (metrics : List (String × Json)) : Except Error (List (String × Json)) := do
  let bounded ← if hasRequiredMetrics metrics then boundedMetrics metrics else .ok none
  match bounded with
  | some metrics => return metrics
  | none => throw (.validation "Portfolio metrics must contain six bounded 0-1 values")

/-- Whether a task has a name and a condition under which it is done. -/
def completeTask (task : List (String × Json)) : Bool :=
  strip (str ((task.lookup "name").getD (.str ""))) ≠ "" &&
    strip (str ((task.lookup "done_when").getD (.str ""))) ≠ ""

namespace ChiefOfStaff

variable (chief : ChiefOfStaff)

/-- Create the tasks of a project, and link each of them to it. -/
def createTasks (scope : Scope) (project_id : String) :
    ℕ → List (List (String × Json)) → Op (List String)
  | _, [] => return []
  | position, task :: tasks => do
    let task_id ← create_record chief.store chief.actor {
      entity_type := "TASK", scope := scope.text
      payload := [("name", (task.lookup "name").getD .null),
        ("done_when", (task.lookup "done_when").getD .null), ("project_id", .str project_id),
        ("position", .int position), ("status", .str "READY"),
        ("created_by_agent", .str chief.actor.id)]
      source := "chief-of-staff" }
    let _ ← link_records chief.store chief.actor task_id "BELONGS_TO" project_id
    let task_ids ← createTasks scope project_id (position + 1) tasks
    return task_id :: task_ids

/-- Create a project with its tasks that advances a goal. -/
def create_project (goal_id name : String) (tasks : List (List (String × Json)))
    (success_metric stop_condition : String) (portfolio_metrics : Option (List (String × Json))) :
    Op (String × List String) := do
  let goal ← get_record chief.store chief.actor goal_id
  let scope := goal.row.owner_scope
  if goal.row.entity_type ≠ .GOAL then
    throw (.validation "Chief of Staff projects must advance a GOAL")
  else if scope ∉ chief.limits.allowed_scopes then
    throw (.authorization ("Chief of Staff cannot plan in " ++ scope.text ++ " scope"))
  else if strip name = "" ∨ strip success_metric = "" ∨ strip stop_condition = "" then
    throw (.validation "Project name, success metric, and stop condition are required")
  else if tasks = [] ∨ chief.limits.max_tasks_per_project < tasks.length then
    throw (.validation ("Projects require 1-" ++ toString chief.limits.max_tasks_per_project ++
      " bounded tasks"))
  else if !tasks.all completeTask then
    throw (.validation "Every task requires name and done_when")
  else do
    let given := (portfolio_metrics.filter (· ≠ [])).getD defaultMetrics
    let metrics ← lift (projectMetrics given)
    let project_id ← create_record chief.store chief.actor {
      entity_type := "PROJECT", scope := scope.text
      payload := [("name", .str name), ("goal_id", .str goal_id),
        ("success_metric", .str success_metric), ("stop_condition", .str stop_condition),
        ("created_by_agent", .str chief.actor.id), ("portfolio_metrics", .obj metrics)]
      source := "chief-of-staff" }
    let _ ← link_records chief.store chief.actor project_id "ADVANCES" goal_id
    let task_ids ← chief.createTasks scope project_id 1 tasks
    transition_project chief.store chief.actor project_id "ACTIVE"
      "Bounded plan passed internal policy checks" none none
    return (project_id, task_ids)

/-- Whether a project was created by the agent. -/
def owns (row : RecordRow) : Except Error Bool :=
  if row.created_by ≠ chief.actor.id then .ok false
  else (payloadMember "created_by_agent" row.payload).map (· == some (.str chief.actor.id))

/-- What an evaluation decides: the state, its reason and what would reopen a killed project. -/
def evaluation (completed_tasks total_tasks : ℤ) (metric_value minimum_viable_metric : Number)
    (evidence : String) : String × String × Option String :=
  if Double.exceeds minimum_viable_metric metric_value then
    if completed_tasks = total_tasks then
      ("KILLED", "Measured outcome below viability threshold: " ++ evidence,
        some ("New evidence predicts metric >= " ++ str (.float minimum_viable_metric)))
    else ("PAUSED", "Early evidence is below threshold; preserve remaining effort: " ++ evidence,
      none)
  else ("ACTIVE", "Evidence supports continuing: " ++ evidence, none)

/-- Evaluate a project of the agent, and move it to the state the evidence supports. -/
def evaluate_project (project_id : String) (completed_tasks total_tasks : ℤ)
    (metric_value minimum_viable_metric : Number) (evidence : String) : Op String := do
  let project ← get_record chief.store chief.actor project_id
  if project.row.entity_type ≠ .PROJECT then
    throw (.validation "Evaluation target must be a PROJECT")
  else do
    let owned ← lift (chief.owns project.row)
    if !owned then
      throw (.authorization "Agent may only self-manage projects it created")
    else if total_tasks < 1 ∨ ¬(0 ≤ completed_tasks ∧ completed_tasks ≤ total_tasks) ∨
        strip evidence = "" then
      throw (.validation "Valid task counts and evidence are required")
    else do
      let (state, reason, reopen_trigger) :=
        evaluation completed_tasks total_tasks metric_value minimum_viable_metric evidence
      transition_project chief.store chief.actor project_id state reason reopen_trigger none
      let decision_id ← create_record chief.store chief.actor {
        entity_type := "DECISION", scope := project.row.owner_scope.text
        payload := [("project_id", .str project_id), ("decision", .str state),
          ("evidence", .str evidence), ("metric_value", .float metric_value),
          ("minimum_viable_metric", .float minimum_viable_metric)]
        source := "chief-of-staff" }
      let _ ← link_records chief.store chief.actor decision_id "GOVERNS" project_id
      return state

end ChiefOfStaff

end Projects

/-- A project in a review, with the score it is ranked by. -/
structure Ranked where
  project_id : String
  name : Json
  score : Number
  metrics : Json
  agent_owned : Bool

/-- A project in a review, with what is recommended for it. -/
structure Reviewed extends Ranked where
  recommendation : String
  rationale : String

/-- A reviewed project as the decision of the review holds it. -/
def Reviewed.toJson (item : Reviewed) : Json :=
  .obj [("project_id", .str item.project_id), ("name", item.name), ("score", .float item.score),
    ("metrics", item.metrics), ("agent_owned", .bool item.agent_owned),
    ("recommendation", .str item.recommendation), ("rationale", .str item.rationale)]

/-- What a metric contributes to the score under a weight. -/
def weighed (metrics : Json) (name : String) (weight : ℚ) : Except Error Number :=
  match metrics with
  | .obj members => match members.lookup name with
    | none => .error (.key name)
    | some (.bool value) => .ok (Double.mul (.finite (if value then 1 else 0)) (Double.round weight))
    | some (.int value) => match Double.ofInt value with
      | some number => .ok (Double.mul number (Double.round weight))
      | none => .error .float_overflow
    | some (.float number) => .ok (Double.mul number (Double.round weight))
    | some _ => .error (.value "unsupported operand type(s) for *")
  | _ => .error (.value "indices must be integers or slices, not str")

/-- The score of a project with some metrics. -/
def portfolioScore (metrics : Json) : Except Error Number := do
  let fit ← weighed metrics "strategic_fit" (30 / 100)
  let value ← weighed metrics "expected_value" (25 / 100)
  let urgency ← weighed metrics "urgency" (15 / 100)
  let confidence ← weighed metrics "confidence" (15 / 100)
  let effort ← weighed metrics "effort" (10 / 100)
  let risk ← weighed metrics "risk" (5 / 100)
  let gain := Double.add (Double.add (Double.add fit value) urgency) confidence
  return Double.roundPlaces 4 (Double.sub (Double.sub gain effort) risk)

namespace Ranked

/-- Whether a project stands before another one: by the higher score, then by its identifier. -/
def before (one two : Ranked) : Bool :=
  if Json.equal (.float one.score) (.float two.score : Json) then one.project_id < two.project_id
  else Double.exceeds one.score two.score

/-- The strategic fit of a project. -/
def fit (item : Ranked) : Json := (item.metrics.get? "strategic_fit").getD .null

/-- Whether the strategic fit of a project is below a threshold. -/
def unfit (low_fit_threshold : Number) (item : Ranked) : Bool :=
  (Json.numeric item.fit).any (Double.exceeds low_fit_threshold)

/-- The strategic fit of a project with two decimal places. -/
def fitText (item : Ranked) : String :=
  match item.fit with
  | .bool value => fixedTwo (.finite (if value then 1 else 0))
  | .int value => fixedTwo ((Double.ofInt value).getD .nan)
  | .float value => fixedTwo value
  | _ => ""

/-- What is recommended for a project at a position, and why. -/
def recommend (capacity_limit : ℤ) (low_fit_threshold : Number) (position : ℕ) (item : Ranked) :
    String × String :=
  if item.unfit low_fit_threshold then
    ("CHALLENGE_NO",
      "Strategic fit " ++ item.fitText ++ " is below " ++ fixedTwo low_fit_threshold)
  else if capacity_limit < position then
    ("PAUSE_FOR_CAPACITY", "Rank " ++ toString position ++ " is outside capacity limit " ++
      toString capacity_limit)
  else ("PRIORITIZE", "Rank " ++ toString position ++ " is within capacity")

end Ranked

/-- The result of a review. -/
structure Review where
  decision_id : Option String
  ranked_projects : List Reviewed
  autonomously_paused : List String

/-- The result of one scheduled maintenance. -/
structure Maintenance where
  kind : String
  period_key : String
  reviewed_project_count : ℕ
  missing_metrics_project_ids : List String
  review : Review
  external_effect : Bool
  approval_consumed : Bool

/-- The active and incubated projects of the scope IAC, in the order of their creation. -/
def Database.maintained (db : Database) : List RecordRow :=
  let rows := db.records.filter fun row => row.owner_scope == .IAC && (row.entity_type == .PROJECT &&
    db.project_state.any fun state => state.record_id == row.id &&
      (state.state == "ACTIVE" || state.state == "INCUBATOR"))
  rows.insertionSort fun one two =>
    one.created_at < two.created_at ∨ one.created_at = two.created_at ∧ one.id ≤ two.id

/-- Whether all values are numbers between zero and one, up to the first one that is not. -/
def boundedValues : List (String × Json) → Except Error Bool
  | [] => .ok true
  | (_, .int value) :: rest => match Double.ofInt value with
    | none => .error .float_overflow
    | some number => if isBounded number then boundedValues rest else .ok false
  | (_, .float number) :: rest => if isBounded number then boundedValues rest else .ok false
  | _ => .ok false

/-- Whether a project can be ranked: whether it has all metrics, each between zero and one. -/
def validMetrics (payload : Json) : Except Error Bool := do
  match ← payloadMember "portfolio_metrics" payload with
  | some (.obj metrics) => if hasRequiredMetrics metrics then boundedValues metrics else return false
  | _ => return false

/-- The projects that can be ranked, and those that lack metrics for it. -/
def splitProjects : List RecordRow → Except Error (List String × List String)
  | [] => .ok ([], [])
  | row :: rows => do
    let valid ← validMetrics row.payload
    let (eligible, missing) ← splitProjects rows
    return if valid then (row.id :: eligible, missing) else (eligible, row.id :: missing)

/-- Whether a text may be the key of a period of maintenance. -/
def isPeriodKey (period_key : String) : Bool :=
  (decide (1 ≤ period_key.length) && decide (period_key.length ≤ 40)) &&
    period_key.toList.all fun character => character.isAlphanum || character ∈ "._:-".toList

namespace ChiefOfStaff

variable [Platform] (chief : ChiefOfStaff)

/-- Read a project with its score. -/
def rank (project_id : String) : Op Ranked := do
  let project ← get_record chief.store chief.actor project_id
  if project.row.entity_type ≠ .PROJECT ∨ project.row.owner_scope ≠ .IAC then
    throw (.validation "Portfolio review accepts IAC projects only")
  else do
    let found ← lift (payloadMember "portfolio_metrics" project.row.payload)
    match found.filter Json.truthy with
    | none => throw (.validation "Project lacks portfolio metrics")
    | some metrics => do
      let score ← lift (portfolioScore metrics)
      let name ← lift (payloadMember "name" project.row.payload)
      let owned ← lift (chief.owns project.row)
      return ⟨project_id, name.getD .null, score, metrics, owned⟩

/-- Read projects one after another with their scores. -/
def rankEach : List String → Op (List Ranked)
  | [] => return []
  | project_id :: project_ids => do
    let item ← chief.rank project_id
    let items ← rankEach project_ids
    return item :: items

/-- The projects of a review in the order of their ranks. -/
def ranking (project_ids : List String) : Op (List Ranked) := do
  let ranked ← chief.rankEach project_ids.eraseDups
  return ranked.insertionSort fun one two => two.before one = false

/-- Recommend something for each project, and pause the agent's own ones that are not prioritized. -/
def reviewEach (capacity_limit : ℤ) (low_fit_threshold : Number) :
    ℕ → List Ranked → Op (List Reviewed × List String)
  | _, [] => return ([], [])
  | position, item :: items => do
    let (recommendation, rationale) := item.recommend capacity_limit low_fit_threshold position
    if recommendation ≠ "PRIORITIZE" ∧ item.agent_owned then do
      transition_project chief.store chief.actor item.project_id "PAUSED"
        ("Chief of Staff portfolio review: " ++ rationale) none none
      let (reviewed, changed) ← reviewEach capacity_limit low_fit_threshold (position + 1) items
      return (⟨item, recommendation, rationale⟩ :: reviewed, item.project_id :: changed)
    else do
      let (reviewed, changed) ← reviewEach capacity_limit low_fit_threshold (position + 1) items
      let shown := if recommendation ≠ "PRIORITIZE" then recommendation ++ "_HUMAN_REVIEW"
        else recommendation
      return (⟨item, shown, rationale⟩ :: reviewed, changed)

/-- Link a decision to the projects it governs. -/
def governEach (decision_id : String) : List Reviewed → Op Unit
  | [] => return ()
  | item :: items => do
    let _ ← link_records chief.store chief.actor decision_id "GOVERNS" item.project_id
    governEach decision_id items

/-- Rank projects, and pause the agent's own ones beyond the capacity or below the threshold. -/
def review_portfolio (project_ids : List String) (capacity_limit : ℤ)
    (low_fit_threshold : Number) : Op Review := do
  if project_ids = [] ∨ 100 < project_ids.length then
    throw (.validation "Portfolio review requires 1-100 projects")
  else if capacity_limit < 1 ∨ 10 < capacity_limit ∨ isBounded low_fit_threshold = false then
    throw (.validation "Portfolio capacity or low-fit threshold is invalid")
  else do
    let ranked ← chief.ranking project_ids
    let (reviewed, changed) ← chief.reviewEach capacity_limit low_fit_threshold 1 ranked
    let decision_id ← create_record chief.store chief.actor {
      entity_type := "DECISION", scope := "IAC"
      payload := [("kind", .str "PORTFOLIO_REVIEW"),
        ("ranked_projects", .arr (reviewed.map Reviewed.toJson)),
        ("capacity_limit", .int capacity_limit), ("low_fit_threshold", .float low_fit_threshold),
        ("autonomously_paused", .arr (changed.map .str))]
      source := "chief-of-staff", confidence := some (9 / 10) }
    chief.governEach decision_id reviewed
    return ⟨some decision_id, reviewed, changed⟩

/-- One bounded scheduled review over the current active and incubated projects. -/
def maintain_portfolio (period_key : String) (capacity_limit : ℤ) (low_fit_threshold : Number) :
    Op Maintenance := do
  if isPeriodKey period_key = false then
    throw (.validation "Portfolio maintenance period key is invalid")
  else do
    let rows ← select fun db => db.maintained.take 101
    if 100 < rows.length then
      throw (.validation "Portfolio maintenance exceeds the bounded project limit")
    else do
      let (eligible, missing) ← lift (splitProjects rows)
      let review ← if eligible = [] then pure ⟨none, [], []⟩
        else chief.review_portfolio eligible capacity_limit low_fit_threshold
      return {
        kind := "CHIEF_PORTFOLIO_MAINTENANCE", period_key := period_key
        reviewed_project_count := eligible.length, missing_metrics_project_ids := missing
        review := review, external_effect := false, approval_consumed := false }

end ChiefOfStaff

end SeanOs
