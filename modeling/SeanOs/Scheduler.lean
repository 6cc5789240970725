import SeanOs.Policy
import SeanOs.Store.WorkQueue

/-! The scheduler: cadence work that is dispatched once for each local day or week. -/

namespace SeanOs

open Atomic Calendar

variable [Platform]

/-- The text of the day of a wall clock. -/
def dayText (wall : Reading) : String :=
  let days := wall.val / day
  -- The year is not padded.
  String.ofList (Nat.toDigits 10 (yearOf days) ++ '-' :: Decimal.digits 2 (monthOfDay days) ++
    '-' :: Decimal.digits 2 (dayOfMonth days))

/-- The text of the week of a Monday, which is counted in the year that its Thursday lies in. -/
def weekText (wall : Reading) : String :=
  let thursday := wall.val / day + 3
  String.ofList (Nat.toDigits 10 (yearOf thursday) ++ '-' :: 'W' ::
    Decimal.digits 2 (dayOfYear thursday / 7 + 1))

/-- A schedule that is due for a period, and the work it is done as. -/
structure Schedule where
  schedule_name : String
  period_key : String
  task_type : String
  payload : List (String × Json)
  priority : ℤ

/-- What a schedule is dispatched under: its name and its period. -/
def Schedule.key (schedule : Schedule) : String × String :=
  (schedule.schedule_name, schedule.period_key)

/-- The schedules that are due at a local time. -/
def schedulesAt (wall : Reading) : List Schedule :=
  let day_ := dayText wall
  let week := weekText wall
  let daily : List Schedule :=
    [⟨"daily-portfolio-maintenance", day_, "CHIEF_MAINTAIN_PORTFOLIO", [("period_key", .str day_)], 40⟩,
      ⟨"daily-operational-report", day_, "GENERATE_OPERATIONAL_REPORT",
        [("cadence", .str "DAILY"), ("period_key", .str day_)], 50⟩]
  -- The first day of year one was a Monday.
  if wall.val / day % 7 = 0 then
    daily ++ [⟨"weekly-operational-report", week, "GENERATE_OPERATIONAL_REPORT",
      [("cadence", .str "WEEKLY"), ("period_key", .str week)], 50⟩]
  else daily

/-- A time zone: the local time of a datetime, which may lie beyond the calendar. -/
structure Zone where
  astimezone : DateTime → Except Error Reading

/-- Dispatches cadence work once per local calendar period. -/
structure LocalScheduler where
  store : Store
  actor : Actor
  timezone : Zone

/-- Insert a dispatch, whose schedule and period must be new. -/
def insertDispatch (row : DispatchRow) (world : World) : Except Error World :=
  match world.db.schedule_dispatches.insert? row with
  | none => .error (.integrity "schedule_dispatches.schedule_name, schedule_dispatches.period_key")
  | some dispatches => .ok { world with db := { world.db with schedule_dispatches := dispatches } }

/-- The transaction of a dispatch, which says whether it queued the work. -/
def queueDispatch (work : WorkRow) (row : DispatchRow) : Statements Bool := do
  Script.beginImmediate nestedTransaction
  match ← Script.query fun world =>
      world.db.schedule_dispatches.find? (row.schedule_name, row.period_key) with
  | some _ => do
    Script.commit
    return false
  | none => do
    Script.execute (insertWork work)
    Script.execute (insertDispatch row)
    Script.commit
    return true

namespace LocalScheduler

variable (scheduler : LocalScheduler)

/-- Queue the work of a schedule, unless it was dispatched for the period. -/
def _dispatch_once (schedule : Schedule) : Op (Option String) := do
  lift (_authorize scheduler.store scheduler.actor "IAC" [] "write")
  let work_id ← uuid4
  let stamp ← now
  -- What raises inside the transaction is rolled back.
  let queued ← Script.asStep (.dispatch schedule.schedule_name schedule.period_key) (queueDispatch
    (queuedRow work_id schedule.task_type (Json.obj schedule.payload).sorted schedule.priority stamp)
    ⟨schedule.schedule_name, schedule.period_key, work_id, stamp⟩)
  if queued then do
    record_policy_decision scheduler.actor (some work_id) true "Scheduled work dispatched"
      [("schedule_name", .str schedule.schedule_name), ("period_key", .str schedule.period_key),
        ("task_type", .str schedule.task_type), ("priority", .int schedule.priority)]
    return some work_id
  else return none

/-- Dispatch some schedules one after another, and say which work was queued. -/
def dispatchEach : List Schedule → Op (List String)
  | [] => return []
  | schedule :: schedules => do
    let work_id ← scheduler._dispatch_once schedule
    let dispatched ← dispatchEach schedules
    return (given work_id).toList ++ dispatched

/-- The local time of a tick, at a datetime or now. -/
def wallAt : Option DateTime → Op Reading
  | some moment => lift (scheduler.timezone.astimezone moment)
  | none => do
    let clock ← clockNow
    lift (scheduler.timezone.astimezone clock.utc)

/-- Dispatch what is due, and note the local time it was due at. -/
def tickAt (wall : Reading) : Op (List String) := do
  let dispatched ← scheduler.dispatchEach (schedulesAt wall)
  Prog.write (.external (.ticked wall)) fun world =>
    { world with effects := .ticked wall :: world.effects }
  return dispatched

/-- Dispatch what is due at a datetime or now. -/
def tick (at_ : Option DateTime) : Op (List String) := do
  let wall ← scheduler.wallAt at_
  scheduler.tickAt wall

end LocalScheduler

end SeanOs
