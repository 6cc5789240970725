import SeanOs.Sample
import SeanOs.Scheduler
import SeanOs.Store.Logging

/-! Scheduled work is dispatched exactly once for each period, in every interleaving of ticks. -/

namespace SeanOs

open Atomic Calendar LocalScheduler

/-- What a dispatch is kept under. -/
def DispatchRow.key (row : DispatchRow) : String × String := (row.schedule_name, row.period_key)

namespace World

variable (world : World)

/-- A schedule was dispatched for a period. -/
def hasDispatch (key : String × String) : Prop :=
  ∃ row ∈ world.db.schedule_dispatches.rows, row.key = key

/-- An item of work is in the queue. -/
def hasWork (work_id : String) : Prop := (world.db.work_queue.find? work_id).isSome = true

end World

/-- A change that leaves the work and its dispatches alone. -/
structure SameDispatches (world changed : World) : Prop where
  work : changed.db.work_queue = world.db.work_queue
  dispatches : changed.db.schedule_dispatches = world.db.schedule_dispatches

/-- An item of work and the dispatch it belongs to are added together. -/
def Dispatches (key : String × String) (world changed : World) : Prop :=
  ∃ (work : WorkRow) (row : DispatchRow), row.key = key ∧ row.work_id = work.id ∧
    world.db.work_queue.insert? work = some changed.db.work_queue ∧
      world.db.schedule_dispatches.insert? row = some changed.db.schedule_dispatches

/-- What a step of a tick does, and which dispatches the tick knows of after it. -/
inductive TickMove :
    List (String × String) → Label → World → World → List (String × String) → Prop
  | same {known : List (String × String)} {label : Label} {world changed : World}
      (same : SameDispatches world changed) (effects : changed.effects = world.effects) :
      TickMove known label world changed known
  | there {known : List (String × String)} {key : String × String} {world : World}
      (there : world.hasDispatch key) :
      TickMove known (.dispatch key.1 key.2) world world (key :: known)
  | dispatched {known : List (String × String)} {key : String × String} {world changed : World}
      (dispatches : Dispatches key world changed) (effects : changed.effects = world.effects) :
      TickMove known (.dispatch key.1 key.2) world changed (key :: known)
  | ticked {known : List (String × String)} {wall : Reading} {world : World}
      (done : ∀ schedule ∈ schedulesAt wall, schedule.key ∈ known) :
      TickMove known (.external (.ticked wall)) world
        { world with effects := .ticked wall :: world.effects } known

theorem SameDispatches.refl (world : World) : SameDispatches world world := ⟨rfl, rfl⟩

theorem TickMove.of_logged {known : List (String × String)} {label : Label}
    {world changed : World} (logged : Logged world changed) :
    TickMove known label world changed known := by
  obtain ⟨_, _, rfl⟩ := logged
  exact .same ⟨rfl, rfl⟩ rfl

/-- The transaction of a dispatch finds it there, or adds it with its work, or changes nothing. -/
theorem queueDispatch_cases (work : WorkRow) (row : DispatchRow) (named : row.work_id = work.id)
    (world : World) :
    ((queueDispatch work row (.closed world)).2.committed = world ∧
      ∀ queued, (queueDispatch work row (.closed world)).1 = .ok queued →
        world.hasDispatch row.key) ∨
    Dispatches row.key world (queueDispatch work row (.closed world)).2.committed ∧
      (queueDispatch work row (.closed world)).2.committed.effects = world.effects := by
  unfold queueDispatch
  rw [Script.beginImmediate_bind, Script.query_bind]
  cases found : world.db.schedule_dispatches.find? (row.schedule_name, row.period_key) with
  | some other =>
    refine .inl ⟨rfl, fun _ _ => ⟨other, Table.mem_of_find? found, ?_⟩⟩
    exact Table.key_of_find? found
  | none =>
    dsimp only
    rw [Script.execute_bind, insertWork]
    cases queued : world.db.work_queue.insert? work with
    | none => exact .inl ⟨rfl, nofun⟩
    | some queue =>
      dsimp only
      rw [Script.execute_bind, insertDispatch, World.withQueue]
      cases stored : world.db.schedule_dispatches.insert? row with
      | none => exact .inl ⟨rfl, nofun⟩
      | some dispatches => exact .inr ⟨⟨work, row, rfl, named, queued, stored⟩, rfl⟩

section Calls

variable [Platform] {scheduler : LocalScheduler}

/-- The programs that move as a tick may, and know of some dispatches where they return. -/
abbrev Ticks {α : Type} (knows : List (String × String)) (known : List (String × String))
    (program : Op α) : Prop :=
  Prog.Follows (fun _ _ => True) TickMove
    (fun last outcome => ∀ value, outcome = .ok value → knows ⊆ last) known program

omit [Platform] in
/-- What only logs comes before the rest. -/
theorem ticks_logs_bind {α β : Type} {program : Op α} {rest : α → Op β}
    {knows known : List (String × String)} (logging : Logging program)
    (follows : ∀ value, Ticks knows known (rest value)) : Ticks knows known (program >>= rest) := by
  have first : Prog.Follows (fun _ _ => True) TickMove (fun last _ => last = known) known program :=
    (logging.keeps fun _ _ _ logged => logged).follows
      (fun _ _ _ _ logged => .of_logged logged) fun _ => rfl
  refine first.bind (fun last value same => ?_) fun _ _ _ => nofun
  subst same
  exact follows value

/-- A dispatch that returns is known of, besides those that were. -/
theorem ticks_dispatch_once (schedule : Schedule) (known : List (String × String)) :
    Ticks (schedule.key :: known) known (scheduler._dispatch_once schedule) := by
  unfold _dispatch_once
  refine ticks_logs_bind (logging_lift _) fun _ => ?_
  refine ticks_logs_bind logging_uuid4 fun work_id => ?_
  refine ticks_logs_bind (logging_read _ _) fun stamp => ?_
  let work := queuedRow work_id schedule.task_type (Json.obj schedule.payload).sorted
    schedule.priority stamp
  let row : DispatchRow := ⟨schedule.schedule_name, schedule.period_key, work_id, stamp⟩
  -- Whether it was there or is new, the dispatch is known of behind the transaction.
  have transaction : Ticks (schedule.key :: known) known (Script.asStep
      (.dispatch schedule.schedule_name schedule.period_key) (queueDispatch work row)) := by
    refine .transact fun world _ => ?_
    rcases queueDispatch_cases work row rfl world with ⟨left, there⟩ | ⟨dispatches, effects⟩
    · dsimp only
      rw [left]
      cases ended : (queueDispatch work row (.closed world)).1 with
      | error error => exact ⟨known, .same (.refl world) rfl, nofun⟩
      | ok queued =>
        have move : TickMove known (.dispatch schedule.key.1 schedule.key.2) world world
            (schedule.key :: known) := .there (there queued ended)
        exact ⟨_, move, fun _ _ => List.Subset.refl _⟩
    · have move : TickMove known (.dispatch schedule.key.1 schedule.key.2) world _
          (schedule.key :: known) := .dispatched dispatches effects
      exact ⟨_, move, fun _ _ => List.Subset.refl _⟩
  refine transaction.bind (fun last queued knows => ?_) fun _ _ _ => nofun
  cases queued with
  | false => exact fun _ _ => knows _ rfl
  | true =>
    refine .write_bind fun world _ =>
      ⟨last, .of_logged (logged_audit _ _ _ _ _ _ _ world), fun _ _ => knows _ rfl⟩

/-- Dispatches that return one after another are all known of. -/
theorem ticks_dispatchEach (schedules : List Schedule) (known : List (String × String)) :
    Ticks (schedules.map Schedule.key ++ known) known (scheduler.dispatchEach schedules) := by
  -- What the first dispatch left known is known by the rest.
  induction schedules generalizing known with
  | nil => exact fun _ _ => List.Subset.refl known
  | cons schedule schedules ih =>
    refine Prog.Follows.bind (ticks_dispatch_once schedule known) (fun last work_id knows => ?_)
      fun _ _ _ => nofun
    have first := knows work_id rfl
    refine Prog.Follows.bind (ih last) (fun final dispatched later => ?_) fun _ _ _ => nofun
    intro _ _ key there
    refine later _ rfl ?_
    rcases List.mem_cons.mp there with rfl | there
    · exact List.mem_append_right _ (first (List.mem_cons_self ..))
    rcases List.mem_append.mp there with there | there
    · exact List.mem_append_left _ there
    · exact List.mem_append_right _ (first (List.mem_cons_of_mem _ there))

/-- The calls of the scheduler, at any time. -/
inductive TickCall : Op Unit → Prop
  | tick (scheduler : LocalScheduler) (at_ : Option DateTime) : TickCall (scheduler.tick at_).call

/-- A tick notes its local time only where it knows of all that was due then. -/
theorem TickCall.ticks {program : Op Unit} (called : TickCall program) :
    Prog.Follows (fun _ _ => True) TickMove (fun _ _ => True) [] program := by
  cases called with
  | tick scheduler at_ =>
    refine Prog.Follows.call ?_
    have wall : Logging (scheduler.wallAt at_) := by
      cases at_ with
      | some moment => exact logging_lift _
      | none => exact (logging_read _ _).bind fun _ => logging_lift _
    have rest : ∀ wall, Ticks [] [] (scheduler.tickAt wall) := fun wall => by
      refine Prog.Follows.bind (ticks_dispatchEach _ _) (fun last dispatched knows => ?_)
        fun _ _ _ => nofun
      refine .write_bind fun world _ => ⟨last, .ticked fun schedule due => ?_, fun _ _ => nofun⟩
      exact knows _ rfl (List.mem_append_left _ (List.mem_map_of_mem due))
    exact (ticks_logs_bind wall rest).mono fun _ _ _ => trivial

end Calls

/-- Every dispatch has an item of work of its own, and all that was due at a tick was dispatched. -/
structure WellDispatched (world : World) : Prop where
  stored : ∀ row ∈ world.db.schedule_dispatches.rows, world.hasWork row.work_id
  apart : ∀ one ∈ world.db.schedule_dispatches.rows, ∀ two ∈ world.db.schedule_dispatches.rows,
    two.work_id = one.work_id → two = one
  ticked : ∀ wall, .ticked wall ∈ world.effects →
    ∀ schedule ∈ schedulesAt wall, world.hasDispatch schedule.key

/-- What anything else may do: work goes on and is added, but no dispatch is, and no tick returns. -/
structure DispatchDrift (world changed : World) : Prop where
  work : ∀ work_id, world.hasWork work_id → changed.hasWork work_id
  dispatches : changed.db.schedule_dispatches = world.db.schedule_dispatches
  effects : ∀ wall, .ticked wall ∈ changed.effects → .ticked wall ∈ world.effects

section Moves

variable {known later : List (String × String)} {label : Label} {world changed : World}
  {key : String × String}

/-- The rows behind a dispatch are the rows before it and its own. -/
theorem Dispatches.mem_rows (dispatches : Dispatches key world changed) :
    ∃ (work : WorkRow) (row : DispatchRow), row.key = key ∧ row.work_id = work.id ∧
      world.db.work_queue.find? work.id = none ∧
      (∀ id, (changed.db.work_queue.find? id).isSome = true ↔ work.id = id ∨ world.hasWork id) ∧
      changed.db.schedule_dispatches.rows = world.db.schedule_dispatches.rows ++ [row] := by
  obtain ⟨work, row, keyed, named, queued, stored⟩ := dispatches
  refine ⟨work, row, keyed, named, ?_, fun id => ?_, Table.rows_insert stored⟩
  · exact (Table.insert?_isSome work).mp (by rw [queued]; rfl)
  · rw [Table.find?_insert queued]
    by_cases same : work.id = id
    · simp [same]
    · simp [same, World.hasWork]

/-- A schedule that is dispatched for a period was not dispatched for it, and is then. -/
theorem Dispatches.hasDispatch (dispatches : Dispatches key world changed) :
    ¬world.hasDispatch key ∧ changed.hasDispatch key := by
  obtain ⟨work, row, rfl, named, queued, stored⟩ := dispatches
  constructor
  · rintro ⟨other, there, same⟩
    have found := Table.find?_of_mem there
    rw [show (other.schedule_name, other.period_key) = (row.schedule_name, row.period_key) from same,
      (Table.insert?_isSome row).mp (by rw [stored]; rfl)] at found
    cases found
  · refine ⟨row, ?_, rfl⟩
    rw [Table.rows_insert stored]
    exact List.mem_append_right _ (List.mem_singleton_self row)

/-- A dispatch that is there stays there. -/
theorem TickMove.hasDispatch (move : TickMove known label world changed later)
    (there : world.hasDispatch key) : changed.hasDispatch key := by
  cases move with
  | same same => rwa [World.hasDispatch, same.dispatches]
  | there | ticked => exact there
  | dispatched dispatches =>
    obtain ⟨row, there, keyed⟩ := there
    obtain ⟨_, _, _, _, _, _, rows⟩ := dispatches.mem_rows
    exact ⟨row, by rw [rows]; exact List.mem_append_left _ there, keyed⟩

/-- A tick learns of dispatches that are there. -/
theorem TickMove.learns (move : TickMove known label world changed later) (knows : key ∈ later) :
    key ∈ known ∨ changed.hasDispatch key := by
  cases move with
  | same | ticked => exact .inl knows
  | there there =>
    rcases List.mem_cons.mp knows with rfl | knew
    · exact .inr there
    · exact .inl knew
  | dispatched dispatches =>
    rcases List.mem_cons.mp knows with rfl | knew
    · exact .inr dispatches.hasDispatch.2
    · exact .inl knew

/-- A tick adds an item of work and its dispatch together, or neither. -/
theorem TickMove.together (move : TickMove known label world changed later) :
    SameDispatches world changed ∨ ∃ key, Dispatches key world changed := by
  cases move with
  | same same => exact .inl same
  | there | ticked => exact .inl ⟨rfl, rfl⟩
  | dispatched dispatches => exact .inr ⟨_, dispatches⟩

/-- A tick leaves dispatches with work of their own, and returns when all that was due is there. -/
theorem TickMove.wellDispatched (move : TickMove known label world changed later)
    (well : WellDispatched world) (holds : ∀ key ∈ known, world.hasDispatch key) :
    WellDispatched changed := by
  have stays : ∀ key, world.hasDispatch key → changed.hasDispatch key :=
    fun _ there => move.hasDispatch there
  cases move with
  | there => exact well
  | same same effects =>
    obtain ⟨stored, apart, ticked⟩ := well
    refine ⟨?_, ?_, fun wall noted schedule due => stays _ (ticked wall (effects ▸ noted) schedule due)⟩
    · rw [same.dispatches]
      intro row there
      rw [World.hasWork, same.work]
      exact stored row there
    · rwa [same.dispatches]
  | dispatched dispatches effects =>
    obtain ⟨work, row, keyed, named, new, queue, rows⟩ := dispatches.mem_rows
    -- The new item cannot be that of a dispatch that was there, which has its item.
    have other : ∀ old ∈ world.db.schedule_dispatches.rows, old.work_id ≠ row.work_id := by
      intro old there same
      have has := well.stored old there
      rw [same, named, World.hasWork, new] at has
      cases has
    refine ⟨fun old there => ?_, fun one first two second same => ?_, fun wall noted schedule due =>
      stays _ (well.ticked wall (effects ▸ noted) schedule due)⟩
    · rw [rows] at there
      refine (queue old.work_id).mpr ?_
      rcases List.mem_append.mp there with before | now
      · exact .inr (well.stored old before)
      · cases List.mem_singleton.mp now
        exact .inl named.symm
    · rw [rows] at first second
      rcases List.mem_append.mp first with first | first <;>
        rcases List.mem_append.mp second with second | second
      · exact well.apart one first two second same
      · cases List.mem_singleton.mp second
        exact absurd same.symm (other one first)
      · cases List.mem_singleton.mp first
        exact absurd same (other two second)
      · rw [List.mem_singleton.mp first, List.mem_singleton.mp second]
  | ticked done =>
    refine ⟨well.stored, well.apart, fun wall noted schedule due => ?_⟩
    rcases List.mem_cons.mp noted with same | before
    · cases same
      exact holds _ (done schedule due)
    · exact well.ticked wall before schedule due

/-- Whatever else happens leaves the dispatches as they are. -/
theorem DispatchDrift.wellDispatched (drift : DispatchDrift world changed)
    (well : WellDispatched world) : WellDispatched changed where
  stored := by
    rw [drift.dispatches]
    exact fun row there => drift.work _ (well.stored row there)
  apart := by
    rw [drift.dispatches]
    exact well.apart
  ticked wall noted schedule due := by
    rw [World.hasDispatch, drift.dispatches]
    exact well.ticked wall (drift.effects wall noted) schedule due

end Moves

section Runs

variable [Platform] {κ : Type} [DecidableEq κ]

/-- The runs of ticks of any number of schedulers. -/
abbrev TickRun (start pool : Pool κ World Label Error) : Prop :=
  Pool.Reaches (fun _ => TickCall) DispatchDrift (fun _ _ _ => True) start pool

/-- Scheduled work is dispatched exactly once for each period, in every run from some world. -/
structure DispatchedOnce (κ : Type) [DecidableEq κ] (start : World) : Prop where
  /-- A step of a tick adds an item of work and its dispatch together, or neither. -/
  together : ∀ (before after : Pool κ World Label Error) (caller : κ) (label : Label),
    TickRun (Pool.idle start) before → before.Acts caller label after →
      SameDispatches before.shared after.shared ∨ ∃ key, Dispatches key before.shared after.shared
  /-- No two steps of a run dispatch one schedule for one period. -/
  once : ∀ (first second third fourth : Pool κ World Label Error) (one two : κ)
    (label next : Label) (key other : String × String),
    TickRun (Pool.idle start) first → first.Acts one label second →
      Dispatches key first.shared second.shared → TickRun second third →
        third.Acts two next fourth → Dispatches other third.shared fourth.shared → other ≠ key
  /-- There is one dispatch for each schedule and period, with an item of work of its own. -/
  stored : ∀ pool : Pool κ World Label Error, TickRun (Pool.idle start) pool →
    ∀ row ∈ pool.shared.db.schedule_dispatches.rows, pool.shared.hasWork row.work_id ∧
      ∀ other ∈ pool.shared.db.schedule_dispatches.rows,
        other.key = row.key ∨ other.work_id = row.work_id → other = row
  /-- Whatever was due at the local time of a tick that returned is dispatched. -/
  due : ∀ pool : Pool κ World Label Error, TickRun (Pool.idle start) pool →
    ∀ wall, .ticked wall ∈ pool.shared.effects →
      ∀ schedule ∈ schedulesAt wall, pool.shared.hasDispatch schedule.key

/-- In every run the dispatches that ticks know of are there, and all are well. -/
theorem TickRun.phased {start : World} (well : WellDispatched start)
    (pool : Pool κ World Label Error) (run : TickRun (Pool.idle start) pool) :
    Pool.Phased (fun _ _ _ => True) (fun _ => TickMove)
      (Pool.Knowing WellDispatched (fun known key => key ∈ known)
        fun key world => world.hasDispatch key) pool := by
  refine Pool.Reaches.knowing (by nofun) (fun caller program called => called.ticks)
    (fun caller label world changed known later well holds _ move =>
      ⟨move.wellDispatched well holds, fun key there => move.hasDispatch there,
        fun key knows => move.learns knows⟩)
    (fun world changed well drift => ⟨drift.wellDispatched well, fun key there => ?_⟩) well run
  rwa [World.hasDispatch, drift.dispatches]

/-- Scheduled work is dispatched exactly once for each period, in every interleaving of ticks. -/
theorem scheduler_once {start : World} (well : WellDispatched start) : DispatchedOnce κ start where
  together before after caller label run acts := by
    obtain ⟨_, _, _, move⟩ := (TickRun.phased well before run).move trivial acts
    exact move.together
  once first second third fourth one two label next key other run acts dispatches rest again later := by
    rintro rfl
    have second_ : TickRun (Pool.idle start) second := run.acts trivial acts
    -- The first dispatch is still there when the second one is added.
    have there := Pool.Reaches.lasts
      (fun pool (reached : TickRun second pool) => TickRun.phased well pool (second_.trans reached))
      (fun _ _ _ _ _ _ move there => move.hasDispatch there)
      (fun world changed drift there => by rwa [World.hasDispatch, drift.dispatches])
      dispatches.hasDispatch.2 rest
    exact later.hasDispatch.1 there
  stored pool run row there := by
    obtain ⟨_, ⟨well, _⟩, _⟩ := TickRun.phased well pool run
    refine ⟨well.stored row there, fun other also same => same.elim (fun keyed => ?_) ?_⟩
    · exact List.inj_on_of_nodup_map pool.shared.db.schedule_dispatches.unique also there keyed
    · exact well.apart row there other also
  due pool run := by
    obtain ⟨_, ⟨well, _⟩, _⟩ := TickRun.phased well pool run
    exact well.ticked

end Runs

section Examples

open Sample

local instance schedulerPlatform : Platform := platform []

/-- The time zone of UTC. -/
def Sample.utcZone : Zone where
  astimezone moment :=
    if within : moment.instant.toNat < span then .ok ⟨_, within⟩ else .error .overflow

/-- The scheduler of a worker. -/
def Sample.scheduler : LocalScheduler := ⟨⟨.IAC⟩, worker, utcZone⟩

/-- A Monday morning. -/
def Sample.monday : Reading := ⟨daysBeforeYear 2030 * day + 6 * day + 9 * hour, by decide⟩

/-- The first day of a year and its first Monday are in its first two weeks. -/
example : (dayText newYear, dayText monday, weekText monday) =
    ("2030-01-01", "2030-01-07", "2030-W02") := by
  decide +kernel

/-- Two callers tick on a Monday at once. -/
def Sample.ticksTwice : List (Pool.Event Bool World Label Error) :=
  let tick := (scheduler.tick (some monday.utc)).call
  .start false tick :: (steps 6 false ++ .start true tick :: (steps 3 true ++
    (steps 8 false ++ steps 12 true)))

/-- Both ticks return, and everything that was due on the Monday is dispatched. -/
theorem scheduler_once_monday : ∃ pool : Pool Bool World Label Error,
    pool.shared.effects = [.ticked monday, .ticked monday] ∧
      pool.shared.db.work_queue.rows.length = 3 ∧
        ∀ schedule ∈ schedulesAt monday, pool.shared.hasDispatch schedule.key := by
  let tick := (scheduler.tick (some monday.utc)).call
  have known :
      (ticksTwice.foldl Pool.play (Pool.idle (world Database.empty))).shared.effects =
        [.ticked monday, .ticked monday] ∧
      (ticksTwice.foldl Pool.play (Pool.idle (world Database.empty))).shared.db.work_queue.rows.length =
        3 := by
    decide +kernel
  have called : ∀ event ∈ ticksTwice, (∃ caller, event = .act caller) ∨
      ∃ caller, event = .start caller tick := by
    intro event there
    rcases List.mem_cons.mp there with rfl | there
    · exact .inr ⟨_, rfl⟩
    rcases List.mem_append.mp there with there | there
    · exact .inl ⟨_, List.eq_of_mem_replicate there⟩
    rcases List.mem_cons.mp there with rfl | there
    · exact .inr ⟨_, rfl⟩
    rcases List.mem_append.mp there with there | there
    · exact .inl ⟨_, List.eq_of_mem_replicate there⟩
    rcases List.mem_append.mp there with there | there
    · exact .inl ⟨_, List.eq_of_mem_replicate there⟩
    · exact .inl ⟨_, List.eq_of_mem_replicate there⟩
  have run : TickRun (Pool.idle (world Database.empty))
      (ticksTwice.foldl Pool.play (Pool.idle (world Database.empty))) := by
    refine Pool.Reaches.play (fun _ _ _ => true) (fun _ _ _ _ => trivial) ticksTwice
      (fun caller program there => ?_) (fun change there => ?_) (Pool.playableAll_true _ _) .refl
    · rcases called _ there with ⟨_, same⟩ | ⟨_, same⟩
      · cases same
      · cases same
        exact .tick _ _
    · rcases called _ there with ⟨_, same⟩ | ⟨_, same⟩ <;> cases same
  have well : WellDispatched (world Database.empty) := ⟨nofun, nofun, nofun⟩
  exact ⟨_, known.1, known.2, (scheduler_once well).due _ run monday
    (by rw [known.1]; exact List.mem_cons_self ..)⟩

end Examples

end SeanOs
