import SeanOs.Commands
import SeanOs.Sample
import SeanOs.Store.Logging

/-! Command intake is exactly-once in every interleaving, as long as answers come with a request of their own. -/

namespace SeanOs

open Atomic CommandGateway

/-- What a request was answered with: its content, and the work it is done as. -/
structure Answer where
  external_request_id : String
  request_sha256 : String
  work_id : String
  deriving DecidableEq

/-- An answer as what a caller got. -/
def Answer.effect (answer : Answer) : Effect :=
  .answered answer.external_request_id answer.request_sha256 answer.work_id

/-- The answer that a row of `command_requests` stands for. -/
def CommandRow.answer (row : CommandRow) : Answer :=
  ⟨row.external_request_id, row.request_sha256, row.work_id⟩

namespace World

variable (world : World)

/-- The answers that callers of the gateway got so far. -/
def answers : List Answer :=
  world.effects.filterMap fun effect => match effect with
    | .answered external_request_id request_sha256 work_id =>
      some ⟨external_request_id, request_sha256, work_id⟩
    | .handled _ _ _ | .upload_new _ | .put_object _ | .ticked _ | .requested _ _ _ _ _
    | .executed _ _ | .reported _ _ _ _ => none

/-- An answer is what the row of its request says. -/
def recordsAnswer (answer : Answer) : Prop :=
  (world.db.command_requests.find? answer.external_request_id).map (·.answer) = some answer

/-- A coding delivery has a request. -/
def hasCodingRequest (external_id : String) : Prop :=
  ∃ row ∈ world.db.coding_delivery_requests, row.external_id = some external_id

end World

/-- A change that leaves the work, the requests and the answers alone. -/
structure SameIntake (world changed : World) : Prop where
  work : changed.db.work_queue = world.db.work_queue
  commands : changed.db.command_requests = world.db.command_requests
  deliveries : changed.db.coding_delivery_requests = world.db.coding_delivery_requests
  effects : changed.effects = world.effects

/-- The request of a coding delivery is added, which no other row names, if there is one to add. -/
def CodingQueued : Option (Option String) → List CodingRequestRow → List CodingRequestRow → Prop
  | none, before, after => after = before
  | some external_id, before, after => ∃ row, row.external_id = external_id ∧
    after = before ++ [row] ∧ (external_id.isSome → ∀ other ∈ before, other.external_id ≠ external_id)

/-- One item of work is queued with its request, and with its coding delivery if it is one. -/
structure Queues (external_id : Option (Option String)) (answer : Answer) (world changed : World) :
    Prop where
  work : ∃ row, row.id = answer.work_id ∧
    world.db.work_queue.insert? row = some changed.db.work_queue
  command : ∃ row, row.answer = answer ∧
    world.db.command_requests.insert? row = some changed.db.command_requests
  delivery : CodingQueued external_id world.db.coding_delivery_requests
    changed.db.coding_delivery_requests
  effects : changed.effects = world.effects

/-- How far a call is: it knows no answer, or one that was there, or one that it queued itself. -/
inductive IntakePhase where
  | fresh
  | found (answer : Answer)
  | queued (answer : Answer)

/-- The answer a call knows. -/
def IntakePhase.answer : IntakePhase → Option Answer
  | .fresh => none
  | .found answer | .queued answer => some answer

/-- What a step of a call of the gateway does, and how far the call is after it. -/
inductive IntakeMove : IntakePhase → Label → World → World → IntakePhase → Prop
  | same {phase : IntakePhase} {label : Label} {world changed : World}
      (same : SameIntake world changed) : IntakeMove phase label world changed phase
  | found {label : Label} {world : World} {answer : Answer} (there : world.recordsAnswer answer) :
      IntakeMove .fresh label world world (.found answer)
  | queued {external_id : Option (Option String)} {answer : Answer} {world changed : World}
      (queues : Queues external_id answer world changed) :
      IntakeMove .fresh (.submit answer.external_request_id external_id) world changed
        (.queued answer)
  | answered {phase : IntakePhase} {answer : Answer} {world : World}
      (known : phase.answer = some answer) :
      IntakeMove phase (.external answer.effect) world
        { world with effects := answer.effect :: world.effects } phase

/-- Coding deliveries are named, and no request is answered with the coding delivery of another. -/
def OwnRequest : Label → World → Prop
  | .submit _ external_id, _ => external_id ≠ some none
  | .coding_request external_id submitted_by request_sha256, world =>
    ∀ found ∈ world.db.codingRequest external_id,
      ¬(found.2.submitted_by = submitted_by ∧ found.1.request_sha256 = request_sha256)
  | _, _ => True

/-- What the end of a call says: an answer it knows, or an error after which nothing was queued. -/
def IntakeEnd (external_request_id request_sha256 : String) (phase : IntakePhase) :
    Except Error Submission → Prop
  | .ok submission =>
    phase.answer = some ⟨external_request_id, request_sha256, submission.work_id⟩
  | .error _ => ∀ answer, phase ≠ .queued answer

/-- A world has its own intake. -/
theorem SameIntake.refl (world : World) : SameIntake world world := ⟨rfl, rfl, rfl, rfl⟩

/-- What is only logged leaves the intake. -/
theorem SameIntake.of_logged {world changed : World} (logged : Logged world changed) :
    SameIntake world changed := by
  obtain ⟨_, _, rfl⟩ := logged
  exact ⟨rfl, rfl, rfl, rfl⟩

/-- The transaction of a command queues all it is about, or raises and queues nothing. -/
theorem queueCommand_cases (work : WorkRow) (request : CommandRow)
    (external_id : Option (Option String)) (named : request.work_id = work.id) (world : World) :
    (∃ error, (queueCommand work request external_id (.closed world)).1 = .error error ∧
      (queueCommand work request external_id (.closed world)).2.committed = world) ∨
    (queueCommand work request external_id (.closed world)).1 = .ok () ∧
      Queues external_id request.answer world
        (queueCommand work request external_id (.closed world)).2.committed := by
  unfold queueCommand
  rw [Script.beginImmediate_bind, Script.execute_bind, insertWork]
  -- Each of the statements may fail, and then none of them is kept.
  cases queued : world.db.work_queue.insert? work with
  | none => exact .inl ⟨_, rfl, rfl⟩
  | some queue =>
    dsimp only
    rw [Script.execute_bind, insertCommand]
    split
    next changed inserted =>
      split at inserted
      · cases inserted
      cases stored : world.db.command_requests.insert? request with
      | none =>
        rw [World.withQueue, stored] at inserted
        cases inserted
      | some commands =>
        rw [World.withQueue, stored] at inserted
        cases inserted
        have queues : ∀ deliveries,
            CodingQueued external_id world.db.coding_delivery_requests deliveries →
              Queues external_id request.answer world { world with db := { world.db with
                work_queue := queue, command_requests := commands
                coding_delivery_requests := deliveries } } :=
          fun deliveries delivery =>
            ⟨⟨work, named.symm, queued⟩, ⟨request, rfl, stored⟩, delivery, rfl⟩
        cases external_id with
        | none => exact .inr ⟨rfl, queues _ rfl⟩
        | some external_id =>
          dsimp only
          rw [Script.execute_bind, insertCodingRequest]
          split
          next changed inserted =>
            split at inserted
            · cases inserted
            next new =>
              split at inserted
              · cases inserted
              · cases inserted
                refine .inr ⟨rfl, queues _ ⟨_, rfl, rfl, fun given other there same => new ⟨given, ?_⟩⟩⟩
                exact List.any_eq_true.mpr ⟨other, there, beq_iff_eq.mpr same⟩
          next error raised => exact .inl ⟨_, rfl, rfl⟩
    next error raised => exact .inl ⟨_, rfl, rfl⟩

section Calls

variable [Platform] {gateway : CommandGateway} {external_request_id digest : String}

/-- The programs that move as a call of the gateway may, from some phase to some end. -/
abbrev Intake {α : Type} (ends : IntakePhase → Except Error α → Prop) (phase : IntakePhase)
    (program : Op α) : Prop :=
  Prog.Follows OwnRequest IntakeMove ends phase program

omit [Platform] in
/-- A program that only logs stays in its phase. -/
theorem intake_of_logging {α : Type} {program : Op α} {phase : IntakePhase}
    {ends : IntakePhase → Except Error α → Prop} (logging : Logging program)
    (ended : ∀ outcome, ends phase outcome) : Intake ends phase program :=
  (logging.keeps fun _ _ _ logged => SameIntake.of_logged logged).follows
    (fun _ _ _ _ same => .same same) ended

omit [Platform] in
/-- What only logs comes before the rest. -/
theorem intake_logs_bind {α β : Type} {program : Op α} {rest : α → Op β} {phase : IntakePhase}
    {ends : IntakePhase → Except Error β → Prop} (logging : Logging program)
    (follows : ∀ value, Intake ends phase (rest value))
    (raised : ∀ error, ends phase (.error error)) : Intake ends phase (program >>= rest) := by
  -- What is only logged stays in the phase the call is in.
  have first : Intake (fun last _ => last = phase) phase program :=
    intake_of_logging logging fun _ => rfl
  refine first.bind (fun last value same => ?_) fun last error same => ?_
  · subst same
    exact follows value
  · subst same
    exact raised error

omit [Platform] in
/-- The answer to a command that is there already is known before its work is looked up. -/
theorem intake_deduplicated {answer : Answer} (work_id : String) (same : answer.work_id = work_id)
    (here : answer.external_request_id = external_request_id)
    (content : answer.request_sha256 = digest) :
    Intake (IntakeEnd external_request_id digest) (.found answer) (gateway.deduplicated work_id) := by
  subst same here content
  -- The status is read of the work that the answer names.
  have looked : Intake (fun last _ => last = .found answer) (.found answer)
      (gateway.status answer.work_id) := by
    refine .read_bind fun world _ => ⟨_, .same (.refl world), ?_⟩
    cases world.db.submittedWork answer.work_id gateway.actor.id <;> rfl
  refine looked.bind ?_ ?_
  · intro last status same
    subst same
    rfl
  · intro last error same
    subst same
    nofun

/-- Behind its transaction a call has queued its answer, or is as fresh as it was. -/
def QueuedOrFresh (answer : Answer) (last : IntakePhase) : Except Error Unit → Prop
  | .ok () => last = .queued answer
  | .error _ => last = .fresh

/-- Under the condition the lookup of a coding delivery never answers a request. -/
theorem intake_findCodingRequest (command : String) (payload : List (String × Json)) :
    Intake (fun phase outcome => phase = .fresh ∧ ∀ found, outcome = .ok found → found.2 = none)
      .fresh (gateway.findCodingRequest command digest payload) := by
  unfold findCodingRequest
  split
  · exact ⟨rfl, fun found ended => by cases ended; rfl⟩
  refine intake_logs_bind (logging_lift _) (fun external_id => ?_) fun error => ⟨rfl, nofun⟩
  refine .read_bind fun world own => ⟨_, .same (.refl world), ?_⟩
  -- A delivery that is found under another request is refused, as the request must be the own one.
  cases found : world.db.codingRequest external_id with
  | none => exact ⟨rfl, fun found ended => by cases ended; rfl⟩
  | some request =>
    have other := own request found
    dsimp only
    split
    · exact ⟨rfl, nofun⟩
    next same =>
      split
      · exact ⟨rfl, nofun⟩
      next content => exact absurd ⟨not_not.mp same, not_not.mp content⟩ other

/-- A new request is queued and answered with its work, or refused. -/
theorem intake_submitNew (spec : CommandSpec) (command : String)
    (payload : List (String × Json)) (external_id : Option (Option String)) :
    Intake (IntakeEnd external_request_id digest) .fresh
      (gateway.submitNew spec external_request_id command digest payload external_id) := by
  refine intake_logs_bind logging_uuid4 (fun request_id => ?_) fun _ => by rintro _ ⟨⟩
  refine intake_logs_bind logging_uuid4 (fun work_id => ?_) fun _ => by rintro _ ⟨⟩
  refine intake_logs_bind (logging_read _ _) (fun stamp => ?_) fun _ => by rintro _ ⟨⟩
  -- The transaction raises and leaves the call fresh, or the answer is queued.
  let answer : Answer := ⟨external_request_id, digest, work_id⟩
  let work := queuedRow work_id spec.action_type (Json.obj payload).sorted 100 stamp
  let request : CommandRow :=
    ⟨request_id, external_request_id, digest, gateway.actor.id, .IAC, command, work_id, stamp⟩
  have transaction : Intake (QueuedOrFresh answer) .fresh
      (Script.asStep (.submit external_request_id external_id)
        (queueCommand work request external_id)) := by
    refine .transact fun world _ => ?_
    rcases queueCommand_cases work request external_id rfl world with
      ⟨error, raised, left⟩ | ⟨ended, queues⟩
    · dsimp only
      rw [raised, left]
      exact ⟨.fresh, .same (.refl world), rfl⟩
    · dsimp only
      rw [ended]
      exact ⟨.queued answer, .queued queues, rfl⟩
  refine transaction.bind ?_ ?_
  · intro last _ same
    obtain rfl : last = .queued answer := same
    exact .write_bind fun world _ =>
      ⟨_, .same (.of_logged (logged_audit _ _ _ _ _ _ _ world)), rfl⟩
  · intro last error same
    obtain rfl : last = .fresh := same
    rintro _ ⟨⟩

/-- A call of the gateway knows the answer it ends with, and has queued nothing where it raises. -/
theorem intake_submit (command_type : String) (payload : List (String × Json)) (scope : String) :
    Intake (IntakeEnd external_request_id (requestDigest (upper command_type) scope payload)) .fresh
      (gateway.submit external_request_id command_type payload scope) := by
  unfold submit
  split
  · rintro _ ⟨⟩
  refine intake_logs_bind (logging_lift _) (fun _ => ?_) fun _ => by rintro _ ⟨⟩
  dsimp only
  cases COMMANDS.lookup (upper command_type) with
  | none => rintro _ ⟨⟩
  | some spec =>
    dsimp only
    refine intake_logs_bind (logging_lift _) (fun _ => ?_) fun _ => by rintro _ ⟨⟩
    refine .read_bind fun world _ => ?_
    dsimp only
    cases found : world.db.command_requests.find? external_request_id with
    | some existing =>
      -- The row that is found is that of this request.
      have named : existing.external_request_id = external_request_id := Table.key_of_find? found
      dsimp only
      by_cases content : existing.request_sha256 = requestDigest (upper command_type) scope payload
      · rw [if_neg (not_not.mpr content)]
        refine ⟨.found existing.answer, .found ?_, intake_deduplicated _ rfl named content⟩
        show (world.db.command_requests.find? existing.external_request_id).map _ = _
        rw [named, found]
        rfl
      · rw [if_pos content]
        exact ⟨.fresh, .same (.refl world), by rintro _ ⟨⟩⟩
    | none =>
      refine ⟨.fresh, .same (.refl world), ?_⟩
      refine Prog.Follows.bind (intake_findCodingRequest _ _) (fun last found ended => ?_)
        fun last error ended => ?_
      · obtain ⟨rfl, unanswered⟩ := ended
        obtain ⟨external_id, answer⟩ := found
        cases unanswered _ rfl
        exact intake_submitNew _ _ _ _
      · rw [ended.1]
        rintro _ ⟨⟩

/-- The calls of the gateway, by any interface. -/
inductive IntakeCall : Op Unit → Prop
  | submit (gateway : CommandGateway) (external_request_id command_type : String)
      (payload : List (String × Json)) (scope : String) :
      IntakeCall (gateway.answer external_request_id command_type payload scope)

/-- Every call answers with what it knows. -/
theorem IntakeCall.intake {program : Op Unit} (called : IntakeCall program) :
    Intake (fun _ _ => True) .fresh program := by
  cases called with
  | submit gateway external_request_id command_type payload scope =>
    -- What is submitted is told to whoever asked.
    refine Prog.Follows.bind (intake_submit command_type payload scope)
      (fun last submission known => ?_) fun _ _ _ => trivial
    exact .write_bind fun world _ => ⟨last, .answered known, trivial⟩

end Calls

section Moves

variable {phase later : IntakePhase} {label : Label} {world changed : World}

/-- After a command was queued its answer is recorded, and those that were recorded still are. -/
theorem Queues.recordsAnswer {external_id : Option (Option String)} {answer : Answer}
    (queues : Queues external_id answer world changed) (other : Answer) :
    changed.recordsAnswer other ↔ other = answer ∨ world.recordsAnswer other := by
  obtain ⟨row, rfl, inserted⟩ := queues.command
  have free : world.db.command_requests.find? row.external_request_id = none :=
    (Table.insert?_isSome row).mp (by rw [inserted]; rfl)
  rw [World.recordsAnswer, Table.find?_insert inserted, World.recordsAnswer]
  -- The new row is found under its own identifier, which was free.
  by_cases same : row.external_request_id = other.external_request_id
  · rw [if_pos same, ← same, free]
    simp [eq_comm]
  · rw [if_neg same]
    refine ⟨.inr, fun known => known.resolve_left ?_⟩
    rintro rfl
    exact same rfl

/-- What is recorded stays so. -/
theorem IntakeMove.recordsAnswer (move : IntakeMove phase label world changed later)
    {answer : Answer} (there : world.recordsAnswer answer) : changed.recordsAnswer answer := by
  -- Only the move that queues changes the table, and it adds to it.
  cases move with
  | same same => rwa [World.recordsAnswer, same.commands]
  | found | answered => exact there
  | queued queues => exact (queues.recordsAnswer answer).mpr (.inr there)

/-- The request of a coding delivery stays where it is. -/
theorem IntakeMove.hasCodingRequest (move : IntakeMove phase label world changed later)
    {external_id : String} (there : world.hasCodingRequest external_id) :
    changed.hasCodingRequest external_id := by
  -- Only the move that queues changes the table, and it adds to it or leaves it.
  cases move with
  | same same => rwa [World.hasCodingRequest, same.deliveries]
  | found | answered => exact there
  | @queued place _ _ _ queues =>
    have delivery := queues.delivery
    obtain ⟨row, there, named⟩ := there
    cases place with
    | none => exact ⟨row, by rw [show changed.db.coding_delivery_requests = _ from delivery]; exact there,
        named⟩
    | some place =>
      obtain ⟨_, _, added, _⟩ := delivery
      exact ⟨row, by rw [added]; exact List.mem_append_left _ there, named⟩

/-- A call learns an answer that is recorded, or that it records itself. -/
theorem IntakeMove.knows (move : IntakeMove phase label world changed later)
    (known : ∀ answer, phase.answer = some answer → world.recordsAnswer answer) {answer : Answer}
    (knows : later.answer = some answer) : changed.recordsAnswer answer := by
  have grows : world.recordsAnswer answer → changed.recordsAnswer answer := move.recordsAnswer
  -- An answer is known because it was found or because it was written.
  cases move with
  | same => exact grows (known answer knows)
  | found there =>
    cases knows
    exact there
  | queued queues =>
    cases knows
    exact (queues.recordsAnswer _).mpr (.inl rfl)
  | answered => exact known answer knows

/-- A call answers with what it knows. -/
theorem IntakeMove.answers (move : IntakeMove phase label world changed later) {answer : Answer}
    (there : answer ∈ changed.answers) : answer ∈ world.answers ∨ phase.answer = some answer := by
  -- Only the move that answers adds an answer, the one that is known.
  cases move with
  | same same =>
    rw [World.answers, same.effects] at there
    exact .inl there
  | found => exact .inl there
  | queued queues =>
    rw [World.answers, queues.effects] at there
    exact .inl there
  | answered known =>
    rcases List.mem_cons.mp there with rfl | there
    · exact .inr known
    · exact .inl there

/-- A move that changes the work queues the work of its request. -/
theorem IntakeMove.queues (move : IntakeMove phase label world changed later) {request : String}
    {delivery : Option (Option String)} (labelled : label = .submit request delivery)
    (work : changed.db.work_queue ≠ world.db.work_queue) :
    ∃ answer, answer.external_request_id = request ∧ Queues delivery answer world changed := by
  -- Only the move that queues changes the work.
  cases move with
  | same same => exact absurd same.work work
  | found => exact absurd rfl work
  | queued stored =>
    cases labelled
    exact ⟨_, rfl, stored⟩
  | answered => cases labelled

/-- Where a delivery was queued with a command, its request is there. -/
theorem Queues.hasCodingRequest {external_id : String} {answer : Answer}
    (queues : Queues (some (some external_id)) answer world changed) :
    ¬world.hasCodingRequest external_id ∧ changed.hasCodingRequest external_id := by
  -- The row was new under its identifier and stands at the end now.
  obtain ⟨row, named, added, new⟩ := queues.delivery
  refine ⟨fun ⟨other, there, same⟩ => new rfl other there same, row, ?_, named⟩
  rw [added]
  exact List.mem_append_right _ (List.mem_singleton_self row)

end Moves

/-- What anything else may do: work goes on, but the requests and the answers are left alone. -/
structure IntakeDrift (world changed : World) : Prop where
  commands : changed.db.command_requests = world.db.command_requests
  deliveries : changed.db.coding_delivery_requests = world.db.coding_delivery_requests
  effects : changed.effects = world.effects

section Runs

variable [Platform] {κ : Type} [DecidableEq κ] {permits : Label → World → Prop}

/-- The runs of calls of the gateway, each step of which is permitted. -/
abbrev IntakeRun (permits : Label → World → Prop) (start pool : Pool κ World Label Error) : Prop :=
  Pool.Reaches (fun _ => IntakeCall) IntakeDrift (fun _ => permits) start pool

/-- One transaction of a run queues work. -/
structure QueuesWork (permits : Label → World → Prop) (external_request_id : String)
    (external_id : Option (Option String)) (caller : κ) (before after : Pool κ World Label Error) :
    Prop where
  permitted : permits (.submit external_request_id external_id) before.shared
  acts : before.Acts caller (.submit external_request_id external_id) after
  work : after.shared.db.work_queue ≠ before.shared.db.work_queue

/-- Command intake is exactly-once in every run from some world. -/
structure ExactlyOnce (κ : Type) [DecidableEq κ] (permits : Label → World → Prop)
    (start : World) : Prop where
  /-- No two transactions of a run queue work for one request or for one coding delivery. -/
  once : ∀ (first second third fourth : Pool κ World Label Error) (one two : κ)
    (request other : String) (delivery next : Option (Option String)),
    IntakeRun permits (Pool.idle start) first → QueuesWork permits request delivery one first second →
      IntakeRun permits second third → QueuesWork permits other next two third fourth →
        other ≠ request ∧ ∀ external_id, delivery = some external_id → next ≠ some external_id
  /-- Whoever gets an answer for a request gets the one work, for one content. -/
  answers : ∀ pool : Pool κ World Label Error, IntakeRun permits (Pool.idle start) pool →
    ∀ one ∈ pool.shared.answers, ∀ two ∈ pool.shared.answers,
      two.external_request_id = one.external_request_id → two = one
  /-- A call that raises has not queued anything. -/
  clean : ∀ (gateway : CommandGateway) (external_request_id command_type : String)
    (payload : List (String × Json)) (scope : String),
    Prog.Follows permits IntakeMove
      (fun phase outcome => ∀ error, outcome = .error error → ∀ answer, phase ≠ .queued answer)
      .fresh (gateway.submit external_request_id command_type payload scope)

/-- The answers that were given are recorded. -/
def AnswersRecorded (world : World) : Prop :=
  ∀ answer ∈ world.answers, world.recordsAnswer answer

/-- In every run calls keep to their phases, and the answers they know or gave are recorded. -/
theorem IntakeRun.phased {start : World} (unanswered : start.answers = [])
    (pool : Pool κ World Label Error) (run : IntakeRun OwnRequest (Pool.idle start) pool) :
    Pool.Phased (fun _ => OwnRequest) (fun _ => IntakeMove)
      (Pool.Knowing AnswersRecorded (fun phase answer => phase.answer = some answer)
        fun answer world => world.recordsAnswer answer) pool := by
  -- What is known of answers is that they are written, which no move takes back.
  refine Pool.Reaches.knowing (by nofun) (fun caller program called => called.intake)
    (fun caller label world changed phase later recorded known _ move => ⟨fun answer there => ?_,
      fun answer there => move.recordsAnswer there, fun answer knows => .inr (move.knows known knows)⟩)
    (fun world changed recorded drift => ?_) (fun answer there => ?_) run
  · rcases move.answers there with given | knows
    · exact move.recordsAnswer (recorded answer given)
    · exact move.recordsAnswer (known answer knows)
  · have same : ∀ answer, world.recordsAnswer answer → changed.recordsAnswer answer :=
      fun answer there => by rwa [World.recordsAnswer, drift.commands]
    refine ⟨fun answer there => ?_, same⟩
    rw [World.answers, drift.effects] at there
    exact same answer (recorded answer there)
  · rw [unanswered] at there
    cases there

/-- A transaction that queues work records its request, which was not recorded before. -/
theorem QueuesWork.queues {start : World} {before after : Pool κ World Label Error} {caller : κ}
    {request : String} {delivery : Option (Option String)} (unanswered : start.answers = [])
    (run : IntakeRun OwnRequest (Pool.idle start) before)
    (queues : QueuesWork OwnRequest request delivery caller before after) :
    ∃ answer, answer.external_request_id = request ∧
      Queues delivery answer before.shared after.shared := by
  obtain ⟨_, _, _, move⟩ := (IntakeRun.phased unanswered before run).move queues.permitted queues.acts
  exact move.queues rfl queues.work

/--
Command intake is exactly-once in every interleaving in which coding deliveries are named, and no
request is answered with a coding delivery that was registered under another one.
-/
theorem command_intake {start : World} (unanswered : start.answers = []) :
    ExactlyOnce κ OwnRequest start where
  once first second third fourth one two request other delivery next run queues rest again := by
    have second_ : IntakeRun OwnRequest (Pool.idle start) second :=
      run.acts queues.permitted queues.acts
    have phased := fun pool (reached : IntakeRun OwnRequest second pool) =>
      IntakeRun.phased unanswered pool (second_.trans reached)
    obtain ⟨answer, rfl, stored⟩ := queues.queues unanswered run
    obtain ⟨later, rfl, storedLater⟩ := again.queues unanswered (second_.trans rest)
    refine ⟨fun same => ?_, fun external_id named => ?_⟩
    · -- The first request is still recorded when the second one is.
      have recorded := Pool.Reaches.lasts phased
        (fun _ _ _ _ _ _ move there => move.recordsAnswer there)
        (fun world changed drift there => by rwa [World.recordsAnswer, drift.commands])
        ((stored.recordsAnswer answer).mpr (.inl rfl)) rest
      obtain ⟨row, rfl, inserted⟩ := storedLater.command
      have free : third.shared.db.command_requests.find? row.external_request_id = none :=
        (Table.insert?_isSome row).mp (by rw [inserted]; rfl)
      rw [World.recordsAnswer, ← same] at recorded
      rw [show row.answer.external_request_id = row.external_request_id from rfl, free] at recorded
      cases recorded
    · subst named
      cases external_id with
      | none => exact absurd rfl queues.permitted
      | some external_id =>
        rintro rfl
        exact storedLater.hasCodingRequest.1 (Pool.Reaches.lasts phased
          (fun _ _ _ _ _ _ move there => move.hasCodingRequest there)
          (fun world changed drift there => by rwa [World.hasCodingRequest, drift.deliveries])
          stored.hasCodingRequest.2 rest)
  answers pool run one given two also same := by
    obtain ⟨_, ⟨recorded, _⟩, _⟩ := IntakeRun.phased unanswered pool run
    have first := recorded one given
    have second := recorded two also
    rw [World.recordsAnswer, same] at second
    exact Option.some.inj (second.symm.trans first)
  clean gateway external_request_id command_type payload scope := by
    refine (intake_submit command_type payload scope).mono fun phase outcome ended error raised => ?_
    subst raised
    exact ended

end Runs

namespace Sample

/-- The content of a command that registers a coding delivery. -/
def codingDelivery : List (String × Json) :=
  [("external_id", .str "delivery-1"), ("project_id", .str "project-1"), ("task_id", .str "task-1"),
    ("repository", .str "repo"), ("base_revision", .str "a1"), ("branch_name", .str "topic"),
    ("review_ref", .str "review-1"), ("summary", .str "done"), ("changed_paths", .arr []),
    ("test_results", .arr []), ("activity_units", .int 1), ("estimated_cost_units", .int 1),
    ("synthetic", .bool true)]

/-- The content of a command that sets a goal. -/
def goal : List (String × Json) :=
  [("name", .str "Exit readiness"), ("success_metric", .str "score")]

/-- The digests of the two commands. -/
def commandDigests : List (String × String) :=
  [("\x7b\"command_type\":\"REGISTER_CODING_DELIVERY\",\"payload\":\x7b\"activity_units\":1," ++
      "\"base_revision\":\"a1\",\"branch_name\":\"topic\",\"changed_paths\":[]," ++
      "\"estimated_cost_units\":1,\"external_id\":\"delivery-1\",\"project_id\":\"project-1\"," ++
      "\"repository\":\"repo\",\"review_ref\":\"review-1\",\"summary\":\"done\"," ++
      "\"synthetic\":true,\"task_id\":\"task-1\",\"test_results\":[]\x7d,\"scope\":\"IAC\"\x7d",
      "44f846db63ddc1c11bede99218d88365fbc3355c86602398c36b204e7afeaa4e"),
    ("\x7b\"command_type\":\"CREATE_IAC_GOAL\",\"payload\":\x7b\"name\":\"Exit readiness\"," ++
      "\"success_metric\":\"score\"\x7d,\"scope\":\"IAC\"\x7d",
      "50ef223ea0f78dc38546e8e7058aec27cf3d7e739d67e4da98595e8cd669bb05")]

end Sample

section Examples

open Sample

local instance commandIntakePlatform : Platform := platform commandDigests

/-- The interface of a worker. -/
def Sample.gateway : CommandGateway := ⟨⟨.IAC⟩, worker⟩

/-- A caller submits a command, and takes some steps of the call. -/
def Sample.submits (caller : Bool) (count : ℕ) (external_request_id command_type : String)
    (payload : List (String × Json)) : List (Pool.Event Bool World Label Error) :=
  .start caller (gateway.answer external_request_id command_type payload "IAC") ::
    steps count caller

/-- Moves that start calls and take steps are a run where every step passes a check. -/
theorem Sample.intakeRun_play {permits : Label → World → Prop} {start : World}
    (check : Label → World → Bool)
    (sound : ∀ label state, check label state = true → permits label state)
    (events : List (Pool.Event Bool World Label Error))
    (submitted : ∀ event ∈ events, (∃ caller, event = .act caller) ∨
      ∃ caller id command payload, event = .start caller (gateway.answer id command payload "IAC"))
    (passed : Pool.playableAll (fun _ => check) events (Pool.idle start) = true) :
    IntakeRun permits (Pool.idle start) (events.foldl Pool.play (Pool.idle start)) := by
  -- Only submissions are started, and nothing happens outside.
  refine Pool.Reaches.play (fun _ => check) (fun _ => sound) events (fun caller program there => ?_)
    (fun change there => ?_) passed .refl
  · rcases submitted _ there with ⟨_, same⟩ | ⟨_, _, _, _, same⟩
    · cases same
    · cases same
      exact .submit _ _ _ _ _
  · rcases submitted _ there with ⟨_, same⟩ | ⟨_, _, _, _, same⟩ <;> cases same

/-- What happens in some submissions is a step or a submission. -/
theorem Sample.submitted_of_mem {caller : Bool} {count : ℕ} {id command : String}
    {payload : List (String × Json)} {event : Pool.Event Bool World Label Error}
    (there : event ∈ submits caller count id command payload) :
    (∃ caller, event = .act caller) ∨
      ∃ caller id command payload, event = .start caller (gateway.answer id command payload "IAC") := by
  -- The first event is the call, and the others are its steps.
  rcases List.mem_cons.mp there with rfl | there
  · exact .inr ⟨_, _, _, _, rfl⟩
  · exact .inl ⟨_, List.eq_of_mem_replicate there⟩

/-- A goal is submitted under one request by two callers at once, and then once more. -/
def Sample.goalTwice : List (Pool.Event Bool World Label Error) :=
  submits false 4 "request-1" "CREATE_IAC_GOAL" goal ++
    (submits true 8 "request-1" "CREATE_IAC_GOAL" goal ++
      (steps 4 false ++ submits false 3 "request-1" "CREATE_IAC_GOAL" goal))

/-- Whether a step answers with a request of its own, as far as its label says. -/
def Sample.ownRequest : Label → World → Bool
  | .submit _ (some none), _ | .coding_request _ _ _, _ => false
  | _, _ => true

/-- Both callers that are answered get the one work. -/
theorem command_intake_twice : ∃ pool : Pool Bool World Label Error,
    pool.shared.answers.length = 2 ∧ ∀ one ∈ pool.shared.answers, ∀ two ∈ pool.shared.answers,
      two.external_request_id = one.external_request_id → two = one := by
  -- Nobody asks for a coding delivery here, so the condition is met by every step.
  have sound : ∀ label state, ownRequest label state = true → OwnRequest label state := by
    intro label state passed
    cases label with
    | submit _ external_id =>
      rintro rfl
      cases passed
    | coding_request => cases passed
    | _ => exact trivial
  have known : (goalTwice.foldl Pool.play (Pool.idle (world Database.empty))).shared.answers.length =
      2 ∧ Pool.playableAll (fun _ => ownRequest) goalTwice (Pool.idle (world Database.empty)) = true := by
    decide +kernel
  refine ⟨_, known.1, (command_intake rfl).answers _
    (intakeRun_play ownRequest sound goalTwice (fun event there => ?_) known.2)⟩
  rcases List.mem_append.mp there with there | there
  · exact submitted_of_mem there
  rcases List.mem_append.mp there with there | there
  · exact submitted_of_mem there
  rcases List.mem_append.mp there with there | there
  · exact .inl ⟨_, List.eq_of_mem_replicate there⟩
  · exact submitted_of_mem there

/-- A coding delivery without a name is queued once for every request. -/
example :
    ((submits false 8 "request-1" "REGISTER_CODING_DELIVERY"
        (("external_id", .null) :: codingDelivery.tail) ++
      submits false 8 "request-2" "REGISTER_CODING_DELIVERY"
        (("external_id", .null) :: codingDelivery.tail)).foldl Pool.play
          (Pool.idle (world Database.empty))).shared.db.work_queue.rows.length = 2 := by
  decide +kernel

/-- A request that was answered with the delivery of another one is taken for new content later. -/
theorem command_intake_reused : ¬ExactlyOnce Bool (fun _ _ => True) (world Database.empty) := by
  intro once
  let events := submits false 8 "request-1" "REGISTER_CODING_DELIVERY" codingDelivery ++
    (submits false 4 "request-2" "REGISTER_CODING_DELIVERY" codingDelivery ++
      submits false 7 "request-2" "CREATE_IAC_GOAL" goal)
  have run : IntakeRun (fun _ _ => True) (Pool.idle (world Database.empty))
      (events.foldl Pool.play (Pool.idle (world Database.empty))) := by
    refine intakeRun_play (fun _ _ => true) (fun _ _ _ => trivial) events (fun event there => ?_)
      (Pool.playableAll_true _ _)
    rcases List.mem_append.mp there with there | there
    · exact submitted_of_mem there
    rcases List.mem_append.mp there with there | there <;> exact submitted_of_mem there
  -- The one request has two answers, with two contents.
  have agree := once.answers _ run
  have differ : ¬∀ one ∈ (events.foldl Pool.play (Pool.idle (world Database.empty))).shared.answers,
      ∀ two ∈ (events.foldl Pool.play (Pool.idle (world Database.empty))).shared.answers,
        two.external_request_id = one.external_request_id → two = one := by
    decide +kernel
  exact differ agree

end Examples

end SeanOs
