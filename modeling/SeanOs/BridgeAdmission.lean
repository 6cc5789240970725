import SeanOs.Bridge
import SeanOs.CommandIntake

/-! What crosses the bridge: only what the contract allows, once for each request. -/

namespace SeanOs

open Atomic CommandGateway

section Bridge

variable [Platform]

section Contract

omit [Platform] in
/-- An object has exactly the members of a list where the names are the same. -/
theorem hasExactly_iff (members : List (String × Json)) (names : List String) :
    (Json.obj members).hasExactly names = true ↔
      ∀ name, name ∈ members.map (·.1) ↔ name ∈ names := by
  -- Both ways the names are among each other.
  have keys : (Json.obj members).keys? = some (members.map (·.1)) := rfl
  rw [Json.hasExactly, keys, Option.any_some, Bool.and_eq_true, List.all_eq_true, List.all_eq_true]
  simp only [decide_eq_true_eq]
  exact ⟨fun both name => ⟨both.1 name, both.2 name⟩,
    fun all => ⟨fun name => (all name).mp, fun name => (all name).mpr⟩⟩

/--
What the contract asks of an envelope: its fields, its declarations, a command that may cross, a
payload without personal or secret material at any depth, and the digest of that payload.
-/
structure Admitted (envelope : List (String × Json)) (command : String)
    (payload : List (String × Json)) : Prop where
  fields : ∀ name, name ∈ envelope.map (·.1) ↔ name ∈ ENVELOPE_FIELDS
  version : (Json.obj envelope).getD "contract_version" = .str VERSION
  target : (Json.obj envelope).getD "target" = .str "IAC"
  declared : (Json.obj envelope).getD "personal_data_included" = .bool false
  named : upper (str ((Json.obj envelope).getD "command_type")) = command
  allowed : command ∈ ALLOWED_COMMANDS
  content : (Json.obj envelope).getD "payload" = .obj payload
  keys : ∀ members, Json.Inside (.obj members) (.obj payload) → ∀ member ∈ members,
    normalizedKey member.1 ∉ PERSONAL_KEYS ∧ normalizedKey member.1 ∉ SENSITIVE_KEYS
  texts : ∀ text, Json.Inside (.str text) (.obj payload) →
    ∀ pattern ∈ SECRET_PATTERNS, Pattern.search pattern.2 text = false
  digest : (Json.obj envelope).getD "payload_sha256" =
    .str (Platform.sha256 (Json.canonical (.obj payload)))

/-- The two scans of a payload find nothing where nothing at any depth is personal or secret. -/
theorem scans_iff (payload : Json) :
    _personal_paths payload "$" = [] ∧ secret_findings payload "$" = [] ↔
      (∀ members, Json.Inside (.obj members) payload → ∀ member ∈ members,
        normalizedKey member.1 ∉ PERSONAL_KEYS ∧ normalizedKey member.1 ∉ SENSITIVE_KEYS) ∧
      ∀ text, Json.Inside (.str text) payload →
        ∀ pattern ∈ SECRET_PATTERNS, Pattern.search pattern.2 text = false := by
  -- Both scans go everywhere inside the payload, the one for names and the other one for texts too.
  rw [thorough_personal.forall_inside payload]
  have clean := thorough_clean.forall_inside payload
  rw [Clean] at clean
  rw [clean]
  constructor
  · rintro ⟨personal, secret⟩
    exact ⟨fun members inside member there => ⟨personal _ inside member there,
      (secret _ inside).1 member there⟩, fun text inside => (secret _ inside).2⟩
  · rintro ⟨keys, texts⟩
    refine ⟨fun inner inside => ?_, fun inner inside => ⟨?_, ?_⟩⟩
    · cases inner with
      | obj members => exact fun member there => (keys members inside member there).1
      | _ => exact trivial
    · cases inner with
      | obj members => exact fun member there => (keys members inside member there).2
      | _ => exact trivial
    · cases inner with
      | str text => exact texts text inside
      | _ => exact trivial

/-- An envelope passes the checks exactly where the contract admits it. -/
theorem checkEnvelope_iff (envelope : List (String × Json)) (command : String)
    (payload : List (String × Json)) :
    checkEnvelope envelope = .ok (command, payload) ↔ Admitted envelope command payload := by
  have scans := scans_iff (.obj payload)
  rw [checkEnvelope]
  dsimp only
  -- Each check is one of the conditions, in the order in which the receiver makes them.
  rw [refuseIf_bind, refuseIf_bind, refuseIf_bind, Bool.or_eq_false_iff, Bool.not_eq_false',
    Bool.not_eq_false', Bool.not_eq_false', Json.equal_text, Json.equal_text, hasExactly_iff,
    decide_eq_false_iff_not, not_not]
  constructor
  · rintro ⟨fields, ⟨version, target⟩, declared, passed⟩
    split at passed
    · next own given =>
      rw [refuseIf_bind, refuseIf_bind, refuseIf_bind, return_ok, decide_eq_false_iff_not, not_not,
        Bool.or_eq_false_iff, decide_eq_false_iff_not, decide_eq_false_iff_not, not_not, not_not,
        Bool.not_eq_false', Json.equal_text] at passed
      obtain ⟨allowed, clean, digest, same⟩ := passed
      cases same
      exact ⟨fields, version, target, declared, rfl, allowed, given, (scans.mp clean).1,
        (scans.mp clean).2, digest⟩
    · cases passed
  · intro admitted
    refine ⟨admitted.fields, ⟨admitted.version, admitted.target⟩, admitted.declared, ?_⟩
    rw [admitted.content, admitted.named]
    dsimp only
    rw [refuseIf_bind, refuseIf_bind, refuseIf_bind, return_ok, decide_eq_false_iff_not, not_not,
      Bool.or_eq_false_iff, decide_eq_false_iff_not, decide_eq_false_iff_not, not_not, not_not,
      Bool.not_eq_false', Json.equal_text]
    exact ⟨admitted.allowed, scans.mpr ⟨admitted.keys, admitted.texts⟩, admitted.digest, rfl⟩

end Contract

section Submission

variable (gateway : CommandGateway) (external_request_id command_type : String)
  (payload : List (String × Json))

/-- The checks of a command that come before anything is looked up. -/
def CommandPasses : Prop :=
  _authorize gateway.store gateway.actor "IAC" [] "write" = .ok () ∧
    ∃ spec, COMMANDS.lookup (upper command_type) = some spec ∧
      checkCommand spec external_request_id payload = .ok ()

variable {gateway external_request_id command_type payload}

/-- A command that does not pass the checks is refused, and nothing happens. -/
theorem submit_refused (fails : ¬CommandPasses gateway external_request_id command_type payload)
    (world : World) : ∃ error,
      (gateway.submit external_request_id command_type payload "IAC").run world =
        (.error error, world) := by
  unfold submit
  rw [if_neg (not_not.mpr rfl), run_lift_bind]
  -- Whichever of the checks fails, nothing has been written yet.
  cases authorized : _authorize gateway.store gateway.actor "IAC" [] "write" with
  | error error => exact ⟨error, rfl⟩
  | ok _ =>
    dsimp only
    cases known : COMMANDS.lookup (upper command_type) with
    | none => exact ⟨_, rfl⟩
    | some spec =>
      dsimp only
      rw [run_lift_bind]
      cases checked : checkCommand spec external_request_id payload with
      | error error => exact ⟨error, rfl⟩
      | ok _ => exact absurd ⟨authorized, spec, known, checked⟩ fails

/-- A command whose request is there is answered with its work, if it is the same command. -/
theorem submit_found (passes : CommandPasses gateway external_request_id command_type payload)
    {world : World} {row : CommandRow}
    (found : world.db.command_requests.find? external_request_id = some row) :
    (gateway.submit external_request_id command_type payload "IAC").run world =
      if row.request_sha256 ≠ requestDigest (upper command_type) "IAC" payload then
        (.error (.validation "Request ID was reused with different command content"), world)
      else (gateway.deduplicated row.work_id).run world := by
  -- The checks pass, and then the request is looked up before anything else.
  obtain ⟨authorized, spec, known, checked⟩ := passes
  unfold submit
  rw [if_neg (not_not.mpr rfl), run_lift_bind, authorized]
  dsimp only
  rw [known]
  dsimp only
  rw [run_lift_bind, checked]
  dsimp only
  rw [select, Prog.run_bind, Prog.run_read]
  dsimp only
  rw [found]
  dsimp only
  split <;> rfl

/-- A new command that is no coding delivery is queued. -/
theorem submit_new (passes : CommandPasses gateway external_request_id command_type payload)
    (other : upper command_type ≠ "REGISTER_CODING_DELIVERY") {world : World}
    (absent : world.db.command_requests.find? external_request_id = none) :
    ∃ spec, (gateway.submit external_request_id command_type payload "IAC").run world =
      (gateway.submitNew spec external_request_id (upper command_type)
        (requestDigest (upper command_type) "IAC" payload) payload none).run world := by
  -- The checks pass, the request is new, and no coding delivery is asked for.
  obtain ⟨authorized, spec, known, checked⟩ := passes
  refine ⟨spec, ?_⟩
  unfold submit
  rw [if_neg (not_not.mpr rfl), run_lift_bind, authorized]
  dsimp only
  rw [known]
  dsimp only
  rw [run_lift_bind, checked]
  dsimp only
  rw [select, Prog.run_bind, Prog.run_read]
  dsimp only
  rw [absent, findCodingRequest, if_pos other]
  rfl

/-- The work of a command is known to the principal that asked for it. -/
structure Remembered (world : World) (answer : Answer) (submitted_by : String) : Prop where
  request : ∃ row ∈ world.db.command_requests.rows, row.answer = answer
  asked : ∃ row ∈ world.db.command_requests.rows,
    row.work_id = answer.work_id ∧ row.submitted_by = submitted_by
  work : (world.db.work_queue.find? answer.work_id).isSome

/-- What anything may do in between: requests and work are added and work goes on, but none is lost. -/
structure BridgeDrift (world changed : World) : Prop where
  requests : ∀ row ∈ world.db.command_requests.rows, row ∈ changed.db.command_requests.rows
  work : ∀ work_id, (world.db.work_queue.find? work_id).isSome →
    (changed.db.work_queue.find? work_id).isSome

omit [Platform] in
/-- What leaves requests and work as they are is a drift. -/
theorem BridgeDrift.of_same {world changed : World} (same : SameIntake world changed) :
    BridgeDrift world changed :=
  ⟨fun row there => by rwa [same.commands], fun work_id there => by rwa [same.work]⟩

omit [Platform] in
/-- One drift after another is a drift. -/
theorem BridgeDrift.trans {world changed later : World} (one : BridgeDrift world changed)
    (two : BridgeDrift changed later) : BridgeDrift world later :=
  ⟨fun row there => two.requests row (one.requests row there),
    fun work_id some_ => two.work work_id (one.work work_id some_)⟩

omit [Platform] in
/-- What is known stays so. -/
theorem Remembered.drift {world changed : World} {answer : Answer} {submitted_by : String}
    (known : Remembered world answer submitted_by) (drift : BridgeDrift world changed) :
    Remembered changed answer submitted_by := by
  -- Each of the three rows is still there after the drift.
  obtain ⟨⟨row, there, same⟩, ⟨other, asked, work, submitted⟩, some_⟩ := known
  exact ⟨⟨row, drift.requests row there, same⟩, ⟨other, drift.requests other asked, work, submitted⟩,
    drift.work _ some_⟩

omit [Platform] in
/-- The answer to a command whose work is known is that work. -/
theorem run_deduplicated {world : World} {answer : Answer}
    (known : Remembered world answer gateway.actor.id) : ∃ status,
      (gateway.deduplicated answer.work_id).run world =
        (.ok ⟨answer.work_id, true, status⟩, world) := by
  obtain ⟨row, there, work, submitted⟩ := known.asked
  obtain ⟨item, queued⟩ := Option.isSome_iff_exists.mp known.work
  -- The work is shown to who asked for it, and the gateway did.
  have asked : (world.db.command_requests.rows.any fun row =>
      row.work_id == answer.work_id && row.submitted_by == gateway.actor.id) = true :=
    List.any_eq_true.mpr ⟨row, there, by simp [work, submitted]⟩
  have found : world.db.submittedWork answer.work_id gateway.actor.id = some item := by
    rw [Database.submittedWork, if_pos asked, queued]
  refine ⟨item.status.text, ?_⟩
  rw [deduplicated, Prog.run_bind, status, Prog.run_bind, select, Prog.run_read]
  dsimp only
  rw [found]
  rfl

omit [Platform] in
/-- Whoever gets an answer to a command that is there knows its work. -/
theorem remembered_of_deduplicated {world : World} {row : CommandRow}
    (there : row ∈ world.db.command_requests.rows) {submission : Submission}
    (answered : ((gateway.deduplicated row.work_id).run world).1 = .ok submission) :
    Remembered world row.answer gateway.actor.id := by
  rw [deduplicated, Prog.run_bind, status, Prog.run_bind, select, Prog.run_read] at answered
  dsimp only at answered
  -- An answer was given, so the work was found among what the gateway asked for.
  cases found : world.db.submittedWork row.work_id gateway.actor.id with
  | none =>
    rw [found] at answered
    cases answered
  | some item =>
    rw [Database.submittedWork] at found
    split at found
    next asked =>
      obtain ⟨other, member, same⟩ := List.any_eq_true.mp asked
      rw [Bool.and_eq_true, beq_iff_eq, beq_iff_eq] at same
      exact ⟨⟨row, there, rfl⟩, ⟨other, member, same⟩, by
        rw [show row.answer.work_id = row.work_id from rfl, found]
        rfl⟩
    · cases found

omit [Platform] in
/-- A request whose row is queued is one of the requests, and those that were there still are. -/
theorem Queues.drift {answer : Answer} {world changed : World}
    (queues : Queues none answer world changed) : BridgeDrift world changed := by
  obtain ⟨item, -, queued⟩ := queues.work
  obtain ⟨row, -, stored⟩ := queues.command
  -- Both tables have a row more at the end, and none less.
  refine ⟨fun other there => ?_, fun work_id some_ => ?_⟩
  · rw [Table.rows_insert stored]
    exact List.mem_append_left _ there
  · rw [Table.find?_insert queued]
    split
    · rfl
    · exact some_

omit [Platform] in
/-- The transaction of a new command stores its request as it was given. -/
theorem queueCommand_stores (work : WorkRow) (request : CommandRow) (named : request.work_id = work.id)
    {world : World} (ended : (queueCommand work request none (.closed world)).1 = .ok ()) :
    Queues none request.answer world (queueCommand work request none (.closed world)).2.committed ∧
      request ∈ (queueCommand work request none
        (.closed world)).2.committed.db.command_requests.rows := by
  -- The script has ended, so both of its statements were carried out.
  rcases queueCommand_cases work request none named world with ⟨error, raised, -⟩ | ⟨-, queues⟩
  · rw [raised] at ended
    cases ended
  refine ⟨queues, ?_⟩
  unfold queueCommand at ended ⊢
  rw [Script.beginImmediate_bind, Script.execute_bind, insertWork] at ended ⊢
  cases queued : world.db.work_queue.insert? work with
  | none =>
    rw [queued] at ended
    cases ended
  | some queue =>
    rw [queued] at ended
    dsimp only at ended ⊢
    rw [Script.execute_bind, insertCommand] at ended ⊢
    split at ended
    next changed inserted =>
      split at inserted
      · cases inserted
      cases stored : world.db.command_requests.insert? request with
      | none =>
        rw [World.withQueue, stored] at inserted
        cases inserted
      | some commands =>
        rw [World.withQueue, stored] at inserted
        cases inserted
        show request ∈ commands.rows
        rw [Table.rows_insert stored]
        exact List.mem_append_right _ (List.mem_singleton_self _)
    next => cases ended

/-- What a submission comes to, run alone. -/
inductive Submits (answer : String → Answer) (submitted_by : String) (world : World) :
    Except Error Submission × World → Prop
  /-- It is refused, and nothing is queued. -/
  | refused {error : Error} {changed : World} (same : SameIntake world changed) :
      Submits answer submitted_by world (.error error, changed)
  /-- It was there before. -/
  | found {work_id status : String} (known : Remembered world (answer work_id) submitted_by) :
      Submits answer submitted_by world (.ok ⟨work_id, true, status⟩, world)
  /-- It is queued. -/
  | queued {work_id status : String} {changed : World}
      (known : Remembered changed (answer work_id) submitted_by) (drift : BridgeDrift world changed) :
      Submits answer submitted_by world (.ok ⟨work_id, false, status⟩, changed)

/-- A new command is queued with its request, or refused. -/
theorem submits_new (spec : CommandSpec) (command digest : String) (world : World) :
    Submits (fun work_id => ⟨external_request_id, digest, work_id⟩) gateway.actor.id world
      ((gateway.submitNew spec external_request_id command digest payload none).run world) := by
  unfold submitNew
  rw [Prog.run_bind, uuid4, Prog.run_atom, Prog.run_ret]
  dsimp only
  rw [Prog.run_bind, Prog.run_atom, Prog.run_ret]
  dsimp only
  rw [Prog.run_bind, now, Prog.run_read]
  dsimp only
  rw [Script.run_asStep_bind]
  -- Only identifiers were drawn so far.
  generalize asked : ({ world with drawn := world.drawn + 1 + 1 } : World) = drawn
  have same : SameIntake world drawn := by
    rw [← asked]
    exact ⟨rfl, rfl, rfl, rfl⟩
  generalize Platform.uuid4 world.drawn = request_id
  generalize Platform.uuid4 (world.drawn + 1) = work_id
  generalize wrote : queuedRow work_id spec.action_type (Json.obj payload).sorted 100 _ = work
  generalize asks : (CommandRow.mk request_id external_request_id digest gateway.actor.id .IAC
    command work_id _) = request
  have named : request.work_id = work.id := by
    rw [← wrote, ← asks]
    rfl
  rcases queueCommand_cases work request none named drawn with ⟨error, raised, left⟩ | ⟨ended, -⟩
  · generalize queueCommand work request none (.closed drawn) = ran at *
    obtain ⟨outcome, session⟩ := ran
    dsimp only at raised left
    rw [raised]
    dsimp only
    rw [left]
    exact .refused same
  · obtain ⟨queues, there⟩ := queueCommand_stores work request named ended
    generalize queueCommand work request none (.closed drawn) = ran at *
    obtain ⟨outcome, session⟩ := ran
    dsimp only at ended queues there
    rw [ended]
    dsimp only
    rw [record_policy_decision, _audit, Prog.run_bind, Prog.run_write]
    dsimp only
    have logged := logged_audit gateway.actor "POLICY_DECISION" .ALLOWED
      "Whitelisted interface command queued" (some work_id)
      [("command_type", .str command), ("external_request_id", .str external_request_id)] none
      session.committed
    have kept := SameIntake.of_logged logged
    obtain ⟨item, id, stored⟩ := queues.work
    have known : Remembered session.committed request.answer gateway.actor.id :=
      ⟨⟨request, there, rfl⟩, ⟨request, there, rfl, by rw [← asks]⟩, by
        rw [Table.find?_insert stored, if_pos id]
        rfl⟩
    have answer : request.answer = ⟨external_request_id, digest, work_id⟩ := by
      rw [← asks]
      rfl
    rw [answer] at known
    exact .queued (known.drift (.of_same kept))
      (((BridgeDrift.of_same same).trans queues.drift).trans (.of_same kept))

/-- A submission is refused, answered with what was there, or queued. -/
theorem submits_submit (other : upper command_type ≠ "REGISTER_CODING_DELIVERY") (world : World) :
    Submits (fun work_id => ⟨external_request_id,
        requestDigest (upper command_type) "IAC" payload, work_id⟩) gateway.actor.id world
      ((gateway.submit external_request_id command_type payload "IAC").run world) := by
  -- The request is refused, found, or queued.
  by_cases passes : CommandPasses gateway external_request_id command_type payload
  · cases found : world.db.command_requests.find? external_request_id with
    | none =>
      obtain ⟨spec, ran⟩ := submit_new passes other found
      rw [ran]
      exact submits_new spec _ _ world
    | some row =>
      rw [submit_found passes found]
      have there := Table.mem_of_find? found
      have named : row.external_request_id = external_request_id := Table.key_of_find? found
      split
      · exact .refused (.refl world)
      · next same =>
        have content : row.answer = ⟨external_request_id,
            requestDigest (upper command_type) "IAC" payload, row.work_id⟩ := by
          rw [CommandRow.answer, named, not_not.mp same]
        cases answered : ((gateway.deduplicated row.work_id).run world).1 with
        | ok submission =>
          have known := remembered_of_deduplicated there answered
          obtain ⟨status, ran⟩ := run_deduplicated known
          rw [show (gateway.deduplicated row.work_id).run world = _ from ran]
          exact .found (by rwa [content] at known)
        | error error =>
          have unchanged : ((gateway.deduplicated row.work_id).run world).2 = world := by
            rw [deduplicated, Prog.run_bind, status, Prog.run_bind, select, Prog.run_read]
            dsimp only
            cases world.db.submittedWork row.work_id gateway.actor.id <;> rfl
          rw [← Prod.mk.eta (p := (gateway.deduplicated row.work_id).run world), answered, unchanged]
          exact .refused (.refl world)
  · obtain ⟨error, ran⟩ := submit_refused passes world
    rw [ran]
    exact .refused (.refl world)

end Submission

section Receiver

/-- The request ID under which the gateway knows an envelope. -/
def bridgeRequest (envelope : List (String × Json)) : String :=
  "bridge:" ++ str ((Json.obj envelope).getD "request_id")

/-- What an envelope asks for, as the one text whose digest the gateway keeps. -/
def bridgeContent (envelope : List (String × Json)) : String :=
  Json.canonical (.obj
    [("command_type", .str (upper (str ((Json.obj envelope).getD "command_type")))),
      ("scope", .str "IAC"), ("payload", (Json.obj envelope).getD "payload")])

/-- The commands that may cross are in upper case, and none registers a coding delivery. -/
theorem upper_allowed : ∀ command ∈ ALLOWED_COMMANDS,
    upper command = command ∧ command ≠ "REGISTER_CODING_DELIVERY" := by
  intro command there
  simp only [ALLOWED_COMMANDS, List.mem_cons, List.not_mem_nil, or_false] at there
  -- There are seven commands, and each is in upper case.
  rcases there with rfl | rfl | rfl | rfl | rfl | rfl | rfl <;> exact ⟨rfl, by decide⟩

variable (receiver : IACBridgeReceiver)

/-- What an envelope does to the world: nothing, or what its command does. -/
theorem run_accept (envelope : List (String × Json)) (world : World) :
    (receiver.accept envelope).run world = match checkEnvelope envelope with
      | .error error => (.error error, world)
      | .ok (command, payload) =>
        match (receiver.gateway.submit (bridgeRequest envelope) command payload "IAC").run world with
        | (.error error, changed) => (.error error, changed)
        | (.ok submitted, changed) =>
          (.ok ⟨VERSION, str ((Json.obj envelope).getD "request_id"), submitted.work_id,
            submitted.status⟩, changed) := by
  unfold IACBridgeReceiver.accept
  rw [run_lift_bind]
  -- The envelope is checked before the gateway is asked.
  cases checkEnvelope envelope with
  | error error => rfl
  | ok checked =>
    obtain ⟨command, payload⟩ := checked
    dsimp only
    rw [Prog.run_bind, bridgeRequest]
    rcases (receiver.gateway.submit _ command payload "IAC").run world with ⟨_ | _, changed⟩ <;> rfl

/-- The answer that an envelope and its work stand for. -/
def bridgeAnswer (envelope : List (String × Json)) (work_id : String) : Answer :=
  ⟨bridgeRequest envelope, Platform.sha256 (bridgeContent envelope), work_id⟩

/-- The gateway keeps the digest of what an envelope asks for. -/
theorem digest_admitted {envelope : List (String × Json)} {command : String}
    {payload : List (String × Json)} (admitted : Admitted envelope command payload) :
    requestDigest (upper command) "IAC" payload = Platform.sha256 (bridgeContent envelope) := by
  rw [requestDigest, bridgeContent, admitted.named, (upper_allowed command admitted.allowed).1,
    admitted.content]

/-- What comes of an envelope that the contract admits. -/
theorem submits_admitted {envelope : List (String × Json)} {command : String}
    {payload : List (String × Json)} (admitted : Admitted envelope command payload) (world : World) :
    Submits (bridgeAnswer envelope) "sean-os-bridge" world
      ((receiver.gateway.submit (bridgeRequest envelope) command payload "IAC").run world) := by
  obtain ⟨upper_, other⟩ := upper_allowed command admitted.allowed
  -- The command is in upper case already, so the gateway stores it as it is named.
  have submits := @submits_submit _ receiver.gateway (bridgeRequest envelope) command payload
    (by rwa [upper_]) world
  rw [digest_admitted admitted] at submits
  exact submits

/-- Deliveries of any envelopes one after another, with anything else that loses nothing in between. -/
inductive BridgeHistory : World → World → Prop
  | refl (world : World) : BridgeHistory world world
  | deliver {world changed : World} (before : BridgeHistory world changed)
      (envelope : List (String × Json)) :
      BridgeHistory world ((receiver.accept envelope).run changed).2
  | drift {world changed later : World} (before : BridgeHistory world changed)
      (drift : BridgeDrift changed later) : BridgeHistory world later

/-- Every step of an envelope is one of a submission, or it is refused as it is. -/
theorem accept_cases (envelope : List (String × Json)) (world : World) :
    (∃ error changed, (receiver.accept envelope).run world = (.error error, changed) ∧
      SameIntake world changed) ∨
    (∃ command payload, ∃ submission : Submission, ∃ changed, Admitted envelope command payload ∧
      (receiver.accept envelope).run world = (.ok ⟨VERSION,
        str ((Json.obj envelope).getD "request_id"), submission.work_id, submission.status⟩,
        changed) ∧
      BridgeDrift world changed ∧
      Remembered changed (bridgeAnswer envelope submission.work_id) "sean-os-bridge") := by
  rw [run_accept]
  -- The envelope is refused, or the gateway answers or refuses its command.
  cases checked : checkEnvelope envelope with
  | error error => exact .inl ⟨error, world, rfl, .refl world⟩
  | ok both =>
    obtain ⟨command, payload⟩ := both
    have admitted := (checkEnvelope_iff _ _ _).mp checked
    have submits := submits_admitted receiver admitted world
    dsimp only
    generalize (receiver.gateway.submit (bridgeRequest envelope) command payload "IAC").run world =
      ran at *
    cases submits with
    | refused same => exact .inl ⟨_, _, rfl, same⟩
    | found known => exact .inr ⟨command, payload, _, _, admitted, rfl, .of_same (.refl world), known⟩
    | queued known drift => exact .inr ⟨command, payload, _, _, admitted, rfl, drift, known⟩

/-- Deliveries lose nothing. -/
theorem BridgeHistory.lasts {world later : World} (history : BridgeHistory receiver world later) :
    BridgeDrift world later := by
  -- Each delivery and each drift in between is a drift.
  induction history with
  | refl => exact .of_same (.refl world)
  | @deliver changed before envelope ih =>
    rcases accept_cases receiver envelope changed with
      ⟨error, after_, ran, same⟩ | ⟨_, _, _, after_, _, ran, drift, _⟩
    · rw [ran]
      exact ih.trans (.of_same same)
    · rw [ran]
      exact ih.trans drift
  | drift before drift ih => exact ih.trans drift

/-- The request of an envelope that was accepted is found under its ID. -/
theorem found_of_remembered {envelope : List (String × Json)} {work_id submitted_by : String}
    {world : World} (known : Remembered world (bridgeAnswer envelope work_id) submitted_by) :
    ∃ row, world.db.command_requests.find? (bridgeRequest envelope) = some row ∧
      row.request_sha256 = Platform.sha256 (bridgeContent envelope) ∧ row.work_id = work_id := by
  obtain ⟨row, there, same⟩ := known.request
  -- The row is found under the identifier that the answer was stored with.
  have named : row.external_request_id = bridgeRequest envelope :=
    congrArg Answer.external_request_id same
  exact ⟨row, named ▸ Table.find?_of_mem there, congrArg Answer.request_sha256 same,
    congrArg Answer.work_id same⟩

/-- The payload of an envelope can be told from what it asks for. -/
theorem payload_of_content {one two : List (String × Json)}
    (first : Json.held ((Json.obj one).getD "payload") = true)
    (second : Json.held ((Json.obj two).getD "payload") = true)
    (same : bridgeContent one = bridgeContent two) :
    Json.sorted ((Json.obj one).getD "payload") = Json.sorted ((Json.obj two).getD "payload") := by
  -- The content is an object of three members, of which the payload is one.
  have held (envelope : List (String × Json))
      (payload : Json.held ((Json.obj envelope).getD "payload") = true) :
      Json.held (.obj
        [("command_type", .str (upper (str ((Json.obj envelope).getD "command_type")))),
          ("scope", .str "IAC"), ("payload", (Json.obj envelope).getD "payload")]) = true := by
    rw [Json.held_obj]
    refine ⟨show (["command_type", "scope", "payload"] : List String).Nodup by decide, ?_⟩
    simp only [List.forall_mem_cons, List.not_mem_nil, false_implies, implies_true, and_true]
    exact ⟨rfl, rfl, payload⟩
  have contents := Json.sorted_of_canonical (held one first) (held two second) same
  have members := congrArg (Json.get? "payload") contents
  rw [Json.get?_sorted, Json.get?_sorted] at members
  exact Option.some.inj members

/-- What a receiver of the bridge guarantees. -/
structure BridgeAdmits : Prop where
  /-- Work is created only for an envelope that the contract admits. -/
  admits : ∀ (envelope : List (String × Json)) (world : World),
    ((receiver.accept envelope).run world).2.db.work_queue ≠ world.db.work_queue →
      ∃ command payload, Admitted envelope command payload
  /-- A refusal leaves the work and the requests as they were. -/
  refuses : ∀ (envelope : List (String × Json)) (world changed : World) (error : Error),
    (receiver.accept envelope).run world = (.error error, changed) →
      changed.db.work_queue = world.db.work_queue ∧
        changed.db.command_requests = world.db.command_requests ∧
          changed.db.coding_delivery_requests = world.db.coding_delivery_requests
  /-- An envelope that was accepted is answered with the same work again, and nothing is created. -/
  replays : ∀ (envelope : List (String × Json)) (world changed later : World) (reply : BridgeReply),
    (receiver.accept envelope).run world = (.ok reply, changed) →
      BridgeHistory receiver changed later → ∃ status,
        (receiver.accept envelope).run later = (.ok { reply with status := status }, later)
  /--
  Another payload under the same request ID is refused: one that is not the same up to the order of
  its members, as long as the two contents have different digests where they differ.
  -/
  refusesReuse : ∀ (envelope other : List (String × Json)) (world changed later : World)
    (reply : BridgeReply), (receiver.accept envelope).run world = (.ok reply, changed) →
      BridgeHistory receiver changed later →
        (Json.obj other).getD "request_id" = (Json.obj envelope).getD "request_id" →
          Json.held ((Json.obj envelope).getD "payload") = true →
            Json.held ((Json.obj other).getD "payload") = true →
              Json.sorted ((Json.obj other).getD "payload") ≠
                Json.sorted ((Json.obj envelope).getD "payload") →
                (Platform.sha256 (bridgeContent other) = Platform.sha256 (bridgeContent envelope) →
                  bridgeContent other = bridgeContent envelope) →
                  ∃ error, (receiver.accept other).run later = (.error error, later)

/-- The bridge lets through what its contract allows, and each request once. -/
theorem bridge_admission : BridgeAdmits receiver where
  admits envelope world created := by
    rcases accept_cases receiver envelope world with
      ⟨error, changed, ran, same⟩ | ⟨command, payload, _, _, admitted, _⟩
    · rw [ran] at created
      exact absurd same.work created
    · exact ⟨command, payload, admitted⟩
  refuses envelope world changed error ran := by
    rcases accept_cases receiver envelope world with
      ⟨_, _, refused, same⟩ | ⟨_, _, _, _, _, accepted, _⟩
    · rw [ran] at refused
      cases refused
      exact ⟨same.work, same.commands, same.deliveries⟩
    · rw [ran] at accepted
      cases accepted
  replays envelope world changed later reply ran history := by
    rcases accept_cases receiver envelope world with
      ⟨_, _, refused, _⟩ | ⟨command, payload, submission, _, admitted, accepted, _, known⟩
    · rw [ran] at refused
      cases refused
    rw [ran] at accepted
    cases accepted
    have checked := (checkEnvelope_iff _ _ _).mpr admitted
    -- The command passes again what it passed before.
    have passes : CommandPasses receiver.gateway (bridgeRequest envelope) command payload := by
      by_contra fails
      obtain ⟨error, refused⟩ := submit_refused fails world
      rw [run_accept, checked] at ran
      dsimp only at ran
      rw [refused] at ran
      cases ran
    have lasting := known.drift history.lasts
    obtain ⟨row, found, content, work⟩ := found_of_remembered lasting
    obtain ⟨status, again⟩ := @run_deduplicated receiver.gateway later _ lasting
    refine ⟨status, ?_⟩
    rw [run_accept, checked]
    dsimp only
    rw [submit_found passes found, digest_admitted admitted, content, if_neg (not_not.mpr rfl), work,
      show (receiver.gateway.deduplicated submission.work_id).run later = _ from again]
    rfl
  refusesReuse envelope other world changed later reply ran history named first second different
      collisionFree := by
    rcases accept_cases receiver envelope world with
      ⟨_, _, refused, _⟩ | ⟨_, _, submission, _, admitted, accepted, _, known⟩
    · rw [ran] at refused
      cases refused
    rw [ran] at accepted
    cases accepted
    obtain ⟨row, found, content, -⟩ := found_of_remembered (known.drift history.lasts)
    rw [run_accept]
    cases checked : checkEnvelope other with
    | error error => exact ⟨error, rfl⟩
    | ok both =>
      obtain ⟨command, payload⟩ := both
      have others := (checkEnvelope_iff _ _ _).mp checked
      dsimp only
      by_cases passes : CommandPasses receiver.gateway (bridgeRequest other) command payload
      · have same : bridgeRequest other = bridgeRequest envelope := by
          rw [bridgeRequest, bridgeRequest, named]
        have apart : row.request_sha256 ≠ requestDigest (upper command) "IAC" payload := by
          rw [content, digest_admitted others]
          exact fun equal => different
            (payload_of_content second first (collisionFree equal.symm))
        rw [submit_found passes (by rwa [same]), if_pos apart]
        exact ⟨_, rfl⟩
      · obtain ⟨error, refused⟩ := submit_refused passes later
        rw [refused]
        exact ⟨error, rfl⟩

end Receiver

end Bridge

section Examples

open Sample

/-- A goal, as the payload of an envelope. -/
def Sample.goalPayload (name : String) : Json := .obj [("name", .str name), ("success_metric", .str "one")]

/-- The content of the request for a goal. -/
def Sample.goalRequest (name : String) : Json :=
  .obj [("command_type", .str "CREATE_IAC_GOAL"), ("payload", goalPayload name), ("scope", .str "IAC")]

/-- A platform that knows the digests of two goals, and of the requests for them. -/
local instance bridgePlatform : Platform := platform
  [((goalPayload "Goal").canonical, "91ee2bfca46fa473edfba2a6e2fdd171000d164881e2aaa92b57a038971f4c57"),
    ((goalRequest "Goal").canonical,
      "ee658b7f91476f81138a48165b8eecd49de2dbfb66d8cb607ec2846c81f9effe"),
    ((goalPayload "Other").canonical, "5fa4085e1be4b959e73cad7cc674eebadd1d1b96f23186cfbbab52b4b26cfa87"),
    ((goalRequest "Other").canonical,
      "207c0d0a6d1d69a1ce56e1410c136bad998d27d0b1f312bbd626f9eca5ce6cde")]

/-- An envelope with a goal, issued at some time. -/
def Sample.goalEnvelope (name : String) : List (String × Json) :=
  [("contract_version", .str VERSION), ("request_id", .str "request-1"), ("issued_at", .str "now"),
    ("target", .str "IAC"), ("command_type", .str "create_iac_goal"), ("payload", goalPayload name),
    ("personal_data_included", .bool false),
    ("payload_sha256", .str (Platform.sha256 (Json.canonical (goalPayload name))))]

/-- A receiver for the database of IAC. -/
def Sample.bridgeReceiver : IACBridgeReceiver := ⟨⟨.IAC⟩⟩

/-- The world behind the first delivery of an envelope. -/
def Sample.admitted : World :=
  ((bridgeReceiver.accept (goalEnvelope "Goal")).run (world Database.empty)).2

/--
An envelope that was accepted is answered with the same work an hour later, and another payload
under its request ID is refused.
-/
theorem bridge_admission_twice : ∃ reply status error,
    (bridgeReceiver.accept (goalEnvelope "Goal")).run (world Database.empty) =
      (.ok reply, admitted) ∧
    (bridgeReceiver.accept (goalEnvelope "Goal")).run (hourPasses admitted) =
      (.ok { reply with status := status }, hourPasses admitted) ∧
    (bridgeReceiver.accept (goalEnvelope "Other")).run (hourPasses admitted) =
      (.error error, hourPasses admitted) := by
  have known : ((bridgeReceiver.accept (goalEnvelope "Goal")).run
      (world Database.empty)).1.toOption.isSome = true := by
    decide +kernel
  -- The first envelope is admitted, and time passes before it comes again.
  cases ran : (bridgeReceiver.accept (goalEnvelope "Goal")).run (world Database.empty) with
  | mk outcome changed =>
    rw [ran] at known
    cases outcome with
    | error error => cases known
    | ok reply =>
      have same : changed = admitted := (congrArg Prod.snd ran).symm
      subst same
      have history : BridgeHistory bridgeReceiver admitted (hourPasses admitted) :=
        .drift (.refl admitted) ⟨fun _ there => there, fun _ some_ => some_⟩
      obtain ⟨status, again⟩ := (bridge_admission bridgeReceiver).replays (goalEnvelope "Goal") _ _ _
        reply ran history
      obtain ⟨error, refused⟩ := (bridge_admission bridgeReceiver).refusesReuse (goalEnvelope "Goal")
        (goalEnvelope "Other") _ _ _ reply ran history rfl (by decide +kernel) (by decide +kernel)
        (by decide +kernel) fun equal => absurd equal (by decide +kernel)
      exact ⟨reply, status, error, rfl, again, refused⟩

end Examples

end SeanOs
