import SeanOs.Lib.Trace
import SeanOs.Sample
import SeanOs.Store.RecordWrites

/-! The versions of one record, over all interleavings of the calls that update it. -/

namespace SeanOs

open Atomic

/-- The row of a record behind a change of its payload. -/
theorem record?_setPayload (id : String) (payload : Json) (stamp : String) (world : World) :
    (setPayload id payload stamp world).db.record? id = (world.db.record? id).map fun row =>
      { row with payload := payload, updated_at := stamp, version := row.version + 1 } := by
  have kept : ((fun row : RecordRow => row.id == id) ∘ fun row => if row.id = id then
      { row with payload := payload, updated_at := stamp, version := row.version + 1 } else row) =
        fun row => row.id == id := by
    funext row
    dsimp only [Function.comp]
    split <;> rfl
  rw [Database.record?, setPayload, List.find?_map, kept, Database.record?]
  -- The row that is found is one whose identifier is the one that was looked for.
  cases found : world.db.records.find? (·.id == id) with
  | none => rfl
  | some row =>
    have same : row.id = id := by simpa using List.find?_some found
    rw [Option.map_some, Option.map_some, if_pos same]

/-- A call that updates a record, with what it was called with. -/
structure RecordUpdate where
  store : Store
  actor : Actor
  payload : List (String × Json)
  expected_version : ℤ
  correlation_id : Option String

/-- The program of a call that updates a record. -/
def RecordUpdate.program [Platform] (record_id : String) (call : RecordUpdate) : Op ℤ :=
  update_record call.store call.actor record_id call.payload call.expected_version
    call.correlation_id

/-- How far a call that updates a record has come. -/
inductive UpdatePhase where
  /-- It has not written. -/
  | before
  /-- It has written the next version. -/
  | wrote
  deriving DecidableEq

/-- A step that writes the next version of a record, as a call asked for it. -/
def Rewrites (id : String) (call : RecordUpdate) (world changed : World) : Prop :=
  ∃ row stamp, world.db.record? id = some row ∧ (row.version : ℤ) = call.expected_version ∧
    changed.db.record? id = some { row with
      payload := (Json.obj call.payload).sorted
      updated_at := stamp
      version := row.version + 1 }

/-- A step that leaves a record as it is. -/
def SameRecord (id : String) (world changed : World) : Prop :=
  changed.db.record? id = world.db.record? id

/-- The moves of a call that updates a record. -/
inductive UpdateMove (id : String) (call : RecordUpdate) :
    UpdatePhase → Label → World → World → UpdatePhase → Prop
  | left {phase : UpdatePhase} {label : Label} {world changed : World}
      (same : SameRecord id world changed) : UpdateMove id call phase label world changed phase
  | wrote {label : Label} {world changed : World} (rewrites : Rewrites id call world changed) :
      UpdateMove id call .before label world changed .wrote

/-- How a call that updates a record ends: by the version it wrote, or by an error without one. -/
def UpdateEnds (call : RecordUpdate) : UpdatePhase → Except Error ℤ → Prop
  | .before, outcome => ∃ error, outcome = .error error
  | .wrote, outcome => outcome = .ok (call.expected_version + 1)

/-- The version of a record, if it is stored. -/
def World.recordVersion (id : String) (world : World) : Option ℕ :=
  (world.db.record? id).map (·.version)

section History

variable {κ : Type} {id : String} {calls : κ → RecordUpdate} {first : RecordRow}

/-- The callers that gave a record another version, in the order in which they did. -/
def writers (id : String) (taken : List (Calls.Event κ World Label)) : List κ :=
  (taken.filter fun step => step.before.recordVersion id ≠ step.after.recordVersion id).map
    (·.caller)

/-- The payload the last of some writers leaves. -/
def lastPayload (calls : κ → RecordUpdate) (first : RecordRow) (writers : List κ) : Json :=
  writers.getLast?.elim first.payload fun caller => (Json.obj (calls caller).payload).sorted

theorem lastPayload_append (calls : κ → RecordUpdate) (first : RecordRow) (writers : List κ)
    (caller : κ) :
    lastPayload calls first (writers ++ [caller]) = (Json.obj (calls caller).payload).sorted := by
  rw [lastPayload, List.getLast?_concat, Option.elim_some]

/-- The history of a record from a first row on, over the steps that were taken. -/
structure VersionHistory (id : String) (calls : κ → RecordUpdate) (first : RecordRow)
    (taken : List (Calls.Event κ World Label)) (last : World) : Prop where
  /-- No caller wrote two versions. -/
  once : (writers id taken).Nodup
  /-- Each version was written by a call that expected the one before it. -/
  expected : ∀ (written : ℕ) (caller : κ), (writers id taken)[written]? = some caller →
    (calls caller).expected_version = first.version + written
  /-- The versions are consecutive, and the payload is that of the last writer. -/
  stored : ∃ stamp, last.db.record? id = some { first with
    payload := lastPayload calls first (writers id taken)
    updated_at := stamp
    version := first.version + (writers id taken).length }
  /-- Without a writer, the first row is still there. -/
  untouched : writers id taken = [] → last.db.record? id = some first
  /-- Each step writes the next version as its caller asked for it, or leaves the record as it is. -/
  steps : ∀ step ∈ taken, Rewrites id (calls step.caller) step.before step.after ∨
    SameRecord id step.before step.after

variable {taken : List (Calls.Event κ World Label)} {world changed : World}

/-- A step that leaves the record as it is has no writer. -/
theorem writers_same (taken : List (Calls.Event κ World Label)) (caller : κ) (label : Label)
    (same : SameRecord id world changed) :
    writers id (taken ++ [⟨caller, label, world, changed⟩]) = writers id taken := by
  have kept : world.recordVersion id = changed.recordVersion id := by
    rw [World.recordVersion, World.recordVersion, same]
  rw [writers, writers, List.filter_append, List.map_append,
    List.filter_cons_of_neg (by simpa using kept), List.filter_nil, List.map_nil, List.append_nil]

/-- The caller of a step that writes the next version is the last writer. -/
theorem writers_rewrites {call : RecordUpdate} (taken : List (Calls.Event κ World Label)) (caller : κ)
    (label : Label) (rewrites : Rewrites id call world changed) :
    writers id (taken ++ [⟨caller, label, world, changed⟩]) = writers id taken ++ [caller] := by
  obtain ⟨row, stamp, found, _, written⟩ := rewrites
  have other : world.recordVersion id ≠ changed.recordVersion id := by
    simp [World.recordVersion, found, written]
  rw [writers, writers, List.filter_append, List.map_append,
    List.filter_cons_of_pos (by simpa using other), List.filter_nil, List.map_singleton]

namespace VersionHistory

/-- A record starts without writers. -/
theorem start (stored : world.db.record? id = some first) :
    VersionHistory id calls first [] world where
  once := List.nodup_nil
  expected := nofun
  stored := ⟨first.updated_at, stored⟩
  untouched _ := stored
  steps := nofun

/-- A record that is not touched keeps its history. -/
theorem same {label : Label} {caller : κ} (history : VersionHistory id calls first taken world)
    (same : SameRecord id world changed) :
    VersionHistory id calls first (taken ++ [⟨caller, label, world, changed⟩]) changed := by
  have kept := writers_same taken caller label same
  refine ⟨?_, ?_, ?_, ?_, ?_⟩
  · rw [kept]
    exact history.once
  · rw [kept]
    exact history.expected
  · rw [kept, same]
    exact history.stored
  · rw [kept, same]
    exact history.untouched
  · intro step there
    rcases List.mem_append.mp there with there | there
    · exact history.steps step there
    · cases List.mem_singleton.mp there
      exact .inr same

/-- A caller that has not written yet goes on with the history by the next version. -/
theorem rewrites {label : Label} {caller : κ} (history : VersionHistory id calls first taken world)
    (fresh : caller ∉ writers id taken) (rewrites : Rewrites id (calls caller) world changed) :
    VersionHistory id calls first (taken ++ [⟨caller, label, world, changed⟩]) changed := by
  have longer := writers_rewrites taken caller label rewrites
  obtain ⟨row, stamp, found, matched, written⟩ := rewrites
  obtain ⟨stamp_, stored⟩ := history.stored
  rw [found] at stored
  cases stored
  refine ⟨?_, ?_, ?_, ?_, ?_⟩
  · rw [longer]
    exact history.once.append (List.nodup_singleton _) (List.disjoint_singleton.mpr fresh)
  · intro version other at_
    rw [longer] at at_
    -- The last writer expected the version that was stored, and the others are as before.
    rcases Nat.lt_or_ge version (writers id taken).length with below | above
    · rw [List.getElem?_append_left below] at at_
      exact history.expected version other at_
    · rw [List.getElem?_append_right above, List.getElem?_singleton] at at_
      obtain ⟨reached, same⟩ : version - (writers id taken).length = 0 ∧ caller = other := by
        simpa using at_
      rw [← same, ← matched]
      push_cast
      omega
  · refine ⟨stamp, ?_⟩
    rw [written, longer, lastPayload_append, List.length_append, List.length_singleton, Nat.add_assoc]
  · intro none
    rw [longer] at none
    simp at none
  · intro step there
    rcases List.mem_append.mp there with there | there
    · exact history.steps step there
    · cases List.mem_singleton.mp there
      exact .inl ⟨_, stamp, found, matched, written⟩

/-- What the outside leaves as it is keeps its history. -/
theorem drift (history : VersionHistory id calls first taken world)
    (same : SameRecord id world changed) : VersionHistory id calls first taken changed where
  once := history.once
  expected := history.expected
  stored := by
    rw [same]
    exact history.stored
  untouched none := by
    rw [same]
    exact history.untouched none
  steps := history.steps

end VersionHistory

/-- The history of a record, whose writers are the calls that have come to write. -/
structure Rewritten (id : String) (calls : κ → RecordUpdate) (first : RecordRow)
    (taken : List (Calls.Event κ World Label)) (world : World) (phases : κ → UpdatePhase) : Prop where
  history : VersionHistory id calls first taken world
  wrote : ∀ caller, phases caller = .wrote ↔ caller ∈ writers id taken

namespace Rewritten

variable {phases : κ → UpdatePhase}

theorem drift (recorded : Rewritten id calls first taken world phases)
    (same : SameRecord id world changed) : Rewritten id calls first taken changed phases :=
  ⟨recorded.history.drift same, recorded.wrote⟩

/-- Each move of a call goes on with the history. -/
theorem move [DecidableEq κ] {caller : κ} {label : Label} {later : UpdatePhase}
    (recorded : Rewritten id calls first taken world phases)
    (move : UpdateMove id (calls caller) (phases caller) label world changed later) :
    Rewritten id calls first (taken ++ [⟨caller, label, world, changed⟩]) changed
      (Function.update phases caller later) := by
  generalize at_ : phases caller = phase at move
  cases move with
  | left same =>
    refine ⟨recorded.history.same same, fun other => ?_⟩
    rw [← at_, Function.update_eq_self, writers_same taken caller label same]
    exact recorded.wrote other
  | wrote rewrites =>
    -- A call that has not written yet is no writer, and now it is the last one.
    have fresh : caller ∉ writers id taken := by
      rw [← recorded.wrote, at_]
      nofun
    refine ⟨recorded.history.rewrites fresh rewrites, fun other => ?_⟩
    rw [writers_rewrites taken caller label rewrites, List.mem_append, List.mem_singleton,
      ← recorded.wrote other]
    by_cases same : other = caller
    · subst same
      rw [Function.update_self]
      exact ⟨fun _ => .inr rfl, fun _ => rfl⟩
    · rw [Function.update_of_ne same]
      exact ⟨.inl, fun there => there.resolve_right same⟩

end Rewritten

end History

section Calls

variable [Platform] {id : String} {call : RecordUpdate}

omit [Platform] in
/-- A part of a call that only logs does not leave its phase. -/
theorem follows_logging {α : Type} {program : Op α} {phase : UpdatePhase}
    (logging : Logging program) :
    Prog.Follows (fun _ _ => True) (UpdateMove id call) (fun last _ => last = phase) phase program := by
  refine Prog.Keeps.follows logging (fun _ _ _ _ logged => .left ?_) fun _ => rfl
  obtain ⟨audit_log, drawn, rfl⟩ := logged
  rfl

/-- A call writes one version at most, the one it expects, and returns if and only if it has. -/
theorem follows_update_record (id : String) (call : RecordUpdate) :
    Prog.Follows (fun _ _ => True) (UpdateMove id call) (UpdateEnds call) .before
      (call.program id) := by
  have refused {action : Op Unit} {error : Error} (logging : Logging action) :
      Prog.Follows (fun _ _ => True) (UpdateMove id call) (UpdateEnds call) .before
        (action >>= fun _ => (throw error : Op ℤ)) := by
    refine (follows_logging logging).bind (fun last _ same => ?_) fun last raised same => ?_
    · exact same ▸ ⟨error, rfl⟩
    · exact same ▸ ⟨raised, rfl⟩
  rw [RecordUpdate.program, update_record]
  dsimp only
  split
  · exact refused (logging_audit _ _ _ _ _ _ _)
  -- Up to the write the call only reads, checks and logs.
  refine (follows_logging (logging_get_record _ _ _)).bind (fun last current same => ?_)
    fun last error same => same ▸ ⟨error, rfl⟩
  subst same
  refine (follows_logging (logging_lift _)).bind (fun last _ same => ?_)
    fun last error same => same ▸ ⟨error, rfl⟩
  subst same
  refine .read_bind fun clock _ => ⟨.before, .left rfl, ?_⟩
  have written : Prog.Follows (fun _ _ => True) (UpdateMove id call)
      (fun last outcome => outcome = .ok (decide (last = .wrote))) .before
      (replacePayload id (Json.obj call.payload).sorted clock.clock.utc.isoformat
        call.expected_version) := by
    refine .transact fun world _ => ?_
    split
    next matched =>
      refine ⟨.wrote, .wrote ?_, rfl⟩
      cases found : world.db.record? id with
      | none => simp [found] at matched
      | some row =>
        rw [found, Option.any_some, beq_iff_eq] at matched
        refine ⟨row, clock.clock.utc.isoformat, found, matched, ?_⟩
        dsimp only
        rw [record?_setPayload, found, Option.map_some]
    next => exact ⟨.before, .left rfl, rfl⟩
  refine written.bind (fun last value wrote => ?_) fun last error raised => by cases raised
  cases wrote
  -- What was written decides about the answer.
  cases last with
  | before => exact refused (logging_audit _ _ _ _ _ _ _)
  | wrote => exact .write_bind fun _ _ => ⟨.wrote, .left rfl, rfl⟩

/-- How a call ends: with the version it wrote, or with an error where it is no writer. -/
def UpdateAnswers {κ : Type} (first : RecordRow) (writers : List κ) (caller : κ)
    (outcome : Except Error ℤ) : Prop :=
  (∃ written : ℕ, writers[written]? = some caller ∧ outcome = .ok (first.version + written + 1)) ∨
    caller ∉ writers ∧ ∃ error, outcome = .error error

/--
No update of a record is lost.

The versions are consecutive, and each of them was written by one call, which expected the version
before it and returns its own; every other call raises and left the record as it was.
-/
theorem no_update_lost {κ : Type} [DecidableEq κ] (id : String) (calls : κ → RecordUpdate)
    {world : World} {first : RecordRow} (stored : world.db.record? id = some first)
    {taken : List (Calls.Event κ World Label)} {last : Calls κ World Label Error ℤ}
    (traced : Calls.Trace (SameRecord id) ⟨world, fun caller => (calls caller).program id⟩ taken last) :
    VersionHistory id calls first taken last.shared ∧
      ∀ caller outcome, (last.running caller).ended = some outcome →
        UpdateAnswers first (writers id taken) caller outcome := by
  have initial : Rewritten id calls first [] world fun _ => .before :=
    ⟨.start stored, fun caller => ⟨nofun, nofun⟩⟩
  obtain ⟨phases, recorded, follows⟩ := traced.invariant initial
    (fun caller => follows_update_record id (calls caller))
    (fun _ _ _ _ _ _ _ recorded move => recorded.move move)
    fun _ _ _ _ recorded drift => recorded.drift drift
  refine ⟨recorded.history, fun caller outcome ended => ?_⟩
  have answer := (follows caller).of_ended ended
  cases phase : phases caller with
  | before =>
    rw [phase] at answer
    refine .inr ⟨fun there => ?_, answer⟩
    have wrote := (recorded.wrote caller).mpr there
    rw [phase] at wrote
    cases wrote
  | wrote =>
    rw [phase] at answer
    obtain ⟨written, at_⟩ := List.getElem?_of_mem ((recorded.wrote caller).mp phase)
    refine .inl ⟨written, at_, ?_⟩
    rw [answer, recorded.history.expected written caller at_]

end Calls

section Example

/-- A record in its first version. -/
def Sample.note : RecordRow where
  id := "note"
  entity_type := .KNOWLEDGE
  owner_scope := .IAC
  confidentiality := "EXECUTIVE"
  portable_on_sale := false
  source := "sean"
  source_locator := none
  created_by := "sean"
  created_at := "2030-01-01T00:00:00+00:00"
  updated_at := "2030-01-01T00:00:00+00:00"
  effective_at := "2030-01-01T00:00:00+00:00"
  expires_at := none
  confidence := 1
  permitted_principals := ["sean"]
  retention_rule := "RETAIN"
  payload := .obj []
  version := 1

/-- The updates of two workers that have both read the first version. -/
def Sample.rewrite (caller : Bool) : RecordUpdate where
  store := ⟨.DEVELOPMENT⟩
  actor := worker
  payload := [("by", .str (workerName caller))]
  expected_version := 1
  correlation_id := none

local instance notedPlatform : Platform := Sample.platform []

/-- A world with that record. -/
def Sample.noted : World := world { Database.empty with records := [note] }

/-- The steps of the two workers, in turn until both have ended. -/
def Sample.race : List (Calls.Event Bool World Label) × Calls Bool World Label Error ℤ :=
  Calls.play (List.replicate 6 [false, true]).flatten
    ⟨noted, fun caller => (rewrite caller).program "note"⟩

theorem no_update_lost_in_a_race :
    VersionHistory "note" Sample.rewrite Sample.note Sample.race.1 Sample.race.2.shared ∧
      UpdateAnswers Sample.note (writers "note" Sample.race.1) false (.ok 2) ∧
        UpdateAnswers Sample.note (writers "note" Sample.race.1) true
          (.error (.validation "Version conflict: reload the record before updating")) := by
  have ended : (Sample.race.2.running false).ended = some (.ok 2) ∧
      (Sample.race.2.running true).ended =
        some (.error (.validation "Version conflict: reload the record before updating")) := by
    decide +kernel
  have stored : Sample.noted.db.record? "note" = some Sample.note := rfl
  have traced : Calls.Trace (SameRecord "note")
      ⟨Sample.noted, fun caller => (Sample.rewrite caller).program "note"⟩ Sample.race.1
      Sample.race.2 := .play (List.replicate 6 [false, true]).flatten .start
  have lost := no_update_lost "note" Sample.rewrite stored traced
  exact ⟨lost.1, lost.2 false _ ended.1, lost.2 true _ ended.2⟩

end Example

end SeanOs
