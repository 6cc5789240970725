import SeanOs.Integrations
import SeanOs.Sample
import SeanOs.Store.Ownership

/-! Imports of artifacts by any number of callers at once: what all of them are answered agrees. -/

namespace SeanOs

open Atomic

/-- Only the synthetic import is ever open. -/
def World.GateShut (world : World) : Prop :=
  ∀ row ∈ world.db.connector_config, row.enabled = true →
    row.connector_name = "CLAUDE_IMPORT" ∧ row.mode = "SYNTHETIC_ONLY"

section Evidence

variable [Platform]

/-- A record holds an artifact of some digest, as synthetic evidence that is not trusted. -/
structure RecordRow.Holds (digest : String) (record : RecordRow) : Prop where
  source : record.source = "claude-import"
  kind : record.entity_type = .KNOWLEDGE
  scope : record.owner_scope = .IAC
  content : ∃ content, record.payload.get? "content" = some (.str content) ∧
    Platform.sha256 content = digest
  synthetic : record.payload.get? "synthetic" = some (.bool true)
  trust : record.payload.get? "trust" = some (.str "UNTRUSTED_EVIDENCE")
  execution : record.payload.get? "instruction_execution" = some (.str "DISABLED")

/-- Every import names a record that holds its artifact. -/
def World.ImportsSound (world : World) : Prop :=
  ∀ row ∈ world.db.imported_artifacts.rows, ∃ record ∈ world.db.records,
    record.id = row.record_id ∧ record.Holds row.content_sha256

/-- What every step keeps of the imports: no row and no record of them is removed or changed. -/
structure ImportsKept (world changed : World) : Prop where
  rows : ∀ row ∈ world.db.imported_artifacts.rows, row ∈ changed.db.imported_artifacts.rows
  records : ∀ record ∈ world.db.records, record.source = "claude-import" →
    record ∈ changed.db.records
  gate : world.GateShut → changed.GateShut
  sound : world.ImportsSound → changed.ImportsSound

/-- What is known of the imports all along. -/
def World.Guarded (world : World) : Prop := world.GateShut ∧ world.ImportsSound

/-- A guarded world stays one while imports are kept. -/
theorem stable_guarded : Stable ImportsKept World.Guarded := fun _ _ there kept =>
  ⟨kept.gate there.1, kept.sound there.2⟩

variable {world changed : World}

/-- What leaves the imports, the records and the gate alone keeps the imports. -/
theorem ImportsKept.of_same
    (rows : changed.db.imported_artifacts = world.db.imported_artifacts)
    (records : changed.db.records = world.db.records)
    (gate : changed.db.connector_config = world.db.connector_config) : ImportsKept world changed where
  rows row there := by
    rw [rows]
    -- Neither the rows nor the gates have changed.
    exact there
  records record there _ := by
    rw [records]
    exact there
  gate shut := by
    rw [World.GateShut, gate]
    exact shut
  sound sound := by
    rw [World.ImportsSound, rows, records]
    exact sound

/-- What is only logged keeps the imports. -/
theorem ImportsKept.of_logged (logged : Logged world changed) : ImportsKept world changed :=
  .of_same (logged.same fun _ _ => rfl) (logged.same fun _ _ => rfl) (logged.same fun _ _ => rfl)

/-- A new record comes behind the others. -/
theorem ImportsKept.of_insertRecord (row : RecordRow) : ImportsKept world (insertRecord row world) where
  rows _ := id
  records record there _ := List.mem_append_left _ there
  gate := id
  sound sound entry there := by
    -- The record an entry names is still there, before the new one.
    obtain ⟨record, stored, named, holds⟩ := sound entry there
    exact ⟨record, List.mem_append_left _ stored, named, holds⟩

/-- The gate of a connector stays shut for all but the synthetic import. -/
theorem ImportsKept.of_setConnector {row : ConnectorRow}
    (shut : row.enabled = true → row.connector_name = "CLAUDE_IMPORT" ∧ row.mode = "SYNTHETIC_ONLY") :
    ImportsKept world (setConnector row world) where
  rows _ := id
  records _ there _ := there
  gate before other there enabled := by
    obtain ⟨earlier, stored, rfl⟩ := List.mem_map.mp there
    -- The gate is the one that is set, or one that was there.
    split
    next same =>
      rw [if_pos same] at enabled
      exact shut enabled
    next apart =>
      rw [if_neg apart] at enabled
      exact before earlier stored enabled
  sound := id

/-- An import comes behind the others where its record is stored. -/
theorem ImportsKept.of_addImport {row : ImportRow} {imported : Table fun row : ImportRow =>
      (row.connector_name, row.external_id)}
    (stored : ∃ record ∈ world.db.records, record.id = row.record_id ∧ record.Holds row.content_sha256)
    (inserted : world.db.imported_artifacts.insert? row = some imported) :
    ImportsKept world { world with db := { world.db with imported_artifacts := imported } } where
  rows other there := by
    rw [Table.rows_insert inserted]
    exact List.mem_append_left _ there
  records _ there _ := there
  gate := id
  sound sound other there := by
    rw [Table.rows_insert inserted] at there
    -- An entry was there before, or it is the new one.
    rcases List.mem_append.mp there with before | new
    · exact sound other before
    · rw [List.mem_singleton.mp new]
      exact stored

end Evidence

section Programs

variable [Platform] {known : World → Prop}

/-- What is only logged keeps what is known of the imports. -/
theorem relies_imports_logging {α : Type} {program : Op α} (logging : Logging program)
    (stable : Stable ImportsKept known) :
    Prog.Relies ImportsKept ImportsKept (fun _ => known) known program :=
  logging.relies stable (fun _ _ => .of_logged) fun _ _ => id

/-- A link leaves the imports alone. -/
theorem keeps_link_records {store : Store} {actor : Actor}
    (from_record_id relationship_type to_record_id : String) :
    Prog.Keeps (fun _ _ => True) (fun _ => ImportsKept)
      (link_records store actor from_record_id relationship_type to_record_id) := by
  -- All steps but one only log, and that one adds a link.
  have logs {α : Type} {program : Op α} (logging : Logging program) :
      Prog.Keeps (fun _ _ => True) (fun _ => ImportsKept) program :=
    logging.keeps fun _ _ _ => .of_logged
  rw [link_records]
  refine .bind (logs (logging_get_record _ _ _)) fun source => ?_
  refine .bind (logs (logging_get_record _ _ _)) fun target => ?_
  refine .bind (logs (logging_lift _)) fun _ => ?_
  split
  · exact .bind (logs (logging_audit _ _ _ _ _ _ _)) fun _ => trivial
  · refine .bind (logs logging_uuid4) fun id => .bind (logs (logging_read _ _)) fun stamp => ?_
    refine .bind (.transact fun world _ => ?_) fun _ => ?_
    · dsimp only
      split
      · exact .of_logged (.refl world)
      · exact .of_same rfl rfl rfl
    · exact .bind (logs (logging_audit _ _ _ _ _ _ _)) fun _ => trivial

/-- An actor that configures a connector keeps the gate shut for all but the synthetic import. -/
theorem relies_configure {actor : Actor} (connector_name : String) (enabled : Bool) (mode : String)
    (stable : Stable ImportsKept known) :
    Prog.Relies ImportsKept ImportsKept (fun _ => known) known
      (ConnectorGate.configure actor connector_name enabled mode) := by
  rw [ConnectorGate.configure]
  split
  · exact fun _ there => there
  dsimp only
  refine (relies_imports_logging (logging_read _ _) stable).bind (fun supported => ?_)
    fun _ _ there => there
  split
  · exact fun _ there => there
  split
  · exact fun _ there => there
  -- A gate is opened for the offline import only, by the checks before.
  next listed =>
    split
    · exact fun _ there => there
    next safe =>
      refine .of_keeps (.bind (.write fun world _ => ?_) fun _ => ?_) stable fun _ _ => id
      · refine .of_setConnector fun open_ => ?_
        rw [not_and, not_or, not_not] at safe
        obtain ⟨offline, named⟩ := safe open_
        rw [CONNECTOR_MODES, not_not, List.mem_cons, List.mem_singleton] at listed
        exact ⟨named, listed.resolve_right offline⟩
      · exact (logging_audit _ _ _ _ _ _ _).keeps fun _ _ _ => .of_logged

/-- How an import is answered: by the row of its artifact, whose content is the one of the envelope. -/
structure Answered (envelope : ImportEnvelope) (scope : String) (imported : Imported) (world : World) :
    Prop where
  synthetic : envelope.synthetic = true
  scope : scope = "IAC"
  digest : imported.content_sha256 = Platform.sha256 envelope.content
  row : ∃ row ∈ world.db.imported_artifacts.rows, row.connector_name = "CLAUDE_IMPORT" ∧
    row.external_id = envelope.external_id ∧ row.record_id = imported.record_id ∧
    row.content_sha256 = Platform.sha256 envelope.content

/-- An answer stays given while imports are kept. -/
theorem stable_answered (envelope : ImportEnvelope) (scope : String) (imported : Imported) :
    Stable ImportsKept (Answered envelope scope imported) := fun _ _ there kept => by
  obtain ⟨row, stored, named⟩ := there.row
  exact ⟨there.synthetic, there.scope, there.digest, row, kept.rows row stored, named⟩

/-- The artifact of a synthetic envelope is held by the record that its import asks for. -/
theorem holds_of_answers {envelope : ImportEnvelope} {scope : String} {actor : Actor} {row : RecordRow}
    (synthetic : envelope.synthetic = true) (own : scope = "IAC")
    (answers : row.Answers actor (ClaudeImportAdapter.artifactRequest envelope scope
      (Platform.sha256 envelope.content))) : row.Holds (Platform.sha256 envelope.content) := by
  subst own
  -- The payload of the record is the one that was asked for.
  have held (name : String) : row.payload.get? name = ((Json.obj (ClaudeImportAdapter.artifactRequest
      envelope "IAC" (Platform.sha256 envelope.content)).payload).get? name).map Json.sorted := by
    rw [answers.payload, Json.get?_sorted]
  refine ⟨answers.source, ?_, ?_, ⟨envelope.content, held _, rfl⟩, ?_, held _, held _⟩
  · exact (Option.some.inj ((show EntityType.read (upper "KNOWLEDGE") = some .KNOWLEDGE from
      rfl).symm.trans answers.kind)).symm
  · exact (Option.some.inj ((show Scope.read (upper "IAC") = some .IAC from
      rfl).symm.trans answers.scope)).symm
  · rw [← synthetic]
    exact held _

/-- What passes the gate while it is shut for all but the synthetic import is synthetic. -/
theorem relies_require_enabled (connector_name : String) (synthetic : Bool) :
    Prog.Relies ImportsKept ImportsKept
      (fun outcome world => world.Guarded ∧ (outcome = .ok () → synthetic = true)) World.Guarded
      (ConnectorGate.require_enabled connector_name synthetic) := by
  rw [ConnectorGate.require_enabled, select]
  refine .read_bind (fun world _ => .of_logged (.refl world)) (fun row world => world.Guarded ∧
    ∀ entry, row = some entry → entry.enabled = true → entry.mode = "SYNTHETIC_ONLY")
    (fun row world changed there kept => ⟨stable_guarded _ _ there.1 kept, there.2⟩)
    (fun world there => ⟨there, fun entry found open_ => ?_⟩) fun row => ?_
  · exact (there.1 entry (List.mem_of_find?_eq_some found) open_).2
  -- The gate is open in its mode, or the import is refused.
  · cases checked : ConnectorGate.refusal connector_name synthetic row with
    | error error => exact fun world there => ⟨there.1, fun same => by cases same⟩
    | ok value =>
      refine fun world there => ⟨there.1, fun _ => ?_⟩
      cases row with
      | none => cases checked
      | some entry =>
        rw [ConnectorGate.refusal] at checked
        split at checked
        · cases checked
        next closed =>
          have mode := there.2 entry rfl (by simpa using closed)
          split at checked
          · cases checked
          next passed => simpa [mode] using passed

/-- A look for a record by name changes nothing but the log. -/
theorem logging_get_named {store : Store} {actor : Actor} (value : Json) :
    Logging (get_named store actor value) := by
  refine Prog.Keeps.bind (logging_lift _) fun bound => ?_
  -- A name that is none is only logged.
  cases bound with
  | none => exact Prog.Keeps.bind (logging_audit _ _ _ _ _ _ _) fun _ => trivial
  | some record_id => exact logging_get_record store actor record_id

namespace ClaudeImportAdapter

variable (adapter : ClaudeImportAdapter)

/-- A look for the named project changes nothing but the log. -/
theorem logging_namedProject (envelope : ImportEnvelope) (scope : String) :
    Logging (adapter.namedProject envelope scope) := by
  rw [namedProject]
  -- Where no project is named there is nothing to look for.
  split
  · exact trivial
  · refine Prog.Keeps.bind (logging_get_named _) fun project => ?_
    split <;> exact trivial

/-- The row of an import is inserted for a record that is stored, unless there is one already. -/
theorem relies_addImport {row : ImportRow} (stable : Stable ImportsKept known)
    (stored : ∀ world, known world →
      ∃ record ∈ world.db.records, record.id = row.record_id ∧ record.Holds row.content_sha256) :
    Prog.Relies ImportsKept ImportsKept (fun outcome world => known world ∧
      (outcome = .ok () → row ∈ world.db.imported_artifacts.rows)) known (addImport row) := by
  -- The entry is written with its record there already, or the insertion fails.
  refine .transact (fun outcome world changed there kept => ?_) fun world there => ?_
  · exact ⟨stable _ _ there.1 kept, fun ended => kept.rows row (there.2 ended)⟩
  · split
    · exact ⟨.of_logged (.refl world), there, fun same => by cases same⟩
    next imported inserted =>
      have step := ImportsKept.of_addImport (stored world there) inserted
      refine ⟨step, stable _ _ there step, fun _ => ?_⟩
      rw [Table.rows_insert inserted]
      exact List.mem_append_right _ List.mem_cons_self

/-- An import whose record is stored is answered by the row that it inserts. -/
theorem relies_recordImport {envelope : ImportEnvelope} {scope record_id : String}
    (synthetic : envelope.synthetic = true) (own : scope = "IAC") (project : Option RecordRow) :
    Prog.Relies ImportsKept ImportsKept (fun outcome world => world.Guarded ∧
        ∀ imported, outcome = .ok imported → Answered envelope scope imported world)
      (fun world => world.Guarded ∧ ∃ record ∈ world.db.records,
        record.id = record_id ∧ record.Holds (Platform.sha256 envelope.content))
      (adapter.recordImport envelope (Platform.sha256 envelope.content) project record_id) := by
  have refused (error : Error) (world : World) (there : world.Guarded) :
      world.Guarded ∧ ∀ imported, (.error error : Except Error Imported) = .ok imported →
        Answered envelope scope imported world := ⟨there, fun imported same => by cases same⟩
  have kept : Stable ImportsKept fun world => world.Guarded ∧ ∃ record ∈ world.db.records,
      record.id = record_id ∧ record.Holds (Platform.sha256 envelope.content) := by
    rintro world changed ⟨there, record, stored, named, holds⟩ kept
    exact ⟨stable_guarded _ _ there kept, record, kept.records record stored holds.source, named, holds⟩
  refine (relies_imports_logging (logging_read _ _) kept).bind (fun stamp => ?_)
    fun error world there => refused error world there.1
  refine (relies_addImport kept fun world there => there.2).bind (fun _ => ?_)
    fun error world ended => refused error world ended.1.1
  -- From here on the answer is known, whatever else the call still does.
  have answered : Stable ImportsKept fun world => world.Guarded ∧
      Answered envelope scope ⟨record_id, Platform.sha256 envelope.content, false⟩ world :=
    fun world changed there moved =>
      ⟨stable_guarded _ _ there.1 moved, stable_answered _ _ _ _ _ there.2 moved⟩
  have linked : Prog.Keeps (fun _ _ => True) (fun _ => ImportsKept)
      (adapter.linkProject record_id project) := by
    cases project with
    | none => exact trivial
    | some project => exact .bind (keeps_link_records _ _ _) fun _ => trivial
  refine ((Prog.Relies.of_keeps linked answered fun _ _ => id).bind (fun _ => ?_)
    fun error world there => refused error world there.1).strengthen fun world ended =>
      ⟨ended.1.1, ?_⟩
  · refine (relies_imports_logging (logging_audit _ _ _ _ _ _ _) answered).bind (fun _ => ?_)
      fun error world there => refused error world there.1
    rintro world ⟨there, holds⟩
    refine ⟨there, fun imported same => ?_⟩
    cases same
    exact holds
  · exact ⟨synthetic, own, rfl, _, ended.2 rfl, rfl, rfl, rfl, rfl⟩

/-- An import relies on no more than that the others keep what is imported. -/
theorem relies_ingest (envelope : ImportEnvelope) (scope : String) :
    Prog.Relies ImportsKept ImportsKept (fun outcome world => world.Guarded ∧
        ∀ imported, outcome = .ok imported → Answered envelope scope imported world)
      World.Guarded (adapter.ingest envelope scope) := by
  have refused (error : Error) (world : World) (there : world.Guarded) :
      world.Guarded ∧ ∀ imported, (.error error : Except Error Imported) = .ok imported →
        Answered envelope scope imported world := ⟨there, fun imported same => by cases same⟩
  refine (relies_require_enabled "CLAUDE_IMPORT" envelope.synthetic).bind (fun _ => ?_)
    fun error world ended => refused error world ended.1
  by_cases synthetic : envelope.synthetic = true
  swap
  · exact .absurd fun world ended => synthetic (ended.2 rfl)
  refine Prog.Relies.strengthen ?_ fun world ended => ended.1
  refine relies_lift_bind (fun _ checked => ?_) refused
  have own : scope = "IAC" := by
    rw [checkEnvelope] at checked
    split at checked
    · cases checked
    next named => exact not_not.mp named
  refine (relies_imports_logging (adapter.logging_namedProject envelope scope) stable_guarded).bind
    (fun project => ?_) refused
  rw [select]
  refine .read_bind (fun world _ => .of_logged (.refl world)) (fun found world => world.Guarded ∧
      ∀ row, found = some row → row ∈ world.db.imported_artifacts.rows ∧
        (row.connector_name, row.external_id) = ("CLAUDE_IMPORT", envelope.external_id))
    (fun found world changed there kept => ⟨stable_guarded _ _ there.1 kept, fun row same =>
      ⟨kept.rows row (there.2 row same).1, (there.2 row same).2⟩⟩)
    (fun world there => ⟨there, fun row found => ⟨Table.mem_of_find? found, ?_⟩⟩) fun found => ?_
  · have named := Table.key_of_find? found
    exact named
  cases found with
  | some existing =>
    dsimp only
    split
    · exact fun world there => refused _ world there.1
    next unchanged =>
      rintro world ⟨there, held⟩
      obtain ⟨stored, named⟩ := held existing rfl
      rw [Prod.mk.injEq] at named
      refine ⟨there, fun imported same => ?_⟩
      cases same
      exact ⟨synthetic, own, rfl, existing, stored, named.1, named.2, rfl, not_not.mp unchanged⟩
  | none =>
    refine Prog.Relies.strengthen ?_ fun world there => there.1
    -- The record of the artifact is stored from its creation on.
    have created : Prog.Relies ImportsKept ImportsKept (fun outcome world => world.Guarded ∧
        ∀ id, outcome = .ok id → ∃ row : RecordRow, row.id = id ∧
          row.Answers adapter.actor (artifactRequest envelope scope (Platform.sha256 envelope.content)) ∧
          row ∈ world.db.records ∧ row.source = "claude-import") World.Guarded
        (create_record adapter.store adapter.actor
          (artifactRequest envelope scope (Platform.sha256 envelope.content))) :=
      relies_create_record stable_guarded (fun _ _ => .of_logged) (fun _ _ => id)
        (fun row world changed there kept => ⟨kept.records row there.1 there.2, there.2⟩)
        fun row world _ answers _ _ =>
          ⟨.of_insertRecord row, List.mem_append_right _ List.mem_cons_self, answers.source⟩
    refine created.bind (fun record_id => ?_) fun error world ended => refused error world ended.1
    refine (adapter.relies_recordImport synthetic own project).strengthen fun world ended => ?_
    obtain ⟨row, named, answers, stored, _⟩ := ended.2 record_id rfl
    exact ⟨ended.1, row, stored, named, holds_of_answers synthetic own answers⟩

end ClaudeImportAdapter

end Programs

/-- An import of an artifact, or a change of the gate before it. -/
inductive ImportCall where
  | ingest (adapter : ClaudeImportAdapter) (envelope : ImportEnvelope) (scope : String)
  | configure (actor : Actor) (connector_name : String) (enabled : Bool) (mode : String)

section Runs

variable [Platform]

/-- The program of a call, with the answer of an import. -/
def ImportCall.program : ImportCall → Op (Option Imported)
  | .ingest adapter envelope scope => do
    let imported ← adapter.ingest envelope scope
    return some imported
  | .configure actor connector_name enabled mode => do
    ConnectorGate.configure actor connector_name enabled mode
    return none

/-- A call has returned the answer to an import. -/
def Answers {κ : Type} (calls : κ → ImportCall) (last : Calls κ World Label Error (Option Imported))
    (caller : κ) (envelope : ImportEnvelope) (scope : String) (imported : Imported) : Prop :=
  (∃ adapter, calls caller = .ingest adapter envelope scope) ∧
    (last.running caller).ended = some (.ok (some imported))

/-- What a call relies on, and what is known of its answer. -/
theorem ImportCall.relies (call : ImportCall) :
    Prog.Relies ImportsKept ImportsKept (fun outcome world => world.Guarded ∧
        ∀ adapter envelope scope imported, call = .ingest adapter envelope scope →
          outcome = .ok (some imported) → Answered envelope scope imported world)
      World.Guarded call.program := by
  -- An import is answered, and a change of a gate answers nothing.
  cases call with
  | ingest adapter envelope scope =>
    refine (adapter.relies_ingest envelope scope).bind (fun imported => ?_)
      fun error world ended => ⟨ended.1, fun _ _ _ _ _ same => by cases same⟩
    rintro world ⟨there, answered⟩
    refine ⟨there, fun _ _ _ other same ended => ?_⟩
    cases same
    cases ended
    exact answered imported rfl
  | configure actor connector_name enabled mode =>
    refine (relies_configure connector_name enabled mode stable_guarded).bind (fun _ => ?_)
      fun error world there => ⟨there, fun _ _ _ _ _ same => by cases same⟩
    exact fun world there => ⟨there, fun _ _ _ _ same => by cases same⟩

/--
All answers to imports agree, over every interleaving of imports and of changes of the gate.

No row of an import is ever changed or removed, each names a record that holds the artifact as
synthetic evidence which is not trusted, and the gate stays shut for all but the synthetic import. Two
calls that have returned for one identifier were given the same content, up to its digest, and have
named the same record.
-/
theorem imports_agree {κ : Type} [DecidableEq κ] {calls : κ → ImportCall} {world : World}
    (guarded : world.Guarded) {taken : List (Calls.Event κ World Label)}
    {last : Calls κ World Label Error (Option Imported)}
    (traced : Calls.Trace ImportsKept ⟨world, fun caller => (calls caller).program⟩ taken last) :
    last.shared.Guarded ∧
    (∀ row ∈ world.db.imported_artifacts.rows, row ∈ last.shared.db.imported_artifacts.rows) ∧
    (∀ caller envelope scope imported, Answers calls last caller envelope scope imported →
      Answered envelope scope imported last.shared) ∧
    ∀ one two first second scope scope_ imported imported_,
      Answers calls last one first scope imported → Answers calls last two second scope_ imported_ →
      first.external_id = second.external_id →
        imported.record_id = imported_.record_id ∧
        Platform.sha256 first.content = Platform.sha256 second.content := by
  have relied := traced.relies (fun _ => stable_guarded) (fun _ => guarded)
    (fun caller => (calls caller).relies) (fun _ _ _ => id) fun _ _ => id
  have answered (caller : κ) (envelope : ImportEnvelope) (scope : String) (imported : Imported)
      (answers : Answers calls last caller envelope scope imported) :
      Answered envelope scope imported last.shared := by
    obtain ⟨⟨adapter, call⟩, ended⟩ := answers
    exact (relied.2 caller _ ended).2 adapter envelope scope imported call rfl
  refine ⟨?_, fun row there => ?_, answered, ?_⟩
  · exact traced.kept guarded (fun step there now => stable_guarded _ _ now (relied.1 step there))
      fun _ _ now kept => stable_guarded _ _ now kept
  · exact traced.kept there (fun step taken_ now => (relied.1 step taken_).rows row now)
      fun _ _ now kept => kept.rows row now
  · intro one two first second scope scope_ imported imported_ left right same
    obtain ⟨row, stored, kind, named, record, content⟩ := (answered _ _ _ _ left).row
    obtain ⟨row_, stored_, kind_, named_, record_, content_⟩ := (answered _ _ _ _ right).row
    -- Both answers were read off the one row that the identifier has.
    have equal : row = row_ := by
      refine List.inj_on_of_nodup_map last.shared.db.imported_artifacts.unique stored stored_ ?_
      show (row.connector_name, row.external_id) = (row_.connector_name, row_.external_id)
      rw [kind, kind_, named, named_, same]
    subst equal
    exact ⟨record.symm.trans record_, content.symm.trans content_⟩

end Runs

section Example

local instance importedPlatform : Platform := Sample.platform [("Artifact", "digest")]

/-- A synthetic artifact. -/
def Sample.envelope : ImportEnvelope :=
  ⟨"artifact-1", "Artifact", "file://artifact", "2030-01-01T00:00:00+00:00", true, []⟩

/-- The operator opens the gate, and two workers import the same artifact. -/
def Sample.importCalls : Option Bool → ImportCall
  | none => .configure .sean "claude_import" true "synthetic_only"
  | some _ => .ingest ⟨⟨.IAC⟩, worker⟩ envelope "IAC"

/-- The steps of the three: the second import begins while the first one is logged. -/
def Sample.importing : List (Calls.Event (Option Bool) World Label) ×
    Calls (Option Bool) World Label Error (Option Imported) :=
  Calls.play (List.replicate 4 none ++ List.replicate 8 (some true) ++
      (List.replicate 12 [some false, some true]).flatten)
    ⟨world { Database.empty with connector_config := [⟨"CLAUDE_IMPORT", false, "SYNTHETIC_ONLY"⟩] },
      fun caller => (importCalls caller).program⟩

/-- The answer to the first import, and the one to the second but for what it says of the first. -/
def Sample.imported (deduplicated : Bool) : Imported :=
  ⟨"00000000-0000-4000-8000-000000000002", "digest", deduplicated⟩

/-- Two imports of one artifact at once agree on what was imported. -/
theorem imports_agree_of_two :
    Answers Sample.importCalls Sample.importing.2 (some true) Sample.envelope "IAC"
      (Sample.imported false) ∧
    Answers Sample.importCalls Sample.importing.2 (some false) Sample.envelope "IAC"
      (Sample.imported true) ∧
    (Sample.imported false).record_id = (Sample.imported true).record_id ∧
    Sample.importing.2.shared.Guarded := by
  -- Both imports have ended, which is found by running them.
  have ended (caller : Bool) : (Sample.importing.2.running (some caller)).ended =
      some (.ok (some (Sample.imported !caller))) := by
    cases caller <;> decide +kernel
  have guarded : World.Guarded (Sample.world { Database.empty with
      connector_config := [⟨"CLAUDE_IMPORT", false, "SYNTHETIC_ONLY"⟩] }) := by
    refine ⟨fun row there enabled => ?_, fun row there => by cases there⟩
    rw [List.mem_singleton.mp there] at enabled
    cases enabled
  have kept := imports_agree guarded (.play _ .start : Calls.Trace ImportsKept _ _ Sample.importing.2)
  refine ⟨⟨⟨_, rfl⟩, ended true⟩, ⟨⟨_, rfl⟩, ended false⟩, ?_, kept.1⟩
  exact (kept.2.2.2 (some true) (some false) Sample.envelope Sample.envelope "IAC" "IAC"
    (Sample.imported false) (Sample.imported true) ⟨⟨_, rfl⟩, ended true⟩ ⟨⟨_, rfl⟩, ended false⟩ rfl).1

end Example

end SeanOs
