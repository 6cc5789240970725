import SeanOs.Lib.Growth
import SeanOs.Lib.Reliance
import SeanOs.Store.RecordWrites

/-! What each step of an operation on records may do, and what all others may rely on. -/

namespace SeanOs

open Atomic

/-- A record behind some changes: with another payload perhaps, under a later version. -/
structure RecordRow.Continues (row later : RecordRow) : Prop where
  same : later = { row with
    payload := later.payload
    updated_at := later.updated_at
    version := later.version }
  grows : row.version ≤ later.version

namespace RecordRow.Continues

variable {row later last : RecordRow}

theorem refl (row : RecordRow) : row.Continues row := ⟨rfl, le_rfl⟩

theorem trans (first : row.Continues later) (second : later.Continues last) :
    row.Continues last where
  same := by
    rw [second.same, first.same]
  grows := first.grows.trans second.grows

theorem id (continues : row.Continues later) : later.id = row.id := by
  rw [continues.same]

theorem entity_type (continues : row.Continues later) : later.entity_type = row.entity_type := by
  rw [continues.same]

theorem owner_scope (continues : row.Continues later) : later.owner_scope = row.owner_scope := by
  rw [continues.same]

theorem permitted_principals (continues : row.Continues later) :
    later.permitted_principals = row.permitted_principals := by
  rw [continues.same]

theorem portable_on_sale (continues : row.Continues later) :
    later.portable_on_sale = row.portable_on_sale := by
  rw [continues.same]

end RecordRow.Continues

/-- No two records have the same identifier. -/
def World.DistinctRecords (world : World) : Prop := (world.db.records.map (·.id)).Nodup

/-- A record, or what became of it, is stored. -/
def World.Stores (row : RecordRow) (world : World) : Prop :=
  ∃ later ∈ world.db.records, row.Continues later

/-- What all operations on records rely on: that no record is removed or given to another owner. -/
structure Grows (world changed : World) : Prop where
  distinct : world.DistinctRecords → changed.DistinctRecords
  records : ∀ row ∈ world.db.records, changed.Stores row

theorem Grows.refl (world : World) : Grows world world :=
  ⟨id, fun row there => ⟨row, there, .refl row⟩⟩

theorem Grows.trans {world changed last : World} (first : Grows world changed)
    (second : Grows changed last) : Grows world last where
  distinct there := second.distinct (first.distinct there)
  records row there := by
    obtain ⟨later, there, continues⟩ := first.records row there
    obtain ⟨last, there, goes⟩ := second.records later there
    exact ⟨last, there, continues.trans goes⟩

theorem stable_distinct : Stable Grows World.DistinctRecords := fun _ _ known grows =>
  grows.distinct known

theorem stable_stores (row : RecordRow) : Stable Grows (World.Stores row) := by
  rintro world changed ⟨later, there, continues⟩ grows
  obtain ⟨last, there, goes⟩ := grows.records later there
  exact ⟨last, there, continues.trans goes⟩

/-- A change that leaves the records, their relationships and the lifecycle states alone. -/
structure RecordsAside (world changed : World) : Prop where
  records : changed.db.records = world.db.records
  relationships : changed.db.relationships = world.db.relationships
  project_state : changed.db.project_state = world.db.project_state

section Permits

variable (store : Store) (actor : Actor)

/-- An actor may read or write a record. -/
def Permits (row : RecordRow) (action : String) : Prop :=
  _authorize store actor row.owner_scope.text row.permitted_principals action = .ok ()

variable {store actor}

/-- The authority over a record does not change with it. -/
theorem Permits.continues {row later : RecordRow} {action : String}
    (permits : Permits store actor row action) (continues : row.Continues later) :
    Permits store actor later action := by
  rw [Permits, continues.owner_scope, continues.permitted_principals]
  exact permits

variable (store actor)

/-- A record behind a step: what it was, or with the next payload, by an actor that may write it. -/
def Revised (row later : RecordRow) : Prop :=
  later = row ∨ Permits store actor row "write" ∧ ∃ payload stamp,
    later = { row with payload := payload, updated_at := stamp, version := row.version + 1 }

/-- What holds of a new record. -/
structure Owned (row : RecordRow) : Prop where
  author : row.created_by = actor.id
  permitted : Permits store actor row "write"
  personal : row.owner_scope = .PERSONAL → row.portable_on_sale = false
  shared : row.owner_scope = .SHARED → row.permitted_principals ≠ []

/-- What holds of a new relationship. -/
def Joined (world : World) (link : RelationshipRow) : Prop :=
  ∃ source ∈ world.db.records, ∃ target ∈ world.db.records,
    source.id = link.from_record_id ∧ target.id = link.to_record_id ∧
    Permits store actor source "write" ∧ Permits store actor target "read" ∧
    (source.owner_scope = target.owner_scope ∨ source.owner_scope = .SHARED ∨
      target.owner_scope = .SHARED)

/-- A lifecycle state behind a step: what it was, or one of the four for a project the actor may read. -/
def Transitioned (world : World) (before after : ProjectStateRow) : Prop :=
  after = before ∨ after.record_id = before.record_id ∧ after.state ∈ PROJECT_STATES ∧
    ∃ row ∈ world.db.records, row.id = before.record_id ∧ row.entity_type = .PROJECT ∧
      Permits store actor row "read"

/-- What a step of an operation on records may do to them. -/
structure Governed (world changed : World) : Prop where
  records : Growth (Revised store actor) (Owned store actor) world.db.records changed.db.records
  distinct : world.DistinctRecords → changed.DistinctRecords
  relationships : Growth Eq (Joined store actor world)
    world.db.relationships changed.db.relationships
  project_state : Growth (Transitioned store actor world) (fun state => state.state = "INCUBATOR" ∧
      ∃ row ∈ changed.db.records, row.id = state.record_id ∧ row.entity_type = .PROJECT ∧
        Owned store actor row)
    world.db.project_state changed.db.project_state

variable {store actor} {world changed : World}

theorem Governed.of_aside (aside : RecordsAside world changed) : Governed store actor world changed where
  records := by
    rw [aside.records]
    exact .refl fun _ _ => .inl rfl
  distinct := by
    rw [World.DistinctRecords, World.DistinctRecords, aside.records]
    exact id
  relationships := by
    rw [aside.relationships]
    exact .refl fun _ _ => rfl
  project_state := by
    rw [aside.project_state]
    exact .refl fun _ _ => .inl rfl

theorem RecordsAside.of_logged (logged : Logged world changed) : RecordsAside world changed :=
  ⟨logged.same fun _ _ => rfl, logged.same fun _ _ => rfl, logged.same fun _ _ => rfl⟩

theorem Revised.continues {row later : RecordRow} (revised : Revised store actor row later) :
    row.Continues later := by
  rcases revised with rfl | ⟨_, payload, stamp, rfl⟩
  · exact .refl _
  · exact ⟨rfl, Nat.le_succ _⟩

theorem RecordsAside.grows (aside : RecordsAside world changed) : Grows world changed := by
  refine ⟨?_, fun row there => ⟨row, by rw [aside.records]; exact there, .refl row⟩⟩
  rw [World.DistinctRecords, World.DistinctRecords, aside.records]
  exact id

/-- What a governed step does is what all others rely on. -/
theorem Governed.grows (governed : Governed store actor world changed) : Grows world changed := by
  refine ⟨governed.distinct, fun row there => ?_⟩
  obtain ⟨later, member, revised⟩ := governed.records.left there
  exact ⟨later, member, revised.continues⟩

end Permits

section Operations

variable [Platform] {store : Store} {actor : Actor} {known : World → Prop}

/-- A program whose steps are governed, whatever is known along with the records being distinct. -/
abbrev Governs {α : Type} (store : Store) (actor : Actor) (program : Op α) : Prop :=
  ∀ known : World → Prop, Stable Grows known → (∀ world, known world → world.DistinctRecords) →
    Prog.Relies Grows (Governed store actor) (fun _ => known) known program

omit [Platform] in
theorem Governs.bind {α β : Type} {program : Op α} {rest : α → Op β}
    (first : Governs store actor program) (second : ∀ value, Governs store actor (rest value)) :
    Governs store actor (program >>= rest) := fun known stable distinct =>
  (first known stable distinct).bind (fun value => second value known stable distinct)
    fun _ _ there => there

omit [Platform] in
/-- A program that only logs keeps all that is known, where logging is guaranteed anyway. -/
theorem Logging.relies {α : Type} {program : Op α} {rely guar : World → World → Prop}
    (logging : Logging program) (stable : Stable rely known)
    (logs : ∀ world changed, Logged world changed → guar world changed)
    (own : ∀ world changed, guar world changed → rely world changed) :
    Prog.Relies rely guar (fun _ => known) known program :=
  .of_keeps (logging.keeps fun _ => logs) stable own

omit [Platform] in
theorem relies_logging {α : Type} {program : Op α} (logging : Logging program)
    (stable : Stable Grows known) :
    Prog.Relies Grows (Governed store actor) (fun _ => known) known program :=
  logging.relies stable (fun _ _ logged => .of_aside (.of_logged logged)) fun _ _ => Governed.grows

omit [Platform] in
theorem governs_logging {α : Type} {program : Op α} (logging : Logging program) :
    Governs store actor program := fun _ stable _ => relies_logging logging stable

omit [Platform] in
/-- What follows a check may rely on that it was passed. -/
theorem relies_lift_bind {α β : Type} {rely guar : World → World → Prop}
    {post : Except Error β → World → Prop} {checked : Except Error α} {rest : α → Op β}
    (passed : ∀ value, checked = .ok value → Prog.Relies rely guar post known (rest value))
    (failed : ∀ error world, known world → post (.error error) world) :
    Prog.Relies rely guar post known (lift checked >>= rest) := by
  cases checked with
  | ok value => exact passed value rfl
  | error error => exact failed error

omit [Platform] in
/-- What follows a check keeps what is known, as the check does. -/
theorem kept_lift_bind {α β : Type} {rely guar : World → World → Prop} {checked : Except Error α}
    {rest : α → Op β} (passed : ∀ value, checked = .ok value →
      Prog.Relies rely guar (fun _ => known) known (rest value)) :
    Prog.Relies rely guar (fun _ => known) known (lift checked >>= rest) :=
  relies_lift_bind passed fun _ _ there => there

omit [Platform] in
/-- A transaction whose one step is governed keeps what is known. -/
theorem relies_transact {α : Type} {label : Label} {body : World → Except Error α × World}
    (stable : Stable Grows known)
    (step : ∀ world, known world → Governed store actor world (body world).2) :
    Prog.Relies Grows (Governed store actor) (fun _ => known) known (Prog.transact label body) :=
  .transact (fun _ => stable) fun world there =>
    ⟨step world there, stable _ _ there (step world there).grows⟩

/-- A record that is read is stored, with the authority to read it, and stays so. -/
theorem relies_get_record (record_id : String) (stable : Stable Grows known) :
    Prog.Relies Grows (Governed store actor) (fun outcome world => known world ∧
        ∀ view, outcome = .ok view → world.Stores view.row ∧ view.row.id = record_id ∧
          Permits store actor view.row "read")
      known (get_record store actor record_id) := by
  rw [get_record, select]
  refine .read_bind (fun world _ => .of_aside (.of_logged (.refl world)))
    (fun found world => known world ∧ ∀ row, found = some row →
      world.Stores row ∧ row.id = record_id) (fun found => ?_) (fun world there => ⟨there, ?_⟩) ?_
  · rintro world changed ⟨there, holds⟩ grows
    exact ⟨stable _ _ there grows, fun row same =>
      ⟨stable_stores row _ _ (holds row same).1 grows, (holds row same).2⟩⟩
  · intro row found
    exact ⟨⟨row, List.mem_of_find?_eq_some found, .refl row⟩, by simpa using List.find?_some found⟩
  · intro found
    -- What was found stays known while the read is logged, and is what the read returns.
    have kept : Stable Grows fun world => known world ∧ ∀ row, found = some row →
        world.Stores row ∧ row.id = record_id := by
      rintro world changed ⟨there, holds⟩ grows
      exact ⟨stable _ _ there grows, fun row same =>
        ⟨stable_stores row _ _ (holds row same).1 grows, (holds row same).2⟩⟩
    have returned {rest : Op RecordView} (logging : Logging rest)
        (such : Prog.Returns rest fun view => found = some view.row ∧
          Permits store actor view.row "read") :
        Prog.Relies Grows (Governed store actor) (fun outcome world => known world ∧
            ∀ view, outcome = .ok view → world.Stores view.row ∧ view.row.id = record_id ∧
              Permits store actor view.row "read")
          (fun world => known world ∧ ∀ row, found = some row →
            world.Stores row ∧ row.id = record_id) rest := by
      refine ((relies_logging logging kept).returns such).mono fun outcome world ended => ?_
      refine ⟨ended.1.1, fun view same => ?_⟩
      obtain ⟨stored, permits⟩ := ended.2 view same
      obtain ⟨holds, named⟩ := ended.1.2 view.row stored
      exact ⟨holds, named, permits⟩
    cases found with
    | none =>
      exact returned (Prog.Keeps.bind (logging_audit _ _ _ _ _ _ _) fun _ => trivial)
        (.bind fun _ => .raise _)
    | some row =>
      dsimp only
      split
      · exact returned (Prog.Keeps.bind (logging_audit _ _ _ _ _ _ _) fun _ => trivial)
          (.bind fun _ => .raise _)
      · exact returned trivial (.raise _)
      next passed =>
        refine returned (Prog.Keeps.bind (logging_audit _ _ _ _ _ _ _) fun _ =>
          Prog.Keeps.bind (logging_read _ _) fun clock =>
            Prog.Keeps.bind (logging_lift _) fun _ => trivial) ?_
        refine .bind fun _ => .bind fun clock => .bind fun state => ?_
        rintro view ⟨⟩
        exact ⟨rfl, passed⟩

/-- An operation may go on with the record it has read and its authority to read it. -/
theorem relies_get_record_bind {α : Type} {record_id : String} {rest : RecordView → Op α}
    (stable : Stable Grows known)
    (second : ∀ view : RecordView, view.row.id = record_id → Permits store actor view.row "read" →
      Prog.Relies Grows (Governed store actor) (fun _ => known)
        (fun world => known world ∧ world.Stores view.row) (rest view)) :
    Prog.Relies Grows (Governed store actor) (fun _ => known) known
      (get_record store actor record_id >>= rest) := by
  refine (relies_get_record record_id stable).bind (fun view => ?_) fun _ _ ended => ended.1
  by_cases there : view.row.id = record_id ∧ Permits store actor view.row "read"
  · exact (second view there.1 there.2).strengthen fun world ended => ⟨ended.1, (ended.2 view rfl).1⟩
  · -- A read does not return anything else.
    exact .absurd fun world ended => there ⟨(ended.2 view rfl).2.1, (ended.2 view rfl).2.2⟩

/-- A record that passes its checks may be written by the actor, and its portability fits its scope. -/
theorem checkRecord_owned {entity_type scope : String} {principals : List String}
    {request : RecordRequest} {kind : EntityType} {known : Scope} {portable : Bool} {confidence : ℚ}
    (checked : checkRecord store actor entity_type scope principals request =
      .ok (kind, known, portable, confidence)) :
    _authorize store actor known.text principals "write" = .ok () ∧
      (known = .PERSONAL → portable = false) ∧ (known = .SHARED → principals ≠ []) := by
  have named := (checkRecord_named checked).2
  rw [checkRecord, bind_ok_iff] at checked
  obtain ⟨kind_, _, checked⟩ := checked
  dsimp only at checked
  rw [unless_ok, bind_ok_iff] at checked
  obtain ⟨_, _, authorized, checked⟩ := checked
  rw [bind_ok_iff] at checked
  obtain ⟨known_, placed, checked⟩ := checked
  rw [unless_ok, unless_ok, unless_ok, unless_ok, unless_ok] at checked
  obtain ⟨shared, _, personal, _, _, same⟩ := checked
  cases same
  have text : known.text = scope := by simpa using List.find?_some named
  refine ⟨text ▸ authorized, fun own => ?_, fun own none_ => shared ⟨own, none_⟩⟩
  exact Bool.eq_false_iff.mpr fun sold => personal ⟨own, sold⟩

omit [Platform] in
/-- A record is inserted under a new identifier, and with it the lifecycle state of a project. -/
theorem Governed.of_insertRecord {row : RecordRow} {world : World} (owned : Owned store actor row)
    (fresh : ∀ other ∈ world.db.records, other.id ≠ row.id) :
    Governed store actor world (insertRecord row world) where
  records := .append (fun _ _ => .inl rfl) fun other there => by
    rw [List.mem_singleton.mp there]
    exact owned
  distinct distinct := by
    rw [World.DistinctRecords, insertRecord, List.map_append, List.nodup_append]
    refine ⟨distinct, List.nodup_singleton _, fun one old two new same => ?_⟩
    obtain ⟨other, there, rfl⟩ := List.mem_map.mp old
    rw [List.map_singleton, List.mem_singleton] at new
    exact fresh other there (same.trans new)
  relationships := .refl fun _ _ => rfl
  project_state := by
    dsimp only [insertRecord]
    split
    next project =>
      refine .append (fun _ _ => .inl rfl) fun state there => ?_
      rw [List.mem_singleton.mp there]
      exact ⟨rfl, row, List.mem_append_right _ List.mem_cons_self, rfl, project, owned⟩
    · exact .refl fun _ _ => .inl rfl

omit [Platform] in
/-- A record is inserted in one step, behind which it is known if it was. -/
theorem relies_addRecord {rely guar : World → World → Prop} {row : RecordRow}
    {learnt : RecordRow → World → Prop}
    (stable : Stable rely known) (logs : ∀ world changed, Logged world changed → guar world changed)
    (own : ∀ world changed, guar world changed → rely world changed)
    (lasts : ∀ row, Stable rely (learnt row))
    (adds : ∀ world, known world → (∀ other ∈ world.db.records, other.id ≠ row.id) →
      guar world (insertRecord row world) ∧ learnt row (insertRecord row world)) :
    Prog.Relies rely guar (fun outcome world => known world ∧ (outcome = .ok () → learnt row world))
      known (addRecord row) := by
  refine .transact (fun outcome world changed there moved => ?_) fun world there => ?_
  · exact ⟨stable _ _ there.1 moved, fun ended => lasts row _ _ (there.2 ended) moved⟩
  · split
    · exact ⟨logs _ _ (.refl world), there, fun same => by cases same⟩
    next new =>
      obtain ⟨step, holds⟩ := adds world there fun other stored same => new
        (List.any_eq_true.mpr ⟨other, stored, by simpa using same⟩)
      exact ⟨step, stable _ _ there (own _ _ step), fun _ => holds⟩

/--
The record that a request creates is inserted in one step, and what is learnt of it then lasts.

What that step has to guarantee may rest on the record being the one that was asked for, on the
authority of the actor over it, and on its identifier being new.
-/
theorem relies_create_record {rely guar : World → World → Prop} {request : RecordRequest}
    {learnt : RecordRow → World → Prop} (stable : Stable rely known)
    (logs : ∀ world changed, Logged world changed → guar world changed)
    (own : ∀ world changed, guar world changed → rely world changed)
    (lasts : ∀ row, Stable rely (learnt row))
    (adds : ∀ row world, known world → row.Answers actor request → Owned store actor row →
      (∀ other ∈ world.db.records, other.id ≠ row.id) →
        guar world (insertRecord row world) ∧ learnt row (insertRecord row world)) :
    Prog.Relies rely guar (fun outcome world => known world ∧ ∀ id, outcome = .ok id →
        ∃ row : RecordRow, row.id = id ∧ row.Answers actor request ∧ learnt row world)
      known (create_record store actor request) := by
  have both (row : RecordRow) : Stable rely fun world => known world ∧ learnt row world :=
    fun world changed there moved => ⟨stable _ _ there.1 moved, lasts row _ _ there.2 moved⟩
  have refused (error : Error) (world : World) (there : known world) :
      known world ∧ ∀ id, (.error error : Except Error String) = .ok id →
        ∃ row : RecordRow, row.id = id ∧ row.Answers actor request ∧ learnt row world :=
    ⟨there, fun id same => by cases same⟩
  refine (logging_uuid4.relies stable logs own).bind (fun record_id => ?_) refused
  refine @Prog.Relies.catch _ _ _ _ _ _ _ (fun outcome world => known world ∧ ∀ id,
      outcome = .ok id → ∃ row : RecordRow, row.id = id ∧ row.Answers actor request ∧ learnt row world)
    _ _ _ ?_ (fun _ _ there => there) fun error => ?_
  · refine relies_lift_bind (fun passed checked => ?_) refused
    obtain ⟨kind, scope, portable, confidence⟩ := passed
    obtain ⟨permitted, personal, shared⟩ := checkRecord_owned checked
    obtain ⟨named, placed⟩ := checkRecord_named checked
    refine ((logging_read .clock _).relies stable logs own).bind (fun stamp => ?_) refused
    refine relies_lift_bind (fun _ _ => ?_) refused
    dsimp only
    split
    · -- Behind the insertion the record is known, as long as it took place.
      refine (relies_addRecord stable logs own lasts ?_).bind (fun _ => ?_)
        fun error world ended => refused error world ended.1
      · exact fun world there fresh => adds _ world there ⟨named, placed, rfl, rfl, rfl⟩
          ⟨rfl, permitted, personal, shared⟩ fresh
      refine (((logging_audit _ _ _ _ _ _ _).relies (both _) logs own).strengthen
        fun world ended => ⟨ended.1, ended.2 rfl⟩).bind (fun _ => ?_)
          fun error world ended => refused error world ended.1
      rintro world ⟨there, holds⟩
      refine ⟨there, fun id same => ?_⟩
      cases same
      exact ⟨_, rfl, ⟨named, placed, rfl, rfl, rfl⟩, holds⟩
    · exact refused _
  · -- A refusal is logged, and other errors are not.
    have raises (action : Op String) (logging : Logging action)
        (raised : Prog.Returns action fun _ => False) :
        Prog.Relies rely guar (fun outcome world => known world ∧ ∀ id, outcome = .ok id →
          ∃ row : RecordRow, row.id = id ∧ row.Answers actor request ∧ learnt row world) known action :=
      ((logging.relies stable logs own).returns raised).mono fun outcome world ended =>
        ⟨ended.1, fun id same => (ended.2 id same).elim⟩
    refine (raises _ ?_ ?_).strengthen fun world ended => ended.1
    · split
      case h_5 => exact trivial
      all_goals exact Prog.Keeps.bind (logging_audit _ _ _ _ _ _ _) fun _ => trivial
    · split
      case h_5 => exact .raise _
      all_goals exact .bind fun _ => .raise _

theorem governs_create_record (request : RecordRequest) :
    Governs store actor (create_record store actor request) := fun _ stable _ =>
  (relies_create_record stable (fun _ _ logged => .of_aside (.of_logged logged))
    (fun _ _ => Governed.grows) (fun _ _ _ _ _ => trivial)
    fun _ _ _ _ owned fresh => ⟨.of_insertRecord owned fresh, trivial⟩).mono fun _ _ ended => ended.1

omit [Platform] in
/-- The row of a record that was read is one that goes on from it. -/
theorem continues_of_stores {row other : RecordRow} {world : World} (distinct : world.DistinctRecords)
    (holds : world.Stores row) (there : other ∈ world.db.records) (same : other.id = row.id) :
    row.Continues other := by
  obtain ⟨later, member, continues⟩ := holds
  have equal : other = later :=
    List.inj_on_of_nodup_map distinct there member (same.trans continues.id.symm)
  exact equal ▸ continues

omit [Platform] in
/-- An authorized payload is written to the record that was read, and to no other one. -/
theorem Governed.of_setPayload {row : RecordRow} {world : World} (distinct : world.DistinctRecords)
    (holds : world.Stores row) (permits : Permits store actor row "write") (payload : Json)
    (stamp : String) : Governed store actor world (setPayload row.id payload stamp world) where
  records := .map fun other there => by
    split
    next same =>
      exact .inr ⟨permits.continues (continues_of_stores distinct holds there same), payload, stamp, rfl⟩
    · exact .inl rfl
  distinct _ := by
    rw [World.DistinctRecords, setPayload, List.map_map]
    have kept : ((fun row : RecordRow => row.id) ∘ fun other => if other.id = row.id then
        { other with payload := payload, updated_at := stamp, version := other.version + 1 } else other) =
          fun row => row.id := by
      funext other
      dsimp only [Function.comp]
      split <;> rfl
    rw [kept]
    exact distinct
  relationships := .refl fun _ _ => rfl
  project_state := .refl fun _ _ => .inl rfl

theorem governs_update_record (record_id : String) (payload : List (String × Json))
    (expected_version : ℤ) (correlation_id : Option String) :
    Governs store actor
      (update_record store actor record_id payload expected_version correlation_id) := by
  intro known stable distinct
  rw [update_record]
  dsimp only
  split
  · exact relies_logging (Prog.Keeps.bind (logging_audit _ _ _ _ _ _ _) fun _ => trivial) stable
  refine relies_get_record_bind stable fun view named _ => ?_
  have both : Stable Grows fun world => known world ∧ world.Stores view.row :=
    fun world changed there grows => ⟨stable _ _ there.1 grows, stable_stores _ _ _ there.2 grows⟩
  refine (kept_lift_bind fun _ permits => ?_).mono fun _ _ there => there.1
  refine (relies_logging (logging_read _ _) both).bind (fun stamp => ?_) fun _ _ there => there
  subst named
  refine (relies_transact both fun world there => ?_).bind (fun written => ?_) fun _ _ there => there
  · split
    · exact .of_setPayload (distinct world there.1) there.2 permits _ _
    · exact .of_aside (.of_logged (.refl world))
  · refine relies_logging ?_ both
    split
    · exact Prog.Keeps.bind (logging_audit _ _ _ _ _ _ _) fun _ => trivial
    · exact Prog.Keeps.bind (logging_audit _ _ _ _ _ _ _) fun _ => trivial

omit [Platform] in
/-- Two records that were read are joined, where no personal one meets one of the company. -/
theorem Governed.of_insertRelationship {source target : RecordRow} {world : World}
    (first : world.Stores source) (second : world.Stores target) (write : Permits store actor source "write")
    (read : Permits store actor target "read")
    (apart : source.owner_scope = target.owner_scope ∨ source.owner_scope = .SHARED ∨
      target.owner_scope = .SHARED) (named relationship_type stamp : String) :
    Governed store actor world
      (insertRelationship ⟨named, source.id, relationship_type, target.id, stamp⟩ world) where
  records := .refl fun _ _ => .inl rfl
  distinct := id
  relationships := by
    refine .append (fun _ _ => rfl) fun link there => ?_
    cases List.mem_singleton.mp there
    obtain ⟨source_, here, continues⟩ := first
    obtain ⟨target_, there, goes⟩ := second
    refine ⟨source_, here, target_, there, continues.id, goes.id, write.continues continues,
      read.continues goes, ?_⟩
    rw [continues.owner_scope, goes.owner_scope]
    exact apart
  project_state := .refl fun _ _ => .inl rfl

theorem governs_link_records (from_record_id relationship_type to_record_id : String) :
    Governs store actor
      (link_records store actor from_record_id relationship_type to_record_id) := by
  intro known stable distinct
  have holding {fact : World → Prop} (lasts : Stable Grows fact) (row : RecordRow) :
      Stable Grows fun world => fact world ∧ world.Stores row :=
    fun world changed there grows => ⟨lasts _ _ there.1 grows, stable_stores _ _ _ there.2 grows⟩
  rw [link_records]
  refine relies_get_record_bind stable fun source first _ => ?_
  refine (relies_get_record_bind (holding stable source.row) fun target second read => ?_).mono
    fun _ _ there => there.1
  have both := holding (holding stable source.row) target.row
  refine (kept_lift_bind fun _ write => ?_).mono fun _ _ there => there.1
  split
  · exact relies_logging (Prog.Keeps.bind (logging_audit _ _ _ _ _ _ _) fun _ => trivial) both
  next apart =>
    subst first second
    refine (relies_logging logging_uuid4 both).bind (fun id => ?_) fun _ _ there => there
    refine (relies_logging (logging_read _ _) both).bind (fun stamp => ?_) fun _ _ there => there
    refine (relies_transact both fun world there => ?_).bind (fun _ => ?_) fun _ _ there => there
    · dsimp only
      split
      · exact .of_aside (.of_logged (.refl world))
      · refine .of_insertRelationship there.1.2 there.2 write read ?_ _ _ _
        tauto
    · exact relies_logging (Prog.Keeps.bind (logging_audit _ _ _ _ _ _ _) fun _ => trivial) both

theorem governs_transition_project (record_id state reason : String)
    (reopen_trigger review_at : Option String) :
    Governs store actor
      (transition_project store actor record_id state reason reopen_trigger review_at) := by
  intro known stable distinct
  rw [transition_project]
  refine relies_get_record_bind stable fun view named read => ?_
  dsimp only
  split
  · exact fun _ there => there.1
  next project =>
  split
  · exact fun _ there => there.1
  next some_ =>
  split
  · exact fun _ there => there.1
  split
  · exact fun _ there => there.1
  have both : Stable Grows fun world => known world ∧ world.Stores view.row :=
    fun world changed there grows => ⟨stable _ _ there.1 grows, stable_stores _ _ _ there.2 grows⟩
  refine Prog.Relies.mono ?_ (show ∀ _ world, (known world ∧ world.Stores view.row) → known world
    from fun _ _ there => there.1)
  refine (relies_logging (logging_read _ _) both).bind (fun stamp => ?_) fun _ _ there => there
  refine (relies_transact both fun world there => ?_).bind (fun _ => ?_) fun _ _ there => there
  · dsimp only
    split
    · exact .of_aside (.of_logged (.refl world))
    · obtain ⟨row, member, continues⟩ := there.2
      refine ⟨.refl fun _ _ => .inl rfl, id, .refl fun _ _ => rfl, .map fun before _ => ?_⟩
      split
      next same =>
        refine .inr ⟨same.symm, not_not.mp some_, row, member, ?_, ?_, read.continues continues⟩
        · rw [continues.id, named, same]
        · rw [continues.entity_type]
          exact not_not.mp project
      · exact .inl rfl
  · exact relies_logging (logging_audit _ _ _ _ _ _ _) both

omit [Platform] in
theorem governs_addApproval (label : Label) (row : ApprovalRow) :
    Governs store actor (addApproval label row) := fun known stable _ =>
  relies_transact stable fun world _ => by
    split
    · exact .of_aside (.of_logged (.refl world))
    · exact .of_aside ⟨rfl, rfl, rfl⟩

theorem governs_create_approval (action_type target scope max_impact approver expires_at : String)
    (conditions : Option (List (String × Json))) (reusable : Bool) :
    Governs store actor (create_approval store actor action_type target scope max_impact approver
      expires_at conditions reusable) := by
  unfold create_approval
  split
  · exact governs_logging trivial
  split
  · exact governs_logging trivial
  refine (governs_create_record _).bind fun approval_id => ?_
  cases Scope.read scope with
  | none => exact governs_logging trivial
  | some known =>
    refine (governs_addApproval _ _).bind fun _ => governs_logging ?_
    exact Prog.Keeps.bind (logging_audit _ _ _ _ _ _ _) fun _ => trivial

theorem governs_request_approval (action_type target scope max_impact expires_at : String)
    (conditions : Option (List (String × Json))) :
    Governs store actor (request_approval store actor action_type target scope max_impact expires_at
      conditions) := by
  unfold request_approval requestApproval
  split
  · exact governs_logging trivial
  refine (governs_logging (logging_lift _)).bind fun _ => ?_
  refine (governs_create_record _).bind fun approval_id => ?_
  cases Scope.read scope with
  | none => exact governs_logging trivial
  | some known =>
    refine (governs_addApproval _ _).bind fun _ => governs_logging ?_
    exact Prog.Keeps.bind (logging_audit _ _ _ _ _ _ _) fun _ => trivial

end Operations

end SeanOs
