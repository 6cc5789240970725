import SeanOs.Lib.Attempt
import SeanOs.Store.Logging
import SeanOs.Store.Records

/-! What the operations on records leave, each as one statement about its run. -/

namespace SeanOs

open Atomic

variable [Platform]

theorem logging_get_record (store : Store) (actor : Actor) (record_id : String) :
    Logging (get_record store actor record_id) := by
  refine Prog.Keeps.bind (logging_read _ _) fun found => ?_
  cases found with
  | none => exact Prog.Keeps.bind (logging_audit _ _ _ _ _ _ _) fun _ => trivial
  | some row =>
    -- A refusal is logged, and so is a read.
    dsimp only
    split
    · exact Prog.Keeps.bind (logging_audit _ _ _ _ _ _ _) fun _ => trivial
    · exact trivial
    · refine Prog.Keeps.bind (logging_audit _ _ _ _ _ _ _) fun _ => ?_
      refine Prog.Keeps.bind (logging_read _ _) fun clock => ?_
      exact Prog.Keeps.bind (logging_lift _) fun _ => trivial

theorem logging_visibleRecords (store : Store) (actor : Actor) (ids : List String) :
    Logging (visibleRecords store actor ids) := by
  induction ids with
  | nil => exact trivial
  | cons id ids ih =>
    refine Prog.Keeps.bind (Prog.Keeps.catch ?_ fun error => ?_) fun _ => ?_
    · exact Prog.Keeps.bind (logging_get_record store actor id) fun _ => trivial
    · cases error <;> exact trivial
    · exact Prog.Keeps.bind ih fun _ => trivial

theorem logging_list_records (store : Store) (actor : Actor) (entity_type : Option String) :
    Logging (list_records store actor entity_type) := by
  refine Prog.Keeps.bind (logging_lift _) fun kind => ?_
  refine Prog.Keeps.bind (logging_read _ _) fun ids => ?_
  refine Prog.Keeps.bind (logging_visibleRecords store actor ids) fun visible => ?_
  exact Prog.Keeps.bind (logging_audit _ _ _ _ _ _ _) fun _ => trivial

section Runs

variable {store : Store} {actor : Actor} {world : World}

omit [Platform] in
/-- What only logs, before something else. -/
theorem ends_logging {α : Type} {program : Op α} (logging : Logging program) (world : World) :
    program.Ends world fun _ changed => Logged world changed := logging.run world

omit [Platform] in
/-- What follows a check ends as it does for what passed, in the world of the check. -/
theorem ends_lift_bind {α β : Type} {checked : Except Error α} {rest : α → Op β}
    {post : Except Error β → World → Prop}
    (passed : ∀ value, checked = .ok value → (rest value).Ends world post)
    (failed : ∀ error, checked = .error error → post (.error error) world) :
    (lift checked >>= rest).Ends world post := by
  cases checked with
  | ok value => exact passed value rfl
  | error error => exact failed error rfl

/-- A record that is read is the one that is stored, and the read is logged. -/
theorem ends_get_record (record_id : String) :
    (get_record store actor record_id).Ends world fun outcome changed => Logged world changed ∧
      ∀ view, outcome = .ok view → world.db.record? record_id = some view.row := by
  refine (ends_logging (logging_get_record store actor record_id) world).and ?_
  rw [get_record, select]
  refine .read_bind ?_
  cases world.db.record? record_id with
  | none => exact Prog.Ends.write_bind fun _ => nofun
  | some row =>
    dsimp only
    split
    · exact Prog.Ends.write_bind fun _ => nofun
    · exact fun _ => nofun
    · refine .write_bind (.read_bind ?_)
      cases currentness row _ with
      | error error => exact fun _ => nofun
      | ok state =>
        rintro view ⟨⟩
        rfl

/-- A record was inserted under a new identifier, and nothing else was done but logged. -/
structure RecordAdded (row : RecordRow) (world changed : World) : Prop where
  fresh : ∀ other ∈ world.db.records, other.id ≠ row.id
  logged : Logged (insertRecord row world) changed

omit [Platform] in
/-- What is logged before a record is inserted might be logged behind it. -/
theorem RecordAdded.of_logged {row : RecordRow} {middle changed : World}
    (before : Logged world middle) (added : RecordAdded row middle changed) :
    RecordAdded row world changed := by
  obtain ⟨audit_log, drawn, rfl⟩ := before
  exact ⟨added.fresh, Logged.trans ⟨audit_log, drawn, rfl⟩ added.logged⟩

omit [Platform] in
/-- The insertion of a record takes place under a new identifier only, or not at all. -/
theorem attempts_addRecord (row : RecordRow) :
    (addRecord row).Attempts (fun changed => changed = world ∨ RecordAdded row world changed)
      (fun outcome changed => (outcome = .ok () → RecordAdded row world changed) ∧
        ∀ error, outcome = .error error → changed = world) world := by
  by_cases taken : world.db.records.any (·.id == row.id) = true
  · refine .transact (.inl rfl) ?_ ?_
    · rw [if_pos taken]
      exact .inl rfl
    · rw [if_pos taken]
      exact ⟨nofun, fun _ _ => rfl⟩
  · have added : RecordAdded row world (insertRecord row world) := by
      refine ⟨fun other there same => taken ?_, .refl _⟩
      exact List.any_eq_true.mpr ⟨other, there, by simpa using same⟩
    refine .transact (.inl rfl) ?_ ?_
    · rw [if_neg taken]
      exact .inr added
    · rw [if_neg taken]
      exact ⟨fun _ => added, nofun⟩

/-- What a record is that a request led to. -/
structure RecordRow.Answers (row : RecordRow) (actor : Actor) (request : RecordRequest) : Prop where
  kind : EntityType.read (upper request.entity_type) = some row.entity_type
  scope : Scope.read (upper request.scope) = some row.owner_scope
  author : row.created_by = actor.id
  source : row.source = request.source
  payload : row.payload = Json.sorted (.obj request.payload)

omit [Platform] in
/-- What follows an early refusal is reached where there is nothing to refuse. -/
theorem unless_ok {α : Type} {condition : Prop} [Decidable condition] {error : Error}
    {rest : Unit → Except Error α} {value : α} :
    (if condition then (throw error : Except Error Unit) >>= rest else rest ()) = .ok value ↔
      ¬condition ∧ rest () = .ok value := by
  split
  next holds => exact ⟨(nomatch ·), fun both => absurd holds both.1⟩
  next fails => exact ⟨fun passed => ⟨fails, passed⟩, And.right⟩

omit [Platform] in
/-- A value that must be there is there where it is used. -/
theorem elim_ok {α : Type} {found : Option α} {error : Error} {value : α}
    (passed : found.elim (Except.error error) Except.ok = .ok value) : found = some value := by
  cases found with
  | none => cases passed
  | some other => rw [Except.ok.inj passed]

/-- A record that passes its checks has the kind and the scope it was asked for. -/
theorem checkRecord_named {entity_type scope : String} {principals : List String}
    {request : RecordRequest} {kind : EntityType} {known : Scope} {portable : Bool} {confidence : ℚ}
    (checked : checkRecord store actor entity_type scope principals request =
      .ok (kind, known, portable, confidence)) :
    EntityType.read entity_type = some kind ∧ Scope.read scope = some known := by
  rw [checkRecord, bind_ok_iff] at checked
  obtain ⟨kind_, named, checked⟩ := checked
  dsimp only at checked
  rw [unless_ok, bind_ok_iff] at checked
  obtain ⟨_, _, _, checked⟩ := checked
  rw [bind_ok_iff] at checked
  obtain ⟨known_, placed, checked⟩ := checked
  rw [unless_ok, unless_ok, unless_ok, unless_ok, unless_ok] at checked
  cases checked.2.2.2.2.2
  exact ⟨elim_ok named, elim_ok placed⟩

/-- How the creation of a record ends: with the record that was asked for, or with a refusal. -/
structure RecordCreated (actor : Actor) (request : RecordRequest) (world : World)
    (outcome : Except Error String) (changed : World) : Prop where
  added : ∀ id, outcome = .ok id →
    ∃ row : RecordRow, row.id = id ∧ row.Answers actor request ∧ RecordAdded row world changed
  refused : ∀ error, outcome = .error error → Logged world changed

theorem RecordCreated.of_error {request : RecordRequest} {error : Error} {changed : World}
    (logged : Logged world changed) : RecordCreated actor request world (.error error) changed :=
  ⟨nofun, fun _ _ => logged⟩

/-- What the creation of a record may have done where it is cut short: nothing, or all that was asked for. -/
def MayCreate (actor : Actor) (request : RecordRequest) (world changed : World) : Prop :=
  Logged world changed ∨ ∃ row : RecordRow, row.Answers actor request ∧ RecordAdded row world changed

omit [Platform] in
/-- What only logs may be cut short anywhere. -/
theorem attempts_logging {α : Type} {program : Op α} (logging : Logging program) (world : World) :
    program.Attempts (Logged world) (fun _ => Logged world) world :=
  logging.attempts .refl (fun _ _ _ => .trans) world

omit [Platform] in
/-- What follows a check is attempted for what passed, in the world of the check. -/
theorem attempts_lift_bind {α β : Type} {checked : Except Error α} {rest : α → Op β}
    {through : World → Prop} {post : Except Error β → World → Prop} (now : through world)
    (passed : ∀ value, checked = .ok value → (rest value).Attempts through post world)
    (failed : ∀ error, checked = .error error → post (.error error) world) :
    (lift checked >>= rest).Attempts through post world := by
  cases checked with
  | ok value => exact passed value rfl
  | error error => exact ⟨now, failed error rfl⟩

/-- A record that is created is the one that was asked for, and is there as a whole or not at all. -/
theorem attempts_create_record (request : RecordRequest) :
    (create_record store actor request).Attempts (MayCreate actor request world)
      (RecordCreated actor request world) world := by
  rw [create_record]
  refine ((attempts_logging logging_uuid4 world).mono (fun _ => .inl) fun _ _ => id).bind
    (fun record_id drawn _ before => ?_) fun error changed logged => .of_error logged
  -- What is added behind the draw of the identifier is added to the first world.
  have along (changed : World) (may : MayCreate actor request drawn changed) :
      MayCreate actor request world changed :=
    may.imp before.trans fun ⟨row, answers, added⟩ => ⟨row, answers, added.of_logged before⟩
  refine ((show Prog.Attempts (MayCreate actor request drawn) (RecordCreated actor request drawn) _
    drawn from ?_).mono along fun _ _ => id).catch (fun id changed created => ?_)
      fun error changed _ created => ?_
  · refine attempts_lift_bind (.inl (.refl drawn)) (fun checked passed => ?_)
      fun error _ => .of_error (.refl drawn)
    obtain ⟨kind, known, portable, confidence⟩ := checked
    obtain ⟨named, placed⟩ := checkRecord_named passed
    refine .read_bind (.inl (.refl drawn)) (attempts_lift_bind (.inl (.refl drawn)) (fun _ _ => ?_)
      fun error _ => .of_error (.refl drawn))
    dsimp only
    split
    · refine ((attempts_addRecord _).mono (fun changed added => ?_) fun _ _ => id).bind
        (fun _ inserted now added => ?_) fun error changed ended => ?_
      · rcases added with rfl | added
        · exact .inl (.refl _)
        · exact .inr ⟨_, ⟨named, placed, rfl, rfl, rfl⟩, added⟩
      · have row := added.1 rfl
        refine .write_bind now ⟨.inr ⟨_, ⟨named, placed, rfl, rfl, rfl⟩, row.fresh,
          row.logged.trans (logged_audit ..)⟩, fun id same => ?_, nofun⟩
        cases same
        exact ⟨_, rfl, ⟨named, placed, rfl, rfl, rfl⟩, row.fresh, row.logged.trans (logged_audit ..)⟩
      · cases ended.2 error rfl
        exact .of_error (.refl drawn)
    · exact ⟨.inl (.refl drawn), .of_error (.refl drawn)⟩
  · obtain ⟨row, same, answers, added⟩ := created.added id rfl
    exact ⟨fun other equal => by cases equal; exact ⟨row, same, answers, added.of_logged before⟩,
      nofun⟩
  · -- Whatever was raised is raised again, with an event of the audit log at most.
    have logged := before.trans (created.refused error rfl)
    have raises (action : Op String) (logging : Logging action)
        (raised : ∀ world id, (action.run world).1 ≠ .ok id) :
        action.Attempts (MayCreate actor request world) (RecordCreated actor request world) changed := by
      refine ((attempts_logging logging changed).mono (fun _ later => .inl (logged.trans later))
        fun _ _ => id).of_ends ?_
      exact ⟨fun id same => absurd same (raised changed id),
        fun _ _ => logged.trans (logging.run changed)⟩
    refine raises _ ?_ ?_
    · split
      case h_5 => exact trivial
      all_goals exact Prog.Keeps.bind (logging_audit _ _ _ _ _ _ _) fun _ => trivial
    · intro world id
      split
      case h_5 => nofun
      all_goals nofun

/-- A record that is created is the one that was asked for, and a refusal is only logged. -/
theorem ends_create_record (request : RecordRequest) :
    (create_record store actor request).Ends world (RecordCreated actor request world) :=
  (attempts_create_record request).ends

/-- A relationship was inserted that was not there, and nothing else was done but logged. -/
structure LinkAdded (row : RelationshipRow) (world changed : World) : Prop where
  fresh : ¬∃ other ∈ world.db.relationships, other.from_record_id = row.from_record_id ∧
    other.relationship_type = row.relationship_type ∧ other.to_record_id = row.to_record_id
  logged : Logged (insertRelationship row world) changed

omit [Platform] in
/-- What is logged before a relationship is inserted might be logged behind it. -/
theorem LinkAdded.of_logged {row : RelationshipRow} {middle changed : World}
    (before : Logged world middle) (added : LinkAdded row middle changed) :
    LinkAdded row world changed := by
  obtain ⟨audit_log, drawn, rfl⟩ := before
  exact ⟨added.fresh, Logged.trans ⟨audit_log, drawn, rfl⟩ added.logged⟩

omit [Platform] in
/-- A relationship is inserted where it is not there yet, or nothing is written. -/
theorem attempts_addRelationship (row : RelationshipRow) :
    (addRelationship row).Attempts (fun changed => changed = world ∨ LinkAdded row world changed)
      (fun outcome changed => (outcome = .ok () → LinkAdded row world changed) ∧
        ∀ error, outcome = .error error → changed = world) world := by
  by_cases taken : (world.db.relationships.any fun other => other.id == row.id ||
      other.from_record_id == row.from_record_id && (other.relationship_type == row.relationship_type &&
        other.to_record_id == row.to_record_id)) = true
  · refine .transact (.inl rfl) ?_ ?_
    · dsimp only
      rw [if_pos taken]
      exact .inl rfl
    · dsimp only
      rw [if_pos taken]
      exact ⟨nofun, fun _ _ => rfl⟩
  · have added : LinkAdded row world (insertRelationship row world) := by
      refine ⟨?_, .refl _⟩
      rintro ⟨other, there, starts, named, ends⟩
      exact taken (List.any_eq_true.mpr ⟨other, there, by simp [starts, named, ends]⟩)
    refine .transact (.inl rfl) ?_ ?_
    · dsimp only
      rw [if_neg taken]
      exact .inr added
    · dsimp only
      rw [if_neg taken]
      exact ⟨fun _ => added, nofun⟩

/-- How a link ends: with the relationship that was asked for, or with a refusal. -/
structure RecordLinked (from_record_id relationship_type to_record_id : String) (world : World)
    (outcome : Except Error String) (changed : World) : Prop where
  added : ∀ id, outcome = .ok id → ∃ stamp, LinkAdded
    ⟨id, from_record_id, upper relationship_type, to_record_id, stamp⟩ world changed
  refused : ∀ error, outcome = .error error → Logged world changed

/-- What a link may have done where it is cut short: nothing, or all that was asked for. -/
def MayLink (from_record_id relationship_type to_record_id : String) (world changed : World) : Prop :=
  Logged world changed ∨ ∃ id stamp, LinkAdded
    ⟨id, from_record_id, upper relationship_type, to_record_id, stamp⟩ world changed

/-- Two records that are linked get the relationship that was asked for, as a whole or not at all. -/
theorem attempts_link_records (from_record_id relationship_type to_record_id : String) :
    (link_records store actor from_record_id relationship_type to_record_id).Attempts
      (MayLink from_record_id relationship_type to_record_id world)
      (RecordLinked from_record_id relationship_type to_record_id world) world := by
  rw [link_records]
  have logs {α : Type} {program : Op α} (logging : Logging program) {middle : World}
      (before : Logged world middle) :
      program.Attempts (MayLink from_record_id relationship_type to_record_id world)
        (fun _ => Logged world) middle :=
    (attempts_logging logging middle).mono (fun _ later => .inl (before.trans later))
      fun _ _ later => before.trans later
  refine (logs (logging_get_record _ _ _) (.refl world)).bind (fun source one _ first => ?_)
    fun _ _ first => ⟨nofun, fun _ _ => first⟩
  refine (logs (logging_get_record _ _ _) first).bind (fun target two _ read => ?_)
    fun _ _ read => ⟨nofun, fun _ _ => read⟩
  refine attempts_lift_bind (.inl read) (fun _ _ => ?_) fun _ _ => ⟨nofun, fun _ _ => read⟩
  split
  · exact (logs (logging_audit _ _ _ _ _ _ _) read).bind
      (fun _ _ now logged => ⟨now, nofun, fun _ _ => logged⟩) fun _ _ logged => ⟨nofun, fun _ _ => logged⟩
  · refine (logs logging_uuid4 read).bind (fun id three _ drawn => ?_)
      fun _ _ drawn => ⟨nofun, fun _ _ => drawn⟩
    refine .read_bind (.inl drawn) ?_
    refine ((attempts_addRelationship _).mono (fun changed written => ?_) fun _ _ same => same).bind
      (fun _ changed now written => ?_) fun error changed written => ?_
    · rcases written with rfl | added
      · exact .inl drawn
      · exact .inr ⟨_, _, added.of_logged drawn⟩
    · have added := (written.1 rfl).of_logged drawn
      refine .write_bind now ⟨.inr ⟨_, _, added.fresh, added.logged.trans (logged_audit ..)⟩,
        fun other same => ?_, nofun⟩
      cases same
      exact ⟨_, added.fresh, added.logged.trans (logged_audit ..)⟩
    · cases written.2 error rfl
      exact ⟨nofun, fun _ _ => drawn⟩

/-- Two records that are linked get the relationship that was asked for, and a refusal is only logged. -/
theorem ends_link_records (from_record_id relationship_type to_record_id : String) :
    (link_records store actor from_record_id relationship_type to_record_id).Ends world
      (RecordLinked from_record_id relationship_type to_record_id world) :=
  (attempts_link_records ..).ends

omit [Platform] in
/-- The lifecycle state of a project is overwritten, or nothing is written. -/
theorem ends_writeProjectState (next : ProjectStateRow) :
    (writeProjectState next).Ends world fun outcome changed =>
      (outcome = .ok () → changed = setProjectState next world) ∧
        ∀ error, outcome = .error error → changed = world := by
  refine .transact ?_
  dsimp only
  split
  · exact ⟨nofun, fun _ _ => rfl⟩
  · exact ⟨fun _ => rfl, nofun⟩

/-- The lifecycle state of a project is overwritten where its transition returns. -/
theorem ends_transition_project (record_id state reason : String)
    (reopen_trigger review_at : Option String) :
    (transition_project store actor record_id state reason reopen_trigger review_at).Ends world
      fun outcome changed => (outcome = .ok () → ∃ stamp, Logged (setProjectState
          ⟨record_id, upper state, reason, review_at, reopen_trigger, stamp⟩ world) changed) ∧
        ∀ error, outcome = .error error → Logged world changed := by
  rw [transition_project]
  refine (ends_logging (logging_get_record _ _ _) world).bind (fun record read logged => ?_)
    fun _ changed logged => ⟨nofun, fun _ _ => logged⟩
  have failed (error : Error) : (throw error : Op Unit).Ends read fun outcome changed =>
      (outcome = .ok () → ∃ stamp, Logged (setProjectState
          ⟨record_id, upper state, reason, review_at, reopen_trigger, stamp⟩ world) changed) ∧
        ∀ error, outcome = .error error → Logged world changed := ⟨nofun, fun _ _ => logged⟩
  dsimp only
  split
  · exact failed _
  split
  · exact failed _
  split
  · exact failed _
  split
  · exact failed _
  refine .read_bind ?_
  obtain ⟨audit_log, drawn, rfl⟩ := logged
  refine (ends_writeProjectState _).bind (fun _ changed written => ?_) fun error changed written => ?_
  · cases written.1 rfl
    exact Prog.Ends.write_bind ⟨fun _ => ⟨_, _, _, rfl⟩, nofun⟩
  · cases written.2 error rfl
    exact ⟨nofun, fun _ _ => ⟨_, _, rfl⟩⟩

end Runs

end SeanOs
