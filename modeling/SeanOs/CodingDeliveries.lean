import SeanOs.Integrations
import SeanOs.Lib.Attempt
import SeanOs.Sample
import SeanOs.Store.RecordWrites

/-! A coding delivery that is tried again after any crash is recorded once, by one record and one row. -/

namespace SeanOs

open Atomic

/-- The ends and the kind of a relationship, which no two relationships share. -/
def RelationshipRow.ends (row : RelationshipRow) : String × String × String :=
  (row.from_record_id, row.relationship_type, row.to_record_id)

/-- Whether a record is the evidence of the delivery with some identifier. -/
def RecordRow.delivers (external_id : String) (row : RecordRow) : Bool :=
  row.source == "claude-code-delivery" && row.payload.get? "external_id" == some (.str external_id)

/-- The records that are the evidence of a delivery. -/
def World.evidence (external_id : String) (world : World) : List RecordRow :=
  world.db.records.filter (·.delivers external_id)

/-- The rows of a delivery. -/
def World.delivered (external_id : String) (world : World) : List CodingDeliveryRow :=
  world.db.coding_deliveries.filter (·.external_id == external_id)

/-- A record is the evidence that a row of a delivery names. -/
structure CodingDeliveryRow.Names (row : CodingDeliveryRow) (record : RecordRow) : Prop where
  record_id : row.artifact_record_id = record.id
  delivery_id : record.payload.get? "delivery_id" = some (.str row.delivery_id)
  content : record.payload.get? "content_sha256" = some (.str row.content_sha256)

/-- What holds of a delivery between any two steps of an attempt to record it. -/
structure Delivering (external_id : String) (world : World) : Prop where
  /-- There is at most one record of it, which holds its identifier. -/
  one : (world.evidence external_id).length ≤ 1
  identified : ∀ record ∈ world.evidence external_id,
    ∃ delivery_id, record.payload.get? "delivery_id" = some (.str delivery_id)
  /-- There is at most one row of it, which names the record. -/
  single : (world.delivered external_id).length ≤ 1
  named : ∀ row ∈ world.delivered external_id, ∃ record ∈ world.evidence external_id, row.Names record
  /-- No two relationships are the same one. -/
  links : (world.db.relationships.map (·.ends)).Nodup

/-- The delivery is still consistent behind some changes, and what there was of it is unchanged. -/
structure DeliveryKept (external_id : String) (world changed : World) : Prop where
  evidence : world.evidence external_id <+: changed.evidence external_id
  delivered : world.delivered external_id <+: changed.delivered external_id
  sound : Delivering external_id changed

/-- What others may do between the attempts: anything to other records, rows and relationships. -/
structure DeliveryAside (external_id : String) (world changed : World) : Prop where
  evidence : changed.evidence external_id = world.evidence external_id
  delivered : changed.delivered external_id = world.delivered external_id
  links : (world.db.relationships.map (·.ends)).Nodup → (changed.db.relationships.map (·.ends)).Nodup

section Changes

variable {external_id : String} {world changed last : World}

/-- Nothing that stays as it is is lost. -/
theorem DeliveryKept.refl (sound : Delivering external_id world) :
    DeliveryKept external_id world world := ⟨List.prefix_rfl, List.prefix_rfl, sound⟩

/-- What is kept by one step and by another one is kept by both. -/
theorem DeliveryKept.trans (first : DeliveryKept external_id world changed)
    (second : DeliveryKept external_id changed last) : DeliveryKept external_id world last :=
  ⟨first.evidence.trans second.evidence, first.delivered.trans second.delivered, second.sound⟩

/-- Two steps beside the delivery are one beside it. -/
theorem DeliveryAside.trans (first : DeliveryAside external_id world changed)
    (second : DeliveryAside external_id changed last) : DeliveryAside external_id world last :=
  ⟨second.evidence.trans first.evidence, second.delivered.trans first.delivered,
    fun apart => second.links (first.links apart)⟩

/-- What leaves the delivery alone keeps it. -/
theorem DeliveryAside.kept (aside : DeliveryAside external_id world changed)
    (sound : Delivering external_id world) : DeliveryKept external_id world changed where
  evidence := aside.evidence ▸ List.prefix_rfl
  delivered := aside.delivered ▸ List.prefix_rfl
  sound := by
    -- Neither the evidence nor the delivery has changed, so all that was known of them holds.
    refine ⟨?_, ?_, ?_, ?_, aside.links sound.links⟩
    · rw [aside.evidence]
      exact sound.one
    · rw [aside.evidence]
      exact sound.identified
    · rw [aside.delivered]
      exact sound.single
    · rw [aside.delivered, aside.evidence]
      exact sound.named

/-- What is only logged is beside the delivery. -/
theorem DeliveryAside.of_logged (logged : Logged world changed) :
    DeliveryAside external_id world changed := by
  obtain ⟨audit_log, drawn, rfl⟩ := logged
  exact ⟨rfl, rfl, id⟩

/-- A relationship that was not there yet leaves all relationships different. -/
theorem DeliveryAside.of_linkAdded {row : RelationshipRow} (added : LinkAdded row world changed) :
    DeliveryAside external_id world changed := by
  -- The link is new, so the ends of links still differ.
  suffices inserted : DeliveryAside external_id world (insertRelationship row world) from
    inserted.trans (.of_logged added.logged)
  refine ⟨rfl, rfl, fun apart => ?_⟩
  show ((world.db.relationships ++ [row]).map (·.ends)).Nodup
  rw [List.map_append, List.map_singleton, List.nodup_append]
  refine ⟨apart, List.nodup_singleton _, fun one old two new same => ?_⟩
  obtain ⟨other, there, rfl⟩ := List.mem_map.mp old
  rw [List.mem_singleton.mp new] at same
  have same : (other.from_record_id, other.relationship_type, other.to_record_id) =
      (row.from_record_id, row.relationship_type, row.to_record_id) := same
  rw [Prod.mk.injEq, Prod.mk.injEq] at same
  exact added.fresh ⟨other, there, same⟩

/-- A record that is not evidence of the delivery is added beside it. -/
theorem DeliveryAside.of_recordAdded {row : RecordRow} (other : row.delivers external_id = false)
    (added : RecordAdded row world changed) : DeliveryAside external_id world changed := by
  -- The record is not about the delivery, so it is filtered out.
  suffices inserted : DeliveryAside external_id world (insertRecord row world) from
    inserted.trans (.of_logged added.logged)
  refine ⟨?_, rfl, id⟩
  show (world.db.records ++ [row]).filter (·.delivers external_id) = _
  rw [List.filter_append, List.filter_singleton, other]
  exact List.append_nil _

/-- The first evidence of a delivery keeps it, where it holds the identifier of the delivery. -/
theorem DeliveryKept.of_recordAdded {row : RecordRow} {delivery_id : String}
    (sound : Delivering external_id world) (first : world.evidence external_id = [])
    (named : row.payload.get? "delivery_id" = some (.str delivery_id))
    (added : RecordAdded row world changed) : DeliveryKept external_id world changed := by
  cases other : row.delivers external_id with
  | false => exact (DeliveryAside.of_recordAdded other added).kept sound
  | true =>
    have inserted : (insertRecord row world).evidence external_id = [row] := by
      have none_ : world.db.records.filter (·.delivers external_id) = [] := first
      show (world.db.records ++ [row]).filter (·.delivers external_id) = _
      rw [List.filter_append, none_, List.filter_singleton, other]
      rfl
    suffices kept : DeliveryKept external_id world (insertRecord row world) from
      kept.trans ((DeliveryAside.of_logged added.logged).kept kept.sound)
    refine ⟨?_, List.prefix_rfl, ?_, ?_, sound.single, fun entry there => ?_, sound.links⟩
    · rw [first]
      exact List.nil_prefix
    · rw [inserted]
      exact le_rfl
    · rw [inserted]
      intro record there
      rw [List.mem_singleton.mp there]
      exact ⟨delivery_id, named⟩
    · -- Without evidence there was no row of the delivery either.
      obtain ⟨record, held, _⟩ := sound.named entry there
      rw [first] at held
      cases held

/-- The first row of a delivery keeps it, where it names the evidence. -/
theorem DeliveryKept.of_row {row : CodingDeliveryRow} (sound : Delivering external_id world)
    (first : row.external_id = external_id → world.delivered external_id = [])
    (named : row.external_id = external_id → ∃ record ∈ world.evidence external_id, row.Names record) :
    DeliveryKept external_id world { world with
      db := { world.db with coding_deliveries := world.db.coding_deliveries ++ [row] } } := by
  -- The row is the first one of the delivery, or it is one of another delivery.
  by_cases own : row.external_id = external_id
  · have inserted : World.delivered external_id { world with
        db := { world.db with coding_deliveries := world.db.coding_deliveries ++ [row] } } = [row] := by
      have none_ : world.db.coding_deliveries.filter (·.external_id == external_id) = [] := first own
      show (world.db.coding_deliveries ++ [row]).filter (·.external_id == external_id) = _
      rw [List.filter_append, none_]
      simp [own]
    refine ⟨List.prefix_rfl, ?_, sound.one, sound.identified, ?_, ?_, sound.links⟩
    · rw [first own]
      exact List.nil_prefix
    · rw [inserted]
      exact le_rfl
    · rw [inserted]
      intro entry there
      rw [List.mem_singleton.mp there]
      exact named own
  · refine DeliveryAside.kept ⟨rfl, ?_, id⟩ sound
    show (world.db.coding_deliveries ++ [row]).filter (·.external_id == external_id) = _
    rw [List.filter_append]
    simp [own, World.delivered]

/-- The row of a delivery and the record it names are all that there is of the delivery. -/
theorem Delivering.stored {row : CodingDeliveryRow} {record : RecordRow}
    (sound : Delivering external_id world) (there : row ∈ world.delivered external_id)
    (held : record ∈ world.evidence external_id) :
    world.evidence external_id = [record] ∧ world.delivered external_id = [row] := by
  -- Of one item at most there is just the one that is known.
  have only {α : Type} {items : List α} {item : α} (short : items.length ≤ 1) (inside : item ∈ items) :
      items = [item] := by
    match items with
    | [] => cases inside
    | [other] => rw [List.mem_singleton.mp inside]
    | _ :: _ :: _ => simp at short
  exact ⟨only sound.one held, only sound.single there⟩

/-- A delivery whose evidence is there has no other evidence. -/
theorem Delivering.same {one two : RecordRow} (sound : Delivering external_id world)
    (first : one ∈ world.evidence external_id) (second : two ∈ world.evidence external_id) :
    one = two := by
  have short := sound.one
  -- There is one record at most, so both are that one.
  match held : world.evidence external_id with
  | [] =>
    rw [held] at first
    cases first
  | [only] =>
    rw [held, List.mem_singleton] at first second
    rw [first, second]
  | _ :: _ :: _ =>
    rw [held] at short
    simp at short

end Changes

/-- A change that adds relationships at most. -/
structure Linking (world changed : World) : Prop where
  aside : ∀ external_id, DeliveryAside external_id world changed
  links : world.db.relationships <+: changed.db.relationships

section Links

variable {external_id : String} {world changed last : World}

/-- What is only logged adds no record. -/
theorem Linking.of_logged (logged : Logged world changed) : Linking world changed := by
  -- The log is no table that a delivery is kept in.
  refine ⟨fun _ => .of_logged logged, ?_⟩
  obtain ⟨audit_log, drawn, rfl⟩ := logged
  exact List.prefix_rfl

/-- Links that are added one after another are added. -/
theorem Linking.trans (first : Linking world changed) (second : Linking changed last) :
    Linking world last :=
  ⟨fun external_id => (first.aside external_id).trans (second.aside external_id),
    first.links.trans second.links⟩

/-- A link is added without a record. -/
theorem Linking.of_linkAdded {row : RelationshipRow} (added : LinkAdded row world changed) :
    Linking world changed := by
  -- The row goes to the end of the links.
  refine ⟨fun _ => .of_linkAdded added, ?_⟩
  obtain ⟨audit_log, drawn, same⟩ := added.logged
  rw [same]
  exact List.prefix_append _ _

/-- Records are linked where some row has their ends. -/
theorem linked_iff (db : Database) (from_record_id relationship_type to_record_id : String) :
    db.linked from_record_id relationship_type to_record_id = true ↔
      (from_record_id, relationship_type, to_record_id) ∈ db.relationships.map (·.ends) := by
  simp [Database.linked, RelationshipRow.ends]

/-- What is linked stays linked where relationships are added at most. -/
theorem Linking.linked (linking : Linking world changed)
    {from_record_id relationship_type to_record_id : String}
    (before : world.db.linked from_record_id relationship_type to_record_id = true) :
    changed.db.linked from_record_id relationship_type to_record_id = true := by
  rw [linked_iff] at before ⊢
  exact (linking.links.map (·.ends)).subset before

/-- Among relationships that all differ, what is linked in some way is so once. -/
theorem Delivering.count_link (sound : Delivering external_id world)
    {from_record_id relationship_type to_record_id : String}
    (linked : world.db.linked from_record_id relationship_type to_record_id = true) :
    (world.db.relationships.map (·.ends)).count (from_record_id, relationship_type, to_record_id) = 1 :=
  List.count_eq_one_of_mem sound.links ((linked_iff ..).mp linked)

end Links

namespace CodingDeliveryAdapter

variable [Platform] (adapter : CodingDeliveryAdapter) {external_id : String} {world : World}

/-- Two records are linked behind a link that is ensured, and otherwise nothing is done but logged. -/
theorem attempts_ensure_link {record_id relationship_type target_id : String}
    (named : upper relationship_type = relationship_type) :
    (adapter._ensure_link record_id relationship_type target_id).Attempts (Linking world)
      (fun outcome changed => Linking world changed ∧ (outcome = .ok () →
        changed.db.linked record_id relationship_type target_id = true)) world := by
  have still : Linking world world := .of_logged (.refl world)
  refine .read_bind still ?_
  dsimp only
  split
  -- The link is there already, and nothing is written.
  next linked => exact ⟨still, still, fun _ => linked⟩
  · refine ((attempts_link_records ..).mono (fun changed may => ?_) fun _ _ => id).bind
      (fun id changed now linked => ?_) fun error changed linked => ?_
    · rcases may with logged | ⟨id, stamp, added⟩
      · exact .of_logged logged
      · exact .of_linkAdded added
    · obtain ⟨stamp, added⟩ := linked.added id rfl
      refine ⟨now, now, fun _ => ?_⟩
      rw [named] at added
      rw [linked_iff]
      obtain ⟨audit_log, drawn, rfl⟩ := added.logged
      exact List.mem_map.mpr ⟨_, List.mem_append_right _ List.mem_cons_self, rfl⟩
    · exact ⟨.of_logged (linked.refused error rfl), fun same => by cases same⟩

omit [Platform] in
/-- What is read of a payload is the member of it. -/
theorem payloadMember_get? {name : String} {payload : Json} {found : Option Json}
    (read : payloadMember name payload = .ok found) : payload.get? name = found := by
  cases payload with
  | obj members =>
    rw [← Except.ok.inj read, Json.get?]
    clear read
    induction members with
    | nil => rfl
    | cons first members ih =>
      obtain ⟨key, value⟩ := first
      -- The member is the first one, or it is looked for behind it.
      by_cases same : name = key
      · simp [List.lookup, same]
      · have other : (key == name) = false := by simpa using Ne.symm same
        have apart : (name == key) = false := by simpa using same
        rw [List.find?_cons_of_neg (by simpa using other), ih, List.lookup, apart]
  | _ => cases read

omit [Platform] in
/-- The evidence that is recovered is that of the delivery, and is recovered wherever there is any. -/
theorem recovered_spec {rows : List RecordRow} {found : Option RecordRow}
    (read : recovered external_id rows = .ok found) :
    (∀ row, found = some row → row ∈ rows ∧
      row.payload.get? "external_id" = some (.str external_id)) ∧
    (found = none → ∀ row ∈ rows, row.payload.get? "external_id" ≠ some (.str external_id)) := by
  induction rows with
  | nil =>
    cases read
    exact ⟨fun row same => (by cases same), fun _ row there => by cases there⟩
  | cons row rows ih =>
    rw [recovered, bind_ok_iff] at read
    obtain ⟨value, given, read⟩ := read
    have held := payloadMember_get? given
    split at read
    -- The first row of the delivery is taken, whatever stands behind it.
    next same =>
      cases read
      refine ⟨fun other equal => ?_, fun same => by cases same⟩
      cases equal
      exact ⟨List.mem_cons_self, held.trans same⟩
    -- A row of another delivery is passed.
    next other =>
      obtain ⟨taken, missed⟩ := ih read
      refine ⟨fun row same => ?_, fun none_ row there => ?_⟩
      · exact ⟨List.mem_cons_of_mem _ (taken row same).1, (taken row same).2⟩
      · rcases List.mem_cons.mp there with rfl | there
        · rw [held]
          exact other
        · exact missed none_ row there

omit [Platform] in
/-- What is recovered among the records of deliveries is the first evidence of the delivery. -/
theorem recovered_evidence {found : Option RecordRow}
    (read : recovered external_id (world.db.records.filter (·.source == "claude-code-delivery")) =
      .ok found) :
    (∀ row, found = some row → row ∈ world.evidence external_id) ∧
      (found = none → world.evidence external_id = []) := by
  obtain ⟨taken, missed⟩ := recovered_spec read
  -- A record is evidence where it has the source and the identifier.
  refine ⟨fun row same => ?_, fun none_ => List.filter_eq_nil_iff.mpr fun row there held => ?_⟩
  · obtain ⟨there, named⟩ := taken row same
    obtain ⟨stored, source⟩ := List.mem_filter.mp there
    exact List.mem_filter.mpr ⟨stored, by simp [RecordRow.delivers, source, named]⟩
  · have parts : (row.source == "claude-code-delivery") = true ∧
        (row.payload.get? "external_id" == some (.str external_id)) = true := by
      simpa [RecordRow.delivers] using held
    exact missed none_ row (List.mem_filter.mpr ⟨there, parts.1⟩) (by simpa using parts.2)

/-- The identifier that is recovered is the one its record holds, along with the same evidence. -/
theorem recoveredId_spec {digest delivery_id held : String} {row : RecordRow}
    (identified : row.payload.get? "delivery_id" = some (.str held))
    (read : recoveredId digest row = .ok delivery_id) :
    held = delivery_id ∧ row.payload.get? "content_sha256" = some (.str digest) := by
  rw [recoveredId, bind_ok_iff] at read
  obtain ⟨content, given, read⟩ := read
  rw [refuseIf_bind, bind_ok_iff] at read
  obtain ⟨same, value, named, read⟩ := read
  have same : content = some (.str digest) := by simpa using same
  -- The member that is bound is the text that the record holds.
  cases (payloadMember_get? named).symm.trans identified
  cases read
  exact ⟨rfl, (payloadMember_get? given).trans same⟩

/-- What the record of a delivery holds. -/
theorem delivery_members {evidence : CodingEvidence} {delivery_id digest project_id task_id : String}
    {actor : Actor} {row : RecordRow}
    (answers : row.Answers actor (deliveryRequest evidence delivery_id digest project_id task_id)) :
    row.payload.get? "external_id" = some (.str evidence.external_id) ∧
      row.payload.get? "delivery_id" = some (.str delivery_id) ∧
        row.payload.get? "content_sha256" = some (.str digest) := by
  rw [answers.payload, Json.get?_sorted, Json.get?_sorted, Json.get?_sorted]
  exact ⟨rfl, rfl, rfl⟩

/-- A delivery gets the identifier and the record that hold its evidence, found or new ones. -/
theorem attempts_evidenceRecord {evidence : CodingEvidence} {digest project_id task_id : String}
    {found : Option RecordRow} (sound : Delivering external_id world)
    (taken : evidence.external_id = external_id → ∀ row, found = some row →
      row ∈ world.evidence external_id)
    (missed : evidence.external_id = external_id → found = none → world.evidence external_id = []) :
    (adapter.evidenceRecord evidence digest project_id task_id found).Attempts
      (DeliveryKept external_id world)
      (fun outcome changed => changed.delivered external_id = world.delivered external_id ∧
        ∀ ids, outcome = .ok ids → evidence.external_id = external_id →
          ∃ record ∈ changed.evidence external_id, record.id = ids.2 ∧
            record.payload.get? "delivery_id" = some (.str ids.1) ∧
            record.payload.get? "content_sha256" = some (.str digest)) world := by
  have still := DeliveryKept.refl sound
  cases found with
  | some row =>
    refine attempts_lift_bind still (fun delivery_id read => ⟨still, rfl, fun ids same own => ?_⟩)
      fun error _ => ⟨rfl, fun ids same => by cases same⟩
    cases same
    have there := taken own row rfl
    obtain ⟨held, identified⟩ := sound.identified row there
    obtain ⟨rfl, content⟩ := recoveredId_spec identified read
    exact ⟨row, there, rfl, identified, content⟩
  | none =>
    refine ((attempts_logging logging_uuid4 world).mono (fun changed logged =>
        (DeliveryAside.of_logged logged).kept sound) fun _ _ => id).bind
      (fun delivery_id drawn kept logged => ?_)
      fun error changed logged => ⟨(DeliveryAside.of_logged logged).delivered, fun ids same => by cases same⟩
    have aside : DeliveryAside external_id world drawn := .of_logged logged
    -- The new record is evidence of this delivery, of which there was none.
    have along (row : RecordRow) (changed : World)
        (answers : row.Answers adapter.actor
          (deliveryRequest evidence delivery_id digest project_id task_id))
        (added : RecordAdded row drawn changed) : DeliveryKept external_id drawn changed := by
      obtain ⟨named, identified, _⟩ := delivery_members answers
      by_cases own : evidence.external_id = external_id
      · refine .of_recordAdded kept.sound ?_ identified added
        rw [aside.evidence]
        exact missed own rfl
      · refine (DeliveryAside.of_recordAdded ?_ added).kept kept.sound
        rw [RecordRow.delivers, named]
        simp [own]
    refine ((attempts_create_record _).mono (fun changed may => ?_) fun _ _ => id).bind
      (fun record_id changed now created => ?_) fun error changed created => ?_
    · rcases may with later | ⟨row, answers, added⟩
      · exact kept.trans ((DeliveryAside.of_logged later).kept kept.sound)
      · exact kept.trans (along row changed answers added)
    · obtain ⟨row, rfl, answers, added⟩ := created.added record_id rfl
      obtain ⟨named, identified, content⟩ := delivery_members answers
      have rows : changed.delivered external_id = drawn.delivered external_id := by
        obtain ⟨audit_log, count, rfl⟩ := added.logged
        rfl
      refine ⟨now, rows.trans aside.delivered, fun ids same own => ?_⟩
      cases same
      refine ⟨row, ?_, rfl, identified, content⟩
      obtain ⟨audit_log, count, rfl⟩ := added.logged
      refine List.mem_filter.mpr ⟨List.mem_append_right _ List.mem_cons_self, ?_⟩
      rw [RecordRow.delivers, named, answers.source, own]
      simp [deliveryRequest]
    · refine ⟨?_, fun ids same => by cases same⟩
      exact ((DeliveryAside.of_logged (created.refused error rfl)).delivered).trans aside.delivered

/-- A delivery that was recorded: by one record and one row, which is linked to its task and project. -/
structure Recorded (external_id digest project_id task_id : String) (delivered : Delivered)
    (world : World) : Prop where
  stored : ∃ record row, world.evidence external_id = [record] ∧ world.delivered external_id = [row] ∧
    row.Names record ∧ record.id = delivered.record_id ∧ row.delivery_id = delivered.delivery_id ∧
    row.content_sha256 = digest
  delivers : (world.db.relationships.map (·.ends)).count
    (delivered.record_id, "DELIVERS", task_id) = 1
  supports : (world.db.relationships.map (·.ends)).count
    (delivered.record_id, "EVIDENCE_FOR", project_id) = 1

/-- Both links of a delivery are there behind the steps that ensure them. -/
theorem attempts_links {α : Type} {record_id project_id task_id : String} {rest : Unit → Op α}
    {through : World → Prop} {post : Except Error α → World → Prop}
    (along : ∀ changed, Linking world changed → through changed)
    (second : ∀ changed, Linking world changed →
      changed.db.linked record_id "DELIVERS" task_id = true →
      changed.db.linked record_id "EVIDENCE_FOR" project_id = true →
      (rest ()).Attempts through post changed)
    (raised : ∀ error changed, Linking world changed → post (.error error) changed) :
    (do
      adapter._ensure_link record_id "DELIVERS" task_id
      adapter._ensure_link record_id "EVIDENCE_FOR" project_id >>= rest).Attempts through post
      world := by
  -- The link to the project comes first, and the one to the task second.
  refine ((adapter.attempts_ensure_link rfl).mono along fun _ _ => id).bind
    (fun _ middle _ first => ?_) fun error changed first => raised error changed first.1
  refine ((adapter.attempts_ensure_link rfl).mono (fun changed later =>
      along changed (first.1.trans later)) fun _ _ => id).bind
    (fun _ changed _ ended => ?_) fun error changed ended => raised error changed (first.1.trans ended.1)
  exact second changed (first.1.trans ended.1) (ended.1.linked (first.2 rfl)) (ended.2 rfl)

omit [Platform] in
/-- The row of a delivery is inserted as a whole or not at all, unless its identifiers are taken. -/
theorem attempts_addDelivery {row : CodingDeliveryRow} (sound : Delivering external_id world)
    (named : row.external_id = external_id → ∃ record ∈ world.evidence external_id, row.Names record)
    (first : row.external_id = external_id → world.delivered external_id = []) :
    (addDelivery row).Attempts (DeliveryKept external_id world)
      (fun outcome changed => outcome = .ok () → changed.evidence external_id =
        world.evidence external_id ∧ row ∈ changed.db.coding_deliveries) world := by
  have still := DeliveryKept.refl sound
  -- The identifier is taken and the insertion fails, or the row is the first one.
  by_cases taken : (world.db.coding_deliveries.any fun other =>
      other.delivery_id == row.delivery_id || other.external_id == row.external_id) = true
  · refine .transact still ?_ ?_
    · dsimp only
      rw [if_pos taken]
      exact still
    · dsimp only
      rw [if_pos taken]
      exact fun same => by cases same
  · refine .transact still ?_ ?_
    · dsimp only
      rw [if_neg taken]
      exact .of_row sound first named
    · dsimp only
      rw [if_neg taken]
      exact fun _ => ⟨rfl, List.mem_append_right _ List.mem_cons_self⟩

/-- A delivery that no row was found of is recorded, or kept as far as it was. -/
theorem attempts_recordNew {evidence : CodingEvidence} {digest project_id task_id : String}
    (sound : Delivering external_id world)
    (first : evidence.external_id = external_id → world.delivered external_id = []) :
    (adapter.recordNew evidence digest project_id task_id).Attempts (DeliveryKept external_id world)
      (fun outcome changed => evidence.external_id = external_id → ∀ delivered,
        outcome = .ok delivered → Recorded external_id digest project_id task_id delivered changed)
      world := by
  have still := DeliveryKept.refl sound
  -- The evidence is recovered or written, then the delivery, then its links and an event.
  refine .read_bind still (attempts_lift_bind still (fun found read => ?_)
    fun error _ _ delivered same => by cases same)
  have spec (own : evidence.external_id = external_id) := recovered_evidence (own ▸ read)
  refine (adapter.attempts_evidenceRecord sound (fun own => (spec own).1) fun own => (spec own).2).bind
    (fun ids middle kept ended => ?_) fun error changed _ _ delivered same => by cases same
  obtain ⟨delivery_id, record_id⟩ := ids
  obtain ⟨rows, held⟩ := ended
  refine .read_bind kept (attempts_lift_bind kept (fun _ _ => ?_)
    fun error _ _ delivered same => by cases same)
  refine ((attempts_addDelivery kept.sound (fun own => ?_) fun own => ?_).mono
      (fun changed later => kept.trans later) fun _ _ => id).bind
    (fun _ inserted now ended => ?_) fun error changed _ _ delivered same => by cases same
  · obtain ⟨record, there, named, identified, content⟩ := held _ rfl own
    exact ⟨record, there, named.symm, identified, content⟩
  · rw [rows]
    exact first own
  obtain ⟨unchanged, there⟩ := ended rfl
  refine adapter.attempts_links (fun changed linking => now.trans
    ((linking.aside external_id).kept now.sound)) (fun linked linking delivers supports => ?_)
      fun error changed _ _ delivered same => by cases same
  have later := now.trans ((linking.aside external_id).kept now.sound)
  refine .write_bind later ⟨later.trans ((DeliveryAside.of_logged (logged_audit ..)).kept later.sound),
    fun own delivered same => ?_⟩
  cases same
  obtain ⟨record, here, named, identified, content⟩ := held _ rfl own
  rw [← unchanged] at here
  have stored : _ ∈ inserted.delivered external_id :=
    List.mem_filter.mpr ⟨there, by simpa using own⟩
  rw [← (linking.aside external_id).evidence] at here
  rw [← (linking.aside external_id).delivered] at stored
  obtain ⟨one, single⟩ := later.sound.stored stored here
  exact ⟨⟨record, _, one, single, ⟨named.symm, identified, content⟩, named, rfl, rfl⟩,
    later.sound.count_link delivers, later.sound.count_link supports⟩

/-- A delivery whose evidence has passed its checks is recorded, or kept as far as it was. -/
theorem attempts_recordEvidence {evidence : CodingEvidence} {digest project_id task_id : String}
    (sound : Delivering external_id world) :
    (adapter.recordEvidence evidence digest project_id task_id).Attempts
      (DeliveryKept external_id world)
      (fun outcome changed => evidence.external_id = external_id → ∀ delivered,
        outcome = .ok delivered → Recorded external_id digest project_id task_id delivered changed)
      world := by
  have still := DeliveryKept.refl sound
  refine .read_bind still ?_
  dsimp only
  -- The delivery is new, or it was recorded before.
  cases found : world.db.codingDelivery? evidence.external_id with
  | none =>
    refine adapter.attempts_recordNew sound fun own => ?_
    have missed := List.find?_eq_none.mp found
    exact List.filter_eq_nil_iff.mpr fun row there named => missed row there (own ▸ named)
  | some row =>
    have there : row ∈ world.db.coding_deliveries := List.mem_of_find?_eq_some found
    have named : row.external_id = evidence.external_id := by simpa using List.find?_some found
    dsimp only
    split
    · exact ⟨still, fun _ delivered same => by cases same⟩
    -- What was recorded is the same, so only the links are seen to.
    next unchanged =>
      refine adapter.attempts_links (fun changed linking => (linking.aside external_id).kept sound)
        (fun changed linking delivers supports => ?_) fun error changed _ _ delivered same => by cases same
      have kept := (linking.aside external_id).kept sound
      refine ⟨kept, fun own delivered same => ?_⟩
      cases same
      have entry : row ∈ world.delivered external_id :=
        List.mem_filter.mpr ⟨there, by simpa using named.trans own⟩
      obtain ⟨record, held, names⟩ := sound.named row entry
      rw [← (linking.aside external_id).evidence] at held
      rw [← (linking.aside external_id).delivered] at entry
      obtain ⟨one, single⟩ := kept.sound.stored entry held
      exact ⟨⟨record, row, one, single, names, names.record_id.symm, rfl, by simpa using unchanged⟩,
        kept.sound.count_link delivers, kept.sound.count_link supports⟩

/-- Other evidence for a delivery that has some is refused without any change. -/
theorem refuses_recordEvidence {evidence : CodingEvidence} {digest project_id task_id : String}
    {record : RecordRow} (sound : Delivering evidence.external_id world)
    (there : record ∈ world.evidence evidence.external_id)
    (other : record.payload.get? "content_sha256" ≠ some (.str digest)) :
    (adapter.recordEvidence evidence digest project_id task_id).Attempts (fun changed => changed = world)
      (fun outcome _ => ∀ delivered, outcome ≠ .ok delivered) world := by
  refine .read_bind rfl ?_
  dsimp only
  cases found : world.db.codingDelivery? evidence.external_id with
  | some row =>
    have entry : row ∈ world.delivered evidence.external_id :=
      List.mem_filter.mpr ⟨List.mem_of_find?_eq_some found, by simpa using List.find?_some found⟩
    obtain ⟨named, held, names⟩ := sound.named row entry
    -- The row was written for the one record that there is.
    have content := names.content
    rw [sound.same held there] at content
    dsimp only
    split
    · exact ⟨rfl, fun delivered same => by cases same⟩
    next unchanged =>
      rw [not_not.mp unchanged] at content
      exact absurd content other
  | none =>
    refine .read_bind rfl (attempts_lift_bind rfl (fun found read => ?_)
      fun error _ delivered same => by cases same)
    obtain ⟨taken, missed⟩ := recovered_evidence read
    cases found with
    | none =>
      rw [missed rfl] at there
      cases there
    | some row =>
      have same := sound.same (taken row rfl) there
      obtain ⟨held, identified⟩ := sound.identified record there
      -- The evidence that is recovered is compared before anything is written.
      cases read : recoveredId digest row with
      | ok delivery_id =>
        rw [same] at read
        exact absurd (recoveredId_spec identified read).2 other
      | error error =>
        rw [evidenceRecord, read]
        exact ⟨rfl, fun delivered same => by cases same⟩

/-- A member of a payload names a record. -/
def NamesRecord (payload : List (String × Json)) (name record_id : String) : Prop :=
  ∃ value, payload.lookup name = some value ∧ boundText value = .ok (some record_id)

omit [Platform] in
/-- A member that is read is one of the payload. -/
theorem lookup_of_member {name : String} {payload : List (String × Json)} {value : Json}
    (read : member name payload = .ok value) : payload.lookup name = some value := by
  rw [member] at read
  exact elim_ok read

omit [Platform] in
/-- A member that is filled in is the text that was read. -/
theorem lookup_of_filledMember {name text : String} {payload : List (String × Json)}
    (read : filledMember name payload = .ok text) : payload.lookup name = some (.str text) := by
  rw [filledMember, bind_ok_iff] at read
  obtain ⟨value, given, read⟩ := read
  -- Only a text can be filled in, and a blank one is not.
  cases value with
  | str other =>
    dsimp only at read
    split at read
    · cases read
    · cases read
      exact lookup_of_member given
  | _ => cases read

/-- Evidence that passes its checks has the identifier of its payload. -/
theorem external_id_of_checkEvidence {payload : List (String × Json)} {evidence : CodingEvidence}
    (checked : checkEvidence payload = .ok evidence) :
    payload.lookup "external_id" = some (.str evidence.external_id) := by
  rw [checkEvidence, bind_ok_iff] at checked
  obtain ⟨external_id, given, checked⟩ := checked
  suffices same : evidence.external_id = external_id by
    rw [same]
    exact lookup_of_filledMember given
  -- No later check touches the identifier, which is the first part of the evidence.
  simp only [bind_ok_iff] at checked
  obtain ⟨_, _, _, _, _, _, _, _, _, _, _, _, _, _, _, _, _, _, _, _, _, _, _, _, _, _, _, _, _, _, _, _,
    made⟩ := checked
  cases made
  rfl

/-- The record that a value names is read, which is only logged. -/
theorem attempts_get_named {store : Store} {actor : Actor} (value : Json) :
    (get_named store actor value).Attempts (Logged world) (fun outcome changed =>
      Logged world changed ∧ ∀ view, outcome = .ok view → boundText value = .ok (some view.row.id))
      world := by
  refine attempts_lift_bind (.refl world) (fun bound read => ?_)
    fun error _ => ⟨.refl world, fun view same => by cases same⟩
  -- A record is looked up by a text only, and each look is logged.
  cases bound with
  | none =>
    refine .write_bind (.refl world) ⟨logged_audit .., logged_audit .., fun view same => ?_⟩
    cases same
  | some record_id =>
    refine (attempts_logging (logging_get_record store actor record_id) world).of_ends
      ((ends_get_record record_id).mono fun outcome changed ended =>
        ⟨ended.1, fun view same => ?_⟩)
    have named : view.row.id = record_id := by simpa using List.find?_some (ended.2 view same)
    rw [read, named]

/-- The gate of a connector changes nothing but the log. -/
theorem logging_require_enabled (connector_name : String) (synthetic : Bool) :
    Logging (ConnectorGate.require_enabled connector_name synthetic) :=
  Prog.Keeps.bind (logging_read _ _) fun _ => logging_lift _

/-- A delivery is admitted for the project and the task that its payload names, with its evidence. -/
theorem attempts_acceptedEvidence (payload : List (String × Json)) :
    (adapter.acceptedEvidence payload).Attempts (Logged world) (fun outcome changed =>
      Logged world changed ∧
      ∀ admitted, outcome = .ok admitted → NamesRecord payload "project_id" admitted.1.id ∧
        NamesRecord payload "task_id" admitted.2.1.id ∧ checkEvidence payload = .ok admitted.2.2)
      world := by
  -- Every check may refuse, and nothing but the log has changed then.
  have refused (error : Error) (changed : World) (logged : Logged world changed) :
      (.raise error : Op (RecordRow × RecordRow × CodingEvidence)).Attempts (Logged world)
        (fun outcome changed => Logged world changed ∧ ∀ admitted, outcome = .ok admitted →
          NamesRecord payload "project_id" admitted.1.id ∧
          NamesRecord payload "task_id" admitted.2.1.id ∧ checkEvidence payload = .ok admitted.2.2)
        changed := ⟨logged, logged, fun admitted same => by cases same⟩
  rw [acceptedEvidence]
  refine attempts_lift_bind (.refl world) (fun synthetic _ => ?_)
    fun error _ => (refused error world (.refl world)).2
  refine (attempts_logging (logging_require_enabled _ _) world).bind (fun _ gated _ logged => ?_)
    fun error changed logged => (refused error changed logged).2
  split
  · exact refused _ gated logged
  refine attempts_lift_bind logged (fun project_id given => ?_)
    fun error _ => (refused error gated logged).2
  refine ((attempts_get_named project_id).mono (fun _ => logged.trans) fun outcome changed ended =>
      And.imp_left logged.trans ended).bind (fun project one _ first => ?_)
    fun error changed ended => (refused error changed ended.1).2
  refine attempts_lift_bind first.1 (fun task_id asked => ?_)
    fun error _ => (refused error one first.1).2
  refine ((attempts_get_named task_id).mono (fun _ => first.1.trans) fun _ _ => id).bind
    (fun task two read second => ?_) fun error changed ended => (refused error changed (first.1.trans ended.1)).2
  refine attempts_lift_bind read (fun _ _ => ?_) fun error _ => (refused error two read).2
  refine .read_bind read ?_
  dsimp only
  split
  · exact refused _ two read
  refine attempts_lift_bind read (fun evidence checked => ?_) fun error _ => (refused error two read).2
  refine ⟨read, read, fun admitted same => ?_⟩
  cases same
  exact ⟨⟨project_id, lookup_of_member given, first.2 project rfl⟩,
    ⟨task_id, lookup_of_member asked, second.2 task rfl⟩, checked⟩

/-- The digest of the evidence that a payload is. -/
def evidenceDigest (payload : List (String × Json)) : String :=
  Platform.sha256 (Json.canonical (.obj payload))

/-- An attempt keeps the delivery wherever it is cut short, and records it where it returns. -/
theorem attempts_record (payload : List (String × Json)) (sound : Delivering external_id world) :
    (adapter.record payload).Attempts (DeliveryKept external_id world) (fun outcome changed =>
      payload.lookup "external_id" = some (.str external_id) → ∀ delivered, outcome = .ok delivered →
        ∃ project_id task_id, NamesRecord payload "project_id" project_id ∧
          NamesRecord payload "task_id" task_id ∧
          Recorded external_id (evidenceDigest payload) project_id task_id delivered changed)
      world := by
  -- The evidence is accepted first, and recorded where it was.
  refine ((adapter.attempts_acceptedEvidence payload).mono (fun changed logged =>
      (DeliveryAside.of_logged logged).kept sound) fun _ _ => id).bind
    (fun admitted middle kept ended => ?_) fun error changed _ _ delivered same => by cases same
  obtain ⟨project, task, evidence⟩ := admitted
  obtain ⟨asked, given, checked⟩ := ended.2 _ rfl
  refine (adapter.attempts_recordEvidence kept.sound).mono (fun changed later => kept.trans later)
    fun outcome changed recorded named delivered same => ?_
  have own : evidence.external_id = external_id :=
    Json.str.inj (Option.some.inj ((external_id_of_checkEvidence checked).symm.trans named))
  exact ⟨project.id, task.id, asked, given, recorded own delivered same⟩

/-- Other evidence for a delivery that has some is refused, and nothing but the refusal is logged. -/
theorem refuses_record {payload : List (String × Json)} {record : RecordRow}
    (sound : Delivering external_id world) (there : record ∈ world.evidence external_id)
    (named : payload.lookup "external_id" = some (.str external_id))
    (other : record.payload.get? "content_sha256" ≠ some (.str (evidenceDigest payload))) :
    (adapter.record payload).Attempts (Logged world)
      (fun outcome _ => ∀ delivered, outcome ≠ .ok delivered) world := by
  -- The evidence may be accepted, but what is recorded of the delivery is different.
  refine (adapter.attempts_acceptedEvidence payload).bind (fun admitted middle logged ended => ?_)
    fun error changed _ delivered same => by cases same
  obtain ⟨project, task, evidence⟩ := admitted
  obtain ⟨_, _, checked⟩ := ended.2 _ rfl
  have own : evidence.external_id = external_id :=
    Json.str.inj (Option.some.inj ((external_id_of_checkEvidence checked).symm.trans named))
  subst own
  have aside : DeliveryAside evidence.external_id world middle := .of_logged logged
  refine (adapter.refuses_recordEvidence (aside.kept sound).sound (aside.evidence ▸ there) other).mono
    (fun changed same => ?_) fun _ _ => id
  rw [same]
  exact logged

end CodingDeliveryAdapter

section Runs

variable [Platform]

/--
A coding delivery is recorded once, however often it is tried and wherever the tries are cut short.

The attempts are of any payloads, under this identifier and others. Whatever came before, an attempt
that returns has left exactly one record of the delivery and one row, which name each other and the
evidence of this very payload, with each of the two links once. Nothing of it ever changes again, and
other evidence under the identifier is refused without a trace but in the log.
-/
theorem coding_delivery_recorded {external_id : String} {start last : World}
    (initial : Delivering external_id start)
    (reached : Retried (fun attempt : CodingDeliveryAdapter × List (String × Json) =>
      attempt.1.record attempt.2) (DeliveryAside external_id) start last) :
    DeliveryKept external_id start last ∧
    ∀ (adapter : CodingDeliveryAdapter) payload,
      payload.lookup "external_id" = some (.str external_id) →
      ((adapter.record payload).Ends last fun outcome changed => ∀ delivered,
        outcome = .ok delivered → ∃ project_id task_id,
          CodingDeliveryAdapter.NamesRecord payload "project_id" project_id ∧
          CodingDeliveryAdapter.NamesRecord payload "task_id" task_id ∧
          CodingDeliveryAdapter.Recorded external_id (CodingDeliveryAdapter.evidenceDigest payload)
            project_id task_id delivered changed) ∧
      ((∃ record ∈ last.evidence external_id, record.payload.get? "content_sha256" ≠
          some (.str (CodingDeliveryAdapter.evidenceDigest payload))) →
        (adapter.record payload).Attempts (Logged last)
          (fun outcome _ => ∀ delivered, outcome ≠ .ok delivered) last) := by
  -- Every attempt keeps what was recorded, wherever it was cut off.
  have kept : DeliveryKept external_id start last := by
    refine reached.kept (DeliveryKept.refl initial) (fun which world kept => ?_)
      fun world changed kept aside => kept.trans (aside.kept kept.sound)
    exact (which.1.attempts_record which.2 kept.sound).mono (fun _ => kept.trans) fun _ _ _ => trivial
  refine ⟨kept, fun adapter payload named => ⟨?_, ?_⟩⟩
  · exact (adapter.attempts_record payload kept.sound).ends.mono fun _ _ ended => ended named
  · rintro ⟨record, there, other⟩
    exact adapter.refuses_record kept.sound there named other

end Runs

section Example

local instance codingPlatform : Platform := Sample.platform []

/-- The evidence of one delivery. -/
def Sample.codingPayload : List (String × Json) :=
  [("external_id", .str "delivery-1"), ("project_id", .str "project"), ("task_id", .str "task"),
    ("repository", .str "iac/pricing"), ("base_revision", .str "abc123"),
    ("branch_name", .str "review/pricing"), ("review_ref", .str "synthetic://review/1"),
    ("summary", .str "Price table"), ("changed_paths", .arr [.str "src/pricing.py"]),
    ("test_results", .arr [.str "42 passed"]), ("activity_units", .int 7),
    ("estimated_cost_units", .float (.finite (5 / 2))), ("synthetic", .bool true)]

/-- A record of the company. -/
def Sample.companyRecord (id : String) (kind : EntityType) : RecordRow where
  id := id
  entity_type := kind
  owner_scope := .IAC
  confidentiality := "EXECUTIVE"
  portable_on_sale := true
  source := "user"
  source_locator := none
  created_by := "worker"
  created_at := "2030-01-01T00:00:00+00:00"
  updated_at := "2030-01-01T00:00:00+00:00"
  effective_at := "2030-01-01T00:00:00+00:00"
  expires_at := none
  confidence := 1
  permitted_principals := []
  retention_rule := "retain"
  payload := .obj []
  version := 1

/-- A task of a project, and a gate that is open. -/
def Sample.codingWorld : World := world { Database.empty with
  records := [companyRecord "project" .PROJECT, companyRecord "task" .TASK]
  relationships := [⟨"link", "task", "BELONGS_TO", "project", "2030-01-01T00:00:00+00:00"⟩]
  connector_config := [⟨"CLAUDE_IMPORT", true, "SYNTHETIC_ONLY"⟩] }

/-- The adapter of a worker. -/
def Sample.coding : CodingDeliveryAdapter := ⟨⟨.IAC⟩, worker⟩

/-- The world in which an attempt has crashed between the record of a delivery and its row. -/
def Sample.codingCrash : World := ((coding.record codingPayload).after 15 codingWorld).2

/-- An attempt is cut off between the evidence and the delivery, and the next one ends it. -/
theorem coding_delivery_recorded_after_crash :
    (Sample.codingCrash.evidence "delivery-1").length = 1 ∧
    Sample.codingCrash.delivered "delivery-1" = [] ∧
    ∃ delivered changed, (Sample.coding.record Sample.codingPayload).run Sample.codingCrash =
        (.ok delivered, changed) ∧ delivered.deduplicated = true ∧
      ∃ project_id task_id, CodingDeliveryAdapter.Recorded "delivery-1"
        (CodingDeliveryAdapter.evidenceDigest Sample.codingPayload) project_id task_id delivered changed := by
  have initial : Delivering "delivery-1" Sample.codingWorld := by
    refine ⟨by decide, fun record there => ?_, by decide, fun row there => (by cases there), by decide⟩
    have none_ : Sample.codingWorld.evidence "delivery-1" = [] := by rfl
    rw [none_] at there
    cases there
  -- The first attempt was cut off behind its first rows.
  have reached : Retried (fun attempt : CodingDeliveryAdapter × List (String × Json) =>
      attempt.1.record attempt.2) (DeliveryAside "delivery-1") Sample.codingWorld Sample.codingCrash :=
    .attempt .start (Sample.coding, Sample.codingPayload) 15
  have said : (((Sample.coding.record Sample.codingPayload).run
      Sample.codingCrash).1.toOption.map (·.deduplicated)) = some true := by decide +kernel
  have ended := ((coding_delivery_recorded initial reached).2 Sample.coding Sample.codingPayload
    rfl).1
  refine ⟨by decide +kernel, List.isEmpty_iff.mp (by decide +kernel), ?_⟩
  rw [Prog.Ends] at ended
  cases ran : (Sample.coding.record Sample.codingPayload).run Sample.codingCrash with
  | mk outcome changed =>
    rw [ran] at said ended
    cases outcome with
    | error error => cases said
    | ok delivered =>
      obtain ⟨project_id, task_id, _, _, recorded⟩ := ended delivered rfl
      exact ⟨delivered, changed, rfl, Option.some.inj said, project_id, task_id, recorded⟩

end Example

end SeanOs
