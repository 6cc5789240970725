import SeanOs.KilledProjects
import SeanOs.Lib.DoubleOrder
import Mathlib.Data.Prod.Lex
import Mathlib.Data.String.Basic

/-! What a portfolio review decides and what it changes, from the ranks to the links of its decision. -/

namespace SeanOs

open Atomic

namespace Ranked

/-- What projects are sorted by: the score from above, and the identifier where scores are equal. -/
def key (item : Ranked) : (WithBot (WithTop ℚ))ᵒᵈ ×ₗ String :=
  toLex (.toDual (Double.place item.score), item.project_id)

/-- One project stands before another where its key is below, if both have a score. -/
theorem before_iff {one two : Ranked} (first : one.score ≠ .nan) (second : two.score ≠ .nan) :
    one.before two = true ↔ one.key < two.key := by
  have same := Double.equal_float_iff first second
  have above := Double.exceeds_iff first second
  rw [before, key, key, Prod.Lex.toLex_lt_toLex]
  split
  next equal =>
    -- Behind equal scores only the identifiers are compared.
    have place := same.mp equal
    simp [place]
  next apart =>
    have differ : Double.place one.score ≠ Double.place two.score := fun place => apart (same.mpr place)
    simp [above, differ]

theorem not_before_iff {one two : Ranked} (first : one.score ≠ .nan) (second : two.score ≠ .nan) :
    two.before one = false ↔ one.key ≤ two.key := by
  rw [← not_lt, ← before_iff second first, Bool.not_eq_true]

/-- A ranking of projects with scores is in the order of their keys. -/
theorem pairwise_ranking {items : List Ranked} (scored : ∀ item ∈ items, item.score ≠ .nan) :
    (items.insertionSort fun one two => two.before one = false).Pairwise fun one two =>
      one.key ≤ two.key := by
  have sorted := List.pairwise_insertionSort (· ≤ ·) (items.map key)
  rw [← List.map_insertionSort (fun one two : Ranked => two.before one = false) (· ≤ ·) key items
    fun one first two second => not_before_iff (scored one first) (scored two second)] at sorted
  exact List.pairwise_map.mp sorted

end Ranked

namespace ChiefOfStaff

variable [Platform] (chief : ChiefOfStaff)

/-- A project of a review is one of the company in the database, ranked by its metrics. -/
structure Finds (db : Database) (item : Ranked) : Prop where
  stored : ∃ row, db.record? item.project_id = some row ∧ row.entity_type = .PROJECT ∧
    row.owner_scope = .IAC ∧ payloadMember "portfolio_metrics" row.payload = .ok (some item.metrics) ∧
      chief.owns row = .ok item.agent_owned
  scored : portfolioScore item.metrics = .ok item.score

omit [Platform] in
theorem Finds.of_logged {world changed : World} {item : Ranked} (logged : Logged world changed)
    (found : chief.Finds changed.db item) : chief.Finds world.db item := by
  obtain ⟨audit_log, drawn, rfl⟩ := logged
  exact ⟨found.stored, found.scored⟩

theorem ends_rank (project_id : String) (world : World) :
    (chief.rank project_id).Ends world fun outcome changed => Logged world changed ∧
      ∀ item, outcome = .ok item → chief.Finds world.db item := by
  refine (ends_logging (chief.logging_rank project_id) world).and ?_
  rw [rank]
  refine (ends_get_record project_id).bind (fun project read found => ?_) fun _ _ _ _ same => by cases same
  have row := found.2 project rfl
  split
  · exact fun _ same => by cases same
  next passed =>
    rw [not_or, not_not, not_not] at passed
    refine ends_lift_bind (fun metrics given => ?_) fun _ _ _ same => by cases same
    split
    · exact fun _ same => by cases same
    next filled truthy =>
      have some_ : metrics = some filled := (Option.filter_eq_some_iff.mp truthy).1
      refine ends_lift_bind (fun score scored => ?_) fun _ _ _ same => by cases same
      refine ends_lift_bind (fun name _ => ?_) fun _ _ _ same => by cases same
      refine ends_lift_bind (fun owned own => ?_) fun _ _ _ same => by cases same
      rintro item ⟨⟩
      exact ⟨⟨project.row, row, passed.1, passed.2, some_ ▸ given, own⟩, scored⟩

theorem ends_rankEach (project_ids : List String) (world : World) :
    (chief.rankEach project_ids).Ends world fun outcome changed => Logged world changed ∧
      ∀ items, outcome = .ok items → ∀ item ∈ items, chief.Finds world.db item := by
  refine (ends_logging (chief.logging_rankEach project_ids) world).and ?_
  induction project_ids generalizing world with
  | nil =>
    rintro items ⟨⟩ item there
    cases there
  | cons first rest ih =>
    refine (chief.ends_rank first world).bind (fun item read found => ?_) fun _ _ _ _ same => by cases same
    refine (ih read).bind (fun items changed others => ?_) fun _ _ _ _ same => by cases same
    rintro all ⟨⟩
    refine List.forall_mem_cons.mpr ⟨found.2 item rfl, fun other there => ?_⟩
    exact .of_logged chief found.1 (others items rfl other there)

/-- The projects of a ranking are in the database, and in order where they have scores. -/
theorem ends_ranking (project_ids : List String) (world : World) :
    (chief.ranking project_ids).Ends world fun outcome changed => Logged world changed ∧
      ∀ items, outcome = .ok items → (∀ item ∈ items, chief.Finds world.db item) ∧
        ((∀ item ∈ items, item.score ≠ .nan) → items.Pairwise fun one two => one.key ≤ two.key) := by
  refine (chief.ends_rankEach _ world).bind (fun ranked changed found => ⟨found.1, ?_⟩)
    fun _ _ failed => ⟨failed.1, fun _ same => by cases same⟩
  rintro items ⟨⟩
  refine ⟨fun item there => found.2 ranked rfl item ((List.mem_insertionSort _).mp there), ?_⟩
  exact fun scored => Ranked.pairwise_ranking fun item there =>
    scored item ((List.mem_insertionSort _).mpr there)

/-- What a review says about a project at a position. -/
def reviewed (capacity_limit : ℤ) (low_fit_threshold : Number) (entry : Ranked × ℕ) : Reviewed :=
  let (recommendation, rationale) := entry.1.recommend capacity_limit low_fit_threshold entry.2
  ⟨entry.1, if recommendation ≠ "PRIORITIZE" ∧ entry.1.agent_owned = false then
    recommendation ++ "_HUMAN_REVIEW" else recommendation, rationale⟩

/-- The lifecycle state a review gives to a project that it pauses. -/
def pausedState (item : Reviewed) (stamp : String) : ProjectStateRow :=
  ⟨item.project_id, "PAUSED", "Chief of Staff portfolio review: " ++ item.rationale, none, none, stamp⟩

/-- A lifecycle state behind a review: that of one of the paused projects, or else what it was. -/
def Moves (paused : List Reviewed) (before after : ProjectStateRow) : Prop :=
  (∀ item ∈ paused, item.project_id ≠ before.record_id) ∧ after = before ∨
    ∃ item ∈ paused, item.project_id = before.record_id ∧ ∃ stamp, after = pausedState item stamp

/-- A world with other lifecycle states. -/
def withStates (rows : List ProjectStateRow) (world : World) : World :=
  { world with db := { world.db with project_state := rows } }

omit [Platform] in
theorem forall₂_moves_nil (rows : List ProjectStateRow) : List.Forall₂ (Moves []) rows rows :=
  List.forall₂_same.mpr fun _ _ => .inl ⟨by simp, rfl⟩

omit [Platform] in
/-- One more project is paused in front of the others. -/
theorem forall₂_moves_cons {item : Reviewed} {stamp : String} {paused : List Reviewed}
    {rows others : List ProjectStateRow}
    (later : List.Forall₂ (Moves paused) (rows.map fun row =>
      if row.record_id = item.project_id then pausedState item stamp else row) others) :
    List.Forall₂ (Moves (item :: paused)) rows others := by
  rw [List.forall₂_map_left_iff] at later
  refine later.imp fun before after moved => ?_
  by_cases own : before.record_id = item.project_id
  · rw [if_pos own] at moved
    -- The project is paused already, and a later one of the same name pauses it again.
    rcases moved with ⟨_, rfl⟩ | ⟨other, there, same, moved⟩
    · exact .inr ⟨item, List.mem_cons_self, own.symm, stamp, rfl⟩
    · exact .inr ⟨other, List.mem_cons_of_mem _ there, same.trans own.symm, moved⟩
  · rw [if_neg own] at moved
    rcases moved with ⟨apart, rfl⟩ | ⟨other, there, moved⟩
    · exact .inl ⟨List.forall_mem_cons.mpr ⟨Ne.symm own, apart⟩, rfl⟩
    · exact .inr ⟨other, List.mem_cons_of_mem _ there, moved⟩

/-- The projects a review pauses. -/
def pausedOf (capacity_limit : ℤ) (low_fit_threshold : Number) (position : ℕ) (items : List Ranked) :
    List Reviewed :=
  ((items.zipIdx position).filter (pauses capacity_limit low_fit_threshold)).map
    (reviewed capacity_limit low_fit_threshold)

omit [Platform] in
theorem pausedOf_cons (capacity_limit : ℤ) (low_fit_threshold : Number) (position : ℕ) (item : Ranked)
    (items : List Ranked) :
    pausedOf capacity_limit low_fit_threshold position (item :: items) =
      (if pauses capacity_limit low_fit_threshold (item, position) then
        [reviewed capacity_limit low_fit_threshold (item, position)] else []) ++
      pausedOf capacity_limit low_fit_threshold (position + 1) items := by
  rw [pausedOf, List.zipIdx_cons, List.filter_cons]
  split <;> rfl

/-- A review says about each project what its position calls for, and pauses those it says so of. -/
theorem ends_reviewEach (capacity_limit : ℤ) (low_fit_threshold : Number) (position : ℕ)
    (items : List Ranked) (world : World) :
    (chief.reviewEach capacity_limit low_fit_threshold position items).Ends world
      fun outcome changed => ∀ result, outcome = .ok result →
        result.1 = (items.zipIdx position).map (reviewed capacity_limit low_fit_threshold) ∧
        result.2 = (pausedOf capacity_limit low_fit_threshold position items).map (·.project_id) ∧
        ∃ rows, List.Forall₂ (Moves (pausedOf capacity_limit low_fit_threshold position items))
          world.db.project_state rows ∧ Logged (withStates rows world) changed := by
  induction items generalizing position world with
  | nil =>
    rintro result ⟨⟩
    exact ⟨rfl, rfl, _, forall₂_moves_nil _, .refl world⟩
  | cons item items ih =>
    rw [reviewEach]
    dsimp only
    split
    next paused =>
      have own : pauses capacity_limit low_fit_threshold (item, position) = true := by
        simp [pauses, paused]
      have said : reviewed capacity_limit low_fit_threshold (item, position) =
          ⟨item, (item.recommend capacity_limit low_fit_threshold position).1,
            (item.recommend capacity_limit low_fit_threshold position).2⟩ := by
        simp [reviewed, paused.2]
      refine (ends_transition_project ..).bind (fun _ moved written => ?_) fun _ _ _ _ same => by cases same
      obtain ⟨stamp, logged⟩ := written.1 rfl
      refine (ih (position + 1) moved).bind (fun rest last later => ?_) fun _ _ _ _ same => by cases same
      obtain ⟨told, names, rows, states, after⟩ := later rest rfl
      rintro result ⟨⟩
      rw [pausedOf_cons, if_pos own, List.zipIdx_cons, List.map_cons, said, told, names]
      obtain ⟨audit_log, drawn, rfl⟩ := logged
      exact ⟨rfl, rfl, rows, forall₂_moves_cons states, after⟩
    next kept =>
      have own : pauses capacity_limit low_fit_threshold (item, position) = false := by
        simpa [pauses] using kept
      have said : reviewed capacity_limit low_fit_threshold (item, position) = ⟨item,
          if (item.recommend capacity_limit low_fit_threshold position).1 ≠ "PRIORITIZE" then
            (item.recommend capacity_limit low_fit_threshold position).1 ++ "_HUMAN_REVIEW"
          else (item.recommend capacity_limit low_fit_threshold position).1,
          (item.recommend capacity_limit low_fit_threshold position).2⟩ := by
        rw [not_and, Bool.not_eq_true] at kept
        dsimp only [reviewed]
        congr 1
        exact if_congr (and_iff_left_of_imp kept) rfl rfl
      refine (ih (position + 1) world).bind (fun rest last later => ?_) fun _ _ _ _ same => by cases same
      obtain ⟨told, names, rows, states, after⟩ := later rest rfl
      rintro result ⟨⟩
      rw [pausedOf_cons, own, List.zipIdx_cons, List.map_cons, said, told, names]
      exact ⟨rfl, rfl, rows, states, after⟩

/-- A world with more relationships. -/
def withLinks (links : List RelationshipRow) (world : World) : World :=
  { world with db := { world.db with relationships := world.db.relationships ++ links } }

/-- A decision is linked once to each project that it governs. -/
theorem ends_governEach (decision_id : String) (items : List Reviewed) (world : World) :
    (chief.governEach decision_id items).Ends world fun outcome changed => outcome = .ok () →
      ∃ links : List RelationshipRow,
        links.map (fun link => (link.from_record_id, link.relationship_type, link.to_record_id)) =
          items.map (fun item => (decision_id, "GOVERNS", item.project_id)) ∧
        Logged (withLinks links world) changed := by
  induction items generalizing world with
  | nil => exact fun _ => ⟨[], rfl, ⟨_, _, by rw [withLinks, List.append_nil]; rfl⟩⟩
  | cons item items ih =>
    rw [governEach]
    refine (ends_link_records ..).bind (fun id linked written => ?_) fun _ _ _ same => by cases same
    obtain ⟨stamp, _, logged⟩ := written.added id rfl
    refine (ih linked).mono fun outcome changed later ended => ?_
    obtain ⟨links, names, after⟩ := later ended
    obtain ⟨audit_log, drawn, rfl⟩ := logged
    refine ⟨⟨id, decision_id, upper "GOVERNS", item.project_id, stamp⟩ :: links, ?_, ?_⟩
    · rw [List.map_cons, List.map_cons, names]
      rfl
    · obtain ⟨log, count, rfl⟩ := after
      refine ⟨log, count, ?_⟩
      simp [withLinks, insertRelationship]

omit [Platform] in
/-- What a review prioritizes is fit enough, and within the capacity. -/
theorem reviewed_prioritized (capacity_limit : ℤ) (low_fit_threshold : Number) (entry : Ranked × ℕ) :
    (reviewed capacity_limit low_fit_threshold entry).recommendation = "PRIORITIZE" ↔
      entry.1.unfit low_fit_threshold = false ∧ (entry.2 : ℤ) ≤ capacity_limit := by
  rw [reviewed]
  dsimp only
  by_cases unfit : entry.1.unfit low_fit_threshold = true
  · -- What is unfit is challenged, by whoever may pause it.
    cases owned : entry.1.agent_owned <;> simp [Ranked.recommend, unfit]
  · by_cases late : capacity_limit < entry.2
    · cases owned : entry.1.agent_owned <;> simp [Ranked.recommend, unfit, late]
    · simp [Ranked.recommend, unfit, late, not_lt.mp late]

omit [Platform] in
/-- A review pauses those projects of the agent that it does not prioritize. -/
theorem pausedOf_eq (capacity_limit : ℤ) (low_fit_threshold : Number) (position : ℕ)
    (items : List Ranked) :
    pausedOf capacity_limit low_fit_threshold position items =
      ((items.zipIdx position).map (reviewed capacity_limit low_fit_threshold)).filter fun item =>
        item.agent_owned && item.recommendation != "PRIORITIZE" := by
  rw [pausedOf, List.filter_map]
  congr 2
  funext entry
  rw [pauses, Function.comp_apply, Bool.and_comm]
  cases owned : entry.1.agent_owned <;> simp [reviewed, owned]

end ChiefOfStaff

/-- What stands at the first positions only is not more than these positions. -/
theorem length_filter_le {α : Type} {chosen : α → Bool} {items : List α} {bound : ℕ}
    (early : ∀ (position : ℕ) (item : α), items[position]? = some item → chosen item = true →
      position < bound) : (items.filter chosen).length ≤ bound := by
  have late : (items.drop bound).filter chosen = [] := by
    refine List.filter_eq_nil_iff.mpr fun item there taken => ?_
    obtain ⟨position, at_⟩ := List.getElem?_of_mem there
    rw [List.getElem?_drop] at at_
    have := early _ item at_ taken
    omega
  calc (items.filter chosen).length
      = ((items.take bound ++ items.drop bound).filter chosen).length := by rw [List.take_append_drop]
    _ = ((items.take bound).filter chosen).length := by rw [List.filter_append, late, List.append_nil]
    _ ≤ (items.take bound).length := List.length_filter_le _ _
    _ ≤ bound := List.length_take_le _ _

theorem nodup_eraseDups (texts : List String) : texts.eraseDups.Nodup := by
  induction size : texts.length using Nat.strong_induction_on generalizing texts with
  | _ size ih =>
    cases texts with
    | nil => exact List.nodup_nil
    | cons text texts =>
      rw [List.eraseDups_cons]
      refine List.nodup_cons.mpr ⟨fun there => ?_, ih _ ?_ _ rfl⟩
      · simpa using (List.mem_filter.mp (List.mem_eraseDups.mp there)).2
      · rw [← size, List.length_cons]
        exact Nat.lt_succ_of_le (List.length_filter_le _ _)

/-- The projects that a review has paused. -/
def Review.paused (review : Review) : List Reviewed :=
  review.ranked_projects.filter fun item => item.agent_owned && item.recommendation != "PRIORITIZE"

/-- What a review has made of a database. -/
structure PortfolioReviewed [Platform] (chief : ChiefOfStaff) (project_ids : List String)
    (capacity_limit : ℤ) (low_fit_threshold : Number) (world : World) (review : Review)
    (changed : World) : Prop where
  /-- Every project that was asked for is ranked once. -/
  every : (review.ranked_projects.map (·.project_id)).Perm project_ids.eraseDups
  /-- What is ranked is what is stored. -/
  found : ∀ item ∈ review.ranked_projects, chief.Finds world.db item.toRanked
  /-- The ranks are those of the scores, and of the identifiers where scores are equal. -/
  ordered : (∀ item ∈ review.ranked_projects, item.score ≠ .nan) →
    review.ranked_projects.Pairwise fun one two => one.toRanked.before two.toRanked = true
  /-- What is fit enough and within the capacity is prioritized, and nothing else. -/
  prioritized : ∀ (position : ℕ) (item : Reviewed), review.ranked_projects[position]? = some item →
    (item.recommendation = "PRIORITIZE" ↔
      item.unfit low_fit_threshold = false ∧ (position : ℤ) < capacity_limit)
  /-- No more is prioritized than the capacity allows. -/
  capacity : ((review.ranked_projects.filter (·.recommendation == "PRIORITIZE")).length : ℤ) ≤
    capacity_limit
  /-- What is reported as paused are the agent's own projects that are not prioritized. -/
  reported : review.autonomously_paused = review.paused.map (·.project_id)
  /-- These are paused, and no other lifecycle state is touched. -/
  states : List.Forall₂ (ChiefOfStaff.Moves review.paused) world.db.project_state
    changed.db.project_state
  /-- One decision is recorded, and linked once to each project. -/
  decided : ∃ row links, review.decision_id = some row.id ∧
    (∀ other ∈ world.db.records, other.id ≠ row.id) ∧ row.entity_type = .DECISION ∧
    row.owner_scope = .IAC ∧ row.created_by = chief.actor.id ∧
    row.payload = Json.sorted (.obj [("kind", .str "PORTFOLIO_REVIEW"),
      ("ranked_projects", .arr (review.ranked_projects.map Reviewed.toJson)),
      ("capacity_limit", .int capacity_limit), ("low_fit_threshold", .float low_fit_threshold),
      ("autonomously_paused", .arr (review.autonomously_paused.map .str))]) ∧
    changed.db.records = world.db.records ++ [row] ∧
    changed.db.relationships = world.db.relationships ++ links ∧
    links.map (fun link => (link.from_record_id, link.relationship_type, link.to_record_id)) =
      review.ranked_projects.map fun item => (row.id, "GOVERNS", item.project_id)
  /-- Nothing else is changed but the audit log. -/
  rest : Logged { world with db := { world.db with
    records := changed.db.records
    relationships := changed.db.relationships
    project_state := changed.db.project_state } } changed

namespace ChiefOfStaff

variable [Platform] (chief : ChiefOfStaff)

/-- A review that returns has ranked, paused and recorded exactly what it says. -/
theorem ends_review_portfolio (project_ids : List String) (capacity_limit : ℤ)
    (low_fit_threshold : Number) (world : World) :
    (chief.review_portfolio project_ids capacity_limit low_fit_threshold).Ends world
      fun outcome changed => ∀ review, outcome = .ok review →
        PortfolioReviewed chief project_ids capacity_limit low_fit_threshold world review changed := by
  rw [review_portfolio]
  split
  · exact fun _ same => by cases same
  split
  · exact fun _ same => by cases same
  next bounds =>
    have ranked : (chief.ranking project_ids).Ends world fun outcome _ => ∀ items,
        outcome = .ok items → (items.map (·.project_id)).Perm project_ids.eraseDups :=
      fun items same => (chief.returns_ranking project_ids).run same
    refine (ranked.and (chief.ends_ranking project_ids world)).bind (fun items read found => ?_)
      fun _ _ _ _ same => by cases same
    obtain ⟨every, logged, found⟩ := found
    have every := every items rfl
    obtain ⟨stored, ordered⟩ := found items rfl
    refine (chief.ends_reviewEach capacity_limit low_fit_threshold 1 items read).bind (fun result moved after => ?_) fun _ _ _ _ same => by cases same
    obtain ⟨told, named, rows, states, left⟩ := after result rfl
    refine (ends_create_record _).bind (fun decision_id added created => ?_) fun _ _ _ _ same => by cases same
    obtain ⟨row, rfl, answers, inserted⟩ := created.added decision_id rfl
    refine (chief.ends_governEach _ _ _).bind (fun _ last governed => ?_) fun _ _ _ _ same => by cases same
    obtain ⟨links, joined, linked⟩ := governed rfl
    rintro review ⟨⟩
    -- The four parts wrote to tables of their own, so that what each left is read off the last world.
    obtain ⟨log₁, drawn₁, rfl⟩ := logged
    obtain ⟨log₂, drawn₂, rfl⟩ := left
    obtain ⟨log₃, drawn₃, rfl⟩ := inserted.logged
    obtain ⟨log₄, drawn₄, rfl⟩ := linked
    have kind : row.entity_type = .DECISION :=
      (Option.some.inj ((show EntityType.read (upper "DECISION") = some .DECISION from rfl).symm.trans
        answers.kind)).symm
    have scope : row.owner_scope = .IAC :=
      (Option.some.inj ((show Scope.read (upper "IAC") = some .IAC from rfl).symm.trans
        answers.scope)).symm
    have paused : Review.paused ⟨some row.id, result.1, result.2⟩ =
        pausedOf capacity_limit low_fit_threshold 1 items := by
      rw [Review.paused, told, pausedOf_eq]
    have first : result.1.map (·.toRanked) = items := by
      rw [told, List.map_map]
      exact List.zipIdx_map_fst 1 items
    have at_ (position : ℕ) (item : Reviewed) (there : result.1[position]? = some item) :
        item.recommendation = "PRIORITIZE" ↔
          item.unfit low_fit_threshold = false ∧ (position : ℤ) < capacity_limit := by
      rw [told, List.getElem?_map, Option.map_eq_some_iff] at there
      obtain ⟨entry, there, rfl⟩ := there
      rw [List.getElem?_zipIdx, Option.map_eq_some_iff] at there
      obtain ⟨ranked, _, rfl⟩ := there
      rw [reviewed_prioritized]
      push_cast
      exact and_congr_right fun _ => by omega
    have untouched : ¬row.entity_type = .PROJECT := by
      rw [kind]
      decide
    refine ⟨?_, fun item there => ?_, fun scored => ?_, at_, ?_, ?_, ?_, ?_, ?_⟩
    · rw [← first, List.map_map] at every
      exact every
    · refine stored item.toRanked ?_
      rw [← first]
      exact List.mem_map_of_mem there
    · -- Behind equal scores the identifiers decide, and these are distinct.
      have distinct : (items.map (·.project_id)).Nodup := every.nodup_iff.mpr (nodup_eraseDups _)
      have scored_ : ∀ item ∈ items, item.score ≠ .nan := by
        rw [← first]
        exact List.forall_mem_map.mpr scored
      have strict : items.Pairwise fun one two => one.before two = true := by
        refine ((ordered scored_).and (List.pairwise_map.mp distinct)).imp_of_mem ?_
        intro one two here there both
        rw [Ranked.before_iff (scored_ one here) (scored_ two there)]
        exact lt_of_le_of_ne both.1 fun same => both.2 (congrArg (fun key => (ofLex key).2) same)
      rw [← first] at strict
      exact List.pairwise_map.mp strict
    · have early := @length_filter_le _ (·.recommendation == "PRIORITIZE") result.1
        capacity_limit.toNat fun position item there taken => by
          have := ((at_ position item there).mp (by simpa using taken)).2
          omega
      have : (((result.1).filter (·.recommendation == "PRIORITIZE")).length : ℤ) ≤ capacity_limit := by
        omega
      exact this
    · rw [paused]
      exact named
    · rw [paused]
      dsimp only [withLinks, insertRecord]
      rw [if_neg untouched]
      exact states
    · exact ⟨row, links, rfl, inserted.fresh, kind, scope, answers.author, answers.payload, rfl, rfl,
        joined⟩
    · exact ⟨log₄, drawn₄, rfl⟩

/--
What a portfolio review that returns has done.

It has ranked each of its projects once by the stored metrics, prioritized those that are fit enough
within the capacity, paused the agent's own ones among the others and no other project, and recorded
one decision with one link to each of them; nothing else has changed but the audit log.
-/
theorem portfolio_reviewed {project_ids : List String} {capacity_limit : ℤ}
    {low_fit_threshold : Number} {world changed : World} {review : Review}
    (ran : (chief.review_portfolio project_ids capacity_limit low_fit_threshold).run world =
      (.ok review, changed)) :
    PortfolioReviewed chief project_ids capacity_limit low_fit_threshold world review changed := by
  have ended := chief.ends_review_portfolio project_ids capacity_limit low_fit_threshold world
  rw [Prog.Ends, ran] at ended
  exact ended review rfl

end ChiefOfStaff

section Metrics

/-- Metrics that are all numbers between zero and one have each of them so. -/
theorem boundedValues_mem {metrics : List (String × Json)} (bounded : boundedValues metrics = .ok true)
    {name : String} {value : Json} (there : (name, value) ∈ metrics) :
    ∃ number, isBounded number = true ∧
      (value = .float number ∨ ∃ whole, value = .int whole ∧ Double.ofInt whole = some number) := by
  induction metrics with
  | nil => cases there
  | cons first rest ih =>
    obtain ⟨other, first⟩ := first
    cases first with
    | int whole =>
      rw [boundedValues] at bounded
      cases converted : Double.ofInt whole with
      | none =>
        rw [converted] at bounded
        cases bounded
      | some number =>
        rw [converted] at bounded
        dsimp only at bounded
        split at bounded
        next least =>
          rcases List.mem_cons.mp there with same | later
          · cases same
            exact ⟨number, least, .inr ⟨whole, rfl, converted⟩⟩
          · exact ih bounded later
        next => cases bounded
    | float number =>
      rw [boundedValues] at bounded
      split at bounded
      next least =>
        rcases List.mem_cons.mp there with same | later
        · cases same
          exact ⟨number, least, .inl rfl⟩
        · exact ih bounded later
      next => cases bounded
    | null => cases bounded
    | bool value => cases bounded
    | str text => cases bounded
    | arr items => cases bounded
    | obj members => cases bounded

theorem within_of_isBounded {number : Number} (bounded : isBounded number = true) :
    Double.Within 0 number := by
  cases number with
  | finite value =>
    have range := of_decide_eq_true bounded
    rw [Double.Within, abs_of_nonneg range.1, pow_zero]
    exact range.2
  | negZero => trivial
  | infinite negative => cases bounded
  | nan => cases bounded

/-- A metric between zero and one contributes no more than it is weighed with. -/
theorem within_weighed {metrics : List (String × Json)} (bounded : boundedValues metrics = .ok true)
    {name : String} {weight : ℚ} (light : Double.Within 0 (Double.round weight)) {number : Number}
    (found : weighed (.obj metrics) name weight = .ok number) : Double.Within 1 number := by
  rw [weighed] at found
  cases there : metrics.lookup name with
  | none =>
    rw [there] at found
    cases found
  | some value =>
    have member : (name, value) ∈ metrics := by
      obtain ⟨before, after, rfl, -⟩ := List.lookup_eq_some_iff.mp there
      exact List.mem_append_right _ List.mem_cons_self
    obtain ⟨metric, range, given⟩ := boundedValues_mem bounded member
    have product : Double.Within 1 (Double.mul metric (Double.round weight)) :=
      (within_of_isBounded range).mul light (by decide)
    rw [there] at found
    rcases given with rfl | ⟨whole, rfl, converted⟩
    · cases found
      exact product
    · dsimp only at found
      rw [converted] at found
      cases found
      exact product

/-- The score of metrics between zero and one is a finite float. -/
theorem within_portfolioScore {metrics : List (String × Json)}
    (bounded : boundedValues metrics = .ok true) {score : Number}
    (scored : portfolioScore (.obj metrics) = .ok score) : Double.Within 13 score := by
  rw [portfolioScore] at scored
  obtain ⟨fit, one, scored⟩ := passed_of_bind scored
  obtain ⟨value, two, scored⟩ := passed_of_bind scored
  obtain ⟨urgency, three, scored⟩ := passed_of_bind scored
  obtain ⟨confidence, four, scored⟩ := passed_of_bind scored
  obtain ⟨effort, five, scored⟩ := passed_of_bind scored
  obtain ⟨risk, six, scored⟩ := passed_of_bind scored
  cases scored
  have part {name : String} {weight : ℚ} {number : Number} (bound : ℕ)
      (light : Double.Within 0 (Double.round weight))
      (found : weighed (.obj metrics) name weight = .ok number) : Double.Within (bound + 1) number :=
    (within_weighed bounded light found).mono (by omega)
  -- Each sum may be rounded to at most four times the greater of its bounds.
  have two_ := (part 0 (by decide +kernel) one).add (part 0 (by decide +kernel) two) (by decide)
  have three_ := two_.add (part 2 (by decide +kernel) three) (by decide)
  have four_ := three_.add (part 4 (by decide +kernel) four) (by decide)
  have five_ := four_.sub (part 6 (by decide +kernel) five) (by decide)
  have six_ := five_.sub (part 8 (by decide +kernel) six) (by decide)
  exact six_.roundPlaces 4 (by decide)

/-- The score of a project with valid metrics is a finite float. -/
theorem within_of_validMetrics {payload metrics : Json} (valid : validMetrics payload = .ok true)
    (given : payloadMember "portfolio_metrics" payload = .ok (some metrics)) {score : Number}
    (scored : portfolioScore metrics = .ok score) : Double.Within 13 score := by
  rw [validMetrics, given] at valid
  cases metrics with
  | obj members =>
    replace valid : (if hasRequiredMetrics members = true then boundedValues members else .ok false) =
      .ok true := valid
    split at valid
    · exact within_portfolioScore valid scored
    · cases valid
  | null => cases valid
  | bool value => cases valid
  | int value => cases valid
  | float value => cases valid
  | str text => cases valid
  | arr items => cases valid

end Metrics

/-- Projects are split into those that can be ranked and those that cannot, and none is lost. -/
theorem splitProjects_perm {rows : List RecordRow} {eligible missing : List String}
    (split : splitProjects rows = .ok (eligible, missing)) :
    (eligible ++ missing).Perm (rows.map (·.id)) ∧ ∀ row ∈ rows,
      validMetrics row.payload = .ok true ∧ row.id ∈ eligible ∨
        validMetrics row.payload = .ok false ∧ row.id ∈ missing := by
  induction rows generalizing eligible missing with
  | nil =>
    cases split
    exact ⟨.nil, by simp⟩
  | cons row rows ih =>
    rw [splitProjects, bind_ok_iff] at split
    obtain ⟨valid, checked, split⟩ := split
    rw [bind_ok_iff] at split
    obtain ⟨⟨ranked, lacking⟩, rest, split⟩ := split
    obtain ⟨perm, cases_⟩ := ih rest
    cases valid with
    | true =>
      cases split
      refine ⟨perm.cons row.id, List.forall_mem_cons.mpr
        ⟨.inl ⟨checked, List.mem_cons_self⟩, fun other there => ?_⟩⟩
      exact (cases_ other there).imp_left fun found => ⟨found.1, List.mem_cons_of_mem _ found.2⟩
    | false =>
      cases split
      refine ⟨List.perm_middle.trans (perm.cons row.id), List.forall_mem_cons.mpr
        ⟨.inr ⟨checked, List.mem_cons_self⟩, fun other there => ?_⟩⟩
      exact (cases_ other there).imp_right fun found => ⟨found.1, List.mem_cons_of_mem _ found.2⟩

theorem eraseDups_of_nodup {texts : List String} (distinct : texts.Nodup) :
    texts.eraseDups.Perm texts :=
  (List.perm_ext_iff_of_nodup (nodup_eraseDups texts) distinct).mpr fun _ => List.mem_eraseDups

section Maintenance

variable {db : Database} (unique : (db.records.map (·.id)).Nodup)

include unique

/-- Every record is found under its identifier, as no two have the same one. -/
theorem record?_of_mem {row : RecordRow} (there : row ∈ db.records) :
    db.record? row.id = some row := by
  have found := @Table.find?_of_mem _ _ RecordRow.id _ ⟨db.records, unique⟩ row there
  rw [Table.find?] at found
  rw [Database.record?, ← found]
  rfl

theorem nodup_maintained : (db.maintained.map (·.id)).Nodup := by
  refine ((List.perm_insertionSort _ _).map _).nodup_iff.mpr ?_
  exact unique.sublist (List.filter_sublist.map _)

end Maintenance

/-- What a scheduled maintenance has made of a database. -/
structure PortfolioMaintained [Platform] (chief : ChiefOfStaff) (capacity_limit : ℤ)
    (low_fit_threshold : Number) (world : World) (report : Maintenance) (changed : World) : Prop where
  /-- There are not more projects than a review takes. -/
  bounded : world.db.maintained.length ≤ 100
  /-- Every active or incubated project is ranked, or reported as one without metrics. -/
  every : (report.review.ranked_projects.map (·.project_id) ++
    report.missing_metrics_project_ids).Perm (world.db.maintained.map (·.id))
  /-- What is ranked has valid metrics, and what is reported has not. -/
  valid : ∀ row ∈ world.db.maintained,
    validMetrics row.payload = .ok true ∧ row.id ∈ report.review.ranked_projects.map (·.project_id) ∨
      validMetrics row.payload = .ok false ∧ row.id ∈ report.missing_metrics_project_ids
  counted : report.reviewed_project_count = report.review.ranked_projects.length
  /-- Every score that is ranked is a finite float, so that any two of them are in order. -/
  finite : ∀ item ∈ report.review.ranked_projects, Double.Within 13 item.score
  /-- The ranks are those of the scores, and of the identifiers where scores are equal. -/
  ordered : report.review.ranked_projects.Pairwise fun one two =>
    one.toRanked.before two.toRanked = true
  /-- Nothing is written where there is nothing to rank. -/
  idle : report.review.ranked_projects = [] → changed = world
  /-- The others are reviewed. -/
  reviewed : report.review.ranked_projects ≠ [] → ∃ eligible, PortfolioReviewed chief eligible
    capacity_limit low_fit_threshold world report.review changed

namespace ChiefOfStaff

variable [Platform] (chief : ChiefOfStaff)

/--
What a scheduled maintenance that returns has done.

It has ranked every active or incubated project of the company by its stored metrics, where these are
six numbers between zero and one, has reported every other one, and has reviewed those it ranked.
-/
theorem portfolio_maintained {period_key : String} {capacity_limit : ℤ} {low_fit_threshold : Number}
    {world changed : World} {report : Maintenance} (unique : (world.db.records.map (·.id)).Nodup)
    (ran : (chief.maintain_portfolio period_key capacity_limit low_fit_threshold).run world =
      (.ok report, changed)) :
    PortfolioMaintained chief capacity_limit low_fit_threshold world report changed := by
  have ended : (chief.maintain_portfolio period_key capacity_limit low_fit_threshold).Ends world
      fun outcome changed => ∀ report, outcome = .ok report →
        PortfolioMaintained chief capacity_limit low_fit_threshold world report changed := by
    rw [maintain_portfolio]
    split
    · exact fun _ same => by cases same
    refine .read_bind ?_
    split
    · exact fun _ same => by cases same
    next few =>
    rw [List.length_take] at few
    have bounded : world.db.maintained.length ≤ 100 := by omega
    refine ends_lift_bind (fun projects split => ?_) fun _ _ _ same => by cases same
    replace split : splitProjects (world.db.maintained.take 101) = .ok projects := split
    rw [List.take_of_length_le (by omega)] at split
    obtain ⟨eligible, missing⟩ := projects
    obtain ⟨perm, valid⟩ := splitProjects_perm split
    obtain ⟨distinct, -, apart⟩ :=
      List.nodup_append.mp (perm.nodup_iff.mpr (nodup_maintained unique))
    dsimp only
    split
    next none_ =>
      rintro report ⟨⟩
      subst none_
      exact ⟨bounded, perm, valid, rfl, fun _ there => absurd there List.not_mem_nil, .nil,
        fun _ => rfl, fun some_ => absurd rfl some_⟩
    next some_ =>
      refine (chief.ends_review_portfolio eligible capacity_limit low_fit_threshold world).bind
        (fun review last reviewed => ?_) fun _ _ _ _ same => by cases same
      have result := reviewed review rfl
      have every := result.every.trans (eraseDups_of_nodup distinct)
      -- The metrics that are ranked are those that were looked at.
      have finite : ∀ item ∈ review.ranked_projects, Double.Within 13 item.score := by
        intro item there
        obtain ⟨⟨row, stored, _, _, given, _⟩, scored⟩ := result.found item there
        have listed : item.project_id ∈ eligible := every.mem_iff.mp (List.mem_map_of_mem there)
        obtain ⟨looked, member, same⟩ := splitProjects_mem split _ listed
        have passed := (valid looked member).resolve_right fun failed =>
          apart _ listed _ failed.2 same.symm
        have kept := (List.mem_insertionSort _).mp member
        have found := record?_of_mem unique (List.mem_filter.mp kept).1
        rw [same, stored] at found
        cases found
        exact within_of_validMetrics passed.1 given scored
      rintro report ⟨⟩
      refine ⟨bounded, (every.append_right _).trans perm, fun row there => ?_, ?_, finite,
        result.ordered fun item there => (finite item there).ne_nan, fun none_ => ?_,
        fun _ => ⟨eligible, result⟩⟩
      · exact (valid row there).imp_left fun found => ⟨found.1, every.mem_iff.mpr found.2⟩
      · rw [← every.length_eq, List.length_map]
      · rw [none_] at every
        exact absurd every.nil_eq.symm some_
  rw [Prog.Ends, ran] at ended
  exact ended report rfl

end ChiefOfStaff

section Example

local instance reviewedPlatform : Platform := Sample.platform []

/-- Two projects of the agent, one of the operator and one without metrics, all of them active. -/
def Sample.portfolio : World := world { Database.empty with
  records := [project "second", project "first", { project "theirs" with
      created_by := "sean"
      payload := .obj [("portfolio_metrics", .obj ((defaultMetrics.map fun metric =>
        (metric.1, if metric.1 = "strategic_fit" then .int 0 else metric.2))))] },
    { project "bare" with payload := .obj [] }]
  project_state := ["first", "second", "theirs", "bare"].map fun id =>
    ⟨id, "ACTIVE", "Demand", none, none, "2030-01-01T00:00:00+00:00"⟩ }

theorem portfolio_maintained_in_part : ∃ report changed,
    (Sample.chief.maintain_portfolio "2030-W01" 1 (.finite (1 / 4))).run Sample.portfolio =
      (.ok report, changed) ∧
    report.review.ranked_projects.map (fun item => (item.project_id, item.recommendation)) =
      [("first", "PRIORITIZE"), ("second", "PAUSE_FOR_CAPACITY"),
        ("theirs", "CHALLENGE_NO_HUMAN_REVIEW")] ∧
    PortfolioMaintained Sample.chief 1 (.finite (1 / 4)) Sample.portfolio report changed := by
  have said : ((Sample.chief.maintain_portfolio "2030-W01" 1 (.finite (1 / 4))).run
      Sample.portfolio).1.toOption.map (fun report =>
        report.review.ranked_projects.map fun item => (item.project_id, item.recommendation)) =
      some [("first", "PRIORITIZE"), ("second", "PAUSE_FOR_CAPACITY"),
        ("theirs", "CHALLENGE_NO_HUMAN_REVIEW")] := by decide +kernel
  cases ran : (Sample.chief.maintain_portfolio "2030-W01" 1 (.finite (1 / 4))).run
      Sample.portfolio with
  | mk outcome changed =>
    rw [ran] at said
    cases outcome with
    | error error => cases said
    | ok report =>
      exact ⟨report, changed, rfl, Option.some.inj said,
        Sample.chief.portfolio_maintained (by decide) ran⟩

theorem portfolio_reviewed_by_hand : ∃ review changed,
    (Sample.chief.review_portfolio ["theirs", "second", "first", "second"] 1 (.finite (1 / 4))).run
      Sample.portfolio = (.ok review, changed) ∧
    review.autonomously_paused = ["second"] ∧
    PortfolioReviewed Sample.chief ["theirs", "second", "first", "second"] 1 (.finite (1 / 4))
      Sample.portfolio review changed := by
  have said : ((Sample.chief.review_portfolio ["theirs", "second", "first", "second"] 1
      (.finite (1 / 4))).run Sample.portfolio).1.toOption.map (·.autonomously_paused) =
        some ["second"] := by decide +kernel
  cases ran : (Sample.chief.review_portfolio ["theirs", "second", "first", "second"] 1
      (.finite (1 / 4))).run Sample.portfolio with
  | mk outcome changed =>
    rw [ran] at said
    cases outcome with
    | error error => cases said
    | ok review =>
      exact ⟨review, changed, rfl, Option.some.inj said, Sample.chief.portfolio_reviewed ran⟩

end Example

end SeanOs
