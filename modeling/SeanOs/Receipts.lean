import SeanOs.Lib.Exclusive
import SeanOs.Policy
import SeanOs.Sample

/-! Receipts of work are final, as long as none is stored while another execution is under way. -/

namespace SeanOs

open Atomic

/-- An effect is an invocation of a handler for work. -/
def Effect.invokes (work_id : String) : Effect → Bool
  | .handled id _ _ => given id == some work_id
  | _ => false

namespace World

variable (world : World)

/-- The receipt of work. -/
def receipt? (work_id : String) : Option ExecutionRow := world.db.action_executions.find? work_id

/-- A result is the one that the receipt of work holds, or was stored as that. -/
def Holds (work_id : String) (result : Json) : Prop :=
  ∃ row, world.receipt? work_id = some row ∧ (result = row.result ∨ result.sorted = row.result)

end World

/-- A result is one that a handler may return, which is an object. -/
def IsObject (result : Json) : Prop := ∃ members, result = .obj members

/-- The stored results are objects, and what executions returned is stored. -/
structure ReceiptsSound (world : World) : Prop where
  objects : ∀ work_id row, world.receipt? work_id = some row → IsObject row.result
  returned : ∀ work_id result, .executed work_id result ∈ world.effects → world.Holds work_id result

/-- Receipts that are there stay, and no handler is invoked for their work any more. -/
def ReceiptsFinal (world changed : World) : Prop :=
  ∀ work_id row, world.receipt? work_id = some row → changed.receipt? work_id = some row ∧
    changed.effects.filter (·.invokes work_id) = world.effects.filter (·.invokes work_id)

/-- What anything else may do: the receipts and the effects are left alone. -/
structure SameReceipts (world changed : World) : Prop where
  receipts : changed.db.action_executions = world.db.action_executions
  effects : changed.effects = world.effects

/-- How far an execution is: it has found no receipt, or it has a result that is stored. -/
inductive ExecutePhase where
  | start
  | clear (work_id : String)
  | stored (work_id : String) (result : Json)

namespace ExecutePhase

/-- What an execution knows for good. -/
def knows : ExecutePhase → World → Prop
  | .stored work_id result, world => world.Holds work_id result
  | _, _ => True

/-- What an execution claims until it has stored its result. -/
def claims : ExecutePhase → String → World → Prop
  | .clear work_id, gate, world => gate = work_id → world.receipt? work_id = none
  | _, _, _ => True

end ExecutePhase

/-- A step stores the receipt of work. -/
def Stores (work_id : String) (label : Label) : Prop := label = .receipt work_id

/-- A step stores the receipt of work, or invokes a handler for it. -/
def Acts (work_id : String) (label : Label) : Prop :=
  label = .receipt work_id ∨
    ∃ id task_type approval_id, label = .external (.handled id task_type approval_id) ∧
      given id = some work_id

/-- A step looks for the receipt of work. -/
def Replays (work_id : String) (label : Label) : Prop := label = .replay work_id

/-- What a step of an execution does, and how far the execution is after it. -/
inductive ExecuteMove : ExecutePhase → Label → World → World → ExecutePhase → Prop
  | aside {phase : ExecutePhase} {label : Label} {world changed : World}
      (other : ∀ work_id, label ≠ .replay work_id) (same : SameReceipts world changed) :
      ExecuteMove phase label world changed phase
  | refused {work_id : String} {world : World} :
      ExecuteMove .start (.replay work_id) world world .start
  | clear {work_id : String} {world : World}
      (nothing : ∀ row, world.receipt? work_id = some row → row.result = .null) :
      ExecuteMove .start (.replay work_id) world world (.clear work_id)
  | found {work_id : String} {row : ExecutionRow} {world : World}
      (found : world.receipt? work_id = some row) :
      ExecuteMove .start (.replay work_id) world world (.stored work_id row.result)
  | unnamed {id : Option String} {task_type : String} {approval_id : Option String} {world : World}
      (unnamed : given id = none) :
      ExecuteMove .start (.external (.handled id task_type approval_id)) world
        { world with effects := .handled id task_type approval_id :: world.effects } .start
  | handled {id : Option String} {work_id task_type : String} {approval_id : Option String}
      {world : World} (named : given id = some work_id) :
      ExecuteMove (.clear work_id) (.external (.handled id task_type approval_id)) world
        { world with effects := .handled id task_type approval_id :: world.effects }
        (.clear work_id)
  | stored {row : ExecutionRow} {result : Json} {world : World}
      {executions : Table ExecutionRow.work_id} (object : IsObject result)
      (sorted : row.result = result.sorted)
      (inserted : world.db.action_executions.insert? row = some executions) :
      ExecuteMove (.clear row.work_id) (.receipt row.work_id) world
        { world with db := { world.db with action_executions := executions } }
        (.stored row.work_id result)
  | ignored {work_id : String} {result : Json} {world : World}
      (there : world.receipt? work_id ≠ none) :
      ExecuteMove (.clear work_id) (.receipt work_id) world world (.stored work_id result)
  | told {work_id : String} {result : Json} {world : World} :
      ExecuteMove (.stored work_id result) (.external (.executed work_id result)) world
        { world with effects := .executed work_id result :: world.effects }
        (.stored work_id result)

section Moves

variable {phase later : ExecutePhase} {label : Label} {world changed : World}

theorem ReceiptsFinal.refl (world : World) : ReceiptsFinal world world := fun _ _ found => ⟨found, rfl⟩

theorem ReceiptsFinal.trans {last : World} (first : ReceiptsFinal world changed)
    (second : ReceiptsFinal changed last) : ReceiptsFinal world last := by
  intro work_id row found
  obtain ⟨there, same⟩ := first work_id row found
  obtain ⟨still, again⟩ := second work_id row there
  exact ⟨still, again.trans same⟩

namespace SameReceipts

theorem refl (world : World) : SameReceipts world world := ⟨rfl, rfl⟩

theorem receipt? (same : SameReceipts world changed) (work_id : String) :
    changed.receipt? work_id = world.receipt? work_id := by
  rw [World.receipt?, World.receipt?, same.receipts]

theorem holds (same : SameReceipts world changed) {work_id : String} {result : Json}
    (holds : world.Holds work_id result) : changed.Holds work_id result := by
  rw [World.Holds, same.receipt?]
  exact holds

theorem sound (same : SameReceipts world changed) (sound : ReceiptsSound world) :
    ReceiptsSound changed := by
  constructor
  · intro work_id row found
    rw [same.receipt?] at found
    exact sound.objects work_id row found
  · rw [same.effects]
    exact fun work_id result there => same.holds (sound.returned work_id result there)

theorem knows (same : SameReceipts world changed) (known : phase.knows world) :
    phase.knows changed := by
  cases phase with
  | start | clear _ => exact trivial
  | stored work_id result => exact same.holds known

theorem claims (same : SameReceipts world changed) {gate : String}
    (claimed : phase.claims gate world) : phase.claims gate changed := by
  cases phase with
  | start | stored _ _ => exact trivial
  | clear work_id =>
    rw [ExecutePhase.claims, same.receipt?]
    exact claimed

theorem final (same : SameReceipts world changed) : ReceiptsFinal world changed := by
  intro work_id row found
  rw [same.receipt?, same.effects]
  exact ⟨found, rfl⟩

end SameReceipts

/-- What a step of an execution keeps and learns about receipts. -/
structure ExecuteRule (phase : ExecutePhase) (label : Label) (world changed : World)
    (later : ExecutePhase) : Prop where
  final : ReceiptsFinal world changed
  rule : Pool.ClaimRule Stores Replays ReceiptsSound ExecutePhase.knows ExecutePhase.claims
    phase label world changed later

/-- What leaves the receipts and the effects alone keeps everything. -/
theorem SameReceipts.rule (same : SameReceipts world changed) (sound : ReceiptsSound world)
    (known : later.knows changed)
    (claimed : ∀ gate, (¬Replays gate label → phase.claims gate world) → later.claims gate changed) :
    ExecuteRule phase label world changed later :=
  ⟨same.final, same.sound sound, fun _ => same.knows, fun _ _ _ => same.claims, known, claimed⟩

/-- An effect keeps everything, if it is no handler of work with a receipt and no other result. -/
theorem ExecuteRule.of_effect {effect : Effect} (sound : ReceiptsSound world)
    (other : ∀ work_id, label ≠ .replay work_id)
    (open_ : ∀ work_id row, world.receipt? work_id = some row → effect.invokes work_id = false)
    (returned : ∀ work_id result, effect = .executed work_id result → world.Holds work_id result)
    (known : phase.knows world) :
    ExecuteRule phase label world { world with effects := effect :: world.effects } phase := by
  refine ⟨fun work_id row found => ⟨found, ?_⟩, ⟨sound.objects, fun work_id result there => ?_⟩,
    fun next knows => ?_, fun next gate _ claimed => ?_, ?_, fun gate claimed => ?_⟩
  · show (effect :: world.effects).filter _ = _
    rw [List.filter_cons_of_neg (by rw [open_ work_id row found]; simp)]
  · rcases List.mem_cons.mp there with rfl | there
    · exact returned work_id result rfl
    · exact sound.returned work_id result there
  · cases next <;> exact knows
  · cases next <;> exact claimed
  · cases phase <;> exact known
  · have before := claimed (other gate)
    cases phase <;> exact before

/-- Every step of an execution keeps the receipts final, and learns only what holds. -/
theorem ExecuteMove.rule (sound : ReceiptsSound world) (known : phase.knows world)
    (acting : ∀ gate, Acts gate label → phase.claims gate world)
    (move : ExecuteMove phase label world changed later) :
    ExecuteRule phase label world changed later := by
  have still := SameReceipts.refl world
  cases move with
  | aside other same =>
    exact same.rule sound (same.knows known) fun gate claimed => same.claims (claimed (other gate))
  | refused => exact still.rule sound trivial fun _ _ => trivial
  | @clear work_id _ nothing =>
    refine still.rule sound trivial fun gate _ _ => ?_
    -- What is stored is an object, so nothing is stored where null is found.
    cases found : world.receipt? work_id with
    | none => rfl
    | some row =>
      obtain ⟨members, object⟩ := sound.objects work_id row found
      rw [nothing row found] at object
      cases object
  | found found => exact still.rule sound ⟨_, found, .inl rfl⟩ fun _ _ => trivial
  | unnamed unnamed =>
    refine .of_effect sound nofun (fun work_id row _ => ?_) (fun _ _ => nofun) known
    rw [Effect.invokes, unnamed]
    rfl
  | @handled id work_id task_type approval_id _ named =>
    have free := acting work_id (.inr ⟨id, task_type, approval_id, rfl, named⟩) rfl
    refine .of_effect sound nofun (fun other row found => ?_) (fun _ _ => nofun) known
    rw [Effect.invokes, named]
    -- Work with a receipt is other work.
    simp only [beq_eq_false_iff_ne, ne_eq, Option.some.injEq]
    rintro rfl
    rw [free] at found
    cases found
  | @stored row result _ executions object sorted inserted =>
    have stored (work_id : String) :
        World.receipt? { world with db := { world.db with action_executions := executions } }
          work_id = if row.work_id = work_id then some row else world.receipt? work_id :=
      Table.find?_insert inserted work_id
    have free : world.receipt? row.work_id = none :=
      (Table.insert?_isSome row).mp (by rw [inserted]; rfl)
    have kept {work_id : String} {next : ExecutionRow} (found : world.receipt? work_id = some next) :
        row.work_id ≠ work_id := by
      rintro rfl
      rw [free] at found
      cases found
    have holds {work_id : String} {value : Json} (before : world.Holds work_id value) :
        World.Holds { world with db := { world.db with action_executions := executions } }
          work_id value := by
      obtain ⟨next, found, same⟩ := before
      exact ⟨next, by rw [stored, if_neg (kept found)]; exact found, same⟩
    refine ⟨fun work_id next found => ⟨?_, rfl⟩, ⟨fun work_id next found => ?_,
      fun work_id value there => holds (sound.returned work_id value there)⟩,
        fun phase knows => ?_, fun phase gate apart claimed => ?_, ?_, fun _ _ => trivial⟩
    · rw [stored, if_neg (kept found)]
      exact found
    · rw [stored] at found
      split at found
      · cases found
        obtain ⟨members, rfl⟩ := object
        rw [sorted]
        exact ⟨_, by rw [Json.sorted]⟩
      · exact sound.objects work_id next found
    · cases phase with
      | start | clear _ => exact trivial
      | stored work_id value => exact holds knows
    · cases phase with
      | start | stored _ _ => exact trivial
      | clear work_id =>
        rintro rfl
        rw [stored, if_neg (by rintro rfl; exact apart rfl)]
        exact claimed rfl
    · exact ⟨row, by rw [stored, if_pos rfl], .inr sorted.symm⟩
  | ignored there => exact absurd (acting _ (.inl rfl) rfl) there
  | @told work_id result _ =>
    refine .of_effect sound nofun (fun _ _ _ => rfl) (fun other value same => ?_) known
    cases same
    exact known

end Moves

section Calls

variable [Platform] {phase : ExecutePhase}

/-- A program that keeps to what executions may do, from some phase. -/
abbrev ExecuteSteps {α : Type} (ends_ : ExecutePhase → Except Error α → Prop) :
    ExecutePhase → Op α → Prop := Prog.Follows (fun _ _ => True) ExecuteMove ends_

/-- A program that leaves receipts and effects alone, and looks for no receipt. -/
abbrev Aside {α : Type} (program : Op α) : Prop :=
  Prog.Keeps (fun _ _ => True) (fun label world changed =>
    (∀ work_id, label ≠ .replay work_id) ∧ SameReceipts world changed) program

omit [Platform] in
theorem Aside.steps {α : Type} {program : Op α} (aside : Aside program) :
    ExecuteSteps (fun last _ => last = phase) phase program :=
  aside.follows (fun _ _ _ _ change => .aside change.1 change.2) fun _ => rfl

omit [Platform] in
theorem aside_read {α : Type} {label : Label} (other : ∀ work_id, label ≠ .replay work_id)
    (view : World → α) : Aside (Prog.read label view : Op α) :=
  Prog.Keeps.read fun world _ => ⟨other, .refl world⟩

omit [Platform] in
theorem aside_lift {α : Type} (checked : Except Error α) : Aside (lift checked) := by
  cases checked <;> exact trivial

theorem aside_audit (actor : Actor) (action : String) (result : AuditResult) (reason : String)
    (record_id : Option String) (details : List (String × Json)) (correlation_id : Option String) :
    Aside (_audit actor action result reason record_id details correlation_id) :=
  Prog.Keeps.write fun _ _ => ⟨by nofun, rfl, rfl⟩

theorem aside_consume_approval (store : Store) (actor : Actor) (use : Consumption) :
    Aside (consume_approval store actor use) := by
  unfold consume_approval
  split
  · exact trivial
  refine Prog.Keeps.bind (aside_read (by nofun) _) fun row => ?_
  refine Prog.Keeps.bind ?_ fun timestamp => ?_
  · unfold timeOr
    split
    · exact trivial
    · exact aside_read (by nofun) _
  unfold concludeConsumption
  split
  · refine Prog.Keeps.write fun world _ => ⟨by nofun, ?_⟩
    rw [grantConsumption]
    split <;> exact ⟨rfl, rfl⟩
  · exact Prog.Keeps.bind (Prog.Keeps.write fun _ _ => ⟨by nofun, rfl, rfl⟩) fun _ => trivial

theorem aside_consumeRequired (store : Store) (actor : Actor) (policy : ActionPolicy)
    (work : Work) : Aside (consumeRequired store actor policy work) := by
  unfold consumeRequired
  split
  · exact trivial
  split
  · refine Prog.Keeps.catch ?_ fun error => by cases error <;> exact trivial
    refine Prog.Keeps.bind (aside_lift _) fun approval_id => ?_
    cases approval_id with
    | none => exact Prog.Keeps.bind (aside_audit _ _ _ _ _ _ _) fun _ => trivial
    | some approval_id => exact Prog.Keeps.bind (aside_consume_approval _ _ _) fun _ => trivial
  · exact trivial

/-- The checks leave everything alone, and pass work under an entry of the registry. -/
theorem steps_permitWork (registry : ActionRegistry) (store : Store) (actor : Actor)
    (work : Work) : ExecuteSteps (fun last outcome => last = phase ∧
      ∀ value, outcome = .ok value → value.1 ∈ registry.entries) phase
        (permitWork registry store actor work) := by
  unfold permitWork
  refine Prog.Follows.bind (aside_read (by nofun) _).steps (fun last killed same => ?_)
    fun _ _ same => ⟨same, nofun⟩
  subst same
  refine Prog.Follows.bind (aside_lift _).steps (fun last _ same => ?_) fun _ _ same => ⟨same, nofun⟩
  subst same
  cases found : registry.entry? work.task_type with
  | none => exact ⟨rfl, nofun⟩
  | some entry =>
    refine Prog.Follows.bind (aside_lift _).steps (fun last _ same => ?_)
      fun _ _ same => ⟨same, nofun⟩
    subst same
    refine Prog.Follows.bind (aside_lift _).steps (fun last estimated same => ?_)
      fun _ _ same => ⟨same, nofun⟩
    subst same
    refine Prog.Follows.bind (aside_lift _).steps (fun last _ same => ?_)
      fun _ _ same => ⟨same, nofun⟩
    subst same
    refine Prog.Follows.bind (aside_consumeRequired _ _ _ _).steps (fun last approval_id same => ?_)
      fun _ _ same => ⟨same, nofun⟩
    refine ⟨same, fun value ended => ?_⟩
    cases ended
    exact List.mem_of_find?_eq_some found

omit [Platform] in
/-- Before an execution of named work goes on, it has found no receipt, or the stored result. -/
theorem steps_storedResult (work : Work) :
    ExecuteSteps (fun last outcome => (∀ result, outcome = .ok (some result) →
        ∃ work_id, given work.id = some work_id ∧ last = .stored work_id result) ∧
      (outcome = .ok none → last = (given work.id).elim .start .clear)) .start
        (storedResult work) := by
  unfold storedResult
  cases given work.id with
  | none => exact ⟨fun _ => nofun, fun _ => rfl⟩
  | some work_id =>
    refine .read_bind fun world _ => ?_
    cases found : world.receipt? work_id with
    | none =>
      have read : world.db.action_executions.find? work_id = none := found
      refine ⟨.clear work_id, .clear fun row there => ?_, ?_⟩
      · rw [found] at there
        cases there
      · rw [read]
        exact ⟨fun _ => nofun, fun _ => rfl⟩
    | some row =>
      have read : world.db.action_executions.find? work_id = some row := found
      rw [read]
      by_cases same : row.task_type = work.task_type
      · by_cases null : row.result = .null
        · refine ⟨.clear work_id, .clear fun other there => ?_, ?_⟩
          · rw [found] at there
            cases there
            exact null
          · dsimp only
            rw [if_neg (not_not.mpr same), if_pos null]
            exact ⟨fun _ => nofun, fun _ => rfl⟩
        · refine ⟨.stored work_id row.result, .found found, ?_⟩
          dsimp only
          rw [if_neg (not_not.mpr same), if_neg null]
          exact ⟨fun result ended => ⟨work_id, rfl, by cases ended; rfl⟩, nofun⟩
      · refine ⟨.start, .refused, ?_⟩
        dsimp only
        rw [if_pos same]
        exact ⟨fun _ => nofun, nofun⟩

/-- Who has found no receipt may store a result. -/
theorem steps_record_action_result (actor : Actor) (work_id task_type : String) {result : Json}
    (object : IsObject result) :
    ExecuteSteps (fun last outcome => outcome = .ok () → last = .stored work_id result)
      (.clear work_id) (record_action_result actor work_id task_type result) := by
  unfold record_action_result
  generalize secret_findings result "$" = findings
  dsimp only
  split
  · exact Prog.Follows.bind (aside_audit _ _ _ _ _ _ _).steps (fun _ _ _ ended => by cases ended) fun _ _ _ ended => by cases ended
  refine Prog.Follows.bind (aside_read (by rintro _ ⟨⟩) _).steps (fun last item same => ?_) fun _ _ _ ended => by cases ended
  subst same
  refine Prog.Follows.bind (aside_lift _).steps (fun last cost same => ?_) fun _ _ _ ended => by cases ended
  subst same
  refine Prog.Follows.bind (aside_read (by rintro _ ⟨⟩) _).steps (fun last stamp same => ?_) fun _ _ _ ended => by cases ended
  subst same
  intro world _
  dsimp only
  cases there : world.db.work_queue.find? work_id with
  | none => exact ⟨.clear work_id, .aside (by rintro _ ⟨⟩) (.refl world), by rintro ⟨⟩⟩
  | some row =>
    rw [Option.isNone_some, if_neg (by simp)]
    cases inserted : world.db.action_executions.insert? ⟨work_id, task_type, result.sorted, stamp⟩ with
    | none =>
      -- The statement ignores what is there, and the call returns its own result all the same.
      refine ⟨.stored work_id result, .ignored fun free => ?_, ?_⟩
      · have new := (Table.insert?_isSome
          (⟨work_id, task_type, result.sorted, stamp⟩ : ExecutionRow)).mpr free
        rw [inserted] at new
        cases new
      · exact (aside_audit _ _ _ _ _ _ _).steps.mono fun _ _ same _ => same
    | some executions =>
      refine ⟨.stored work_id result, .stored object rfl inserted, ?_⟩
      exact (aside_audit _ _ _ _ _ _ _).steps.mono fun _ _ same _ => same

/-- The checks with their handler leave everything alone as well. -/
theorem steps_permitted (registry : ActionRegistry) (store : Store) (actor : Actor)
    (work : Work) : ExecuteSteps (fun last outcome => last = phase ∧
      ∀ value, outcome = .ok value → value.1 ∈ registry.entries) phase
        (tryCatch (permitWork registry store actor work) (refuseWork actor work)) := by
  have checks : ExecuteSteps (fun last outcome => last = phase ∧
      ∀ value, outcome = .ok value → value.1 ∈ registry.entries) phase
        (permitWork registry store actor work) := steps_permitWork registry store actor work
  refine checks.catch (fun _ _ passed => passed) fun last error same => ?_
  -- A refusal is recorded, and raised again.
  unfold refuseWork
  split
  · exact Prog.Follows.bind (aside_audit _ _ _ _ _ _ _).steps
      (fun _ _ stays => ⟨stays.trans same.1, nofun⟩) fun _ _ stays => ⟨stays.trans same.1, nofun⟩
  · exact ⟨same.1, nofun⟩

/-- An execution of named work ends with the stored result, if it returns. -/
theorem steps_execute {registry : ActionRegistry}
    (objects : ∀ entry ∈ registry.entries, ∀ payload result, entry.2 payload = .ok result →
      IsObject result) (store : Store) (actor : Actor) (work : Work) :
    ExecuteSteps (fun last outcome => ∀ result, outcome = .ok result → ∀ work_id,
      given work.id = some work_id → last = .stored work_id result) .start
        (registry.execute store actor work) := by
  unfold ActionRegistry.execute
  refine Prog.Follows.bind (steps_storedResult work) (fun last replay known => ?_) fun _ _ _ _ => nofun
  cases replay with
  | some result =>
    obtain ⟨work_id, named, rfl⟩ := known.1 result rfl
    refine Prog.Follows.bind (aside_audit _ _ _ _ _ _ _).steps (fun last _ same => ?_)
      fun _ _ _ _ => nofun
    intro value ended id again
    cases ended
    rw [named] at again
    cases again
    exact same
  | none =>
    rw [known.2 rfl]
    clear known last
    refine Prog.Follows.bind (steps_permitted registry store actor work)
      (fun last passed same => ?_) fun _ _ _ _ => nofun
    obtain ⟨entry, estimated, approval_id⟩ := passed
    obtain ⟨rfl, member⟩ := same
    refine Prog.Follows.bind (aside_audit _ _ _ _ _ _ _).steps (fun last _ same => ?_)
      fun _ _ _ _ => nofun
    subst same
    cases named : given work.id with
    | none =>
      intro world _
      refine ⟨.start, .unnamed named, ?_⟩
      show ExecuteSteps _ _ (lift (entry.2 work.payload) >>= fun result =>
        storeResult actor work entry.1.name result >>= fun _ => .ret result)
      unfold storeResult
      rw [named]
      refine Prog.Follows.bind (aside_lift _).steps (fun _ _ _ => ?_) fun _ _ _ _ => nofun
      exact fun _ _ _ => nofun
    | some work_id =>
      intro world _
      refine ⟨.clear work_id, .handled named, ?_⟩
      show ExecuteSteps _ _ (lift (entry.2 work.payload) >>= fun result =>
        storeResult actor work entry.1.name result >>= fun _ => .ret result)
      cases handled : entry.2 work.payload with
      | error error => exact fun _ => nofun
      | ok result =>
        show ExecuteSteps _ _ (storeResult actor work entry.1.name result >>= fun _ => .ret result)
        unfold storeResult
        rw [named]
        refine Prog.Follows.bind (steps_record_action_result actor work_id _
          (objects entry (member _ rfl) _ _ handled)) (fun last _ stored => ?_) fun _ _ _ _ => nofun
        intro value ended id again
        cases ended
        cases again
        exact stored rfl

/-- An execution of work, and a record of what it returned if the work has an identifier. -/
def executing (registry : ActionRegistry) (store : Store) (actor : Actor) (work : Work) : Op Unit :=
  registry.execute store actor work >>= fun result => match given work.id with
    | some work_id => Prog.write (.external (.executed work_id result)) fun world =>
        { world with effects := .executed work_id result :: world.effects }
    | none => .ret ()

/-- The executions of work by registries whose handlers return objects. -/
inductive ExecuteCall : Op Unit → Prop
  | execute (registry : ActionRegistry) (store : Store) (actor : Actor) (work : Work)
      (objects : ∀ entry ∈ registry.entries, ∀ payload result, entry.2 payload = .ok result →
        IsObject result) : ExecuteCall (executing registry store actor work)

/-- Every execution keeps to its phases, and records what is stored. -/
theorem ExecuteCall.steps {program : Op Unit} (called : ExecuteCall program) :
    ExecuteSteps (fun _ _ => True) .start program := by
  cases called with
  | execute registry store actor work objects =>
    refine Prog.Follows.bind (steps_execute objects store actor work) (fun last result stored => ?_)
      fun _ _ _ => trivial
    cases named : given work.id with
    | none => exact trivial
    | some work_id =>
      rw [stored result rfl work_id named]
      exact .write_bind fun world _ => ⟨_, .told, trivial⟩

end Calls

/--
The interleavings of executions, where whoever stores the receipt of work excludes the executions
that have found none and have still to invoke its handler or to store their own result.
-/
abbrev ExecuteRun [Platform] {κ : Type} [DecidableEq κ] :
    Pool κ World Label Error → Pool κ World Label Error → Prop :=
  Pool.ExclusiveRun Stores Acts Replays (fun _ => ExecuteCall) SameReceipts

/--
Receipts are authoritative in every run of executions of any work, as long as no receipt is stored
while another execution of its work has found none and has not come to its end: receipts are final,
no handler is invoked behind one, and whatever an execution returned is stored.
-/
theorem receipts_authoritative [Platform] {κ : Type} [DecidableEq κ] {start : World}
    {middle last : Pool κ World Label Error} (sound : ReceiptsSound start)
    (before : ExecuteRun (Pool.idle start) middle) (after : ExecuteRun middle last) :
    ReceiptsFinal middle.shared last.shared ∧ ∀ work_id result,
      .executed work_id result ∈ last.shared.effects → last.shared.Holds work_id result := by
  have claiming := before.claiming (fun _ => ⟨trivial, fun _ => trivial⟩)
    (fun _ _ called => called.steps)
    (fun _ _ _ _ _ sound known acting move => (move.rule sound known acting).rule)
    (fun _ _ sound same => ⟨same.sound sound, fun _ => same.knows, fun _ _ => same.claims⟩) sound
  obtain ⟨final, still⟩ := claiming.relates ReceiptsFinal.refl (fun _ _ _ => ReceiptsFinal.trans)
    (fun _ => ⟨trivial, fun _ => trivial⟩) (fun _ _ called => called.steps)
    (fun _ _ _ _ _ sound known acting move =>
      ⟨(move.rule sound known acting).final, (move.rule sound known acting).rule⟩)
    (fun _ _ sound same =>
      ⟨same.final, same.sound sound, fun _ => same.knows, fun _ _ => same.claims⟩) after
  exact ⟨final, still.1.returned⟩

namespace Sample

/-- A registry with one internal action, which always succeeds. -/
def internalRegistry : ActionRegistry := ⟨[({
  name := "INTERNAL_REPORT", allowed_scopes := ["IAC"], external_effect := false, reversible := true
  approval_required := false, cost_bearing := false }, fun _ => .ok (.obj [("done", .bool true)]))]⟩

/-- Work on that action. -/
def report : Work := ⟨some "work-1", "INTERNAL_REPORT", .IAC, []⟩

/-- A world in which the work is leased. -/
def reporting : World := world { Database.empty with
  work_queue := ⟨[{
    id := "work-1", task_type := "INTERNAL_REPORT", owner_scope := .IAC, payload := .obj []
    status := .RUNNING, priority := 100, attempts := 1, max_attempts := 3
    available_at := "2029-12-31T00:00:00+00:00", lease_owner := some "first"
    lease_expires_at := some "2029-12-31T00:01:00+00:00", last_error := none
    created_at := "2029-12-31T00:00:00+00:00", updated_at := "2029-12-31T00:00:00+00:00" }],
    List.nodup_singleton _⟩ }

theorem reporting_sound : ReceiptsSound reporting := ⟨fun _ _ => nofun, fun _ _ => nofun⟩

end Sample

section Examples

open Sample

local instance receiptsPlatform : Platform := platform []

/-- The execution of that work. -/
def Sample.reportOnce : Op Unit := executing internalRegistry ⟨.IAC⟩ worker report

theorem Sample.reportOnce_called : ExecuteCall reportOnce := by
  refine .execute _ _ _ _ fun entry there payload result returned => ?_
  rw [internalRegistry, List.mem_singleton] at there
  subst there
  cases returned
  exact ⟨_, rfl⟩

/-- One execution from its beginning to its end. -/
def Sample.executes (caller : Bool) : List (Pool.Event Bool World Label Error) :=
  .start caller reportOnce :: steps 9 caller

/-- Executions one by one are such a run. -/
theorem Sample.executes_run {start pool : Pool Bool World Label Error} {caller : Bool}
    (alone : Pool.playedAll Pool.lonely (fun label => match label with
      | .receipt _ => false
      | _ => true) (executes caller) pool = true)
    (run : ExecuteRun start pool) : ExecuteRun start ((executes caller).foldl Pool.play pool) := by
  refine Pool.ExclusiveRun.play Pool.lonely
    (fun _ _ lonely _ apart gate => Pool.not_mayReach_of_lonely lonely apart gate) (fun label => match label with | .receipt _ => false | _ => true)
    (fun label quiet gate sealed => ?_) (executes caller) (fun caller program there => ?_)
    (fun change there => ?_) alone run
  · rw [sealed] at quiet
    cases quiet
  · rcases List.mem_cons.mp there with same | there
    · cases same
      exact reportOnce_called
    · cases List.eq_of_mem_replicate there
  · rcases List.mem_cons.mp there with same | there
    · cases same
    · cases List.eq_of_mem_replicate there

/-- The second of two executions one by one returns what the first one has stored. -/
theorem receipts_authoritative_twice : ∃ middle last : Pool Bool World Label Error,
    ExecuteRun (Pool.idle reporting) middle ∧ ExecuteRun middle last ∧
      last.shared.effects.length = 3 ∧ ReceiptsFinal middle.shared last.shared ∧
        ∀ work_id result, .executed work_id result ∈ last.shared.effects →
          last.shared.Holds work_id result := by
  have first : ExecuteRun (Pool.idle reporting)
      ((executes false).foldl Pool.play (Pool.idle reporting)) :=
    executes_run (by decide +kernel) .refl
  have second : ExecuteRun ((executes false).foldl Pool.play (Pool.idle reporting))
      ((executes true).foldl Pool.play
        ((executes false).foldl Pool.play (Pool.idle reporting))) :=
    executes_run (by decide +kernel) .refl
  exact ⟨_, _, first, second, by decide +kernel,
    receipts_authoritative reporting_sound first second⟩

/-- An execution that has looked before the receipt was stored invokes its handler behind it. -/
theorem receipts_authoritative_overlap : ∃ (start : World) (middle last : Pool Bool World Label Error),
    ReceiptsSound start ∧
      Pool.Reaches (fun _ => ExecuteCall) SameReceipts (fun _ _ _ => True) (Pool.idle start) middle ∧
      Pool.Reaches (fun _ => ExecuteCall) SameReceipts (fun _ _ _ => True) middle last ∧
      ¬ReceiptsFinal middle.shared last.shared := by
  let looks : List (Pool.Event Bool World Label Error) := .start false reportOnce :: steps 1 false
  have played {start pool : Pool Bool World Label Error}
      (events : List (Pool.Event Bool World Label Error))
      (known : ∀ event ∈ events, (∃ caller, event = .act caller) ∨
        ∃ caller, event = .start caller reportOnce)
      (run : Pool.Reaches (fun _ => ExecuteCall) SameReceipts (fun _ _ _ => True) start pool) :
      Pool.Reaches (fun _ => ExecuteCall) SameReceipts (fun _ _ _ => True) start
        (events.foldl Pool.play pool) := by
    refine Pool.Reaches.play (fun _ _ _ => true) (fun _ _ _ _ => trivial) events
      (fun caller program there => ?_) (fun change there => ?_) (Pool.playableAll_true _ _) run
    · rcases known _ there with ⟨_, same⟩ | ⟨_, same⟩
      · cases same
      · cases same
        exact reportOnce_called
    · rcases known _ there with ⟨_, same⟩ | ⟨_, same⟩ <;> cases same
  refine ⟨reporting, (looks ++ executes true).foldl Pool.play (Pool.idle reporting),
    (steps 8 false).foldl Pool.play ((looks ++ executes true).foldl Pool.play (Pool.idle reporting)),
    reporting_sound, played _ (fun event there => ?_) .refl, played _ (fun event there => ?_) .refl,
    fun final => ?_⟩
  · simp only [looks, executes, steps, List.mem_append, List.mem_cons, List.mem_replicate] at there
    grind
  · exact .inl ⟨_, List.eq_of_mem_replicate there⟩
  · have stored : (World.receipt? ((looks ++ executes true).foldl Pool.play
        (Pool.idle reporting)).shared "work-1").isSome = true := by decide +kernel
    obtain ⟨row, found⟩ := Option.isSome_iff_exists.mp stored
    have same := congrArg List.length (final "work-1" row found).2
    have differ : (((steps 8 false).foldl Pool.play
        ((looks ++ executes true).foldl Pool.play (Pool.idle reporting))).shared.effects.filter
          (·.invokes "work-1")).length = 2 ∧ (((looks ++ executes true).foldl Pool.play
            (Pool.idle reporting)).shared.effects.filter (·.invokes "work-1")).length = 1 := by
      decide +kernel
    omega

end Examples

end SeanOs
