import SeanOs.Lib.Program

/-! Interleavings of programs on one state, and the phases each program keeps to in any of them. -/

namespace Atomic

namespace Prog

variable {σ ι ε α β τ : Type}

/--
From one phase, every step the program can take is a permitted move to a next phase.

The state a step finds is arbitrary: nothing is assumed about what other programs do between steps.
Steps outside the permission are not constrained, and neither is anything behind them.
-/
def Follows (permits : ι → σ → Prop) (moves : τ → ι → σ → σ → τ → Prop)
    (ends : τ → Except ε α → Prop) : τ → Prog σ ι ε α → Prop
  | phase, .ret value => ends phase (.ok value)
  | phase, .raise error => ends phase (.error error)
  | phase, .atom label act next => ∀ state, permits label state →
      ∃ later, moves phase label state (act state) later ∧
        Follows permits moves ends later (next state)

variable {permits : ι → σ → Prop} {moves : τ → ι → σ → σ → τ → Prop}
  {ends : τ → Except ε α → Prop} {closes : τ → Except ε β → Prop}

/-- A program that returned follows its phases where it may end in the present one. -/
@[simp] theorem follows_ret (phase : τ) (value : α) :
    Follows permits moves ends phase (.ret value : Prog σ ι ε α) ↔ ends phase (.ok value) := Iff.rfl

/-- A program that raised follows its phases where it may end in the present one. -/
@[simp] theorem follows_raise (phase : τ) (error : ε) :
    Follows permits moves ends phase (.raise error : Prog σ ι ε α) ↔
      ends phase (.error error) := Iff.rfl

/--
A program follows its phases where its step is a permitted move and the rest follows from there.
-/
@[simp] theorem follows_atom (phase : τ) (label : ι) (act : σ → σ)
    (next : σ → Prog σ ι ε α) :
    Follows permits moves ends phase (.atom label act next) ↔ ∀ state, permits label state →
      ∃ later, moves phase label state (act state) later ∧
        Follows permits moves ends later (next state) := Iff.rfl

/-- A weaker demand on the end of the program is met as well. -/
theorem Follows.mono {program : Prog σ ι ε α} {phase : τ} {weaker : τ → Except ε α → Prop}
    (follows : Follows permits moves ends phase program)
    (weakens : ∀ last outcome, ends last outcome → weaker last outcome) :
    Follows permits moves weaker phase program := by
  -- The moves are kept as they are, and only the two ends are weakened.
  induction program generalizing phase with
  | ret value => exact weakens _ _ follows
  | raise error => exact weakens _ _ follows
  | atom label act next ih =>
    intro state permitted
    obtain ⟨later, move, rest⟩ := follows state permitted
    exact ⟨later, move, ih state rest⟩

/-- A sequence follows its phases when its second part takes over wherever the first one ends. -/
theorem Follows.bind {program : Prog σ ι ε α} {rest : α → Prog σ ι ε β} {phase : τ}
    (first : Follows permits moves ends phase program)
    (second : ∀ last value, ends last (.ok value) → Follows permits moves closes last (rest value))
    (raised : ∀ last error, ends last (.error error) → closes last (.error error)) :
    Follows permits moves closes phase (program >>= rest) := by
  -- The induction walks the first part, and the second part starts at each of its returns.
  induction program generalizing phase with
  | ret value => exact second phase value first
  | raise error => exact raised phase error first
  | atom label act next ih =>
    intro state permitted
    obtain ⟨later, move, followed⟩ := first state permitted
    exact ⟨later, move, ih state followed⟩

/-- A handler takes over wherever the guarded program raises. -/
theorem Follows.catch {program : Prog σ ι ε α} {handler : ε → Prog σ ι ε α} {phase : τ}
    {closes : τ → Except ε α → Prop}
    (first : Follows permits moves ends phase program)
    (returned : ∀ last value, ends last (.ok value) → closes last (.ok value))
    (handled : ∀ last error, ends last (.error error) →
      Follows permits moves closes last (handler error)) :
    Follows permits moves closes phase (tryCatch program handler) := by
  -- Returned values pass the handler by, and raised errors start it.
  induction program generalizing phase with
  | ret value => exact returned phase value first
  | raise error => exact handled phase error first
  | atom label act next ih =>
    intro state permitted
    obtain ⟨later, move, followed⟩ := first state permitted
    exact ⟨later, move, ih state followed⟩

/-- A transaction follows its phases when its one move is permitted, however it ends. -/
theorem Follows.transact {label : ι} {body : σ → Except ε β × σ} {phase : τ}
    (moved : ∀ state, permits label state →
      ∃ later, moves phase label state (body state).2 later ∧ closes later (body state).1) :
    Follows permits moves closes phase (Prog.transact label body : Prog σ ι ε β) := by
  intro state permitted
  obtain ⟨later, move, ended⟩ := moved state permitted
  refine ⟨later, move, ?_⟩
  -- Behind the transaction only its outcome is left.
  dsimp only
  split
  next value outcome =>
    rw [outcome] at ended
    exact ended
  next error outcome =>
    rw [outcome] at ended
    exact ended

/-- A sequence that starts with a read follows its phases when the rest does so for what was read. -/
theorem Follows.read_bind {label : ι} {view : σ → β} {rest : β → Prog σ ι ε α} {phase : τ}
    (second : ∀ state, permits label state → ∃ later, moves phase label state state later ∧
      Follows permits moves ends later (rest (view state))) :
    Follows permits moves ends phase (Prog.read label view >>= rest) := second

/-- A sequence that starts with a write follows its phases when the rest does so after the write. -/
theorem Follows.write_bind {label : ι} {change : σ → σ} {rest : Unit → Prog σ ι ε α} {phase : τ}
    (second : ∀ state, permits label state → ∃ later,
      moves phase label state (change state) later ∧ Follows permits moves ends later (rest ())) :
    Follows permits moves ends phase (Prog.write label change >>= rest) := second

/-- Every permitted step of the program is a permitted change, with no phases to keep. -/
def Keeps (permits : ι → σ → Prop) (changes : ι → σ → σ → Prop) (program : Prog σ ι ε α) : Prop :=
  Follows permits (fun (_ : Unit) label state changed _ => changes label state changed)
    (fun _ _ => True) () program

variable {changes : ι → σ → σ → Prop}

/-- A program that returned changes nothing any more. -/
@[simp] theorem keeps_ret (value : α) : Keeps permits changes (.ret value : Prog σ ι ε α) := trivial

/-- A program that raised changes nothing any more. -/
@[simp] theorem keeps_raise (error : ε) :
    Keeps permits changes (.raise error : Prog σ ι ε α) := trivial

/-- A step is kept when the step itself is a permitted change and the rest is kept. -/
theorem keeps_atom (label : ι) (act : σ → σ) (next : σ → Prog σ ι ε α) :
    Keeps permits changes (.atom label act next) ↔ ∀ state, permits label state →
      changes label state (act state) ∧ Keeps permits changes (next state) := by
  -- The only phase is the trivial one, so the choice of the next one disappears.
  constructor
  · intro follows state permitted
    obtain ⟨_, change, rest⟩ := follows state permitted
    exact ⟨change, rest⟩
  · intro keeps state permitted
    exact ⟨(), keeps state permitted⟩

/-- A sequence keeps the permitted changes when both of its parts do. -/
theorem Keeps.bind {program : Prog σ ι ε α} {rest : α → Prog σ ι ε β}
    (first : Keeps permits changes program) (second : ∀ value, Keeps permits changes (rest value)) :
    Keeps permits changes (program >>= rest) :=
  Follows.bind first (fun _ value _ => second value) fun _ _ _ => trivial

/-- A guarded program keeps the permitted changes when its handler does as well. -/
theorem Keeps.catch {program : Prog σ ι ε α} {handler : ε → Prog σ ι ε α}
    (first : Keeps permits changes program)
    (handled : ∀ error, Keeps permits changes (handler error)) :
    Keeps permits changes (tryCatch program handler) :=
  Follows.catch first (fun _ _ _ => trivial) fun _ error _ => handled error

/-- A read keeps the permitted changes when standing still is one. -/
theorem Keeps.read {label : ι} {view : σ → β}
    (still : ∀ state, permits label state → changes label state state) :
    Keeps permits changes (Prog.read label view : Prog σ ι ε β) := by
  rw [Prog.read, keeps_atom]
  exact fun state permitted => ⟨still state permitted, trivial⟩

/-- A sequence that starts with a read keeps the permitted changes when the rest does so for what was read. -/
theorem Keeps.read_bind {label : ι} {view : σ → β} {rest : β → Prog σ ι ε α}
    (still : ∀ state, permits label state → changes label state state)
    (second : ∀ state, Keeps permits changes (rest (view state))) :
    Keeps permits changes (Prog.read label view >>= rest) := by
  rw [Prog.read, bind_atom, keeps_atom]
  exact fun state permitted => ⟨still state permitted, second state⟩

/-- A write keeps the permitted changes when its one change is permitted. -/
theorem Keeps.write {label : ι} {change : σ → σ}
    (allowed : ∀ state, permits label state → changes label state (change state)) :
    Keeps permits changes (Prog.write label change : Prog σ ι ε Unit) := by
  rw [Prog.write, keeps_atom]
  exact fun state permitted => ⟨allowed state permitted, trivial⟩

/-- A transaction keeps the permitted changes when what it leaves is one, however it ends. -/
theorem Keeps.transact {label : ι} {body : σ → Except ε β × σ}
    (allowed : ∀ state, permits label state → changes label state (body state).2) :
    Keeps permits changes (Prog.transact label body : Prog σ ι ε β) := by
  -- Behind the transaction nothing is left to do.
  rw [Prog.transact, keeps_atom]
  intro state permitted
  refine ⟨allowed state permitted, ?_⟩
  cases (body state).1 with
  | ok value => exact trivial
  | error error => exact trivial

/-- A program that keeps the permitted changes follows any phase that these changes do not leave. -/
theorem Keeps.follows {program : Prog σ ι ε α} {phase : τ} (kept : Keeps permits changes program)
    (stays : ∀ label state changed, permits label state → changes label state changed →
      moves phase label state changed phase) (ended : ∀ outcome, ends phase outcome) :
    Follows permits moves ends phase program := by
  -- No step leaves the phase, so the end is reached in it.
  induction program with
  | ret value => exact ended _
  | raise error => exact ended _
  | atom label act next ih =>
    rw [keeps_atom] at kept
    intro state permitted
    obtain ⟨change, rest⟩ := kept state permitted
    exact ⟨phase, stays label state _ permitted change, ih state rest⟩

/-- A program follows a phase in which every step may be taken. -/
theorem follows_any {phase : τ} (any : ∀ label state changed, moves phase label state changed phase)
    (ended : ∀ outcome, ends phase outcome) (program : Prog σ ι ε α) :
    Follows permits moves ends phase program := by
  -- One phase is enough, since every move leads back to it.
  induction program with
  | ret value => exact ended _
  | raise error => exact ended _
  | atom label act next ih => exact fun state _ => ⟨phase, any label state _, ih state⟩

/-- What every step of a program preserves from one state to the next, its run alone does as a whole. -/
theorem Keeps.run {relation : σ → σ → Prop} {program : Prog σ ι ε α}
    (still : ∀ state, relation state state)
    (trans : ∀ first middle last, relation first middle → relation middle last →
      relation first last)
    (kept : Keeps (fun _ _ => True) (fun _ => relation) program) (state : σ) :
    relation state (program.run state).2 := by
  -- The induction takes the first step, and the rest runs from the state it leaves.
  induction program generalizing state with
  | ret value => exact still state
  | raise error => exact still state
  | atom label act next ih =>
    rw [keeps_atom] at kept
    obtain ⟨change, rest⟩ := kept state trivial
    exact trans _ _ _ change (ih state rest (act state))

/-- A program as a call whose value nobody uses. -/
def call (program : Prog σ ι ε α) : Prog σ ι ε Unit := program >>= fun _ => .ret ()

/-- A program that runs without interruption, as one step. -/
def alone (label : ι) (program : Prog σ ι ε α) : Prog σ ι ε α := transact label program.run

/-- A call leaves what its program leaves. -/
theorem run_call (program : Prog σ ι ε α) (state : σ) :
    (program.call.run state).2 = (program.run state).2 := by
  rw [call, run_bind]
  -- A call ends in a value of no interest, whichever way it ends.
  cases program.run state with
  | mk outcome changed => cases outcome <;> rfl

/-- A call follows the phases of its program. -/
theorem Follows.call {program : Prog σ ι ε α} {phase : τ}
    (follows : Follows permits moves (fun _ _ => True) phase program) :
    Follows permits moves (fun _ _ => True) phase program.call :=
  Follows.bind follows (fun _ _ _ => trivial) fun _ _ _ => trivial

end Prog

/-- A shared state, and what each running call has still to do. -/
structure Pool (κ σ ι ε : Type) where
  /-- The state all calls work on. -/
  shared : σ
  /-- The remaining program of each caller's current call. -/
  running : κ → Prog σ ι ε Unit

namespace Pool

variable {κ σ ι ε τ : Type} [DecidableEq κ]

/-- A pool in which no caller has anything left to do. -/
def idle (shared : σ) : Pool κ σ ι ε := ⟨shared, fun _ => .ret ()⟩

/--
One move of the interleaving.

A caller may abandon its call at any point and start another, which is how a crash looks from here.
-/
inductive Step (calls : κ → Prog σ ι ε Unit → Prop) (outside : σ → σ → Prop)
    (permits : κ → ι → σ → Prop) : Pool κ σ ι ε → Pool κ σ ι ε → Prop
  /-- One caller takes the next atomic step of its call. -/
  | act {pool : Pool κ σ ι ε} (caller : κ) {label : ι} {change : σ → σ}
      {next : σ → Prog σ ι ε Unit} (ready : pool.running caller = .atom label change next)
      (permitted : permits caller label pool.shared) :
      Step calls outside permits pool
        ⟨change pool.shared, Function.update pool.running caller (next pool.shared)⟩
  /-- One caller starts a call, abandoning whatever was left of its last one. -/
  | start {pool : Pool κ σ ι ε} (caller : κ) {program : Prog σ ι ε Unit}
      (called : calls caller program) :
      Step calls outside permits pool
        ⟨pool.shared, Function.update pool.running caller program⟩
  /-- The outside changes the shared state. -/
  | outside {pool : Pool κ σ ι ε} {changed : σ} (moved : outside pool.shared changed) :
      Step calls outside permits pool ⟨changed, pool.running⟩

/-- The pools an interleaving can reach. -/
inductive Reaches (calls : κ → Prog σ ι ε Unit → Prop) (outside : σ → σ → Prop)
    (permits : κ → ι → σ → Prop) (start : Pool κ σ ι ε) : Pool κ σ ι ε → Prop
  | refl : Reaches calls outside permits start start
  | step {middle last : Pool κ σ ι ε} (reached : Reaches calls outside permits start middle)
      (stepped : Step calls outside permits middle last) :
      Reaches calls outside permits start last

variable {calls : κ → Prog σ ι ε Unit → Prop} {outside : σ → σ → Prop}
  {permits : κ → ι → σ → Prop}

/-- Two runs follow each other. -/
theorem Reaches.trans {first middle last : Pool κ σ ι ε}
    (before : Reaches calls outside permits first middle)
    (after : Reaches calls outside permits middle last) :
    Reaches calls outside permits first last := by
  -- The second run is appended one step at a time.
  induction after with
  | refl => exact before
  | step _ stepped ih => exact .step ih stepped

/-- The shared state and the callers' phases satisfy an invariant, and every call keeps to its phase. -/
def Phased (permits : κ → ι → σ → Prop) (moves : κ → τ → ι → σ → σ → τ → Prop)
    (invariant : σ → (κ → τ) → Prop) (pool : Pool κ σ ι ε) : Prop :=
  ∃ phases : κ → τ, invariant pool.shared phases ∧
    ∀ caller, Prog.Follows (permits caller) (moves caller) (fun _ _ => True) (phases caller)
      (pool.running caller)

/--
The invariant rule for phased calls.

A call enters in a phase that keeps the invariant, each permitted move keeps it, and so does the
outside; then every reachable pool has it.
-/
theorem Reaches.phased {moves : κ → τ → ι → σ → σ → τ → Prop}
    {invariant : σ → (κ → τ) → Prop} {start last : Pool κ σ ι ε}
    (entered : ∀ caller program, calls caller program → ∃ phase,
      Prog.Follows (permits caller) (moves caller) (fun _ _ => True) phase program ∧
        ∀ state phases, invariant state phases →
          invariant state (Function.update phases caller phase))
    (moved : ∀ caller label state changed phases later, invariant state phases →
      permits caller label state → moves caller (phases caller) label state changed later →
        invariant changed (Function.update phases caller later))
    (drifted : ∀ state changed phases, invariant state phases → outside state changed →
      invariant changed phases)
    (initial : Phased permits moves invariant start)
    (reached : Reaches calls outside permits start last) :
    Phased permits moves invariant last := by
  -- The phases are carried along the run, changing only at the caller that moved.
  induction reached with
  | refl => exact initial
  | step _ stepped ih =>
    obtain ⟨phases, holds, follows⟩ := ih
    cases stepped with
    | act caller ready permitted =>
      have own := follows caller
      rw [ready] at own
      obtain ⟨later, move, rest⟩ := own _ permitted
      refine ⟨Function.update phases caller later, moved _ _ _ _ _ _ holds permitted move, ?_⟩
      intro other
      by_cases same : other = caller
      · subst same; simpa using rest
      · simpa [Function.update_of_ne same] using follows other
    | start caller called =>
      obtain ⟨phase, begins, keeps⟩ := entered caller _ called
      refine ⟨Function.update phases caller phase, keeps _ _ holds, ?_⟩
      intro other
      by_cases same : other = caller
      · subst same; simpa using begins
      · simpa [Function.update_of_ne same] using follows other
    | outside moved => exact ⟨phases, drifted _ _ _ holds moved, follows⟩

/-- Calls that know facts: what the state must satisfy, and every fact that a call knows holds. -/
def Knowing {ω : Type} (invariant : σ → Prop) (knows : τ → ω → Prop) (holds : ω → σ → Prop)
    (state : σ) (phases : κ → τ) : Prop :=
  invariant state ∧ ∀ caller fact, knows (phases caller) fact → holds fact state

/--
The invariant rule for calls that know facts, from any pool of such calls.

A call starts without facts, and learns only what holds after its move; facts that hold go on to do
so, whoever moves.
-/
theorem Reaches.knowing_since {ω : Type} {moves : κ → τ → ι → σ → σ → τ → Prop}
    {invariant : σ → Prop} {knows : τ → ω → Prop} {holds : ω → σ → Prop} {first : τ}
    {start last : Pool κ σ ι ε}
    (ignorant : ∀ fact, ¬knows first fact)
    (entered : ∀ caller program, calls caller program →
      Prog.Follows (permits caller) (moves caller) (fun _ _ => True) first program)
    (moved : ∀ caller label state changed phase later, invariant state →
      (∀ fact, knows phase fact → holds fact state) → permits caller label state →
        moves caller phase label state changed later → invariant changed ∧
          (∀ fact, holds fact state → holds fact changed) ∧
            ∀ fact, knows later fact → knows phase fact ∨ holds fact changed)
    (drifted : ∀ state changed, invariant state → outside state changed →
      invariant changed ∧ ∀ fact, holds fact state → holds fact changed)
    (initial : Phased permits moves (Knowing invariant knows holds) start)
    (reached : Reaches calls outside permits start last) :
    Phased permits moves (Knowing invariant knows holds) last := by
  -- The three cases are a call that starts, a step, and a change from outside.
  refine reached.phased (fun caller program called => ⟨first, entered caller program called,
      fun state phases known => ⟨known.1, fun other fact knows => ?_⟩⟩)
    (fun caller label state changed phases later known permitted move => ?_)
    (fun state changed phases known drift => ?_) initial
  · by_cases same : other = caller
    · subst same
      rw [Function.update_self] at knows
      exact absurd knows (ignorant fact)
    · rw [Function.update_of_ne same] at knows
      exact known.2 other fact knows
  · obtain ⟨sound, kept, learned⟩ :=
      moved caller label state changed _ later known.1 (known.2 caller) permitted move
    refine ⟨sound, fun other fact knows => ?_⟩
    -- A call that starts knows nothing yet.
    by_cases same : other = caller
    · subst same
      rw [Function.update_self] at knows
      -- What the caller knows it knew before, or it has just learned it.
      rcases learned fact knows with knew | now
      · exact kept fact (known.2 other fact knew)
      · exact now
    · rw [Function.update_of_ne same] at knows
      exact kept fact (known.2 other fact knows)
  · obtain ⟨sound, kept⟩ := drifted state changed known.1 drift
    exact ⟨sound, fun other fact knows => kept fact (known.2 other fact knows)⟩

/-- The invariant rule for calls that know facts, from where none of them runs. -/
theorem Reaches.knowing {ω : Type} {moves : κ → τ → ι → σ → σ → τ → Prop} {invariant : σ → Prop}
    {knows : τ → ω → Prop} {holds : ω → σ → Prop} {start : σ} {first : τ} {last : Pool κ σ ι ε}
    (ignorant : ∀ fact, ¬knows first fact)
    (entered : ∀ caller program, calls caller program →
      Prog.Follows (permits caller) (moves caller) (fun _ _ => True) first program)
    (moved : ∀ caller label state changed phase later, invariant state →
      (∀ fact, knows phase fact → holds fact state) → permits caller label state →
        moves caller phase label state changed later → invariant changed ∧
          (∀ fact, holds fact state → holds fact changed) ∧
            ∀ fact, knows later fact → knows phase fact ∨ holds fact changed)
    (drifted : ∀ state changed, invariant state → outside state changed →
      invariant changed ∧ ∀ fact, holds fact state → holds fact changed)
    (initial : invariant start)
    (reached : Reaches calls outside permits (idle start) last) :
    Phased permits moves (Knowing invariant knows holds) last := by
  refine reached.knowing_since ignorant entered moved drifted ?_
  -- No caller knows anything yet, and none of them has a step to take.
  exact ⟨fun _ => first, ⟨initial, fun _ fact knows => absurd knows (ignorant fact)⟩,
    by exact fun _ => trivial⟩

/-- Every call still running keeps to the permitted changes. -/
def Kept (permits : κ → ι → σ → Prop) (changes : κ → ι → σ → σ → Prop)
    (pool : Pool κ σ ι ε) : Prop :=
  ∀ caller, Prog.Keeps (permits caller) (changes caller) (pool.running caller)

/-- Calls that keep to the permitted changes do so in every pool an interleaving reaches. -/
theorem Reaches.kept {changes : κ → ι → σ → σ → Prop} {start last : Pool κ σ ι ε}
    (entered : ∀ caller program, calls caller program →
      Prog.Keeps (permits caller) (changes caller) program)
    (initial : Kept permits changes start)
    (reached : Reaches calls outside permits start last) : Kept permits changes last := by
  -- A step replaces one program by its own continuation, and a start by a permitted call.
  induction reached with
  | refl => exact initial
  | step _ stepped ih =>
    cases stepped with
    | act caller ready permitted =>
      intro other
      by_cases same : other = caller
      · subst same
        have own := ih other
        rw [ready, Prog.keeps_atom] at own
        simpa using (own _ permitted).2
      · simpa [Function.update_of_ne same] using ih other
    | start caller called =>
      intro other
      by_cases same : other = caller
      · subst same; simpa using entered other _ called
      · simpa [Function.update_of_ne same] using ih other
    | outside moved => exact ih

/-- A step of a kept pool is a permitted change, or moves only programs, or is the outside's. -/
theorem Step.changes {changes : κ → ι → σ → σ → Prop} {pool last : Pool κ σ ι ε}
    (kept : Kept permits changes pool) (stepped : Step calls outside permits pool last) :
    (∃ caller label, permits caller label pool.shared ∧
      changes caller label pool.shared last.shared) ∨
      last.shared = pool.shared ∨ outside pool.shared last.shared := by
  -- Only the first kind of step runs code of a call.
  cases stepped with
  | act caller ready permitted =>
    have own := kept caller
    rw [ready, Prog.keeps_atom] at own
    exact .inl ⟨caller, _, permitted, (own _ permitted).1⟩
  | start caller called => exact .inr (.inl rfl)
  | outside moved => exact .inr (.inr moved)

/--
The invariant rule for calls that keep to permitted changes.

What every permitted change and every outside change preserves holds in all pools reached.
-/
theorem Reaches.invariant {changes : κ → ι → σ → σ → Prop} {holds : σ → Prop}
    {start last : Pool κ σ ι ε}
    (entered : ∀ caller program, calls caller program →
      Prog.Keeps (permits caller) (changes caller) program)
    (preserved : ∀ caller label state changed, holds state → permits caller label state →
      changes caller label state changed → holds changed)
    (drifted : ∀ state changed, holds state → outside state changed → holds changed)
    (kept : Kept permits changes start) (initial : holds start.shared)
    (reached : Reaches calls outside permits start last) : holds last.shared := by
  -- Each prefix of the run is kept, so its next step is one of the three kinds.
  induction reached with
  | refl => exact initial
  | step before stepped ih =>
    rcases stepped.changes (before.kept entered kept) with ⟨caller, label, permitted, change⟩ |
      same | moved
    · exact preserved caller label _ _ ih permitted change
    · rw [same]; exact ih
    · exact drifted _ _ ih moved

/-- A pool after a caller has started a call. -/
def begin_ (caller : κ) (program : Prog σ ι ε Unit) (pool : Pool κ σ ι ε) : Pool κ σ ι ε :=
  ⟨pool.shared, Function.update pool.running caller program⟩

/-- A pool after a caller has taken the next step of its call, if it has one. -/
def advance (pool : Pool κ σ ι ε) (caller : κ) : Pool κ σ ι ε :=
  match pool.running caller with
  | .atom _ change next =>
    ⟨change pool.shared, Function.update pool.running caller (next pool.shared)⟩
  | _ => pool

/-- A caller that has a permitted step left can take it. -/
theorem Step.advance {pool : Pool κ σ ι ε} (caller : κ) {label : ι} {change : σ → σ}
    {next : σ → Prog σ ι ε Unit} (ready : pool.running caller = .atom label change next)
    (permitted : permits caller label pool.shared) :
    Step calls outside permits pool (pool.advance caller) := by
  rw [Pool.advance, ready]
  exact .act caller ready permitted

/-- One caller takes a step with a label. -/
def Acts (pool : Pool κ σ ι ε) (caller : κ) (label : ι) (last : Pool κ σ ι ε) : Prop :=
  ∃ change next, pool.running caller = .atom label change next ∧
    last = ⟨change pool.shared, Function.update pool.running caller (next pool.shared)⟩

/-- A step that a caller takes where the calls keep to their phases is one of the moves. -/
theorem Phased.move {moves : κ → τ → ι → σ → σ → τ → Prop} {invariant : σ → (κ → τ) → Prop}
    {pool last : Pool κ σ ι ε} {caller : κ} {label : ι}
    (phased : Phased permits moves invariant pool) (permitted : permits caller label pool.shared)
    (acts : pool.Acts caller label last) : ∃ phases later, invariant pool.shared phases ∧
      moves caller (phases caller) label pool.shared last.shared later := by
  -- The caller follows its phases, so its next step is a move of the present one.
  obtain ⟨phases, holds, follows⟩ := phased
  obtain ⟨change, next, ready, rfl⟩ := acts
  have own := follows caller
  rw [ready] at own
  obtain ⟨later, move, _⟩ := own pool.shared permitted
  exact ⟨phases, later, holds, move⟩

/-- A permitted step that a caller takes is a step of the interleaving. -/
theorem Reaches.acts {start pool last : Pool κ σ ι ε} {caller : κ} {label : ι}
    (reached : Reaches calls outside permits start pool)
    (permitted : permits caller label pool.shared) (acts : pool.Acts caller label last) :
    Reaches calls outside permits start last := by
  obtain ⟨change, next, ready, rfl⟩ := acts
  exact reached.step (.act caller ready permitted)

/-- What every move and the outside preserve lasts from one point of a run to another. -/
theorem Reaches.lasts {moves : κ → τ → ι → σ → σ → τ → Prop} {invariant : σ → (κ → τ) → Prop}
    {holds : σ → Prop} {first last : Pool κ σ ι ε}
    (phased : ∀ pool, Reaches calls outside permits first pool → Phased permits moves invariant pool)
    (moved : ∀ caller phase label state changed later,
      moves caller phase label state changed later → holds state → holds changed)
    (drifted : ∀ state changed, outside state changed → holds state → holds changed)
    (there : holds first.shared) (reached : Reaches calls outside permits first last) :
    holds last.shared := by
  -- Every step is a move of some phase, which keeps what holds.
  induction reached with
  | refl => exact there
  | step before stepped ih =>
    cases stepped with
    | act caller ready permitted =>
      obtain ⟨phases, later, _, move⟩ := (phased _ before).move permitted ⟨_, _, ready, rfl⟩
      exact moved _ _ _ _ _ _ move ih
    | start caller called => exact ih
    | outside drift => exact drifted _ _ drift ih

/-- The label of the step a caller takes next, if it has one left. -/
def next? (pool : Pool κ σ ι ε) (caller : κ) : Option ι :=
  match pool.running caller with
  | .atom label _ _ => some label
  | _ => none

/-- A caller whose next label is known is about to take a step, and advances by it. -/
theorem ready_of_next {pool : Pool κ σ ι ε} {caller : κ} {label : ι}
    (known : pool.next? caller = some label) : ∃ change next,
      pool.running caller = .atom label change next ∧
        (pool.advance caller).shared = change pool.shared := by
  rw [next?] at known
  -- Only a program with a step left has a next label.
  cases ready : pool.running caller with
  | atom label_ change next =>
    rw [ready] at known
    cases known
    exact ⟨change, next, rfl, by rw [advance, ready]⟩
  | ret value | raise error =>
    rw [ready] at known
    cases known

/-- A caller whose next label is known acts with it. -/
theorem acts_of_next {pool : Pool κ σ ι ε} {caller : κ} {label : ι}
    (known : pool.next? caller = some label) : pool.Acts caller label (pool.advance caller) := by
  obtain ⟨change, next, ready, _⟩ := ready_of_next known
  exact ⟨change, next, ready, by rw [advance, ready]⟩

/-- Whether every step of a schedule passes a check where it is taken. -/
def passes (check : κ → ι → σ → Bool) : List κ → Pool κ σ ι ε → Bool
  | [], _ => true
  | caller :: schedule, pool =>
    (match pool.running caller with
      | .atom label _ _ => check caller label pool.shared
      | _ => true) && passes check schedule (pool.advance caller)

/-- A schedule whose steps are permitted is an interleaving. -/
theorem Reaches.schedule {start pool : Pool κ σ ι ε} (check : κ → ι → σ → Bool)
    (schedule : List κ)
    (sound : ∀ caller label state, check caller label state = true → permits caller label state)
    (passed : passes check schedule pool = true)
    (reached : Reaches calls outside permits start pool) :
    Reaches calls outside permits start (schedule.foldl advance pool) := by
  induction schedule generalizing pool with
  | nil => exact reached
  | cons caller schedule ih =>
    rw [passes, Bool.and_eq_true] at passed
    apply ih passed.2
    cases ready : pool.running caller with
    | atom label change next =>
      -- A caller with a step left takes it, having passed the check.
      have allowed := passed.1
      rw [ready] at allowed
      exact .step reached (.advance caller ready (sound _ _ _ allowed))
    | ret value | raise error =>
      rw [advance, ready]
      exact reached

/-- A move of an interleaving that was chosen beforehand. -/
inductive Event (κ σ ι ε : Type) where
  /-- A caller takes the next step of its call, if it has one. -/
  | act (caller : κ)
  /-- A caller starts a call. -/
  | start (caller : κ) (program : Prog σ ι ε Unit)
  /-- The outside changes the shared state. -/
  | outside (change : σ → σ)

/-- A pool after a chosen move. -/
def play (pool : Pool κ σ ι ε) : Event κ σ ι ε → Pool κ σ ι ε
  | .act caller => pool.advance caller
  | .start caller program => pool.begin_ caller program
  | .outside change => ⟨change pool.shared, pool.running⟩

/-- Whether a chosen move passes a check where it is taken. -/
def playable (check : κ → ι → σ → Bool) (pool : Pool κ σ ι ε) : Event κ σ ι ε → Bool
  | .act caller => passes check [caller] pool
  | _ => true

/-- Whether every one of some chosen moves passes a check where it is taken. -/
def playableAll (check : κ → ι → σ → Bool) : List (Event κ σ ι ε) → Pool κ σ ι ε → Bool
  | [], _ => true
  | event :: events, pool => playable check pool event && playableAll check events (pool.play event)

/-- Chosen moves pass a check that every step passes. -/
theorem playableAll_true (events : List (Event κ σ ι ε)) (pool : Pool κ σ ι ε) :
    playableAll (fun _ _ _ => true) events pool = true := by
  -- Nothing is forbidden, so each event may be played.
  induction events generalizing pool with
  | nil => rfl
  | cons event events ih =>
    rw [playableAll, ih, Bool.and_true]
    cases event with
    | act caller =>
      rw [playable, passes, passes, Bool.and_true]
      cases pool.running caller <;> rfl
    | start caller program => rfl
    | outside change => rfl

/-- Chosen moves that are permitted are an interleaving. -/
theorem Reaches.play {start pool : Pool κ σ ι ε} (check : κ → ι → σ → Bool)
    (sound : ∀ caller label state, check caller label state = true → permits caller label state)
    (events : List (Event κ σ ι ε))
    (started : ∀ caller program, .start caller program ∈ events → calls caller program)
    (drifted : ∀ change, .outside change ∈ events → ∀ state, outside state (change state))
    (passed : playableAll check events pool = true)
    (reached : Reaches calls outside permits start pool) :
    Reaches calls outside permits start (events.foldl Pool.play pool) := by
  -- The induction takes one move after another from the pool reached so far.
  induction events generalizing pool with
  | nil => exact reached
  | cons event events ih =>
    rw [playableAll, Bool.and_eq_true] at passed
    refine ih (fun caller program there => started caller program (.tail _ there))
      (fun change there => drifted change (.tail _ there)) passed.2 ?_
    cases event with
    | act caller => exact reached.schedule check [caller] sound passed.1
    | start caller program => exact .step reached (.start caller (started _ _ (.head _)))
    | outside change => exact .step reached (.outside (drifted _ (.head _) _))

omit [DecidableEq κ] in
/-- An idle pool keeps to any changes, having none to make. -/
theorem idle_kept (changes : κ → ι → σ → σ → Prop) (shared : σ) :
    Kept permits changes (idle shared : Pool κ σ ι ε) :=
  fun _ => trivial

end Pool

end Atomic
