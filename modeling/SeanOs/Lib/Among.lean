import SeanOs.Lib.Interleave

/-! One call among others: its own steps, between which anything else may move, and how it ends. -/

namespace Atomic

/-- A step that a call has taken: its label, and the states before and after it. -/
structure Taken (σ ι : Type) where
  label : ι
  before : σ
  after : σ

namespace Prog

variable {σ ι ε α τ : Type}

/--
A run of one call among others: the steps it took, how it ended and the state it left.

A call that is abandoned, as in a crash, has no outcome.
-/
inductive Among (others : σ → σ → Prop) :
    Prog σ ι ε α → σ → List (Taken σ ι) → Option (Except ε α) → σ → Prop
  | ret {value : α} {state : σ} : Among others (.ret value) state [] (some (.ok value)) state
  | raise {error : ε} {state : σ} : Among others (.raise error) state [] (some (.error error)) state
  | atom {label : ι} {act : σ → σ} {next : σ → Prog σ ι ε α} {state last : σ}
      {steps : List (Taken σ ι)} {outcome : Option (Except ε α)}
      (rest : Among others (next state) (act state) steps outcome last) :
      Among others (.atom label act next) state (⟨label, state, act state⟩ :: steps) outcome last
  | others {program : Prog σ ι ε α} {state changed last : σ} {steps : List (Taken σ ι)}
      {outcome : Option (Except ε α)} (moved : others state changed)
      (rest : Among others program changed steps outcome last) :
      Among others program state steps outcome last
  | crash {program : Prog σ ι ε α} {state : σ} : Among others program state [] none state

/-- The phases a call goes through along the steps it takes, and what holds before each of them. -/
inductive Path (moves : τ → ι → σ → σ → τ → Prop) (holds : τ → σ → Prop) :
    τ → List (Taken σ ι) → τ → Prop
  | nil {phase : τ} : Path moves holds phase [] phase
  | cons {phase later last : τ} {step : Taken σ ι} {steps : List (Taken σ ι)}
      (held : holds phase step.before) (move : moves phase step.label step.before step.after later)
      (rest : Path moves holds later steps last) : Path moves holds phase (step :: steps) last

variable {others : σ → σ → Prop} {moves : τ → ι → σ → σ → τ → Prop} {holds : τ → σ → Prop}
  {ends : τ → Except ε α → Prop} {program : Prog σ ι ε α} {state last : σ}
  {steps : List (Taken σ ι)} {outcome : Option (Except ε α)} {phase final : τ}

/-- A run of a call alone is one of its runs among others. -/
theorem Among.alone (others : σ → σ → Prop) (program : Prog σ ι ε α) (state : σ) :
    ∃ steps, Among others program state steps (some (program.run state).1) (program.run state).2 := by
  -- The moves that were made are the ones of the run alone, with nothing between two of them.
  induction program generalizing state with
  | ret value => exact ⟨[], .ret⟩
  | raise error => exact ⟨[], .raise⟩
  | atom label act next ih =>
    obtain ⟨steps, rest⟩ := ih state (act state)
    exact ⟨_, .atom rest⟩

/-- A run of a program in which others change the state before each of its steps. -/
def runAmid (disturb : σ → σ) : Prog σ ι ε α → σ → Except ε α × σ
  | .ret value, state => (.ok value, state)
  | .raise error, state => (.error error, state)
  | .atom _ act next, state => runAmid disturb (next (disturb state)) (act (disturb state))

/-- A run that is disturbed before each of its steps is one of the runs among others. -/
theorem Among.amid {disturb : σ → σ} (moved : ∀ state, others state (disturb state))
    (program : Prog σ ι ε α) (state : σ) :
    ∃ steps, Among others program state steps (some (runAmid disturb program state).1)
      (runAmid disturb program state).2 := by
  -- The induction is on the program, whose every step stands behind a move of the others.
  induction program generalizing state with
  | ret value => exact ⟨[], .ret⟩
  | raise error => exact ⟨[], .raise⟩
  | atom label act next ih =>
    obtain ⟨steps, rest⟩ := ih (disturb state) (act (disturb state))
    exact ⟨_, .others (moved state) (.atom rest)⟩

/--
The rule for a call among others.

What its moves and the others keep for each phase holds all along, so the call goes through its
phases, and ends as its last one says.
-/
theorem Follows.among (follows : Follows (fun _ _ => True) moves ends phase program)
    (kept : ∀ phase label state changed later, holds phase state →
      moves phase label state changed later → holds later changed)
    (drifted : ∀ phase state changed, holds phase state → others state changed →
      holds phase changed)
    (initial : holds phase state) (among : Among others program state steps outcome last) :
    ∃ final, holds final last ∧ Path moves holds phase steps final ∧
      ∀ result, outcome = some result → ends final result := by
  -- The induction is on the run, along which the phase changes only with the call's own steps.
  induction among generalizing phase with
  | ret => exact ⟨phase, initial, .nil, fun _ ended => Option.some.inj ended ▸ follows⟩
  | raise => exact ⟨phase, initial, .nil, fun _ ended => Option.some.inj ended ▸ follows⟩
  | atom rest ih =>
    obtain ⟨later, move, followed⟩ := follows _ trivial
    obtain ⟨final, held, path, ended⟩ := ih followed (kept _ _ _ _ _ initial move)
    exact ⟨final, held, .cons initial move path, ended⟩
  | others moved rest ih => exact ih follows (drifted _ _ _ initial moved)
  | crash => exact ⟨phase, initial, .nil, nofun⟩

/-- What every move does that starts from what holds, every step of a path did. -/
theorem Path.forall (path : Path moves holds phase steps final) {does : Taken σ ι → Prop}
    (moved : ∀ phase step later, holds phase step.before →
      moves phase step.label step.before step.after later → does step) :
    ∀ step ∈ steps, does step := by
  induction path with
  | nil => nofun
  | cons held move rest ih =>
    intro step there
    -- A move is the first one, of which that is known, or one of the moves behind it.
    rcases List.mem_cons.mp there with rfl | there
    · exact moved _ _ _ held move
    · exact ih step there

/--
What every move does on its way to certain phases, every step of a path to such a phase did.

A move to such a phase starts from one.
-/
theorem Path.toward (path : Path moves holds phase steps final) (certain : τ → Prop)
    {does : Taken σ ι → Prop}
    (moved : ∀ phase step later, holds phase step.before →
      moves phase step.label step.before step.after later → certain later →
        certain phase ∧ does step)
    (ended : certain final) : certain phase ∧ ∀ step ∈ steps, does step := by
  induction path with
  | nil => exact ⟨ended, nofun⟩
  | cons held move rest ih =>
    -- What is certain at the end is certain before every move, so it is carried from the end to
    -- the front.
    obtain ⟨there, did⟩ := ih ended
    obtain ⟨here, does_⟩ := moved _ _ _ held move there
    refine ⟨here, fun step among => ?_⟩
    rcases List.mem_cons.mp among with rfl | among
    · exact does_
    · exact did step among

/-- A program that returns only such values, whatever moves between its steps. -/
def Returns (program : Prog σ ι ε α) (such : α → Prop) : Prop :=
  Follows (fun _ _ => True) (fun (_ : Unit) _ _ _ _ => True)
    (fun _ outcome => ∀ value, outcome = .ok value → such value) () program

section Returns

variable {β : Type} {such : β → Prop}

/-- A program that raises returns nothing. -/
theorem Returns.raise (error : ε) : Returns (.raise error : Prog σ ι ε β) such := nofun

/-- Where every value is such, nothing needs to be known about the program. -/
theorem Returns.of_forall (all : ∀ value, such value) (program : Prog σ ι ε β) :
    Returns program such := follows_any (fun _ _ _ => trivial) (fun _ value _ => all value) program

/-- A sequence returns what its second part does. -/
theorem Returns.bind {program : Prog σ ι ε α} {rest : α → Prog σ ι ε β}
    (second : ∀ value, Returns (rest value) such) : Returns (program >>= rest) such := by
  have first : Returns program fun _ => True := .of_forall (fun _ => trivial) program
  exact Follows.bind first (fun _ value _ => second value) fun _ _ _ => nofun

/-- What the first part of a sequence returns may be used for what the second part does. -/
theorem Returns.of_bind {program : Prog σ ι ε α} {rest : α → Prog σ ι ε β} {first : α → Prop}
    (returns : Returns program first) (second : ∀ value, first value → Returns (rest value) such) :
    Returns (program >>= rest) such :=
  Follows.bind returns (fun _ value ended => second value (ended value rfl)) fun _ _ _ => nofun

/-- A guarded program returns what it returns itself, or what its handler does. -/
theorem Returns.catch {program : Prog σ ι ε β} {handler : ε → Prog σ ι ε β}
    (first : Returns program such) (handled : ∀ error, Returns (handler error) such) :
    Returns (tryCatch program handler) such :=
  Follows.catch first (fun _ _ ended => ended) fun _ error _ => handled error

/-- What a program returns among others is such a value. -/
theorem Returns.among {program : Prog σ ι ε β} (returns : Returns program such) {value : β}
    (among : Among others program state steps (some (.ok value)) last) : such value := by
  -- To return is to follow a pattern whose only demand is on the value at the end.
  obtain ⟨_, _, _, ended⟩ := @Follows.among _ _ _ _ _ _ _ (fun _ _ => True) _ _ _ _ _ _ _ returns
    (fun _ _ _ _ _ _ _ => trivial) (fun _ _ _ _ _ => trivial) trivial among
  exact ended _ rfl value rfl

/-- What a program returns when it is run alone is such a value. -/
theorem Returns.run {program : Prog σ ι ε β} (returns : Returns program such) {value : β}
    (ran : (program.run state).1 = .ok value) : such value := by
  -- A run alone is a run among others that do nothing.
  obtain ⟨steps, among⟩ := Among.alone (fun _ _ => True) program state
  rw [ran] at among
  exact returns.among among

end Returns

end Prog

end Atomic
