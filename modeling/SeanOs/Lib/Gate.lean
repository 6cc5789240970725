import SeanOs.Lib.Interleave

/-! Programs that look at a gate before they pass it, and when no interleaving passes a shut one. -/

namespace Atomic

namespace Prog

variable {σ ι ε α β : Type} (target look : ι → Prop) (shut : σ → Prop)

/-- A program may take a target step before it looks at the gate again. -/
def MayReach : Prog σ ι ε α → Prop
  | .ret _ | .raise _ => False
  | .atom label _ next => ∃ state, target label ∨ ¬look label ∧ MayReach (next state)

/-- Wherever a look of a program leaves the gate shut, it looks again before a target step. -/
def Careful : Prog σ ι ε α → Prop
  | .ret _ | .raise _ => True
  | .atom label act next =>
    (look label → ∀ state, shut (act state) → ¬MayReach target look (next state)) ∧
      ∀ state, Careful (next state)

/-- A careful program that looks at the gate before its first target step. -/
structure Gated (program : Prog σ ι ε α) : Prop where
  outside : ¬MayReach target look program
  careful : Careful target look shut program

/-- No step of a program has a label of some kind, whatever states it finds. -/
abbrev Avoids (bad : ι → Prop) (program : Prog σ ι ε α) : Prop :=
  Keeps (fun _ _ => True) (fun label _ _ => ¬bad label) program

variable {target look shut}

/-- A program without target steps reaches none. -/
theorem Avoids.not_mayReach {program : Prog σ ι ε α} (avoids : Avoids target program) :
    ¬MayReach target look program := by
  -- Every continuation avoids the target steps as well.
  induction program with
  | ret value => exact id
  | raise error => exact id
  | atom label act next ih =>
    rw [Avoids, keeps_atom] at avoids
    rintro ⟨state, here | ⟨_, later⟩⟩
    · exact (avoids state trivial).1 here
    · exact ih state (avoids state trivial).2 later

/-- A program that never looks at the gate is careful. -/
theorem Avoids.careful {program : Prog σ ι ε α} (avoids : Avoids look program) :
    Careful target look shut program := by
  -- No step looks at the gate, so nothing has to be shown behind a look.
  induction program with
  | ret value => exact trivial
  | raise error => exact trivial
  | atom label act next ih =>
    rw [Avoids, keeps_atom] at avoids
    exact ⟨fun looks state _ => absurd looks (avoids state trivial).1,
      fun state => ih state (avoids state trivial).2⟩

/-- A program without target steps is gated. -/
theorem Avoids.gated {program : Prog σ ι ε α} (untargeted : Avoids target program) :
    Gated target look shut program := by
  -- No step is a target, so none is reached behind a look either.
  refine ⟨untargeted.not_mayReach, ?_⟩
  induction program with
  | ret value => exact trivial
  | raise error => exact trivial
  | atom label act next ih =>
    rw [Avoids, keeps_atom] at untargeted
    exact ⟨fun _ state _ => Avoids.not_mayReach (untargeted state trivial).2,
      fun state => ih state (untargeted state trivial).2⟩

/-- A program that neither looks nor targets may come before a gated one. -/
theorem Gated.bind {program : Prog σ ι ε α} {rest : α → Prog σ ι ε β}
    (untargeted : Avoids target program) (blind : Avoids look program)
    (second : ∀ value, Gated target look shut (rest value)) :
    Gated target look shut (program >>= rest) := by
  induction program with
  | ret value => exact second value
  | raise error => exact ⟨id, trivial⟩
  | atom label act next ih =>
    rw [Avoids, keeps_atom] at untargeted blind
    -- Each state the first program passes through leads to the second one.
    have later := fun state =>
      ih state (untargeted state trivial).2 (blind state trivial).2
    constructor
    · rintro ⟨state, here | ⟨_, there⟩⟩
      · exact (untargeted state trivial).1 here
      · exact (later state).outside there
    · exact ⟨fun looks state _ => absurd looks (blind state trivial).1,
        fun state => (later state).careful⟩

/-- A look at the gate, behind which only a shut gate keeps a program from its target steps. -/
theorem Gated.read {label : ι} {view : σ → β} {rest : β → Prog σ ι ε α} (looks : look label)
    (other : ¬target label)
    (closed : ∀ state, shut state → ¬MayReach target look (rest (view state)))
    (careful : ∀ state, Careful target look shut (rest (view state))) :
    Gated target look shut (Prog.read label view >>= rest) := by
  -- Before the look nothing is reached, and behind it that depends on what was seen.
  constructor
  · rintro ⟨_, here | ⟨blind, _⟩⟩
    · exact other here
    · exact blind looks
  · exact ⟨fun _ state found => closed state found, careful⟩

/-- In front of what has no target steps, only the program itself can reach one. -/
theorem MayReach.of_bind {program : Prog σ ι ε α} {rest : α → Prog σ ι ε β}
    (untargeted : ∀ value, Avoids target (rest value))
    (reaches : MayReach target look (program >>= rest)) : MayReach target look program := by
  -- The target is not behind the first program, so it is inside.
  induction program with
  | ret value => exact absurd reaches (untargeted value).not_mayReach
  | raise error => exact reaches
  | atom label act next ih =>
    obtain ⟨state, here | ⟨blind, later⟩⟩ := reaches
    · exact ⟨state, .inl here⟩
    · exact ⟨state, .inr ⟨blind, ih state later⟩⟩

/-- What is gated is gated in front of anything that neither looks nor targets. -/
theorem Gated.before {program : Prog σ ι ε α} {rest : α → Prog σ ι ε β}
    (first : Gated target look shut program) (untargeted : ∀ value, Avoids target (rest value))
    (blind : ∀ value, Avoids look (rest value)) : Gated target look shut (program >>= rest) := by
  refine ⟨fun reaches => first.outside (reaches.of_bind untargeted), ?_⟩
  -- Behind each look of the program only the program itself could reach a target step.
  have careful := first.careful
  clear first
  induction program with
  | ret value => exact (blind value).careful
  | raise error => exact trivial
  | atom label act next ih =>
    exact ⟨fun looks state closed reaches =>
      careful.1 looks state closed (reaches.of_bind untargeted), fun state => ih state (careful.2 state)⟩

/-- A call is gated when its program is. -/
theorem Gated.call {program : Prog σ ι ε α} (gated : Gated target look shut program) :
    Gated target look shut program.call :=
  gated.before (fun _ => trivial) fun _ => trivial

end Prog

namespace Pool

variable {κ σ ι ε : Type} [DecidableEq κ] {target look : ι → Prop} {shut : σ → Prop}
  {calls : κ → Prog σ ι ε Unit → Prop} {outside : σ → σ → Prop}

/-- No caller may take a target step before it looks at the gate again. -/
def Cleared (target look : ι → Prop) (pool : Pool κ σ ι ε) : Prop :=
  ∀ caller, ¬Prog.MayReach target look (pool.running caller)

/--
A move of an interleaving that shuts the gate only when no caller is behind it.

A caller that shuts the gate by looking at it may have been behind it until then.
-/
inductive ClearStep (target look : ι → Prop) (shut : σ → Prop)
    (calls : κ → Prog σ ι ε Unit → Prop) (outside : σ → σ → Prop) :
    Pool κ σ ι ε → Pool κ σ ι ε → Prop
  | act {pool : Pool κ σ ι ε} (caller : κ) {label : ι} {change : σ → σ}
      {next : σ → Prog σ ι ε Unit} (ready : pool.running caller = .atom label change next)
      (clear : ¬shut pool.shared → shut (change pool.shared) →
        ∀ other, other ≠ caller ∨ ¬look label →
          ¬Prog.MayReach target look (pool.running other)) :
      ClearStep target look shut calls outside pool
        ⟨change pool.shared, Function.update pool.running caller (next pool.shared)⟩
  | start {pool : Pool κ σ ι ε} (caller : κ) {program : Prog σ ι ε Unit}
      (called : calls caller program) :
      ClearStep target look shut calls outside pool
        ⟨pool.shared, Function.update pool.running caller program⟩
  | outside {pool : Pool κ σ ι ε} {changed : σ} (moved : outside pool.shared changed)
      (clear : ¬shut pool.shared → shut changed → Cleared target look pool) :
      ClearStep target look shut calls outside pool ⟨changed, pool.running⟩

/-- A caller that has a step left can take it, unless that shuts the gate on a caller behind it. -/
theorem ClearStep.advance {pool : Pool κ σ ι ε} (caller : κ) {label : ι} {change : σ → σ}
    {next : σ → Prog σ ι ε Unit} (ready : pool.running caller = .atom label change next)
    (clear : ¬shut pool.shared → shut (change pool.shared) →
      ∀ other, other ≠ caller ∨ ¬look label → ¬Prog.MayReach target look (pool.running other)) :
    ClearStep target look shut calls outside pool (pool.advance caller) := by
  rw [Pool.advance, ready]
  exact .act caller ready clear

/-- While the gate is shut no caller is behind it, and every caller is careful. -/
structure GateKept (target look : ι → Prop) (shut : σ → Prop) (pool : Pool κ σ ι ε) : Prop where
  cleared : shut pool.shared → Cleared target look pool
  careful : ∀ caller, Prog.Careful target look shut (pool.running caller)

omit [DecidableEq κ] in
/-- A caller that is about to take a target step is in front of an open gate. -/
theorem GateKept.open_ {pool : Pool κ σ ι ε} (kept : GateKept target look shut pool) {caller : κ}
    {label : ι} {change : σ → σ} {next : σ → Prog σ ι ε Unit}
    (ready : pool.running caller = .atom label change next) (targets : target label) :
    ¬shut pool.shared := by
  -- Where the gate is shut, nobody is about to pass it.
  intro closed
  have cleared := kept.cleared closed caller
  rw [ready] at cleared
  exact cleared ⟨pool.shared, .inl targets⟩

/-- Gated calls keep the gate in every move that shuts it only when no caller is behind it. -/
theorem GateKept.step
    (entered : ∀ caller program, calls caller program → Prog.Gated target look shut program)
    {pool last : Pool κ σ ι ε} (kept : GateKept target look shut pool)
    (stepped : ClearStep target look shut calls outside pool last) :
    GateKept target look shut last := by
  cases stepped with
  | @act caller label change next ready clear =>
    have own := kept.careful caller
    rw [ready] at own
    constructor
    · intro closed other
      -- Behind a shut gate there was nobody before, whether it was shut then or is shut now.
      have before : other ≠ caller ∨ ¬look label →
          ¬Prog.MayReach target look (pool.running other) := fun apart => by
        by_cases was : shut pool.shared
        · exact kept.cleared was other
        · exact clear was closed other apart
      by_cases same : other = caller
      · subst same
        dsimp only
        rw [Function.update_self]
        intro later
        by_cases looks : look label
        · exact own.1 looks pool.shared closed later
        · have here := before (.inr looks)
          rw [ready] at here
          exact here ⟨pool.shared, .inr ⟨looks, later⟩⟩
      · dsimp only
        rw [Function.update_of_ne same]
        exact before (.inl same)
    · intro other
      by_cases same : other = caller
      · subst same
        dsimp only
        rw [Function.update_self]
        exact own.2 pool.shared
      · dsimp only
        rw [Function.update_of_ne same]
        exact kept.careful other
  | start caller called =>
    have own := entered caller _ called
    constructor
    · intro closed other
      by_cases same : other = caller
      · subst same
        simpa using own.outside
      · simpa [Function.update_of_ne same] using kept.cleared closed other
    · intro other
      by_cases same : other = caller
      · subst same
        simpa using own.careful
      · simpa [Function.update_of_ne same] using kept.careful other
  | outside moved clear =>
    refine ⟨fun closed => ?_, kept.careful⟩
    by_cases was : shut pool.shared
    · exact kept.cleared was
    · exact clear was closed

/--
The rule for gated calls.

A run that shuts the gate only when no caller is behind it never has a caller behind a shut gate.
-/
theorem GateKept.run
    (entered : ∀ caller program, calls caller program → Prog.Gated target look shut program)
    {start last : Pool κ σ ι ε} (kept : GateKept target look shut start)
    (reached : Relation.ReflTransGen (ClearStep target look shut calls outside) start last) :
    GateKept target look shut last := by
  -- Each step keeps the gate, by the lemma about steps.
  induction reached with
  | refl => exact kept
  | tail _ stepped ih => exact ih.step entered stepped

/--
A run that shuts the gate only when no caller is behind it takes target steps only in front of an
open gate.
-/
theorem GateKept.reaches
    (entered : ∀ caller program, calls caller program → Prog.Gated target look shut program)
    {start last : Pool κ σ ι ε} (kept : GateKept target look shut start)
    (reached : Relation.ReflTransGen (ClearStep target look shut calls outside) start last) :
    Reaches calls outside (fun _ label state => target label → ¬shut state) start last := by
  -- Every move that was made was made through an open gate.
  induction reached with
  | refl => exact .refl
  | tail before stepped ih =>
    cases stepped with
    | act caller ready clear => exact .step ih (.act caller ready ((kept.run entered before).open_ ready))
    | start caller called => exact .step ih (.start caller called)
    | outside moved clear => exact .step ih (.outside moved)

omit [DecidableEq κ] in
/-- Nobody is behind the gate where nobody has anything left to do. -/
theorem gateKept_idle (shared : σ) :
    GateKept target look shut (idle shared : Pool κ σ ι ε) :=
  ⟨fun _ _ => id, fun _ => trivial⟩

end Pool

end Atomic
