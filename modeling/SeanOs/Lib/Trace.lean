import SeanOs.Lib.Interleave

/-! Interleavings of calls that return values, with the trace of the steps that were taken. -/

namespace Atomic

/-- How a program ended, if it has. -/
def Prog.ended {σ ι ε α : Type} : Prog σ ι ε α → Option (Except ε α)
  | .ret value => some (.ok value)
  | .raise error => some (.error error)
  | .atom _ _ _ => none

/-- A program that has ended did so as its phase says. -/
theorem Prog.Follows.of_ended {σ ι ε α τ : Type} {permits : ι → σ → Prop}
    {moves : τ → ι → σ → σ → τ → Prop} {ends : τ → Except ε α → Prop} {phase : τ}
    {program : Prog σ ι ε α} {outcome : Except ε α} (follows : Follows permits moves ends phase program)
    (ended : program.ended = some outcome) : ends phase outcome := by
  -- A program with steps left has not ended.
  cases program with
  | ret value =>
    cases ended
    exact follows
  | raise error =>
    cases ended
    exact follows
  | atom label act next => cases ended

/-- A shared state, and what is left of each of some calls that return values. -/
structure Calls (κ σ ι ε α : Type) where
  /-- The state all calls work on. -/
  shared : σ
  /-- The remaining program of each call. -/
  running : κ → Prog σ ι ε α

namespace Calls

/-- A step that was taken: by whom, under which label, and between which states. -/
structure Event (κ σ ι : Type) where
  caller : κ
  label : ι
  before : σ
  after : σ

variable {κ σ ι ε α τ : Type} [DecidableEq κ]

/--
The traces of an interleaving, with where each of them leads.

A call that is cut off is one that takes no further step.
-/
inductive Trace (outside : σ → σ → Prop) (start : Calls κ σ ι ε α) :
    List (Event κ σ ι) → Calls κ σ ι ε α → Prop
  | start : Trace outside start [] start
  /-- One caller takes the next atomic step of its call. -/
  | act {taken : List (Event κ σ ι)} {calls : Calls κ σ ι ε α}
      (traced : Trace outside start taken calls) (caller : κ) {label : ι} {change : σ → σ}
      {next : σ → Prog σ ι ε α} (ready : calls.running caller = .atom label change next) :
      Trace outside start (taken ++ [⟨caller, label, calls.shared, change calls.shared⟩])
        ⟨change calls.shared, Function.update calls.running caller (next calls.shared)⟩
  /-- The outside changes the shared state. -/
  | outside {taken : List (Event κ σ ι)} {calls : Calls κ σ ι ε α} {changed : σ}
      (traced : Trace outside start taken calls) (moved : outside calls.shared changed) :
      Trace outside start taken ⟨changed, calls.running⟩

variable {outside : σ → σ → Prop} {start last : Calls κ σ ι ε α} {taken : List (Event κ σ ι)}

/-- What every move of a call keeps about the trace, the state and the phases, a whole trace keeps. -/
theorem Trace.invariant {moves : κ → τ → ι → σ → σ → τ → Prop} {ends : κ → τ → Except ε α → Prop}
    {invariant : List (Event κ σ ι) → σ → (κ → τ) → Prop} {first : κ → τ}
    (initial : invariant [] start.shared first)
    (entered : ∀ caller, Prog.Follows (fun _ _ => True) (moves caller) (ends caller) (first caller)
      (start.running caller))
    (moved : ∀ taken state phases caller label changed later, invariant taken state phases →
      moves caller (phases caller) label state changed later →
        invariant (taken ++ [⟨caller, label, state, changed⟩]) changed
          (Function.update phases caller later))
    (drifted : ∀ taken state phases changed, invariant taken state phases →
      outside state changed → invariant taken changed phases)
    (traced : Trace outside start taken last) :
    ∃ phases, invariant taken last.shared phases ∧ ∀ caller,
      Prog.Follows (fun _ _ => True) (moves caller) (ends caller) (phases caller)
        (last.running caller) := by
  -- The phases are the ones each caller has come to, and only the caller that moves gets a new one.
  induction traced with
  | start => exact ⟨first, initial, entered⟩
  | @act taken calls _ caller label change next ready ih =>
    obtain ⟨phases, holds, follows⟩ := ih
    have own := follows caller
    rw [ready] at own
    obtain ⟨later, move, rest⟩ := own calls.shared trivial
    refine ⟨Function.update phases caller later, moved _ _ _ _ _ _ _ holds move, fun other => ?_⟩
    by_cases same : other = caller
    · subst same
      dsimp only
      rw [Function.update_self, Function.update_self]
      exact rest
    · dsimp only
      rw [Function.update_of_ne same, Function.update_of_ne same]
      exact follows other
  | outside _ drift ih =>
    obtain ⟨phases, holds, follows⟩ := ih
    exact ⟨phases, drifted _ _ _ _ holds drift, follows⟩

/-- Let some callers take steps one after another, where they have any left. -/
def play : List κ → Calls κ σ ι ε α → List (Event κ σ ι) × Calls κ σ ι ε α
  | [], calls => ([], calls)
  | caller :: callers, calls => match calls.running caller with
    | .atom label change next =>
      let (taken, last) := play callers
        ⟨change calls.shared, Function.update calls.running caller (next calls.shared)⟩
      (⟨caller, label, calls.shared, change calls.shared⟩ :: taken, last)
    | _ => play callers calls

/-- Steps taken one after another are a trace. -/
theorem Trace.play (callers : List κ) (traced : Trace outside start taken last) :
    Trace outside start (taken ++ (last.play callers).1) (last.play callers).2 := by
  -- Each caller goes on from where the ones before it led.
  induction callers generalizing taken last with
  | nil =>
    rw [Calls.play, List.append_nil]
    exact traced
  | cons caller callers ih =>
    rw [Calls.play]
    split
    next label change next ready =>
      have later := ih (traced.act caller ready)
      rw [List.append_assoc] at later
      exact later
    next => exact ih traced

end Calls

end Atomic
