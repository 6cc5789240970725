import SeanOs.Lib.Among
import SeanOs.Lib.Trace

/-! What a call guarantees for each of its steps, relying on what all other steps keep. -/

namespace Atomic

/-- What is known of a state and is not lost by the changes that are relied on. -/
def Stable {σ : Type} (rely : σ → σ → Prop) (known : σ → Prop) : Prop :=
  ∀ state changed, known state → rely state changed → known changed

namespace Prog

variable {σ ι ε α β : Type}

/--
From what is known of the state, each step of a program is one that it guarantees.

Between two steps the others may change the state as it is relied on, so that what is known behind a
step has to be stable.
-/
def Relies (rely guar : σ → σ → Prop) (post : Except ε α → σ → Prop) :
    (σ → Prop) → Prog σ ι ε α → Prop
  | known, .ret value => ∀ state, known state → post (.ok value) state
  | known, .raise error => ∀ state, known state → post (.error error) state
  | known, .atom _ act next => ∀ state, known state →
      guar state (act state) ∧ ∃ later, Stable rely later ∧ later (act state) ∧
        Relies rely guar post later (next state)

variable {rely guar : σ → σ → Prop} {post middle : Except ε α → σ → Prop}
  {last : Except ε β → σ → Prop} {known more : σ → Prop} {program : Prog σ ι ε α}

/-- Where more is known, the same is guaranteed. -/
theorem Relies.strengthen (relies : Relies rely guar post known program)
    (stronger : ∀ state, more state → known state) : Relies rely guar post more program := by
  -- What is known is asked for at the first step only.
  cases program with
  | ret value => exact fun state there => relies state (stronger state there)
  | raise error => exact fun state there => relies state (stronger state there)
  | atom label act next => exact fun state there => relies state (stronger state there)

/-- From what is never known anything is guaranteed. -/
theorem Relies.absurd (never : ∀ state, ¬known state) : Relies rely guar post known program := by
  -- No state is known, so there is none to start from.
  cases program with
  | ret value => exact fun state there => (never state there).elim
  | raise error => exact fun state there => (never state there).elim
  | atom label act next => exact fun state there => (never state there).elim

/-- A weaker demand on the end of a program is met as well. -/
theorem Relies.mono (relies : Relies rely guar middle known program)
    (weakens : ∀ outcome state, middle outcome state → post outcome state) :
    Relies rely guar post known program := by
  -- The end is weakened, and the steps on the way are as they were.
  induction program generalizing known with
  | ret value => exact fun state there => weakens _ _ (relies state there)
  | raise error => exact fun state there => weakens _ _ (relies state there)
  | atom label act next ih =>
    intro state there
    obtain ⟨step, later, stable, now, rest⟩ := relies state there
    exact ⟨step, later, stable, now, ih state rest⟩

/-- The second part of a sequence goes on from what is known where the first one returned. -/
theorem Relies.bind {rest : α → Prog σ ι ε β} (first : Relies rely guar middle known program)
    (second : ∀ value, Relies rely guar last (middle (.ok value)) (rest value))
    (raised : ∀ error state, middle (.error error) state → last (.error error) state) :
    Relies rely guar last known (program >>= rest) := by
  -- The induction walks the first part, whose last knowledge says what it ended with.
  induction program generalizing known with
  | ret value => exact (second value).strengthen first
  | raise error => exact fun state there => raised error state (first state there)
  | atom label act next ih =>
    intro state there
    obtain ⟨step, later, stable, now, rest⟩ := first state there
    exact ⟨step, later, stable, now, ih state rest⟩

/-- The handler of a guarded program goes on from what is known where the program raised. -/
theorem Relies.catch {handler : ε → Prog σ ι ε α} (first : Relies rely guar middle known program)
    (returned : ∀ value state, middle (.ok value) state → post (.ok value) state)
    (handled : ∀ error, Relies rely guar post (middle (.error error)) (handler error)) :
    Relies rely guar post known (tryCatch program handler) := by
  -- The handler starts from what is known where the program raised.
  induction program generalizing known with
  | ret value => exact fun state there => returned value state (first state there)
  | raise error => exact (handled error).strengthen first
  | atom label act next ih =>
    intro state there
    obtain ⟨step, later, stable, now, rest⟩ := first state there
    exact ⟨step, later, stable, now, ih state rest⟩

/-- A returned value may rely on what is known. -/
theorem Relies.ret {value : α} (now : ∀ state, known state → post (.ok value) state) :
    Relies rely guar post known (.ret value : Prog σ ι ε α) := now

/-- A raised error may rely on what is known. -/
theorem Relies.raise {error : ε} (now : ∀ state, known state → post (.error error) state) :
    Relies rely guar post known (.raise error : Prog σ ι ε α) := now

/-- What is read is known of the state from then on, as far as it is stable. -/
theorem Relies.read_bind {label : ι} {view : σ → α} {rest : α → Prog σ ι ε β}
    (still : ∀ state, known state → guar state state) (learnt : α → σ → Prop)
    (stable : ∀ value, Stable rely (learnt value))
    (now : ∀ state, known state → learnt (view state) state)
    (second : ∀ value, Relies rely guar last (learnt value) (rest value)) :
    Relies rely guar last known (Prog.read label view >>= rest) := fun state there =>
  ⟨still state there, learnt (view state), stable _, now state there, second (view state)⟩

/-- A transaction guarantees its one step, and ends with what is known behind it. -/
theorem Relies.transact {label : ι} {body : σ → Except ε α × σ}
    (stable : ∀ outcome, Stable rely (post outcome))
    (step : ∀ state, known state → guar state (body state).2 ∧ post (body state).1 (body state).2) :
    Relies rely guar post known (Prog.transact label body : Prog σ ι ε α) := by
  intro state there
  -- Behind the step it is known how the transaction ended, which others leave alone.
  refine ⟨(step state there).1, post (body state).1, stable _, (step state there).2, ?_⟩
  dsimp only
  split
  next value outcome =>
    rw [outcome]
    exact fun _ => id
  next error outcome =>
    rw [outcome]
    exact fun _ => id

/-- What a program returns among any others is known of it where it ends. -/
theorem Relies.returns {such : α → Prop} (relies : Relies rely guar post known program)
    (returns : Returns program such) :
    Relies rely guar (fun outcome state => post outcome state ∧ ∀ value, outcome = .ok value → such value)
      known program := by
  -- Both are claimed of the same end, and are followed to it side by side.
  induction program generalizing known with
  | ret value => exact fun state there => ⟨relies state there, returns⟩
  | raise error => exact fun state there => ⟨relies state there, returns⟩
  | atom label act next ih =>
    intro state there
    obtain ⟨step, later, stable, now, rest⟩ := relies state there
    obtain ⟨_, _, followed⟩ := returns state trivial
    exact ⟨step, later, stable, now, ih state rest followed⟩

/-- A program each of whose steps is guaranteed anyway keeps all that is known. -/
theorem Relies.of_keeps (keeps : Keeps (fun _ _ => True) (fun _ => guar) program)
    (stable : Stable rely known) (own : ∀ state changed, guar state changed → rely state changed) :
    Relies rely guar (fun _ => known) known program := by
  -- What is known is not changed by the program's own steps either.
  induction program with
  | ret value => exact fun _ => id
  | raise error => exact fun _ => id
  | atom label act next ih =>
    rw [keeps_atom] at keeps
    intro state there
    obtain ⟨step, rest⟩ := keeps state trivial
    exact ⟨step, known, stable, stable _ _ there (own _ _ step), ih state rest⟩

end Prog

namespace Calls

variable {κ σ ι ε α : Type} [DecidableEq κ] {outside rely : σ → σ → Prop}
  {guar : κ → σ → σ → Prop} {post : κ → Except ε α → σ → Prop} {known : κ → σ → Prop}
  {invariant : σ → Prop} {start last : Calls κ σ ι ε α} {taken : List (Event κ σ ι)}

/--
The rule for calls that rely on each other.

Where each of them guarantees its steps, and every step of one is what the others rely on, all steps of
a trace are guaranteed, and a call that has ended did so in a state that is still as it found it.
-/
theorem Trace.relies (stable : ∀ caller, Stable rely (known caller))
    (now : ∀ caller, known caller start.shared)
    (entered : ∀ caller, Prog.Relies rely (guar caller) (post caller) (known caller)
      (start.running caller))
    (own : ∀ caller state changed, guar caller state changed → rely state changed)
    (drifts : ∀ state changed, outside state changed → rely state changed)
    (traced : Trace outside start taken last) :
    (∀ step ∈ taken, guar step.caller step.before step.after) ∧
      ∀ caller outcome, (last.running caller).ended = some outcome →
        post caller outcome last.shared := by
  -- The induction is on the trace; what each call knows grows with its own steps only.
  have inside : (∀ step ∈ taken, guar step.caller step.before step.after) ∧ ∀ caller, ∃ knows,
      Stable rely knows ∧ knows last.shared ∧
        Prog.Relies rely (guar caller) (post caller) knows (last.running caller) := by
    induction traced with
    | start => exact ⟨by simp, fun caller => ⟨known caller, stable caller, now caller, entered caller⟩⟩
    | @act taken calls _ caller label change next ready ih =>
      obtain ⟨did, holds⟩ := ih
      obtain ⟨knows, kept, there, relies⟩ := holds caller
      rw [ready] at relies
      obtain ⟨step, later, lasting, behind, rest⟩ := relies calls.shared there
      refine ⟨fun taken_ among => ?_, fun other => ?_⟩
      · rcases List.mem_append.mp among with before | now_
        · exact did taken_ before
        · rw [List.mem_singleton.mp now_]
          exact step
      · by_cases same : other = caller
        · subst same
          refine ⟨later, lasting, behind, ?_⟩
          dsimp only
          rw [Function.update_self]
          exact rest
        · obtain ⟨others, kept_, there_, relies_⟩ := holds other
          refine ⟨others, kept_, kept_ _ _ there_ (own caller _ _ step), ?_⟩
          dsimp only
          rw [Function.update_of_ne same]
          exact relies_
    | outside _ moved ih =>
      refine ⟨ih.1, fun caller => ?_⟩
      obtain ⟨knows, kept, there, relies⟩ := ih.2 caller
      exact ⟨knows, kept, kept _ _ there (drifts _ _ moved), relies⟩
  refine ⟨inside.1, fun caller outcome ended => ?_⟩
  obtain ⟨knows, _, there, relies⟩ := inside.2 caller
  cases left : last.running caller with
  | ret value =>
    rw [left] at relies ended
    cases ended
    exact relies _ there
  | raise error =>
    rw [left] at relies ended
    cases ended
    exact relies _ there
  | atom label act next =>
    rw [left] at ended
    cases ended

/-- What every step of a trace and the outside keep holds where the trace leads. -/
theorem Trace.kept (initial : invariant start.shared)
    (steps : ∀ step ∈ taken, invariant step.before → invariant step.after)
    (drifts : ∀ state changed, invariant state → outside state changed → invariant changed)
    (traced : Trace outside start taken last) : invariant last.shared := by
  -- The step of a caller is the last one of the trace, and the ones before it are its front.
  induction traced with
  | start => exact initial
  | @act taken calls _ caller label change next ready ih =>
    have before := ih fun step there => steps step (List.mem_append_left _ there)
    exact steps _ (List.mem_append_right _ List.mem_cons_self) before
  | outside _ moved ih => exact drifts _ _ (ih steps) moved

end Calls

end Atomic
