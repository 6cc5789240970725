import SeanOs.Lib.Outcome

/-! Programs that are run alone, may be cut short between any two steps, and are tried again. -/

namespace Atomic

namespace Prog

variable {σ ι ε α β : Type}

/-- Go on with the value of a check, or raise its error. -/
def ofExcept : Except ε α → Prog σ ι ε α
  | .ok value => .ret value
  | .error error => .raise error

/-- A property holds wherever a program that is run alone may be cut short, and it ends as it should. -/
def Attempts (through : σ → Prop) (post : Except ε α → σ → Prop) : Prog σ ι ε α → σ → Prop
  | .ret value, state => through state ∧ post (.ok value) state
  | .raise error, state => through state ∧ post (.error error) state
  | .atom _ act next, state => through state ∧ Attempts through post (next state) (act state)

variable {through : σ → Prop} {post middle : Except ε α → σ → Prop} {last : Except ε β → σ → Prop}
  {program : Prog σ ι ε α} {state : σ}

/-- The property holds where the program starts. -/
theorem Attempts.first (attempts : Attempts through post program state) : through state := by
  cases program <;> exact attempts.1

/-- The property holds behind any number of steps. -/
theorem Attempts.after (attempts : Attempts through post program state) (steps : ℕ) :
    through (program.after steps state).2 := by
  -- The induction is on the steps, as a program that has ended takes no further one.
  induction steps generalizing program state with
  | zero => exact attempts.first
  | succ steps ih =>
    cases program with
    | ret value => exact attempts.1
    | raise error => exact attempts.1
    | atom label act next => exact ih attempts.2

/-- An attempt that is not cut short ends as it should. -/
theorem Attempts.ends (attempts : Attempts through post program state) :
    Ends program state post := by
  -- Only what holds at the end is asked for, so the states between are passed over.
  induction program generalizing state with
  | ret value => exact attempts.2
  | raise error => exact attempts.2
  | atom label act next ih => exact ih state attempts.2

/-- What is claimed of an attempt may be weakened, both on the way and at the end. -/
theorem Attempts.mono {weaker : σ → Prop} (attempts : Attempts through middle program state)
    (along : ∀ state, through state → weaker state)
    (weakens : ∀ outcome state, middle outcome state → post outcome state) :
    Attempts weaker post program state := by
  -- Each state on the way is weakened where it is met, and the end once.
  induction program generalizing state with
  | ret value => exact ⟨along _ attempts.1, weakens _ _ attempts.2⟩
  | raise error => exact ⟨along _ attempts.1, weakens _ _ attempts.2⟩
  | atom label act next ih => exact ⟨along _ attempts.1, ih state attempts.2⟩

/-- What is known of the end of a program can be added to what is kept along it. -/
theorem Attempts.of_ends (attempts : Attempts through middle program state)
    (ends : Ends program state post) : Attempts through post program state := by
  -- The states on the way are known already, and only the end is replaced.
  induction program generalizing state with
  | ret value => exact ⟨attempts.1, ends⟩
  | raise error => exact ⟨attempts.1, ends⟩
  | atom label act next ih => exact ⟨attempts.1, ih state attempts.2 ends⟩

/-- The second part of a sequence is attempted where the first one returned. -/
theorem Attempts.bind {rest : α → Prog σ ι ε β} (first : Attempts through middle program state)
    (second : ∀ value changed, through changed → middle (.ok value) changed →
      Attempts through last (rest value) changed)
    (raised : ∀ error changed, middle (.error error) changed → last (.error error) changed) :
    Attempts through last (program >>= rest) state := by
  -- The second program takes up where the first one returns; where it raises, that is the end.
  induction program generalizing state with
  | ret value => exact second value state first.1 first.2
  | raise error => exact ⟨first.1, raised error state first.2⟩
  | atom label act next ih => exact ⟨first.1, ih state first.2⟩

/-- The handler of a guarded program is attempted where the program raised. -/
theorem Attempts.catch {handler : ε → Prog σ ι ε α} (first : Attempts through middle program state)
    (returned : ∀ value changed, middle (.ok value) changed → post (.ok value) changed)
    (handled : ∀ error changed, through changed → middle (.error error) changed →
      Attempts through post (handler error) changed) :
    Attempts through post (tryCatch program handler) state := by
  -- The handler takes up where the program raises; where it returns, that is the end.
  induction program generalizing state with
  | ret value => exact ⟨first.1, returned value state first.2⟩
  | raise error => exact handled error state first.1 first.2
  | atom label act next ih => exact ⟨first.1, ih state first.2⟩

/-- The outcome of an attempt as a value is what the attempt ended with. -/
theorem Attempts.outcome (attempts : Attempts through middle program state) :
    Attempts through (fun result changed => ∃ ended, result = .ok ended ∧ middle ended changed)
      (outcome program) state := by
  -- Neither end is an error any more, and each is the value it was.
  induction program generalizing state with
  | ret value => exact ⟨attempts.1, .ok value, rfl, attempts.2⟩
  | raise error => exact ⟨attempts.1, .error error, rfl, attempts.2⟩
  | atom label act next ih => exact ⟨attempts.1, ih state attempts.2⟩

/-- A cleanup is attempted behind a program, however that ended, and may end it otherwise. -/
theorem Attempts.ensuring {cleanup : Prog σ ι ε Unit} (first : Attempts through middle program state)
    (second : ∀ ended changed, through changed → middle ended changed →
      Attempts through (fun result changed => (result = .ok () → post ended changed) ∧
        ∀ error, result = .error error → post (.error error) changed) cleanup changed) :
    Attempts through post (ensuring program cleanup) state := by
  -- The outcome is held while the clean-up runs, and only then given back.
  refine first.outcome.bind (fun ended changed now held => ?_) fun error changed held => ?_
  · obtain ⟨ended_, same, held⟩ := held
    cases same
    refine (second ended changed now held).bind (fun _ last now cleaned => ?_)
      fun error last cleaned => cleaned.2 error rfl
    cases ended with
    | ok value => exact ⟨now, cleaned.1 rfl⟩
    | error error => exact ⟨now, cleaned.1 rfl⟩
  · obtain ⟨ended, same, _⟩ := held
    cases same

/-- What follows a check is attempted for what passed, in the state of the check. -/
theorem Attempts.ofExcept_bind {checked : Except ε α} {rest : α → Prog σ ι ε β} (now : through state)
    (passed : ∀ value, checked = .ok value → Attempts through last (rest value) state)
    (failed : ∀ error, checked = .error error → last (.error error) state) :
    Attempts through last (ofExcept checked >>= rest) state := by
  -- A check takes no step, so it either goes on or ends here.
  cases checked with
  | ok value => exact passed value rfl
  | error error => exact ⟨now, failed error rfl⟩

/-- What follows a read is attempted in the state that was read. -/
theorem Attempts.read_bind {label : ι} {view : σ → α} {rest : α → Prog σ ι ε β}
    (now : through state) (second : Attempts through last (rest (view state)) state) :
    Attempts through last (Prog.read label view >>= rest) state := ⟨now, second⟩

/-- What follows a write is attempted in the state that was written. -/
theorem Attempts.write_bind {label : ι} {change : σ → σ} {rest : Unit → Prog σ ι ε β}
    (now : through state) (second : Attempts through last (rest ()) (change state)) :
    Attempts through last (Prog.write label change >>= rest) state := ⟨now, second⟩

/-- A transaction is cut short before it or behind it. -/
theorem Attempts.transact {label : ι} {body : σ → Except ε α × σ} (now : through state)
    (behind : through (body state).2) (ended : post (body state).1 (body state).2) :
    Attempts through post (Prog.transact label body : Prog σ ι ε α) state := by
  refine ⟨now, ?_⟩
  dsimp only
  -- The state behind the step is the same however the step ends.
  split
  next value outcome => exact ⟨behind, outcome ▸ ended⟩
  next error outcome => exact ⟨behind, outcome ▸ ended⟩

/-- Where all that is kept is a relation to the start, a program that keeps it can be cut anywhere. -/
theorem Keeps.attempts {relation : σ → σ → Prop} (refl : ∀ state, relation state state)
    (trans : ∀ first middle last, relation first middle → relation middle last →
      relation first last)
    (kept : Keeps (fun _ _ => True) (fun _ => relation) program) (state : σ) :
    Attempts (relation state) (fun _ => relation state) program state := by
  -- The state the attempt started from is fixed, while the state it has come to changes.
  suffices holds : ∀ later, relation state later →
      Attempts (relation state) (fun _ => relation state) program later from holds state (refl state)
  induction program with
  | ret value => exact fun later now => ⟨now, now⟩
  | raise error => exact fun later now => ⟨now, now⟩
  | atom label act next ih =>
    rw [keeps_atom] at kept
    intro later now
    obtain ⟨step, rest⟩ := kept later trivial
    exact ⟨now, ih later rest _ (trans _ _ _ now step)⟩

end Prog

section Retried

variable {κ σ ι ε α : Type}

/--
The states that some calls lead to one after another, each of them cut short somewhere or run to its
end, and with changes by others between them.
-/
inductive Retried (call : κ → Prog σ ι ε α) (outside : σ → σ → Prop) (start : σ) : σ → Prop
  | start : Retried call outside start start
  | attempt {state : σ} (reached : Retried call outside start state) (which : κ) (steps : ℕ) :
      Retried call outside start ((call which).after steps state).2
  | outside {state changed : σ} (reached : Retried call outside start state)
      (moved : outside state changed) : Retried call outside start changed

variable {call : κ → Prog σ ι ε α} {outside : σ → σ → Prop} {start last : σ} {invariant : σ → Prop}

/-- What holds wherever a call may be cut short, and is kept by the others, holds of all of them. -/
theorem Retried.kept (reached : Retried call outside start last) (initial : invariant start)
    (attempted : ∀ which state, invariant state →
      (call which).Attempts invariant (fun _ _ => True) state)
    (drifted : ∀ state changed, invariant state → outside state changed → invariant changed) :
    invariant last := by
  -- An attempt may stop behind any of its steps, where the invariant holds already.
  induction reached with
  | start => exact initial
  | attempt _ which steps ih => exact (attempted which _ ih).after steps
  | outside _ moved ih => exact drifted _ _ ih moved

end Retried

end Atomic
