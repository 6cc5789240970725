import SeanOs.Lib.Interleave

/-! What a program ends with and what it leaves, when it is run alone. -/

namespace Atomic

namespace Prog

variable {σ ι ε α β : Type}

/-- Run alone from a state, a program ends with some outcome in some state. -/
def Ends (program : Prog σ ι ε α) (state : σ) (post : Except ε α → σ → Prop) : Prop :=
  post (program.run state).1 (program.run state).2

variable {program : Prog σ ι ε α} {state : σ} {post middle : Except ε α → σ → Prop}
  {last : Except ε β → σ → Prop}

/-- What is claimed of the end may be weakened. -/
theorem Ends.mono (ended : Ends program state middle)
    (weakens : ∀ outcome changed, middle outcome changed → post outcome changed) :
    Ends program state post := weakens _ _ ended

/-- Two things that hold where a program ends hold there together. -/
theorem Ends.and (one : Ends program state middle) (two : Ends program state post) :
    Ends program state fun outcome changed => middle outcome changed ∧ post outcome changed :=
  ⟨one, two⟩

/-- A sequence ends as its second part does from where the first one returned, or where that raised. -/
theorem Ends.bind {rest : α → Prog σ ι ε β} (first : Ends program state middle)
    (second : ∀ value changed, middle (.ok value) changed → Ends (rest value) changed last)
    (raised : ∀ error changed, middle (.error error) changed → last (.error error) changed) :
    Ends (program >>= rest) state last := by
  rw [Ends] at first
  rw [Ends, run_bind]
  cases ran : program.run state with
  | mk outcome changed =>
    rw [ran] at first
    -- The second program runs only where the first one returned.
    cases outcome with
    | ok value => exact second value changed first
    | error error => exact raised error changed first

/-- A guarded program ends as the program does, or as the handler does from where that raised. -/
theorem Ends.catch {handler : ε → Prog σ ι ε α} (first : Ends program state middle)
    (returned : ∀ value changed, middle (.ok value) changed → post (.ok value) changed)
    (handled : ∀ error changed, middle (.error error) changed → Ends (handler error) changed post) :
    Ends (tryCatch program handler) state post := by
  rw [Ends] at first
  rw [Ends, run_catch]
  cases ran : program.run state with
  | mk outcome changed =>
    rw [ran] at first
    -- The handler runs only where the program raised.
    cases outcome with
    | ok value => exact returned value changed first
    | error error => exact handled error changed first

/-- A program that returned ends where it is. -/
theorem Ends.ret {value : α} (now : post (.ok value) state) :
    Ends (.ret value : Prog σ ι ε α) state post := now

/-- A program that raised ends where it is. -/
theorem Ends.raise {error : ε} (now : post (.error error) state) :
    Ends (.raise error : Prog σ ι ε α) state post := now

/-- What follows a read starts from the state that was read. -/
theorem Ends.read_bind {label : ι} {view : σ → α} {rest : α → Prog σ ι ε β}
    (second : Ends (rest (view state)) state last) :
    Ends (Prog.read label view >>= rest) state last := second

/-- What follows a write starts from the state that was written. -/
theorem Ends.write_bind {label : ι} {change : σ → σ} {rest : Unit → Prog σ ι ε β}
    (second : Ends (rest ()) (change state) last) :
    Ends (Prog.write label change >>= rest) state last := second

/-- A transaction ends as its body does. -/
theorem Ends.transact {label : ι} {body : σ → Except ε α × σ}
    (ended : post (body state).1 (body state).2) : Ends (Prog.transact label body) state post := by
  rw [Ends, run_transact]
  exact ended

/-- What every step of a program keeps to is kept where the program ends. -/
theorem Keeps.ends {relation : σ → σ → Prop} (refl : ∀ state, relation state state)
    (trans : ∀ first middle last, relation first middle → relation middle last →
      relation first last)
    (kept : Keeps (fun _ _ => True) (fun _ => relation) program) (state : σ) :
    Ends program state fun _ changed => relation state changed := kept.run refl trans state

end Prog

end Atomic
