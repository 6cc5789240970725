import Mathlib

/-! Programs made of atomic steps on one shared state, run alone, cut short, or interleaved. -/

namespace Atomic

/-- A program over a shared state, written as its atomic steps and its two ways to end. -/
inductive Prog (σ ι ε α : Type) where
  /-- The program has returned a value. -/
  | ret (value : α)
  /-- The program has raised an error. -/
  | raise (error : ε)
  /-- One atomic step changes the state, and the rest may depend on the state it found. -/
  | atom (label : ι) (act : σ → σ) (next : σ → Prog σ ι ε α)

namespace Prog

variable {σ ι ε α β : Type}

/-- Run one program, then the program its value selects. -/
def bind : Prog σ ι ε α → (α → Prog σ ι ε β) → Prog σ ι ε β
  | .ret value, rest => rest value
  -- An error skips everything that was still to come.
  | .raise error, _ => .raise error
  | .atom label act next, rest => .atom label act fun state => (next state).bind rest

/-- Run one program, and a handler if it raises. -/
def catching : Prog σ ι ε α → (ε → Prog σ ι ε α) → Prog σ ι ε α
  | .ret value, _ => .ret value
  | .raise error, handler => handler error
  | .atom label act next, handler => .atom label act fun state => (next state).catching handler

/-- Programs run one after another. -/
instance : Monad (Prog σ ι ε) where
  pure := .ret
  bind := bind

/-- Programs raise errors, and handlers take them. -/
instance : MonadExcept ε (Prog σ ι ε) where
  throw := .raise
  tryCatch := catching

/-- Read from the shared state in one atomic step. -/
def read (label : ι) (view : σ → β) : Prog σ ι ε β :=
  .atom label id fun state => .ret (view state)

/-- Change the shared state in one atomic step, whatever it holds. -/
def write (label : ι) (change : σ → σ) : Prog σ ι ε Unit :=
  .atom label change fun _ => .ret ()

/--
Run a whole transaction as one atomic step.

The body says how it ends and what it leaves: a transaction that is rolled back leaves what it found.
-/
def transact (label : ι) (body : σ → Except ε β × σ) : Prog σ ι ε β :=
  .atom label (fun state => (body state).2) fun state => match (body state).1 with
    | .ok value => .ret value
    | .error error => .raise error

/-- The outcome of a program as a value, so that what follows can inspect it. -/
def outcome (body : Prog σ ι ε α) : Prog σ ι ε (Except ε α) :=
  catching (body.bind fun value => .ret (Except.ok value)) fun error => .ret (Except.error error)

/-- Run a cleanup after a program, however it ended, and then end the same way. -/
def ensuring (body : Prog σ ι ε α) (cleanup : Prog σ ι ε Unit) : Prog σ ι ε α :=
  body.outcome.bind fun ended => cleanup.bind fun _ => match ended with
    | .ok value => .ret value
    | .error error => .raise error

/-- Run a program alone from one state to its end. -/
def run : Prog σ ι ε α → σ → Except ε α × σ
  | .ret value, state => (.ok value, state)
  | .raise error, state => (.error error, state)
  | .atom _ act next, state => (next state).run (act state)

/-- Run at most a number of steps, keeping what is left of the program. -/
def after : Nat → Prog σ ι ε α → σ → Prog σ ι ε α × σ
  | 0, program, state => (program, state)
  | steps + 1, .atom _ act next, state => after steps (next state) (act state)
  -- A finished program takes no further step.
  | _ + 1, program, state => (program, state)

/-- What follows a value starts with it. -/
@[simp] theorem bind_ret (value : α) (rest : α → Prog σ ι ε β) :
    (Prog.ret value : Prog σ ι ε α) >>= rest = rest value := rfl

/-- A value is returned at once. -/
@[simp] theorem pure_def (value : α) : (pure value : Prog σ ι ε α) = .ret value := rfl

/-- Nothing follows an error. -/
@[simp] theorem bind_raise (error : ε) (rest : α → Prog σ ι ε β) :
    (Prog.raise error : Prog σ ι ε α) >>= rest = .raise error := rfl

/-- An error is raised at once. -/
@[simp] theorem throw_def (error : ε) : (throw error : Prog σ ι ε α) = .raise error := rfl

/-- What follows a program follows the rest behind its first step. -/
@[simp] theorem bind_atom (label : ι) (act : σ → σ) (next : σ → Prog σ ι ε α)
    (rest : α → Prog σ ι ε β) :
    Prog.atom label act next >>= rest = .atom label act fun state => next state >>= rest := rfl

/-- A value passes a handler. -/
@[simp] theorem catch_ret (value : α) (handler : ε → Prog σ ι ε α) :
    tryCatch (Prog.ret value) handler = .ret value := rfl

/-- An error is given to the handler. -/
@[simp] theorem catch_raise (error : ε) (handler : ε → Prog σ ι ε α) :
    tryCatch (Prog.raise error : Prog σ ι ε α) handler = handler error := rfl

/-- A handler is there behind the first step as well. -/
@[simp] theorem catch_atom (label : ι) (act : σ → σ) (next : σ → Prog σ ι ε α)
    (handler : ε → Prog σ ι ε α) :
    tryCatch (Prog.atom label act next) handler =
      .atom label act fun state => tryCatch (next state) handler := rfl

/-- A returned value leaves the state. -/
@[simp] theorem run_ret (value : α) (state : σ) :
    (Prog.ret value : Prog σ ι ε α).run state = (.ok value, state) := rfl

/-- A raised error leaves the state. -/
@[simp] theorem run_raise (error : ε) (state : σ) :
    (Prog.raise error : Prog σ ι ε α).run state = (.error error, state) := rfl

/-- The first step is run, and then the rest from where it leads. -/
@[simp] theorem run_atom (label : ι) (act : σ → σ) (next : σ → Prog σ ι ε α) (state : σ) :
    (Prog.atom label act next).run state = (next state).run (act state) := rfl

/-- Running a sequence runs its first part and then the part that part selected. -/
theorem run_bind (program : Prog σ ι ε α) (rest : α → Prog σ ι ε β) (state : σ) :
    (program >>= rest).run state = match program.run state with
      | (.ok value, changed) => (rest value).run changed
      | (.error error, changed) => (.error error, changed) := by
  -- The induction follows the steps of the first part, each of which keeps the rest unchanged.
  induction program generalizing state with
  | ret value => rfl
  | raise error => rfl
  | atom label act next ih => exact ih state (act state)

/-- Running a guarded program runs the handler exactly where the program raised. -/
theorem run_catch (program : Prog σ ι ε α) (handler : ε → Prog σ ι ε α) (state : σ) :
    (tryCatch program handler).run state = match program.run state with
      | (.ok value, changed) => (.ok value, changed)
      | (.error error, changed) => (handler error).run changed := by
  -- Only the last state of the program matters to the handler.
  induction program generalizing state with
  | ret value => rfl
  | raise error => rfl
  | atom label act next ih => exact ih state (act state)

/-- A look returns what it sees and leaves the state. -/
@[simp] theorem run_read (label : ι) (view : σ → β) (state : σ) :
    (Prog.read label view : Prog σ ι ε β).run state = (.ok (view state), state) := rfl

/-- A write changes the state and returns nothing. -/
@[simp] theorem run_write (label : ι) (change : σ → σ) (state : σ) :
    (Prog.write label change : Prog σ ι ε Unit).run state = (.ok (), change state) := rfl

/-- A transaction ends and leaves what its body says. -/
@[simp] theorem run_transact (label : ι) (body : σ → Except ε β × σ) (state : σ) :
    (Prog.transact label body : Prog σ ι ε β).run state = body state := by
  -- Both ways to end return the outcome of the body with the state it left.
  rw [transact, run_atom]
  cases ended : body state with
  | mk outcome changed => cases outcome <;> simp

/-- Running the program alone leaves a state with a property, however it ends. -/
def Leaves (program : Prog σ ι ε α) (state : σ) (holds : σ → Prop) : Prop :=
  holds (program.run state).2

section Leaves

variable {holds : σ → Prop} {state : σ}

/-- A returned value leaves what there is. -/
theorem Leaves.ret {value : α} (now : holds state) :
    Leaves (.ret value : Prog σ ι ε α) state holds := now

/-- A raised error leaves what there is. -/
theorem Leaves.raise {error : ε} (now : holds state) :
    Leaves (.raise error : Prog σ ι ε α) state holds := now

/-- What follows a read starts from the state that was read. -/
theorem Leaves.read {label : ι} {view : σ → α} {rest : α → Prog σ ι ε β}
    (follows : Leaves (rest (view state)) state holds) :
    Leaves (Prog.read label view >>= rest) state holds := by
  rw [Leaves, run_bind, run_read]
  exact follows

/-- What follows a write starts from the state that was written. -/
theorem Leaves.write {label : ι} {change : σ → σ} {rest : Unit → Prog σ ι ε β}
    (follows : Leaves (rest ()) (change state) holds) :
    Leaves (Prog.write label change >>= rest) state holds := by
  rw [Leaves, run_bind, run_write]
  exact follows

/-- What follows a transaction starts from what it left, if it did not raise. -/
theorem Leaves.transact {label : ι} {body : σ → Except ε α × σ} {rest : α → Prog σ ι ε β}
    (follows : ∀ value changed, body state = (.ok value, changed) →
      Leaves (rest value) changed holds)
    (raised : ∀ error changed, body state = (.error error, changed) → holds changed) :
    Leaves (Prog.transact label body >>= rest) state holds := by
  rw [Leaves, run_bind, run_transact]
  cases ended : body state with
  | mk outcome changed =>
    -- The rest runs only where the transaction returned.
    cases outcome with
    | ok value => exact follows value changed ended
    | error error => exact raised error changed ended

/-- What follows a program starts where the program ends, if it did not raise. -/
theorem Leaves.bind {program : Prog σ ι ε α} {rest : α → Prog σ ι ε β}
    (follows : ∀ value changed, program.run state = (.ok value, changed) →
      Leaves (rest value) changed holds)
    (raised : ∀ error changed, program.run state = (.error error, changed) → holds changed) :
    Leaves (program >>= rest) state holds := by
  rw [Leaves, run_bind]
  cases ended : program.run state with
  | mk outcome changed =>
    -- The rest runs only where the program returned.
    cases outcome with
    | ok value => exact follows value changed ended
    | error error => exact raised error changed ended

end Leaves

end Prog

end Atomic
