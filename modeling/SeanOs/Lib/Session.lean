import SeanOs.Lib.Interleave

/-! What one connection does to a database, statement by statement, and as one atomic step. -/

namespace Atomic

/-- What a connection sees: the committed state, its own, and whether a transaction is open. -/
structure Session (σ : Type) where
  committed : σ
  current : σ
  opened : Bool

/-- A connection outside any transaction. -/
def Session.closed {σ : Type} (state : σ) : Session σ := ⟨state, state, false⟩

/-- The statements of one connection: a value or an error, and the session they leave. -/
def Script (σ ε α : Type) : Type := Session σ → Except ε α × Session σ

namespace Script

variable {σ ι ε α β : Type}

/-- Scripts run one after another in one session. -/
instance : Monad (Script σ ε) where
  pure value := fun session => (.ok value, session)
  bind script rest := fun session => match script session with
    | (.ok value, session) => rest value session
    -- An error ends the script where it stands, and nothing is rolled back.
    | (.error error, session) => (.error error, session)

/-- Raise an error. -/
def fail (error : ε) : Script σ ε α := fun session => (.error error, session)

/-- Go on with the value of a check, or raise its error. -/
def check (checked : Except ε α) : Script σ ε α := fun session => (checked, session)

/-- Read what the connection sees. -/
def query (view : σ → α) : Script σ ε α := fun session => (.ok (view session.current), session)

/-- Open a transaction, which fails in an open one. -/
def beginImmediate (nested : ε) : Script σ ε Unit := fun session =>
  if session.opened then (.error nested, session)
  else (.ok (), { session with opened := true })

/-- Run one statement: it opens a transaction if none is, and changes all it says or nothing. -/
def execute (statement : σ → Except ε σ) : Script σ ε Unit := fun session =>
  match statement session.current with
  | .ok changed => (.ok (), { session with current := changed, opened := true })
  | .error error => (.error error, { session with opened := true })

/-- Commit what the connection has changed. -/
def commit : Script σ ε Unit := fun session =>
  (.ok (), ⟨session.current, session.current, false⟩)

/-- Take back what the connection has changed. -/
def rollback : Script σ ε Unit := fun session =>
  (.ok (), ⟨session.committed, session.committed, false⟩)

/-- The script as one atomic step: what it has not committed is never seen. -/
def asStep (label : ι) (script : Script σ ε α) : Prog σ ι ε α :=
  Prog.transact label fun state =>
    ((script (.closed state)).1, (script (.closed state)).2.committed)

variable {script : Script σ ε α} {rest : α → Script σ ε β} {session : Session σ}

/-- A returned value leaves the session. -/
@[simp] theorem pure_run (value : α) :
    (pure value : Script σ ε α) session = (.ok value, session) := rfl

/-- What follows a value starts with it. -/
@[simp] theorem pure_bind_run (value : α) :
    ((pure value : Script σ ε α) >>= rest) session = rest value session := rfl

/-- An error leaves the session. -/
@[simp] theorem fail_run (error : ε) :
    (fail error : Script σ ε α) session = (.error error, session) := rfl

/-- A query sees what the session has written so far. -/
@[simp] theorem query_bind (view : σ → α) :
    (query view >>= rest) session = rest (view session.current) session := rfl

/-- A commit makes what was written lasting. -/
@[simp] theorem commit_run :
    (commit : Script σ ε Unit) session = (.ok (), .closed session.current) := rfl

/-- Behind a commit no transaction is open. -/
@[simp] theorem commit_bind {rest : Unit → Script σ ε β} :
    (commit >>= rest) session = rest () (.closed session.current) := rfl

/-- Behind a rollback the session is where it started. -/
@[simp] theorem rollback_bind {rest : Unit → Script σ ε β} :
    (rollback >>= rest) session = rest () (.closed session.committed) := rfl

/-- A transaction is opened where none is. -/
@[simp] theorem beginImmediate_bind {nested : ε} {rest : Unit → Script σ ε β} (state : σ) :
    (beginImmediate nested >>= rest) (.closed state) = rest () ⟨state, state, true⟩ := rfl

/-- A script that returned goes on with the rest. -/
theorem bind_ok {value : α} {after : Session σ} (ran : script session = (.ok value, after)) :
    (script >>= rest) session = rest value after := by
  -- The rest of the script runs in the session that is left.
  show (match script session with
    | (.ok value, session) => rest value session
    | (.error error, session) => (.error error, session)) = _
  rw [ran]

/-- A script that raised skips the rest. -/
theorem bind_error {error : ε} {after : Session σ} (ran : script session = (.error error, after)) :
    (script >>= rest) session = (.error error, after) := by
  -- The rest of the script is not run.
  show (match script session with
    | (.ok value, session) => rest value session
    | (.error error, session) => (.error error, session)) = _
  rw [ran]

/-- A check goes on with its value, or ends the script. -/
theorem check_bind (checked : Except ε α) :
    (check checked >>= rest) session = match checked with
      | .ok value => rest value session
      | .error error => (.error error, session) := by
  cases checked <;> rfl

/-- A statement changes what the connection sees, or ends the script with that as it was. -/
theorem execute_bind {rest : Unit → Script σ ε β} (statement : σ → Except ε σ) :
    (execute statement >>= rest) session = match statement session.current with
      | .ok changed => rest () ⟨session.committed, changed, true⟩
      | .error error => (.error error, ⟨session.committed, session.current, true⟩) := by
  -- A statement that fails leaves the transaction open and writes nothing.
  cases ran : statement session.current with
  | ok changed => exact bind_ok (by rw [execute, ran])
  | error error => exact bind_error (by rw [execute, ran])

/-- Outside a transaction a query sees what is lasting. -/
theorem query_closed (view : σ → α) (state : σ) :
    (query view >>= rest) (.closed state) = rest (view state) (.closed state) := rfl

/-- A statement outside any transaction opens one. -/
theorem execute_closed {rest : Unit → Script σ ε β} (statement : σ → Except ε σ) (state : σ) :
    (execute statement >>= rest) (.closed state) = match statement state with
      | .ok changed => rest () ⟨state, changed, true⟩
      | .error error => (.error error, ⟨state, state, true⟩) := execute_bind statement

/-- A script as a step leaves what it has committed, however it ended. -/
theorem run_asStep_bind (label : ι) (rest : α → Prog σ ι ε β) (state : σ) :
    (asStep label script >>= rest).run state = match script (.closed state) with
      | (.ok value, session) => (rest value).run session.committed
      | (.error error, session) => (.error error, session.committed) := by
  rw [Prog.run_bind, asStep, Prog.run_transact]
  rcases script (.closed state) with ⟨_ | _, session⟩ <;> rfl

/-- A script after which both copies of the state satisfy what both of them did before it. -/
def Maintains (holds : σ → Prop) (script : Script σ ε α) : Prop :=
  ∀ session, holds session.current → holds session.committed →
    holds (script session).2.current ∧ holds (script session).2.committed

namespace Maintains

variable {holds : σ → Prop}

/-- A returned value maintains anything. -/
theorem pure (value : α) : Maintains holds (pure value : Script σ ε α) :=
  fun _ now committed => ⟨now, committed⟩

/-- An error maintains anything. -/
theorem fail (error : ε) : Maintains holds (fail error : Script σ ε α) :=
  fun _ now committed => ⟨now, committed⟩

/-- A check maintains anything. -/
theorem check (checked : Except ε α) : Maintains holds (check checked) :=
  fun _ now committed => ⟨now, committed⟩

/-- A query maintains anything. -/
theorem query (read : σ → α) : Maintains holds (query read : Script σ ε α) :=
  fun _ now committed => ⟨now, committed⟩

/-- A commit maintains what holds of the written state. -/
theorem commit : Maintains holds (commit : Script σ ε Unit) := fun _ now _ => ⟨now, now⟩

/-- A rollback maintains what held of the lasting state. -/
theorem rollback : Maintains holds (rollback : Script σ ε Unit) :=
  fun _ _ committed => ⟨committed, committed⟩

/-- The opening of a transaction maintains anything. -/
theorem beginImmediate (nested : ε) :
    Maintains holds (beginImmediate nested : Script σ ε Unit) := by
  intro session now committed
  unfold Script.beginImmediate
  -- A transaction that is open already makes the opening fail, and nothing changes.
  split <;> exact ⟨now, committed⟩

/-- A statement maintains what its change does. -/
theorem execute {statement : σ → Except ε σ}
    (kept : ∀ state changed, holds state → statement state = .ok changed → holds changed) :
    Maintains holds (execute statement) := by
  intro session now committed
  unfold Script.execute
  -- A statement that fails writes nothing.
  cases ran : statement session.current with
  | ok changed => exact ⟨kept _ _ now ran, committed⟩
  | error error => exact ⟨now, committed⟩

/-- A sequence maintains what both of its parts do. -/
theorem bind (first : Maintains holds script) (second : ∀ value, Maintains holds (rest value)) :
    Maintains holds (script >>= rest) := by
  intro session now committed
  have here := first session now committed
  cases ran : script session with
  | mk outcome after =>
    rw [ran] at here
    -- The second script runs only where the first one returned.
    cases outcome with
    | ok result =>
      rw [bind_ok ran]
      exact second result after here.1 here.2
    | error error =>
      rw [bind_error ran]
      exact here

/-- As a step, such a script leaves a state that satisfies what the one before it did. -/
theorem committed (maintains : Maintains holds script) {state : σ} (before : holds state) :
    holds (script (.closed state)).2.committed :=
  (maintains (.closed state) before before).2

end Maintains

end Script

end Atomic
