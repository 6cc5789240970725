import Mathlib

/-! The errors the runtime raises, by the class of the exception. -/

namespace SeanOs

/-- An error of the runtime, by the class of the exception. -/
inductive Error where
  | authorization (message : String)
  | policy_denied (reason : String) (approval_required : Bool)
  | validation (message : String)
  /-- A `ValueError` or a `TypeError` of the language. -/
  | value (message : String)
  /-- The `ValueError` of the modules that verify backup plans and receipts. -/
  | backup (message : String)
  /-- The `ValueError` of the execution of a backup. -/
  | execution (message : String)
  /-- The `ValueError` of the upload port. -/
  | provider (message : String)
  /-- The `ValueError` of the encryption of a backup. -/
  | encryption (message : String)
  /-- The `ValueError` of the execution of a restore. -/
  | restore_execution (message : String)
  /-- The `ValueError` of the download port. -/
  | restore_provider (message : String)
  /-- The `ValueError` of the operator's review of a backup. -/
  | operator (message : String)
  /-- The `AuthorizationError` of the bridge between the two owners. -/
  | bridge (message : String)
  /-- A member that an object does not have. -/
  | key (name : String)
  /-- A constraint of the database. -/
  | integrity (message : String)
  /-- A time beyond the calendar. -/
  | overflow
  /-- An integer beyond the doubles. -/
  | float_overflow
  /-- The provider may have accepted a write. -/
  | reconciliation (message : String)
  /-- Anything an injected port raised, with the name of its class. -/
  | port (name message : String)
  deriving DecidableEq

namespace Error

/-- The message of an error. -/
def message : Error → String
  | authorization message => message
  | policy_denied reason _ => reason
  | validation message => message
  | value message => message
  | backup message => message
  | execution message => message
  | provider message => message
  | encryption message => message
  | restore_execution message => message
  | restore_provider message => message
  | operator message => message
  | bridge message => message
  | key name => name
  | integrity message => message
  | overflow => "date value out of range"
  | float_overflow => "int too large to convert to float"
  | reconciliation message => message
  | port _ message => message

end Error

/-- Raise an error where a check fails. -/
def refuseIf (failed : Bool) (error : Error) : Except Error Unit :=
  if failed then .error error else .ok ()

/-- What follows a check is reached where the check does not refuse. -/
theorem refuseIf_bind {α : Type} {failed : Bool} {error : Error} {rest : Unit → Except Error α}
    {value : α} : (refuseIf failed error >>= rest) = .ok value ↔
      failed = false ∧ rest () = .ok value := by
  -- A check that fails is where it ends.
  cases failed with
  | true => exact ⟨(nomatch ·), fun passed => (nomatch passed.1)⟩
  | false => exact ⟨fun passed => ⟨rfl, passed⟩, fun passed => passed.2⟩

/-- What follows a check that gives a value. -/
theorem bind_ok_iff {α β : Type} {checked : Except Error α} {rest : α → Except Error β} {value : β} :
    (checked >>= rest) = .ok value ↔ ∃ first, checked = .ok first ∧ rest first = .ok value := by
  -- An error of the first part is the error of both.
  cases checked with
  | error error => exact ⟨(nomatch ·), fun ⟨_, passed, _⟩ => nomatch passed⟩
  | ok first =>
    refine ⟨fun passed => ⟨first, rfl, passed⟩, ?_⟩
    rintro ⟨_, ⟨⟩, passed⟩
    exact passed

/-- What is returned is the value. -/
theorem return_ok {α : Type} {result value : α} :
    (return result : Except Error α) = .ok value ↔ value = result :=
  ⟨fun same => (Except.ok.inj same).symm, fun same => congrArg Except.ok same.symm⟩

end SeanOs
