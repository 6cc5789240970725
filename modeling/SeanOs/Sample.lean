import SeanOs.Lib.Decimal
import SeanOs.Store.Core

/-! A concrete platform and a concrete world, for inputs on which definitions are evaluated. -/

namespace SeanOs

namespace Sample

open Atomic Calendar

/-- A platform with known digests, numbered identifiers and no characters beyond ASCII. -/
@[reducible] def platform (digests : List (String × String)) : Platform where
  sha256 text := ((digests.find? (·.1 == text)).map (·.2)).getD ""
  uuid4 drawn := "00000000-0000-4000-8000-" ++ String.ofList (Decimal.digits 12 drawn)
  alnum _ := false
  decimal _ := none
  lower character := character.toString
  upper character := character.toString
  printable _ := true
  realText _ := ""

/-- The first instant of the year 2030. -/
def newYear : Reading := ⟨daysBeforeYear 2030 * day, by decide⟩

/-- A world at that instant with one database and nothing done yet. -/
def world (db : Database) : World := ⟨db, newYear, 0, [], fun _ => .absent⟩

/-- An approval of one action that ends at a given time. -/
def approval (expires_at : String) : ApprovalRow where
  record_id := "00000000-0000-4000-8000-000000000000"
  action_type := "DELIVER_ALERT"
  target := "delivery"
  scope := .IAC
  max_impact := "one message"
  conditions := .obj []
  approver := "sean"
  status := .APPROVED
  expires_at := expires_at
  reusable := false

/-- The datetime a text is read as. -/
def moment (text : String) (readable : (fromisoformat text).isSome = true) : DateTime :=
  (fromisoformat text).get readable

/-- An actor with the authority over IAC work. -/
def worker : Actor := ⟨"worker", [.IAC], false⟩

/-- An hour passes. -/
def hourPasses (world : World) : World :=
  { world with clock := (world.clock.plus Calendar.hour).getD world.clock }

/-- The names of two workers. -/
def workerName (caller : Bool) : String := if caller then "second" else "first"

/-- Some steps of one caller. -/
def steps {κ σ ι ε : Type} (count : ℕ) (caller : κ) : List (Pool.Event κ σ ι ε) :=
  List.replicate count (.act caller)

end Sample

end SeanOs
