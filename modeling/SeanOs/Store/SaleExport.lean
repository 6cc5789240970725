import SeanOs.SecretScan
import SeanOs.Store.Records

/-! The records that are released when the company is sold. -/

namespace SeanOs

variable [Platform]

open Atomic

/-- A record as an export holds it: every column under its name. -/
def RecordRow.exported (row : RecordRow) : Json :=
  .obj [("id", .str row.id), ("entity_type", .str row.entity_type.text),
    ("owner_scope", .str row.owner_scope.text), ("confidentiality", .str row.confidentiality),
    ("portable_on_sale", .int (if row.portable_on_sale then 1 else 0)),
    ("source", .str row.source), ("source_locator", row.source_locator.elim .null .str),
    ("created_by", .str row.created_by), ("created_at", .str row.created_at),
    ("updated_at", .str row.updated_at), ("effective_at", .str row.effective_at),
    ("expires_at", row.expires_at.elim .null .str), ("confidence", .float (.finite row.confidence)),
    ("permitted_principals", .arr (row.permitted_principals.map .str)),
    ("retention_rule", .str row.retention_rule), ("payload", row.payload),
    ("version", .int row.version)]

/-- The rows of the records that are sold with the company, in the order of their creation. -/
def Database.portableRecords (db : Database) : List RecordRow :=
  (db.records.filter fun row =>
    row.portable_on_sale && (row.owner_scope == .IAC || row.owner_scope == .SHARED)).insertionSort
      fun one two => one.created_at < two.created_at ∨ one.created_at = two.created_at ∧ one.id ≤ two.id

/-- Release the records that are sold with the company, unless a secret is found in them. -/
def sale_export (actor : Actor) : Op (List Json) := do
  if ¬(actor.is_sean ∨ .IAC ∈ actor.scopes) then do
    _audit actor "SALE_EXPORT" .DENIED "IAC scope required" none [] none
    throw (.authorization "IAC scope required for sale export")
  else do
    let rows ← select Database.portableRecords
    let output := rows.map RecordRow.exported
    let findings := secret_findings (.arr output) "$"
    if findings ≠ [] then do
      _audit actor "SALE_EXPORT" .DENIED "Secret scan blocked export" none
        [("finding_paths", .arr (findings.map (.str ·.path)))] none
      throw (.authorization "Sale export blocked by secret scan")
    else do
      _audit actor "SALE_EXPORT" .ALLOWED "Portable IAC/explicit SHARED only" none
        [("record_count", .int output.length), ("secret_scan_passed", .bool true)] none
      return output

end SeanOs
