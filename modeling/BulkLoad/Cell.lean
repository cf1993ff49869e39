import BulkLoad.Bytes
import BulkLoad.Decimal
import BulkLoad.Instant
import BulkLoad.Kind

/-!
The values of a row: cells of every kind, and null, which any field may hold.
-/

namespace BulkLoad

inductive Cell where
  | null
  | text (s : String)
  | integer (n : Int64)
  | number (x : Double)
  | decimal (d : Decimal)
  | date (t : Instant)
  | boolean (b : Bool)
  | binary (b : Bytes)
  deriving DecidableEq

namespace Cell

def kind? : Cell → Option Kind
  | null => none
  | text _ => some .text
  | integer _ => some .integer
  | number _ => some .number
  | decimal _ => some .decimal
  | date _ => some .date
  | boolean _ => some .boolean
  | binary _ => some .binary

theorem kind?_ne_unresolved (c : Cell) : c.kind? ≠ some .unresolved := by
  cases c <;> simp [kind?]

end Cell

/-- A row: one cell for each field of a schema. -/
abbrev Row := List Cell

end BulkLoad
