import BulkLoad.Fault
import BulkLoad.Mapping

/-!
The columns of a projection as an encoder walks them: each takes one cell out of a row and insists
on its kind.
-/

namespace BulkLoad

/-- Why a row has no encoding. -/
inductive EncodeError where
  | cellKind (column : String) (expected actual : Kind)
  | unresolvedKind (column : String)
  | missingCell (column : String) (index actual : Nat)
  deriving DecidableEq

namespace EncodeError

def message : EncodeError → String
  | cellKind c expected actual =>
    "column '" ++ c ++ "' expects " ++ expected.name ++ " but row holds " ++ actual.name
  | unresolvedKind c => "column '" ++ c ++ "' has no resolvable type"
  | missingCell c index actual =>
    "column '" ++ c ++ "' reads value " ++ toString index ++ " but row has " ++ toString actual ++
      " values"

def code : EncodeError → String
  | cellKind .. => "ENCODE_TYPE_MISMATCH"
  | unresolvedKind _ => "ENCODE_UNKNOWN_TYPE"
  | missingCell .. => "ENCODE_MISSING_VALUE"

def column : EncodeError → String
  | cellKind c .. => c
  | unresolvedKind c => c
  | missingCell c .. => c

/-- The fault that an encoding error is: it concerns one row and names the column. -/
def fault (e : EncodeError) : Fault :=
  (Fault.of .encoding e.code e.message).withDetails (.object [("column", .text e.column)])

end EncodeError

/-- How an attempt to append to a buffer ended, and the buffer behind it. A failed attempt may leave
a part of what it was to append. -/
abbrev Filled := Except EncodeError Unit × Bytes

/-- Appends what each item gives to a buffer, with a separator between two, until one gives
nothing. -/
def fillEach {α : Type} (separator : Bytes) (give : α → Except EncodeError Bytes) :
    List α → Bytes → Filled
  | [], buffer => (.ok (), buffer)
  | a :: rest, buffer =>
    match give a with
    | .error e => (.error e, buffer)
    | .ok bytes =>
      fillEach separator give rest (buffer ++ bytes ++ if rest.isEmpty then [] else separator)

/-- A column of a target: the position of its cell in a row, and its field. -/
structure Column where
  source : Nat
  field : Field
  deriving DecidableEq

namespace Column

/-- The cell of the column in a row: null, or of the column's kind. -/
def cell (c : Column) (row : Row) : Except EncodeError Cell :=
  match row[c.source]? with
  | none => .error (.missingCell c.field.name c.source row.length)
  | some cell =>
    match cell.kind? with
    | none => .ok cell
    | some k =>
      if c.field.kind = .unresolved then .error (.unresolvedKind c.field.name)
      else if k = c.field.kind then .ok cell
      else .error (.cellKind c.field.name c.field.kind k)

end Column

/-- The columns of a projection, in target order. -/
def Projection.columns (p : Projection) : List Column :=
  (p.sources.zip p.target.fields).map fun x => ⟨x.1, x.2⟩

/-- The columns that take the fields of a schema as they are. -/
def Schema.columns (s : Schema) : List Column := s.fields.mapIdx fun i f => ⟨i, f⟩

end BulkLoad
