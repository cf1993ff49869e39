import BulkLoad.Schema

/-!
Mappings from the fields of incoming rows to the columns of a target, with a format hint for each
column, and the projection that a mapping is on a given schema.
-/

namespace BulkLoad

/-- How the text form of a column's values is chosen. -/
inductive Hint where
  /-- The kind's own form. -/
  | plain
  /-- Dates without time. -/
  | date
  /-- Dates with whole seconds. -/
  | timestamp
  /-- Numbers with the field's count of fractional digits. -/
  | number
  /-- Texts with escapes. -/
  | escaped
  deriving DecidableEq, Repr, Inhabited

namespace Hint

def code : Hint → String
  | plain => "OK"
  | date => "DATE"
  | timestamp => "TIMESTAMP"
  | number => "NUMBER"
  | escaped => "STRING_ESC"

/-- The codes that are understood; every other one means the plain form. -/
def codes : List (String × Hint) :=
  [("DATE", date), ("TIMESTAMP", timestamp), ("NUMBER", number), ("STRING_ESC", escaped),
    ("STRING_ESCAPE", escaped)]

/-- The hint of a code, whatever its case and the blanks around it. -/
def ofCode (code : String) : Hint :=
  (codes.lookup (Text.upperAscii (Text.trim code))).getD plain

end Hint

/-- One column of a target, with the field that feeds it. -/
structure MappingEntry where
  stream : String
  column : String
  hint : Hint := .plain
  deriving DecidableEq, Inhabited

/-- The columns of a target in their order. -/
structure Mapping where
  entries : List MappingEntry := []
  deriving DecidableEq, Inhabited

/-- A mapping bound to a schema: for each column the position of its field, its hint, and the
field under the column's name. -/
structure Projection where
  sources : List Nat
  hints : List Hint
  target : Schema
  deriving DecidableEq, Inhabited

namespace Mapping

/-- Every field of a schema, each to a column of its name. -/
def identity (s : Schema) : Mapping := ⟨s.fields.map fun f => ⟨f.name, f.name, .plain⟩⟩

def columns (m : Mapping) : List String := m.entries.map (·.column)

/-- The names of incoming fields that a schema lacks, in the order of the columns. -/
def missing (m : Mapping) (input : Schema) : List String :=
  (m.entries.filter fun e => (input.index? e.stream).isNone).map (·.stream)

/-- Extends a projection by one column. -/
def bindEntry (input : Schema) (p : Projection) (e : MappingEntry) :
    Except SchemaError Projection := do
  let index ← match input.index? e.stream with
    | some i => pure i
    | none => throw (.notFound e.stream)
  let field ← match input.fields[index]? with
    | some f => pure f
    | none => throw (.notFound e.stream)
  let target ← p.target.add (field.renamed e.column)
  pure ⟨p.sources ++ [index], p.hints ++ [e.hint], target⟩

/-- The projection that the mapping is on a schema; it fails at the first column whose field is
unknown or whose name is taken. -/
def bind (m : Mapping) (input : Schema) : Except SchemaError Projection :=
  m.entries.foldlM (bindEntry input) ⟨[], [], .empty⟩

end Mapping
end BulkLoad
