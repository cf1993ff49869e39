import BulkLoad.Dialect
import BulkLoad.Fault

/-!
Column types of the database families, and the statements that add or change columns.
-/

namespace BulkLoad

/-- How large a numeric column has to be. -/
inductive NumericClass where
  | fixed (length precision : Nat)
  | big
  | small
  | medium
  | floating
  deriving DecidableEq, Repr

/-- Names of the fields that become surrogate keys. -/
structure Keys where
  technical : Option String := none
  primary : Option String := none
  deriving DecidableEq, Inhabited

def Keys.holds (k : Keys) (name : String) : Bool :=
  (k.technical.toList ++ k.primary.toList).any fun key => sameName key name

namespace Field

/-- The declared length, where it is not zero. -/
def size? (f : Field) : Option Nat := (f.length.filter (· != 0)).map UInt32.toNat

/-- The numeric class of a field by its length and precision. -/
def numericClass (f : Field) : NumericClass :=
  let precision := (f.precision.getD 0).toNat
  match f.size? with
  | none => .floating
  | some length =>
    if 0 < precision || 18 < length then .fixed length precision
    else if 9 < length then .big
    else if length < 5 then .small
    else .medium

end Field

namespace Family

/-- What stands for a type that the family cannot express. -/
def unknownType : String := "UNKNOWN"

/-- Texts at least this long have an unbounded type. -/
def unboundedLength : Nat := 9999999

def sized (name : String) (length : Nat) : String := name ++ "(" ++ toString length ++ ")"

def keyType : Family → String
  | hypersonic => "BIGINT GENERATED BY DEFAULT AS IDENTITY PRIMARY KEY"
  | mysql => "BIGINT AUTO_INCREMENT NOT NULL PRIMARY KEY"
  | postgres => "BIGSERIAL"

def numericType (f : Family) : NumericClass → String
  | .fixed length precision =>
    (match f with | mysql => "DECIMAL" | _ => "NUMERIC") ++
      "(" ++ toString length ++ ", " ++ toString precision ++ ")"
  | .big => "BIGINT"
  | .small => "SMALLINT"
  | .medium => match f with | mysql => "INT" | _ => "INTEGER"
  | .floating => match f with | mysql => "DOUBLE" | _ => "DOUBLE PRECISION"

def textType : Family → Option Nat → String
  | hypersonic, none => "VARCHAR(255)"
  | hypersonic, some n => if unboundedLength ≤ n then "LONGVARCHAR" else sized "VARCHAR" n
  | postgres, none => "TEXT"
  | postgres, some n => if unboundedLength ≤ n then "TEXT" else sized "VARCHAR" n
  | mysql, none => "TINYTEXT"
  | mysql, some n =>
    if n = 1 then "CHAR(1)"
    else if n < 256 then sized "VARCHAR" n
    else if n < 65536 then "TEXT"
    else if n < 16777216 then "MEDIUMTEXT"
    else "LONGTEXT"

/-- The type of a column for a field. -/
def columnType (f : Family) (field : Field) (isKey : Bool) : String :=
  match field.kind with
  | .unresolved => unknownType
  | .text => f.textType field.size?
  | .date => match f with | mysql => "DATETIME" | _ => "TIMESTAMP"
  | .boolean => match f with | postgres => "BOOLEAN" | _ => "CHAR(1)"
  | .binary => match f with
    | hypersonic => "LONGVARBINARY"
    | mysql => "LONGBLOB"
    | postgres => "BYTEA"
  | .integer | .number | .decimal =>
    if isKey then f.keyType else f.numericType field.numericClass

/-- The type of a field's column, given the keys. -/
def typeWithKeys (f : Family) (keys : Keys) (field : Field) : String :=
  f.columnType field (keys.holds field.name)

def definition (f : Family) (keys : Keys) (field : Field) : String :=
  field.name ++ " " ++ f.typeWithKeys keys field

def addColumn (f : Family) (table : String) (keys : Keys) (field : Field) : String :=
  "ALTER TABLE " ++ table ++ " ADD " ++ f.definition keys field

def modifyColumn (f : Family) (table : String) (keys : Keys) (field : Field) : String :=
  match f with
  | postgres =>
    "ALTER TABLE " ++ table ++ " ALTER COLUMN " ++ field.name ++ " TYPE " ++
      f.typeWithKeys keys field
  | _ => "ALTER TABLE " ++ table ++ " MODIFY " ++ f.definition keys field

/-- The statements that add the fields' columns; every field without a type is named otherwise. -/
def addColumns (f : Family) (table : String) (keys : Keys) (fields : List Field) :
    Except Fault (List String) :=
  let unknown := fields.filter fun field => f.typeWithKeys keys field == unknownType
  if unknown.isEmpty then .ok (fields.map (f.addColumn table keys))
  else .error (Fault.of .schema "UNKNOWN_COLUMN_TYPE"
    (f.name ++ " cannot express the type of: " ++ ", ".intercalate (unknown.map (·.name))))

end Family
end BulkLoad
