import BulkLoad.Document
import BulkLoad.Text
import BulkLoad.Text.Lowercase

/-!
The kinds of value a field may hold, with their names, their words in documents and their tags in
the cube format.
-/

namespace BulkLoad

/-- The kind of a field's values. -/
inductive Kind where
  /-- Not settled yet; no value but null has it. -/
  | unresolved
  | text
  | integer
  | number
  | decimal
  | date
  | boolean
  | binary
  deriving DecidableEq, Repr, Inhabited

namespace Kind

/-- Every kind, in the order of the tags. -/
def all : List Kind := [unresolved, text, integer, number, decimal, date, boolean, binary]

/-- The name shown to a reader. -/
def name : Kind → String
  | unresolved => "None"
  | text => "String"
  | integer => "Integer"
  | number => "Number"
  | decimal => "BigNumber"
  | date => "Date"
  | boolean => "Boolean"
  | binary => "Binary"

def word : Kind → String
  | unresolved => "none"
  | text => "string"
  | integer => "integer"
  | number => "number"
  | decimal => "big_number"
  | date => "date"
  | boolean => "boolean"
  | binary => "binary"

def words : List (String × Kind) := all.map fun k => (k.word, k)

/-- The byte for the kind in the cube format; zero is kept for null. -/
def tag : Kind → UInt8
  | unresolved => 0xFF
  | text => 1
  | integer => 2
  | number => 3
  | decimal => 4
  | date => 5
  | boolean => 6
  | binary => 7

/-- The kind of a tag. -/
def ofTag? (tag : UInt8) : Option Kind := all.find? (·.tag == tag)

/-- The names that are accepted for a kind, in lower case. -/
def spellings : List (String × Kind) := ("bignumber", decimal) :: words

/-- The kind that a name stands for, whatever its case and the blanks around it. -/
def ofName? (s : String) : Option Kind := spellings.lookup (Text.lowerAscii (Text.trim s))

/-- The message for a name that stands for no kind. -/
def unknownMessage (name : String) : String := "unknown value type '" ++ name ++ "'"

/-- Integers, double-precision numbers and decimals. -/
def isNumeric : Kind → Bool
  | integer | number | decimal => true
  | _ => false

def reader {σ : Type} [Scalar σ] : Reader σ Kind := Reader.word words

theorem ofTag?_tag (k : Kind) : ofTag? k.tag = some k := by cases k <;> rfl

theorem tag_ne_zero (k : Kind) : k.tag ≠ 0 := by cases k <;> decide

theorem tag_of_ofTag? {t : UInt8} {k : Kind} (h : ofTag? t = some k) : k.tag = t := by
  have := List.find?_some h
  simpa using this

end Kind
end BulkLoad
