import BulkLoad.Column
import BulkLoad.Double.Text
import BulkLoad.Instant
import BulkLoad.Text

/-!
Rows as records of delimited text: one field for each column, and a line end. A format says what
separates and encloses the fields, what escapes them, and what stands for null.
-/

namespace BulkLoad.Delimited

/-- Separators, quotes and marks of delimited text. -/
structure Format where
  delimiter : String := "\t"
  enclosure : Option String := some "\""
  escape : Option String := some "\\"
  nullMarker : String := ""
  terminator : String := "\n"
  deriving DecidableEq, Inhabited

/-- A text, unless it is empty. -/
def nonEmpty? (s : String) : Option String := if s.isEmpty then none else some s

/-- Writes an escape before every occurrence of a text. -/
def escapeText (escape special s : String) : String :=
  Text.replaceAll special (escape ++ special) s

/-- Escapes a text, unless that which is to be escaped is empty. -/
def escapeSpecial (escape s special : String) : String :=
  if special.isEmpty then s else escapeText escape special s

/-- A text with escapes: the escape itself is doubled, then the enclosure gets one, or delimiter and
line end where there is no enclosure. -/
def Format.escaped (f : Format) (s : String) : String :=
  match f.escape.filter fun e => !e.isEmpty with
  | none => s
  | some escape =>
    let s := escapeText escape escape s
    match f.enclosure.filter fun e => !e.isEmpty with
    | some enclosure => escapeText escape enclosure s
    | none => [f.delimiter, f.terminator].foldl (escapeSpecial escape) s

def Format.enclosed (f : Format) (s : String) : String :=
  f.enclosure.getD "" ++ s ++ f.enclosure.getD ""

/-- The largest count of fractional digits of a double-precision number. -/
def maxPlaces : Nat := 17

def numberText (hint : Hint) (precision : Option UInt32) (x : Double) : String :=
  if x.isNaN then "NaN"
  else if x.isInfinite then x.signText ++ "Infinity"
  else match hint, precision with
    | .number, some p => x.fixed (min p.toNat maxPlaces)
    | _, _ => x.text

def decimalText (hint : Hint) (precision : Option UInt32) (d : Decimal) : String :=
  match hint, precision with
  | .number, some p => (d.rescale p.toNat).plain
  | _, _ => d.plain

/-- The layout of dates that a hint asks for. -/
def dateLayout : Hint → Instant.Layout
  | .date => Instant.dateOnly
  | .timestamp => Instant.wholeSeconds
  | _ => Instant.slashed

def Format.field (f : Format) (hint : Hint) (precision : Option UInt32) : Cell → Bytes
  | .null => Bytes.ofText f.nullMarker
  | .text s =>
    Bytes.ofText (f.enclosed (match hint with | .escaped => f.escaped s | _ => s))
  | .integer n => Bytes.ofText (toString n.toInt)
  | .number x => Bytes.ofText (numberText hint precision x)
  | .decimal d => Bytes.ofText (decimalText hint precision d)
  | .date t => Bytes.ofText (t.text (dateLayout hint))
  | .boolean b => Bytes.ofText (if b then "Y" else "N")
  | .binary b => b

structure TextColumn where
  column : Column
  hint : Hint

def textColumns (p : Projection) : List TextColumn :=
  (p.columns.zip p.hints).map fun x => ⟨x.1, x.2⟩

def Format.fieldOf (f : Format) (row : Row) (c : TextColumn) : Except EncodeError Bytes :=
  (c.column.cell row).map (f.field c.hint c.column.field.precision)

/-- Appends a row to a buffer: a field for each column, delimiters between them, and a line end. -/
def Format.fill (f : Format) (columns : List TextColumn) (row : Row) (buffer : Bytes) : Filled :=
  match fillEach (Bytes.ofText f.delimiter) (f.fieldOf row) columns buffer with
  | (.ok (), filled) => (.ok (), filled ++ Bytes.ofText f.terminator)
  | failed => failed

def Format.record (f : Format) (columns : List TextColumn) (row : Row) :
    Except EncodeError Bytes :=
  let (ended, record) := f.fill columns row []
  ended.map fun () => record

end BulkLoad.Delimited
