import BulkLoad.Cube.Record
import BulkLoad.Delimited.Record

/-!
Encoders: what turns the rows of a target into the bytes of a stream, as delimited text or as a
cube.
-/

namespace BulkLoad

inductive Encoder where
  | text (format : Delimited.Format) (columns : List Delimited.TextColumn)
  | cube (target : Schema) (columns : List Column)

namespace Encoder

/-- Rows of a projection as delimited text. -/
def ofFormat (format : Delimited.Format) (p : Projection) : Encoder :=
  text format (Delimited.textColumns p)

/-- Rows of a projection as a cube. -/
def ofProjection (p : Projection) : Encoder := cube p.target p.columns

/-- What stands before the rows. -/
def header : Encoder → Bytes
  | text .. => []
  | cube target _ => Cube.putHeader target

/-- Appends a row to a buffer. -/
def fill : Encoder → Row → Bytes → Filled
  | text format columns, row, buffer => format.fill columns row buffer
  | cube _ columns, row, buffer => Cube.fillRecord columns row buffer

def record (e : Encoder) (row : Row) : Except EncodeError Bytes :=
  let (ended, bytes) := e.fill row []
  ended.map fun () => bytes

end Encoder
end BulkLoad
