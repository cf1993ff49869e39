import BulkLoad.Cube.Record

/-!
Writing and reading whole cube streams: a writer takes rows that fit its schema, a reader gives the
rows and faults in order, up to a limit of rows.
-/

namespace BulkLoad.Cube

/-- A cube stream being written: its schema, the buffer that records are made in, the bytes so far,
and the count of rows in them. What they are written to takes every byte. -/
structure Writer where
  schema : Schema
  scratch : Bytes := []
  chunks : List Bytes
  rows : Nat

namespace Writer

/-- A stream with nothing but its header. -/
def start (s : Schema) : Writer :=
  { schema := s, scratch := putHeader s, chunks := [putHeader s], rows := 0 }

/-- Appends a row, and says whether it went well; a row that does not fit the schema is not
written. -/
def append (w : Writer) (row : Row) : Except Error Unit × Writer :=
  match w.schema.check row with
  | .error e => (.error (.schema e), w)
  | .ok () => match fillRecord w.schema.columns row [] with
    | (.error e, scratch) => (.error (.encode e), { w with scratch })
    | (.ok (), scratch) =>
      (.ok (), { w with scratch, chunks := scratch :: w.chunks, rows := w.rows + 1 })

/-- The stream with a row behind it, unless the row cannot be written. -/
def write (w : Writer) (row : Row) : Except Error Writer :=
  let (ended, w) := w.append row
  ended.map fun () => w

def bytes (w : Writer) : Bytes := w.chunks.reverse.flatten

/-- Writes rows until one does not fit. -/
def writeAll (w : Writer) (rows : List Row) : Except Error Writer := rows.foldlM write w

end Writer

/-- The limit of a reader: zero stands for none. -/
def limitOf (n : Nat) : Option Nat := if n = 0 then none else some n

/-- The rows and faults of a stream behind its header. A limit counts rows alone. -/
def items (s : Schema) (limit : Option Nat) (b : Bytes) : List (Except Error Row) :=
  if limit = some 0 then []
  else match h : frame b with
    | .finished => []
    | .cut part => [.error (.truncated part)]
    | .record body rest =>
      have := frame_record_rest_length h
      match rowOfBody s body with
      | .ok row => .ok row :: items s (limit.map (· - 1)) rest
      | .error e => .error e :: items s limit rest
termination_by b.length

/-- Rows up to the first fault, and the fault. -/
def untilFault {ε α : Type} : List (Except ε α) → List α × Option ε
  | [] => ([], none)
  | .ok a :: rest =>
    let (as, e) := untilFault rest
    (a :: as, e)
  | .error e :: _ => ([], some e)

/-- Items up to the first fault, with it. -/
def throughFault {ε α : Type} : List (Except ε α) → List (Except ε α)
  | [] => []
  | .ok a :: rest => .ok a :: throughFault rest
  | .error e :: _ => [.error e]

/-- A stream opened for reading: its schema and the items behind the header. -/
structure Contents where
  schema : Schema
  items : List (Except Error Row)

/-- Opens a stream with a limit of rows; zero reads them all. -/
def read (b : Bytes) (limit : Nat) : Except Error Contents := do
  let (s, rest) ← takeHeader b
  pure ⟨s, Cube.items s (limitOf limit) rest⟩

end BulkLoad.Cube
