import BulkLoad.Cube.Header
import BulkLoad.Decimal

/-!
The records of a cube stream: the length of the body, then for each field a tag and the bytes of the
cell. A null is the tag zero alone.
-/

namespace BulkLoad.Cube

def nullTag : UInt8 := 0

/-- The bytes of a cell behind its tag. -/
def putPayload : Cell → Bytes
  | .null => []
  | .text s => putText s
  | .integer n => Bytes.bigEndian 8 n.toUInt64.toNat
  | .number x => Bytes.bigEndian 8 x.bits.toNat
  | .decimal d => putText d.plain
  | .date t => Bytes.bigEndian 8 (Int64.ofInt t.second).toUInt64.toNat ++ Bytes.bigEndian 4 t.nano
  | .boolean b => [if b then 1 else 0]
  | .binary b => putBytes b

def putCell (c : Cell) : Bytes :=
  match c.kind? with
  | some k => k.tag :: putPayload c
  | none => [nullTag]

/-- The cells of a row, one for each column, as a record body. -/
def putBody (columns : List Column) (row : Row) : Except EncodeError Bytes := do
  let cells ← columns.mapM fun c => (c.cell row).map putCell
  pure cells.flatten

/-- A buffer with another word of four bytes at a position. -/
def patch (buffer : Bytes) (start n : Nat) : Bytes :=
  buffer.take start ++ Bytes.bigEndian 4 n ++ buffer.drop (start + 4)

/-- Appends a record to a buffer. The length of the body stands before it, and is only known when
the cells are there. -/
def fillRecord (columns : List Column) (row : Row) (buffer : Bytes) : Filled :=
  match fillEach [] (fun c => (c.cell row).map putCell) columns
      (buffer ++ Bytes.bigEndian 4 0) with
  | (.ok (), filled) => (.ok (), patch filled buffer.length (filled.length - buffer.length - 4))
  | failed => failed

def putRecord (columns : List Column) (row : Row) : Except EncodeError Bytes :=
  let (ended, record) := fillRecord columns row []
  ended.map fun () => record

/-- A cell of a kind, behind its tag. -/
def takePayload (f : Field) (tag : UInt8) : Kind → Taker Cell
  | .text, b => do
    let (s, b) ← takeText .text b
    pure (.text s, b)
  | .integer, b => do
    let (n, b) ← takeNat 8 .integer b
    pure (.integer (UInt64.ofNat n).toInt64, b)
  | .number, b => do
    let (n, b) ← takeNat 8 .number b
    pure (.number ⟨UInt64.ofNat n⟩, b)
  | .decimal, b => do
    let (s, b) ← takeText .decimal b
    match Decimal.ofText? s with
    | some d => pure (.decimal d, b)
    | none => throw (.invalid .decimal)
  | .date, b => do
    let (second, b) ← takeNat 8 .date b
    let (nano, b) ← takeNat 4 .date b
    match Instant.ofTimestamp? (UInt64.ofNat second).toInt64.toInt nano with
    | some t => pure (.date t, b)
    | none => throw (.invalid .date)
  | .boolean, b => do
    let (x, b) ← takeByte .boolean b
    pure (.boolean (x != 0), b)
  | .binary, b => do
    let (x, b) ← takeBytes .binary b
    pure (.binary x, b)
  | .unresolved, _ => .error (.unknownTag f.name tag)

def takeCell (f : Field) : Taker Cell := fun b => do
  let (tag, b) ← takeByte .tag b
  if tag = nullTag then pure (.null, b)
  else match Kind.ofTag? tag with
    | none => throw (.unknownTag f.name tag)
    | some k =>
      if k = f.kind then takePayload f tag k b
      else throw (.tagMismatch f.name f.kind k)

def takeCells : List Field → Taker Row
  | [], b => .ok ([], b)
  | f :: fields, b => do
    let (c, b) ← takeCell f b
    let (row, b) ← takeCells fields b
    pure (c :: row, b)

/-- The row of a record body; the cells have to fill it. -/
def rowOfBody (s : Schema) (body : Bytes) : Except Error Row := do
  let (row, rest) ← takeCells s.fields body
  if rest.isEmpty then pure row
  else throw (.recordLength body.length (body.length - rest.length))

/-- What stands at the front of the records. -/
inductive Frame where
  /-- Nothing: the records end here. -/
  | finished
  /-- The stream is cut off in this part. -/
  | cut (part : Part)
  /-- A record's body and what follows it. -/
  | record (body rest : Bytes)

/-- Finds the next record by its length. -/
def frame (b : Bytes) : Frame :=
  if b.isEmpty then .finished
  else match takeBytes .recordBody b with
    | .ok (body, rest) => .record body rest
    | .error _ => .cut (if (b.splitAt 4).1.length = 4 then .recordBody else .recordLength)

theorem take_length {n : Nat} {part : Part} {b front rest : Bytes}
    (h : take n part b = .ok (front, rest)) : b = front ++ rest ∧ front.length = n := by
  simp only [take, List.splitAt_eq] at h
  split at h
  · rename_i hn
    cases h
    exact ⟨(List.take_append_drop n b).symm, hn⟩
  · cases h

theorem frame_record {b body rest : Bytes} (h : frame b = .record body rest) :
    ∃ lengthBytes : Bytes, lengthBytes.length = 4 ∧ b = lengthBytes ++ (body ++ rest) ∧
      Bytes.toNat lengthBytes = body.length := by
  unfold frame at h
  split at h
  · cases h
  · split at h
    · rename_i body' rest' hb
      cases h
      simp only [takeBytes, takeNat, bind, Except.bind, pure, Except.pure] at hb
      cases h4 : take 4 .recordBody b with
      | error e => simp [h4] at hb
      | ok p =>
        obtain ⟨front, after⟩ := p
        simp only [h4] at hb
        obtain ⟨hb1, hl1⟩ := take_length h4
        obtain ⟨hb2, hl2⟩ := take_length hb
        exact ⟨front, hl1, by rw [hb1, hb2], hl2.symm⟩
    · cases h

theorem frame_record_rest_length {b body rest : Bytes} (h : frame b = .record body rest) :
    rest.length < b.length := by
  obtain ⟨front, hl, hb, -⟩ := frame_record h
  simp only [hb, List.length_append]
  omega

/-- The next row, or the fault at its place, and the bytes behind it; no row at the end. -/
def takeRow (s : Schema) (b : Bytes) : Except Error (Option Row) × Bytes :=
  match frame b with
  | .finished => (.ok none, [])
  | .cut part => (.error (.truncated part), [])
  | .record body rest => ((rowOfBody s body).map some, rest)

end BulkLoad.Cube
