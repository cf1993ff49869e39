import BulkLoad.Bytes
import BulkLoad.Column

/-!
Faults of cube streams, and the parts of a stream that a fault may name.
-/

namespace BulkLoad.Cube

/-- A part of a cube stream that may be cut off. -/
inductive Part where
  | magic
  | version
  | fieldCount
  | fieldName
  | fieldKind
  | fieldLength
  | fieldPrecision
  | fieldOrigin
  | recordLength
  | recordBody
  | tag
  | text
  | integer
  | number
  | decimal
  | date
  | boolean
  | binary
  deriving DecidableEq, Repr

def Part.words : Part → String
  | magic => "magic"
  | version => "version"
  | fieldCount => "field count"
  | fieldName => "field name"
  | fieldKind => "field type"
  | fieldLength => "field length"
  | fieldPrecision => "field precision"
  | fieldOrigin => "field origin"
  | recordLength => "record length"
  | recordBody => "record body"
  | tag => "value tag"
  | text => "string"
  | integer => "integer"
  | number => "number"
  | decimal => "big number"
  | date => "date"
  | boolean => "boolean"
  | binary => "binary"

/-- Bytes that are all there but mean nothing. -/
inductive Nonsense where
  | text
  | option
  | decimal
  | date
  deriving DecidableEq, Repr

def Nonsense.words : Nonsense → String
  | text => "utf-8 text"
  | option => "optional marker"
  | decimal => "big number"
  | date => "date"

/-- What can be wrong with a cube stream. -/
inductive Error where
  /-- The host refused to read or write. -/
  | host (message : String)
  | badMagic
  | unsupportedVersion (version : Nat)
  | truncated (part : Part)
  | unknownTag (field : String) (tag : UInt8)
  | tagMismatch (field : String) (expected actual : Kind)
  | invalid (what : Nonsense)
  | recordLength (declared used : Nat)
  | schema (e : SchemaError)
  | encode (e : EncodeError)
  deriving DecidableEq

def tagText (t : UInt8) : String := "0x" ++ Bytes.toHex [t]

namespace Error

def message : Error → String
  | host m => "cube I/O error: " ++ m
  | badMagic => "not a cube stream (bad magic)"
  | unsupportedVersion v => "unsupported cube version " ++ toString v
  | truncated p => "cube stream truncated while reading " ++ p.words
  | unknownTag f t => "unknown value tag " ++ tagText t ++ " for field '" ++ f ++ "'"
  | tagMismatch f expected actual =>
    "field '" ++ f ++ "' is " ++ expected.name ++ " but record holds " ++ actual.name
  | invalid w => "invalid " ++ w.words ++ " in cube stream"
  | recordLength declared used =>
    "record declares " ++ toString declared ++ " bytes but values span " ++ toString used
  | schema e => e.message
  | encode e => e.message

/-- What is said of the error, with the host's own words behind it. -/
def chain : Error → List String
  | host m => [(host m).message, m]
  | e => [e.message]

/-- The fault of a step that reads or writes the stream: it ends the step, except that a row which
cannot be encoded concerns that row alone. -/
def fault : Error → Fault
  | host m => Fault.of .resource "CUBE_IO" m
  | encode e => e.fault
  | e => (Fault.of .encoding "CUBE_FORMAT" e.message).withScope .step

end Error

/-- Reads off the front of a byte string. -/
abbrev Taker (α : Type) := Bytes → Except Error (α × Bytes)

/-- The first `n` bytes, which belong to a part. -/
def take (n : Nat) (part : Part) : Taker Bytes := fun b =>
  let (front, rest) := b.splitAt n
  if front.length = n then .ok (front, rest) else .error (.truncated part)

/-- A big-endian number of `width` bytes. -/
def takeNat (width : Nat) (part : Part) : Taker Nat := fun b => do
  let (front, rest) ← take width part b
  pure (Bytes.toNat front, rest)

/-- A byte string preceded by its length. -/
def takeBytes (part : Part) : Taker Bytes := fun b => do
  let (n, rest) ← takeNat 4 part b
  take n part rest

def takeText (part : Part) : Taker String := fun b => do
  let (bytes, rest) ← takeBytes part b
  match Bytes.toText? bytes with
  | some s => pure (s, rest)
  | none => throw (.invalid .text)

/-- A byte string with its length before it. -/
def putBytes (b : Bytes) : Bytes := Bytes.bigEndian 4 b.length ++ b

def putText (s : String) : Bytes := putBytes (Bytes.ofText s)

/-- Bytes that are all there are taken whole. -/
theorem take_append (b : Bytes) (part : Part) (rest : Bytes) :
    take b.length part (b ++ rest) = .ok (b, rest) := by
  simp [take]

theorem takeNat_bigEndian {width n : Nat} (h : n < 256 ^ width) (part : Part) (rest : Bytes) :
    takeNat width part (Bytes.bigEndian width n ++ rest) = .ok (n, rest) := by
  have := take_append (Bytes.bigEndian width n) part rest
  rw [Bytes.bigEndian_length] at this
  simp [takeNat, this, bind, Except.bind, pure, Except.pure, Bytes.toNat_bigEndian,
    Nat.mod_eq_of_lt h]

/-- A byte string reads back, where its length fits the four bytes before it. -/
theorem takeBytes_putBytes {b : Bytes} (h : b.length < 2 ^ 32) (part : Part) (rest : Bytes) :
    takeBytes part (putBytes b ++ rest) = .ok (b, rest) := by
  rw [takeBytes, putBytes, List.append_assoc, takeNat_bigEndian (by omega)]
  exact take_append b part rest

/-- A text reads back, where its length fits the four bytes before it. -/
theorem takeText_putText {s : String} (h : s.utf8ByteSize < 2 ^ 32) (part : Part) (rest : Bytes) :
    takeText part (putText s ++ rest) = .ok (s, rest) := by
  have hb : (Bytes.ofText s).length < 2 ^ 32 := by
    simpa [Bytes.ofText] using h
  rw [takeText, putText, takeBytes_putBytes hb]
  simp [bind, Except.bind, pure, Except.pure]

end BulkLoad.Cube
