import BulkLoad.Cube.Error

/-!
The header of a cube stream: magic bytes, the version, and the fields of the schema. Numbers are
big-endian.
-/

namespace BulkLoad.Cube

/-- The bytes that open a cube stream. -/
def magic : Bytes := [0x42, 0x42, 0x43, 0x55, 0x42, 0x45, 0x0A, 0x00]

def version : Nat := 1

/-- An optional number: a marker, and the number where there is one. -/
def putOption : Option UInt32 → Bytes
  | some n => 1 :: Bytes.bigEndian 4 n.toNat
  | none => [0]

/-- Name, kind, length, precision and origin of a field. -/
def putField (f : Field) : Bytes :=
  putText f.name ++ f.kind.tag :: (putOption f.length ++ putOption f.precision ++ putText f.origin)

def putHeader (s : Schema) : Bytes :=
  magic ++ Bytes.bigEndian 2 version ++ Bytes.bigEndian 4 s.size ++ s.fields.flatMap putField

/-- An optional number. -/
def takeOption (part : Part) : Taker (Option UInt32) := fun b => do
  let (marker, rest) ← takeNat 1 part b
  if marker = 0 then pure (none, rest)
  else if marker = 1 then do
    let (n, rest) ← takeNat 4 part rest
    pure (some (UInt32.ofNat n), rest)
  else throw (.invalid .option)

def takeByte (part : Part) : Taker UInt8
  | [] => .error (.truncated part)
  | x :: rest => .ok (x, rest)

def takeField : Taker Field := fun b => do
  let (name, b) ← takeText .fieldName b
  let (tag, b) ← takeByte .fieldKind b
  let kind ← match Kind.ofTag? tag with
    | some k => pure k
    | none => throw (.unknownTag name tag)
  let (length, b) ← takeOption .fieldLength b
  let (precision, b) ← takeOption .fieldPrecision b
  let (origin, b) ← takeText .fieldOrigin b
  pure (⟨name, kind, length, precision, origin⟩, b)

/-- A count of fields onto a schema. -/
def takeFields : Nat → Schema → Taker Schema
  | 0, s, b => .ok (s, b)
  | n + 1, s, b => do
    let (f, b) ← takeField b
    match s.add f with
    | .ok s => takeFields n s b
    | .error e => throw (.schema e)

/-- The schema of a stream, and the bytes behind its header. -/
def takeHeader : Taker Schema := fun b => do
  let (m, b) ← take magic.length .magic b
  if m ≠ magic then throw .badMagic
  let (v, b) ← takeNat 2 .version b
  if v ≠ version then throw (.unsupportedVersion v)
  let (count, b) ← takeNat 4 .fieldCount b
  takeFields count .empty b

end BulkLoad.Cube
