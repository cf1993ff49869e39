import BulkLoad.Json
import BulkLoad.Schema

/-!
Fields and schemas in documents. A schema is a list of fields; a list that names a field twice is
none.
-/

namespace BulkLoad

namespace Json

/-- A number that may be absent. -/
def ofNat? : Option Nat → Json
  | some n => .int n
  | none => .null

/-- A text that may be absent. -/
def ofText? : Option String → Json
  | some s => .text s
  | none => .null

/-- An entry that is only there with its value. -/
def entry? (key : String) (value : Option Json) : List (String × Json) :=
  value.toList.map fun v => (key, v)

end Json

namespace Reader

variable {σ : Type} [Scalar σ]

def word16 : Reader σ UInt16 := fun t => (natural 16 t).map UInt16.ofNat

def word32 : Reader σ UInt32 := fun t => (natural 32 t).map UInt32.ofNat

def word64 : Reader σ UInt64 := fun t => (natural 64 t).map UInt64.ofNat

def int32 : Reader σ Int32 := fun t => (integer (-2 ^ 31) (2 ^ 31 - 1) t).map Int32.ofInt

end Reader

namespace Field

/-- A field as a document; sizes that are not set are left out. -/
def json (f : Field) : Json :=
  .object ([("name", .text f.name), ("type", .text f.kind.word)] ++
    Json.entry? "length" (f.length.map fun n => .int n.toNat) ++
    Json.entry? "precision" (f.precision.map fun n => .int n.toNat) ++
    [("origin", .text f.origin)])

variable {σ : Type} [Scalar σ]

def parts : List (RecordField σ) :=
  [.required "name" Reader.text, .required "type" Kind.reader,
    .defaulted "length" (Reader.optional Reader.word32),
    .defaulted "precision" (Reader.optional Reader.word32), .defaulted "origin" Reader.text]

def reader : Reader σ Field := fun t => do
  let found ← Found.ofTree parts t
  let name ← found.required "name" Reader.text
  let kind ← found.required "type" Kind.reader
  let length ← found.optional "length" Reader.word32
  let precision ← found.optional "precision" Reader.word32
  let origin ← found.defaulted "origin" Reader.text ""
  pure ⟨name, kind, length, precision, origin⟩

end Field

namespace Schema

def json (s : Schema) : Json := .list (s.fields.map Field.json)

def reader {σ : Type} [Scalar σ] : Reader σ Schema := fun t => do
  let fields ← Reader.list Field.reader t
  match Schema.ofFields fields with
  | .ok s => pure s
  | .error (.duplicateField name) => throw (.duplicateName name)
  | .error _ => throw .shape

end Schema
end BulkLoad
