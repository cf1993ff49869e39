import BulkLoad.Mapping
import BulkLoad.Schema.Document

/-!
Mappings in documents: a list of entries, with hints by their codes.
-/

namespace BulkLoad

namespace Hint

/-- Reads a hint from its code; every text is one. -/
def reader {σ : Type} [Scalar σ] : Reader σ Hint := fun t => (Reader.text t).map ofCode

end Hint

namespace MappingEntry

def json (e : MappingEntry) : Json :=
  .object [("stream", .text e.stream), ("column", .text e.column), ("format", .text e.hint.code)]

variable {σ : Type} [Scalar σ]

def parts : List (RecordField σ) :=
  [.required "stream" Reader.text, .required "column" Reader.text,
    .defaulted "format" Hint.reader]

def reader : Reader σ MappingEntry := fun t => do
  let found ← Found.ofTree parts t
  let stream ← found.required "stream" Reader.text
  let column ← found.required "column" Reader.text
  let hint ← found.defaulted "format" Hint.reader .plain
  pure ⟨stream, column, hint⟩

end MappingEntry

namespace Mapping

def json (m : Mapping) : Json := .list (m.entries.map MappingEntry.json)

def reader {σ : Type} [Scalar σ] : Reader σ Mapping := fun t =>
  (Reader.list MappingEntry.reader t).map Mapping.mk

end Mapping
end BulkLoad
