import BulkLoad.Fault
import BulkLoad.Json

/-!
Faults in documents. Details are left out when there are none; null details read back as none.
-/

namespace BulkLoad.Fault

def json (f : Fault) : Json :=
  .object ([("category", .text f.category.word), ("scope", .text f.scope.word),
    ("code", .text f.code), ("message", .text f.message)] ++
    (match f.details with
      | some d => [("details", d)]
      | none => []))

def parts : List (RecordField Json.Token) :=
  [.required "category" (Reader.word Category.words), .required "scope" (Reader.word Scope.words),
    .required "code" Reader.text, .required "message" Reader.text,
    .defaulted "details" (Reader.optional Json.reader)]

def reader : Reader Json.Token Fault := fun t => do
  let found ← Found.ofTree parts t
  let category ← found.required "category" (Reader.word Category.words)
  let scope ← found.required "scope" (Reader.word Scope.words)
  let code ← found.required "code" Reader.text
  let message ← found.required "message" Reader.text
  let details ← found.optional "details" Json.reader
  pure ⟨category, scope, code, message, details⟩

end BulkLoad.Fault
