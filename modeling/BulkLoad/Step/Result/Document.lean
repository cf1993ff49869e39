import BulkLoad.Fault.Document
import BulkLoad.Schema.Document
import BulkLoad.Step.Result

/-!
Results of steps in documents. Files, sink and fault are left out when there are none.
-/

namespace BulkLoad

/-- A finite number as a value; every other one is written as null. -/
def Json.ofDouble (x : Double) : Json := if x.isFinite then .double x else .null

namespace Step

def FileKind.word : FileKind → String
  | general => "general"
  | log => "log"
  | error => "error"
  | warning => "warning"

def FileKind.words : List (String × FileKind) :=
  [general, log, error, warning].map fun k => (k.word, k)

namespace ResultFile

def json (f : ResultFile) : Json :=
  .object [("kind", .text f.kind.word), ("path", .text f.path), ("origin", .text f.origin)]

def parts : List (RecordField Json.Token) :=
  [.required "kind" (Reader.word FileKind.words), .required "path" Reader.text,
    .required "origin" Reader.text]

def reader : Reader Json.Token ResultFile := fun t => do
  let found ← Found.ofTree parts t
  let kind ← found.required "kind" (Reader.word FileKind.words)
  let path ← found.required "path" Reader.text
  let origin ← found.required "origin" Reader.text
  pure ⟨kind, path, origin⟩

end ResultFile

namespace SinkReport

def json (r : SinkReport) : Json :=
  .object [("exit_code", .int r.exitCode.toInt), ("records_written", .int r.records.toNat),
    ("bytes_written", .int r.bytes.toNat), ("stdout", .text r.stdout), ("stderr", .text r.stderr)]

def parts : List (RecordField Json.Token) :=
  [.required "exit_code" Reader.int32, .required "records_written" Reader.word64,
    .required "bytes_written" Reader.word64, .defaulted "stdout" Reader.text,
    .defaulted "stderr" Reader.text]

def reader : Reader Json.Token SinkReport := fun t => do
  let found ← Found.ofTree parts t
  let exitCode ← found.required "exit_code" Reader.int32
  let records ← found.required "records_written" Reader.word64
  let bytes ← found.required "bytes_written" Reader.word64
  let stdout ← found.defaulted "stdout" Reader.text ""
  let stderr ← found.defaulted "stderr" Reader.text ""
  pure ⟨exitCode, records, bytes, stdout, stderr⟩

end SinkReport

namespace Result

def json (r : Result) : Json :=
  .object ([("succeeded", .bool r.succeeded), ("rows_read", .int r.rowsRead.toNat),
    ("rows_written", .int r.rowsWritten.toNat), ("error_count", .int r.errors.toNat)] ++
    (if r.files.isEmpty then [] else [("files", .list (r.files.map ResultFile.json))]) ++
    Json.entry? "sink" (r.sink.map SinkReport.json) ++
    Json.entry? "error" (r.fault.map Fault.json) ++
    [("cancelled", .bool r.cancelled), ("duration_secs", Json.ofDouble r.seconds)])

def parts : List (RecordField Json.Token) :=
  [.required "succeeded" Reader.flag, .required "rows_read" Reader.word64,
    .required "rows_written" Reader.word64, .required "error_count" Reader.word64,
    .defaulted "files" (Reader.list ResultFile.reader),
    .defaulted "sink" (Reader.optional SinkReport.reader),
    .defaulted "error" (Reader.optional Fault.reader), .required "cancelled" Reader.flag,
    .required "duration_secs" Reader.double]

def reader : Reader Json.Token Result := fun t => do
  let found ← Found.ofTree parts t
  let succeeded ← found.required "succeeded" Reader.flag
  let rowsRead ← found.required "rows_read" Reader.word64
  let rowsWritten ← found.required "rows_written" Reader.word64
  let errors ← found.required "error_count" Reader.word64
  let files ← found.defaulted "files" (Reader.list ResultFile.reader) []
  let sink ← found.optional "sink" SinkReport.reader
  let fault ← found.optional "error" Fault.reader
  let cancelled ← found.required "cancelled" Reader.flag
  let seconds ← found.required "duration_secs" Reader.double
  pure ⟨succeeded, rowsRead, rowsWritten, errors, files, sink, fault, cancelled, seconds⟩

end Result
end Step
end BulkLoad
