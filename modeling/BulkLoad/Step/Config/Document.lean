import BulkLoad.Mapping.Document
import BulkLoad.Step.Config

/-!
Step configurations in documents: the names of the fields, their defaults, and the words of the
choices.
-/

namespace BulkLoad

namespace Connection

def json (c : Connection) : Json :=
  .object [("family", .text c.family.word), ("access", .text c.access.word),
    ("host", .text c.host), ("port", Json.ofNat? (c.port.map UInt16.toNat)),
    ("database", .text c.database), ("user", Json.ofText? c.user),
    ("password", Json.ofText? c.password)]

variable {σ : Type} [Scalar σ]

def parts : List (RecordField σ) :=
  [.required "family" (Reader.word Family.words), .defaulted "access" (Reader.word Access.words),
    .defaulted "host" Reader.text, .required "port" (Reader.optional Reader.word16),
    .defaulted "database" Reader.text, .required "user" (Reader.optional Reader.text),
    .required "password" (Reader.optional Reader.text)]

def reader : Reader σ Connection := fun t => do
  let found ← Found.ofTree parts t
  let family ← found.required "family" (Reader.word Family.words)
  let access ← found.defaulted "access" (Reader.word Access.words) .native
  let host ← found.defaulted "host" Reader.text ""
  let port ← found.optional "port" Reader.word16
  let database ← found.defaulted "database" Reader.text ""
  let user ← found.optional "user" Reader.text
  let password ← found.optional "password" Reader.text
  pure ⟨family, access, host, port, database, user, password⟩

end Connection

/-- Sets a variable in a list sorted by name. -/
def setSorted (key value : String) : List (String × String) → List (String × String)
  | [] => [(key, value)]
  | (k, v) :: rest =>
    if key < k then (key, value) :: (k, v) :: rest
    else if k = key then (key, value) :: rest
    else (k, v) :: setSorted key value rest

/-- Variables sorted by name; of two settings the later one counts. -/
def sortedEnv (entries : List (String × String)) : List (String × String) :=
  entries.foldl (fun env e => setSorted e.1 e.2 env) []

namespace Command

def json (c : Command) : Json :=
  .object [("program", .text c.program), ("args", .list (c.args.map .text)),
    ("env", .object (c.env.map fun e => (e.1, .text e.2)))]

variable {σ : Type} [Scalar σ]

def parts : List (RecordField σ) :=
  [.required "program" Reader.text, .defaulted "args" (Reader.list Reader.text),
    .defaulted "env" Reader.texts]

/-- Reads a command; its variables come out sorted. -/
def reader : Reader σ Command := fun t => do
  let found ← Found.ofTree parts t
  let program ← found.required "program" Reader.text
  let args ← found.defaulted "args" (Reader.list Reader.text) []
  let env ← found.defaulted "env" Reader.texts []
  pure ⟨program, args, sortedEnv env⟩

end Command

namespace Step

def ChannelKind.word : ChannelKind → String
  | fifo => "fifo"
  | stdin => "stdin"

def ChannelKind.words : List (String × ChannelKind) := [fifo, stdin].map fun k => (k.word, k)

def FileFormat.word : FileFormat → String
  | text => "text"
  | cube => "cube"

def FileFormat.words : List (String × FileFormat) := [text, cube].map fun f => (f.word, f)

def IfExists.word : IfExists → String
  | fail => "fail"
  | skip => "skip"
  | rename => "rename"

def IfExists.words : List (String × IfExists) := [fail, skip, rename].map fun c => (c.word, c)

def RowPolicy.word : RowPolicy → String
  | abort => "abort"
  | skip => "skip"

def RowPolicy.words : List (String × RowPolicy) := [abort, skip].map fun p => (p.word, p)

variable {σ : Type} [Scalar σ]

namespace Input

def json (i : Input) : Json :=
  .object [("cube", Json.ofText? i.cube), ("limit", .int i.limit.toNat),
    ("fields", .list (i.fields.map Field.json))]

def parts : List (RecordField σ) :=
  [.required "cube" (Reader.optional Reader.text), .defaulted "limit" Reader.word64,
    .defaulted "fields" (Reader.list Field.reader)]

def reader : Reader σ Input := fun t => do
  let found ← Found.ofTree parts t
  let cube ← found.optional "cube" Reader.text
  let limit ← found.defaulted "limit" Reader.word64 0
  let fields ← found.defaulted "fields" (Reader.list Field.reader) []
  pure ⟨cube, limit, fields⟩

end Input

namespace Target

def json (t : Target) : Json :=
  .object [("schema", Json.ofText? t.schema), ("table", .text t.table),
    ("technical_key", Json.ofText? t.technicalKey), ("primary_key", Json.ofText? t.primaryKey)]

def parts : List (RecordField σ) :=
  [.required "schema" (Reader.optional Reader.text), .defaulted "table" Reader.text,
    .required "technical_key" (Reader.optional Reader.text),
    .required "primary_key" (Reader.optional Reader.text)]

def reader : Reader σ Target := fun t => do
  let found ← Found.ofTree parts t
  let schema ← found.optional "schema" Reader.text
  let table ← found.defaulted "table" Reader.text ""
  let technicalKey ← found.optional "technical_key" Reader.text
  let primaryKey ← found.optional "primary_key" Reader.text
  pure ⟨schema, table, technicalKey, primaryKey⟩

end Target

namespace Loader

def json (l : Loader) : Json :=
  .object [("delimiter", .text l.delimiter), ("enclosure", .text l.enclosure),
    ("escape", .text l.escape), ("replace", .bool l.replace),
    ("ignore_errors", .bool l.ignoreErrors), ("null_marker", Json.ofText? l.nullMarker),
    ("fifo_dir", .text l.fifoDir), ("channel", Json.ofText? (l.channel.map ChannelKind.word)),
    ("command", match l.command with | some c => c.json | none => .null),
    ("open_timeout_ms", .int l.openTimeout.toNat),
    ("finish_timeout_ms", .int l.finishTimeout.toNat),
    ("terminate_grace_ms", .int l.terminateGrace.toNat)]

def parts : List (RecordField σ) :=
  [.defaulted "delimiter" Reader.text, .defaulted "enclosure" Reader.text,
    .defaulted "escape" Reader.text, .defaulted "replace" Reader.flag,
    .defaulted "ignore_errors" Reader.flag,
    .required "null_marker" (Reader.optional Reader.text), .defaulted "fifo_dir" Reader.text,
    .required "channel" (Reader.optional (Reader.word ChannelKind.words)),
    .required "command" (Reader.optional Command.reader),
    .defaulted "open_timeout_ms" Reader.word64, .defaulted "finish_timeout_ms" Reader.word64,
    .defaulted "terminate_grace_ms" Reader.word64]

def reader : Reader σ Loader := fun t => do
  let found ← Found.ofTree parts t
  let base : Loader := {}
  let delimiter ← found.defaulted "delimiter" Reader.text base.delimiter
  let enclosure ← found.defaulted "enclosure" Reader.text base.enclosure
  let escape ← found.defaulted "escape" Reader.text base.escape
  let replace ← found.defaulted "replace" Reader.flag base.replace
  let ignoreErrors ← found.defaulted "ignore_errors" Reader.flag base.ignoreErrors
  let nullMarker ← found.optional "null_marker" Reader.text
  let fifoDir ← found.defaulted "fifo_dir" Reader.text base.fifoDir
  let channel ← found.optional "channel" (Reader.word ChannelKind.words)
  let command ← found.optional "command" Command.reader
  let openTimeout ← found.defaulted "open_timeout_ms" Reader.word64 base.openTimeout
  let finishTimeout ← found.defaulted "finish_timeout_ms" Reader.word64 base.finishTimeout
  let terminateGrace ← found.defaulted "terminate_grace_ms" Reader.word64 base.terminateGrace
  pure ⟨delimiter, enclosure, escape, replace, ignoreErrors, nullMarker, fifoDir, channel, command,
    openTimeout, finishTimeout, terminateGrace⟩

end Loader

namespace Output

def json (o : Output) : Json :=
  .object [("path", .text o.path), ("format", .text o.format.word),
    ("if_exists", .text o.ifExists.word)]

def parts : List (RecordField σ) :=
  [.required "path" Reader.text, .defaulted "format" (Reader.word FileFormat.words),
    .defaulted "if_exists" (Reader.word IfExists.words)]

def reader : Reader σ Output := fun t => do
  let found ← Found.ofTree parts t
  let path ← found.required "path" Reader.text
  let format ← found.defaulted "format" (Reader.word FileFormat.words) .text
  let ifExists ← found.defaulted "if_exists" (Reader.word IfExists.words) .fail
  pure ⟨path, format, ifExists⟩

end Output

namespace Policy

def json (p : Policy) : Json :=
  .object [("on_encoding_error", .text p.onRowError.word), ("ignore_errors", .bool p.ignoreErrors)]

def parts : List (RecordField σ) :=
  [.defaulted "on_encoding_error" (Reader.word RowPolicy.words),
    .defaulted "ignore_errors" Reader.flag]

def reader : Reader σ Policy := fun t => do
  let found ← Found.ofTree parts t
  let onRowError ← found.defaulted "on_encoding_error" (Reader.word RowPolicy.words) .abort
  let ignoreErrors ← found.defaulted "ignore_errors" Reader.flag false
  pure ⟨onRowError, ignoreErrors⟩

end Policy

namespace Config

/-- A configuration as a document; every field is there. -/
def json (c : Config) : Json :=
  .object [("version", .text c.version), ("step", .text c.name), ("pipeline", .text c.pipeline),
    ("input", c.input.json),
    ("connection", match c.connection with | some x => x.json | none => .null),
    ("target", c.target.json), ("mapping", c.mapping.json), ("loader", c.loader.json),
    ("output", match c.output with | some x => x.json | none => .null),
    ("policy", c.policy.json)]

def parts : List (RecordField σ) :=
  [.required "version" Reader.text, .required "step" Reader.text,
    .defaulted "pipeline" Reader.text, .defaulted "input" Input.reader,
    .required "connection" (Reader.optional Connection.reader),
    .defaulted "target" Target.reader, .defaulted "mapping" Mapping.reader,
    .defaulted "loader" Loader.reader, .required "output" (Reader.optional Output.reader),
    .defaulted "policy" Policy.reader]

def reader : Reader σ Config := fun t => do
  let found ← Found.ofTree parts t
  let version ← found.required "version" Reader.text
  let name ← found.required "step" Reader.text
  let pipeline ← found.defaulted "pipeline" Reader.text "bulkbyte"
  let input ← found.defaulted "input" Input.reader {}
  let connection ← found.optional "connection" Connection.reader
  let target ← found.defaulted "target" Target.reader {}
  let mapping ← found.defaulted "mapping" Mapping.reader {}
  let loader ← found.defaulted "loader" Loader.reader {}
  let output ← found.optional "output" Output.reader
  let policy ← found.defaulted "policy" Policy.reader {}
  pure ⟨version, name, pipeline, input, connection, target, mapping, loader, output, policy⟩

end Config
end Step
end BulkLoad
