import BulkLoad.Step.Config

/-!
What is wrong with a configuration: every problem is listed, in the order of its sections.
-/

namespace BulkLoad.Step

inductive Problem where
  | version (version : String)
  | noName
  | noMapping
  | emptyStream (index : Nat)
  | emptyColumn (index : Nat)
  | repeatedColumn (column : String)
  | noDestination
  | noDelimiter
  | noOpenTimeout
  | noFinishTimeout
  | noProgram
  | noTable
  | noBulkLoader
  | copyCannotReplace
  | copyDelimiter
  | noOutputPath
  deriving DecidableEq, Repr

namespace Problem

def message : Problem → String
  | version v => "Unsupported step version '" ++ v ++ "', expected '1.0'"
  | noName => "Step name must not be empty"
  | noMapping => "Mapping must define at least one field"
  | emptyStream i => "Mapping entry " ++ toString i ++ " has an empty stream field"
  | emptyColumn i => "Mapping entry " ++ toString i ++ " has an empty column"
  | repeatedColumn c => "Column '" ++ c ++ "' is mapped more than once"
  | noDestination => "Step needs a connection, a loader command, or an output file"
  | noDelimiter => "loader.delimiter must not be empty"
  | noOpenTimeout => "loader.open_timeout_ms must be > 0"
  | noFinishTimeout => "loader.finish_timeout_ms must be > 0"
  | noProgram => "loader.command.program must not be empty"
  | noTable => "target.table is required for a bulk load"
  | noBulkLoader => "hypersonic has no bulk loader; configure loader.command"
  | copyCannotReplace =>
    "postgres \\copy supports neither loader.replace nor loader.ignore_errors"
  | copyDelimiter => "postgres \\copy needs a single-character delimiter"
  | noOutputPath => "output.path must not be empty"

end Problem

/-- The problem, where a condition holds. -/
def problemIf (condition : Bool) (p : Problem) : List Problem := if condition then [p] else []

/-- Problems of the entries from position `index` on; `seen` holds the columns before them. -/
def entryProblems (seen : List String) (index : Nat) : List MappingEntry → List Problem
  | [] => []
  | e :: rest =>
    let folded := foldedName e.column
    problemIf (Text.isAllBlank e.stream) (.emptyStream index) ++
      (if Text.isAllBlank e.column then
        .emptyColumn index :: entryProblems seen (index + 1) rest
      else if seen.contains folded then
        .repeatedColumn e.column :: entryProblems seen (index + 1) rest
      else entryProblems (folded :: seen) (index + 1) rest)

def familyProblems (family : Family) (l : Loader) : List Problem :=
  match family with
  | .hypersonic => [.noBulkLoader]
  | .postgres =>
    if l.replace || l.ignoreErrors then [.copyCannotReplace]
    else problemIf (l.delimiter.length != 1) .copyDelimiter
  | .mysql => []

def loaderProblems (c : Config) : List Problem :=
  let l := c.loader
  problemIf l.delimiter.isEmpty .noDelimiter ++ problemIf (l.openTimeout == 0) .noOpenTimeout ++
    problemIf (l.finishTimeout == 0) .noFinishTimeout ++
    (match l.command, c.connection with
    | some command, _ => problemIf (Text.isAllBlank command.program) .noProgram
    | none, some connection =>
      problemIf (Text.isAllBlank c.target.table) .noTable ++ familyProblems connection.family l
    | none, none => [])

/-- Every problem of a configuration. -/
def Config.problems (c : Config) : List Problem :=
  problemIf (c.version != "1.0") (.version c.version) ++
    problemIf (Text.isAllBlank c.name) .noName ++
    problemIf c.mapping.entries.isEmpty .noMapping ++ entryProblems [] 0 c.mapping.entries ++
    problemIf (!c.hasLoader && c.output.isNone) .noDestination ++
    (if c.hasLoader then loaderProblems c else []) ++
    (match c.output with
    | some o => problemIf o.path.isEmpty .noOutputPath
    | none => [])

def problemsMessage (problems : List Problem) : String :=
  "Step validation failed:\n  - " ++ "\n  - ".intercalate (problems.map Problem.message)

/-- A configuration is usable when it has no problem. -/
def Config.validate (c : Config) : Except String Unit :=
  let problems := c.problems
  if problems.isEmpty then .ok () else .error (problemsMessage problems)

/-- Every field that the mapping names is in the input. -/
def Config.validateInput (c : Config) (input : Schema) : Except Fault Unit :=
  let missing := c.mapping.missing input
  if missing.isEmpty then .ok ()
  else .error ((Fault.of .config "FIELD_NOT_FOUND"
    ("mapped field(s) not found in upstream row: " ++ ", ".intercalate missing)).withDetails
      (.object [("missing", .list (missing.map .text))]))

end BulkLoad.Step
