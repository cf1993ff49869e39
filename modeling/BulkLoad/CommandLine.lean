import BulkLoad.CommandLine.Invocation
import BulkLoad.Double.Text
import BulkLoad.Failure
import BulkLoad.Instant
import BulkLoad.Step.Config.File
import BulkLoad.Step.Negotiation
import BulkLoad.Step.Result.Document
import BulkLoad.Step.Run
import BulkLoad.Step.Source

/-!
The commands of the program, by what the command line asks for: what they print, and how they end.
`check` and `ddl` look at a step without running it, `run` carries one out over its cube and sums up
what came of it, and `inspect` shows a cube file: its fields, then its first rows.
-/

namespace BulkLoad.CommandLine

open Host (Dialogue Request)
open Step (Config ConfigError)

/-- The end of a command: what it printed, and whether it succeeded, or why it could not go on. -/
structure Report where
  printed : String := ""
  outcome : Except Failure Bool

namespace Report

def line (words : String) : String := words ++ "\n"

/-- A command that came through. -/
def done (printed : String) : Report := ⟨printed, .ok true⟩

/-- A command that could not go on. -/
def failed (printed : String) (f : Failure) : Report := ⟨printed, .error f⟩

/-- What goes to standard error. -/
def complaint (r : Report) : String :=
  match r.outcome with
  | .ok _ => ""
  | .error f => f.report

def exitCode (r : Report) : UInt32 :=
  match r.outcome with
  | .ok true => 0
  | _ => 1

end Report

open Report (line done failed)

def cubeFailure (context : String) (e : Cube.Error) : Failure :=
  match e.chain.reverse with
  | cause :: contexts => .trouble cause (contexts ++ [context])
  | [] => .trouble context []

/-- What is said of a document that is malformed in a way that has no words of its own. -/
def malformedWords : String := "invalid document"

def configFailure (path : String) (e : ConfigError) : Failure :=
  let failure : Failure := match e with
    | .unreadable message => .trouble message ["Failed to read step file: " ++ path]
    | .unset names => .trouble (Environment.unsetMessage names) []
    | .malformed e => .trouble (e.message?.getD malformedWords) ["Failed to parse step YAML"]
  failure.within ("Failed to parse step: " ++ path)

/-- The configuration in a step file, if it has no problem. -/
def loadStep (path : String) : Dialogue (Except Failure Config) := do
  match ← Config.ofFile path with
  | .error e => pure (.error (configFailure path e))
  | .ok c => match c.validate with
    | .error message => pure (.error (.trouble message []))
    | .ok () => pure (.ok c)

/-- The schema of a step's input: that of its cube, or the fields it declares. -/
def inputSchema (c : Config) : Dialogue (Except Failure Schema) :=
  match c.input.cube with
  | some path => do
    match ← Step.readCube path 1 with
    | .ok contents => pure (.ok contents.schema)
    | .error e => pure (.error (cubeFailure ("Failed to open input cube: " ++ path) e))
  | none => match c.input.schema? with
    | .ok (some schema) => pure (.ok schema)
    | .ok none =>
      pure (.error (.trouble "step declares neither input.cube nor input.fields" []))
    | .error e => pure (.error (.trouble e.message []))

def targetLine (c : Config) : String :=
  match c.connection with
  | some connection =>
    line ("Target:            " ++ connection.family.name ++ " " ++ connection.url)
  | none => ""

/-- Checks a configuration, and its mapping against the input. -/
def check (path : String) : Dialogue Report := do
  match ← loadStep path with
  | .error f => pure (failed "" f)
  | .ok c =>
    let printed := line "Step structure:    OK"
    match ← inputSchema c with
    | .error f => pure (failed printed f)
    | .ok input =>
      let printed := printed ++ line ("Input fields:      " ++ ", ".intercalate input.names)
      match c.validateInput input with
      | .error fault =>
        pure (failed (printed ++ line "Field mapping:     FAILED" ++ line ("  " ++ fault.line))
          (.trouble "One or more checks failed" []))
      | .ok () =>
        pure (done (printed ++ line "Field mapping:     OK" ++ targetLine c ++
          line "\nAll checks passed."))

/-- Prints the statements that add the target's columns. -/
def ddl (path : String) : Dialogue Report := do
  match ← loadStep path with
  | .error f => pure (failed "" f)
  | .ok c =>
    match ← inputSchema c with
    | .error f => pure (failed "" f)
    | .ok input =>
      match (do (← Step.Plan.ofConfig c).columnStatements input) with
      | .error fault => pure (failed "" (.fault fault))
      | .ok statements => pure (done (String.join (statements.map fun s => line (s ++ ";"))))

/-- A text in a column of at least `width` characters. -/
def padded (width : Nat) (s : String) : String :=
  s ++ String.ofList (List.replicate (width - s.length) ' ')

/-- Length and precision of a field, as far as they are set. -/
def sizeText (f : Field) : String :=
  match f.length, f.precision with
  | some length, some precision =>
    "(" ++ toString length.toNat ++ ", " ++ toString precision.toNat ++ ")"
  | some length, none => "(" ++ toString length.toNat ++ ")"
  | none, _ => ""

def fieldLine (f : Field) : String :=
  line ("  " ++ padded 24 f.name ++ " " ++ f.kind.name ++ sizeText f ++
    (if f.origin.isEmpty then "" else "  [" ++ f.origin ++ "]"))

def cellText : Cell → String
  | .null => "<null>"
  | .text s => s
  | .integer n => toString n.toInt
  | .number x => x.text
  | .decimal d => d.display
  | .date t => t.text Instant.hyphened
  | .boolean b => if b then "true" else "false"
  | .binary b => "<" ++ toString b.length ++ " bytes>"

def rowLine (row : Row) : String := line ("\t".intercalate (row.map cellText))

/-- Shows a cube file and at most so many rows; with no rows it shows the fields alone. -/
def inspect (path : String) (rows : Nat) : Dialogue Report := do
  match ← Step.readCube path rows with
  | .error e => pure (failed "" (cubeFailure ("Failed to open cube: " ++ path) e))
  | .ok contents =>
    let schema := contents.schema
    let printed := line (toString schema.size ++ " field(s):\n") ++
      String.join (schema.fields.map fieldLine)
    if rows = 0 then pure (done printed)
    else
      let (shown, fault) := Cube.untilFault contents.items
      let printed := printed ++ line "" ++ line ("\t".intercalate schema.names) ++
        String.join (shown.map rowLine)
      match fault with
      | none => pure (done printed)
      | some e => pure (failed printed (cubeFailure "Failed to read cube row" e))

/-- A count of bytes for a person. -/
def bytesText (n : Nat) : String :=
  if 2 ^ 30 ≤ n then fixedRatio n (2 ^ 30) 2 ++ " GB"
  else if 2 ^ 20 ≤ n then fixedRatio n (2 ^ 20) 2 ++ " MB"
  else if 2 ^ 10 ≤ n then fixedRatio n (2 ^ 10) 2 ++ " KB"
  else toString n ++ " B"

def perSecond : Nat := 1000000000

/-- How a step ended. -/
def endWords (r : Step.Result) : String :=
  if r.cancelled then "was cancelled"
  else if r.succeeded then "completed successfully"
  else "failed"

def sinkLines (s : Step.SinkReport) : String :=
  line ("  Loader exit:     " ++ toString s.exitCode.toInt) ++
    line ("  Bytes streamed:  " ++ bytesText s.bytes.toNat) ++
    (if s.stdout.isEmpty then "" else line ("  Loader output:   " ++ s.stdout))

/-- The lines for the time that a step took. -/
def timeLines (r : Step.Result) (nanoseconds : Nat) : String :=
  line ("  Duration:        " ++ fixedRatio nanoseconds perSecond 2 ++ "s") ++
    (if nanoseconds = 0 then ""
    else line ("  Throughput:      " ++
      fixedRatio (r.rowsWritten.toNat * perSecond) nanoseconds 0 ++ " rows/sec"))

def summary (name : String) (r : Step.Result) (nanoseconds : Nat) : String :=
  line ("Step '" ++ name ++ "' " ++ endWords r ++ ".") ++
    line ("  Rows read:       " ++ toString r.rowsRead.toNat) ++
    line ("  Rows written:    " ++ toString r.rowsWritten.toNat) ++
    line ("  Errors:          " ++ toString r.errors.toNat) ++
    timeLines r nanoseconds ++
    (match r.sink with
    | some s => sinkLines s
    | none => "") ++
    String.join (r.files.map fun f => line ("  Output file:     " ++ f.path)) ++
    (match r.fault with
    | some f => line ("  Error:           " ++ f.line)
    | none => "")

/-- What marks the line with the result as a document. -/
def resultMark : String := "@@STEP_JSON@@"

/-- The report of a step that was run. -/
def resultReport (name : String) (r : Step.Result) (nanoseconds : Nat) : Report :=
  let timed := { r with seconds := Double.ofRatio false nanoseconds perSecond }
  ⟨summary name r nanoseconds ++ line (resultMark ++ timed.json.render), .ok r.succeeded⟩

/-- What is said of a step whose rows come from elsewhere. -/
def noCubeWords : String :=
  ReadError.mark ++ "run" ++ ReadError.mark ++
    " reads rows from input.cube; inline input.fields need an embedding host"

/-- Runs a step; a limit that is given counts instead of the configured one. -/
def run (path : String) (limit : Option UInt64) : Dialogue Report := do
  match ← loadStep path with
  | .error f => pure (failed "" f)
  | .ok c =>
    match c.input.cube with
    | none => pure (failed "" (.trouble noCubeWords []))
    | some cube =>
      match Step.Plan.ofConfig c with
      | .error fault => pure (failed "" (.fault fault))
      | .ok plan =>
        match ← Step.Source.ofFile cube (limit.getD c.input.limit).toNat with
        | .error fault => pure (failed "" (.fault fault))
        | .ok source =>
          let start : Nat ← Request.clock.send
          match ← plan.run source.schema source.items with
          | .error fault => pure (failed "" (.fault fault))
          | .ok result =>
            let stop : Nat ← Request.clock.send
            pure (resultReport c.name result (stop - start))

def Invocation.carryOut : Invocation → Dialogue Report
  | run step limit => CommandLine.run step limit
  | check step => CommandLine.check step
  | ddl step => CommandLine.ddl step
  | inspect cube rows => CommandLine.inspect cube rows.toNat

end BulkLoad.CommandLine
