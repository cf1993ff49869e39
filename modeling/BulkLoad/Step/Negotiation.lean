import BulkLoad.Dialect.Loader
import BulkLoad.Step.Validation

/-!
The agreement between the schema of the incoming rows and the columns of the target, and the
statements that create those columns.
-/

namespace BulkLoad.Step

/-- A configuration without problems, ready to run. -/
structure Plan where
  config : Config
  deriving Inhabited

/-- Takes up a configuration; its problems make one fault. -/
def Plan.ofConfig (c : Config) : Except Fault Plan :=
  match c.validate with
  | .ok () => .ok ⟨c⟩
  | .error message => .error (Fault.of .config "INVALID_CONFIG" message)

/-- What is agreed: the schema of the input, and the projection that makes target rows of it. -/
structure Agreement where
  input : Schema
  projection : Projection
  deriving DecidableEq

def Agreement.output (a : Agreement) : Schema := a.projection.target

/-- Binds the mapping to an input; the columns become fields made by this step. -/
def Plan.negotiate (p : Plan) (input : Schema) : Except Fault Agreement := do
  p.config.validateInput input
  match p.config.mapping.bind input with
  | .error e => throw (Fault.ofSchemaError e)
  | .ok projection =>
    match Schema.empty.merge projection.target.fields p.config.identity.step with
    | .error e => throw (Fault.ofSchemaError e)
    | .ok target => pure ⟨input, { projection with target }⟩

/-- The statements that add the target columns to the table. -/
def Plan.columnStatements (p : Plan) (input : Schema) : Except Fault (List String) := do
  match p.config.connection with
  | none => throw (Fault.of .config "NO_CONNECTION" "a connection is required to render DDL")
  | some connection =>
    let agreement ← p.negotiate input
    let target := p.config.target
    connection.family.addColumns (connection.family.qualified target.schema target.table)
      target.keys agreement.output.fields

def Config.loadCommand (c : Config) (path : String) : Except Fault Command :=
  match c.loader.command, c.connection with
  | some command, _ => .ok (command.withChannel path)
  | none, none => .error (Fault.of .config "NO_CONNECTION"
      "a loader needs a connection or loader.command")
  | none, some connection => LoadOrder.command
    { connection, schema := c.target.schema, table := c.target.table
      columns := c.mapping.columns, path, delimiter := c.loader.delimiter
      enclosure := c.loader.enclosure?, escape := c.loader.escape?
      replace := c.loader.replace, ignoreErrors := c.loader.ignoreErrors }

/-- The rules of the text that the loader reads. -/
def Config.loaderFormat (c : Config) : Delimited.Format :=
  c.loader.format (match c.connection with
    | some connection => connection.family.nullMarker c.loader.escape?
    | none => "")

end BulkLoad.Step
