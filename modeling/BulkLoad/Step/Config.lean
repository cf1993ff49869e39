import BulkLoad.Command
import BulkLoad.Delimited.Record
import BulkLoad.Dialect.ColumnType
import BulkLoad.Mapping
import BulkLoad.Step.Identity

/-!
The configuration of a step: where rows come from, how they map to columns, and the loader or file
that they go to.
-/

namespace BulkLoad.Step

/-- Where the rows come from: a cube file, or fields declared for rows from elsewhere. -/
structure Input where
  cube : Option String := none
  /-- The most rows to read; zero stands for all. -/
  limit : UInt64 := 0
  fields : List Field := []
  deriving DecidableEq, Inhabited

/-- The table that a loader fills. -/
structure Target where
  schema : Option String := none
  table : String := ""
  technicalKey : Option String := none
  primaryKey : Option String := none
  deriving DecidableEq, Inhabited

/-- How bytes reach the loader. -/
inductive ChannelKind where
  | fifo
  | stdin
  deriving DecidableEq, Repr, Inhabited

/-- How a loader is started and fed. -/
structure Loader where
  delimiter : String := "\t"
  /-- Empty for no enclosure. -/
  enclosure : String := "\""
  /-- Empty for no escapes. -/
  escape : String := "\\"
  replace : Bool := false
  ignoreErrors : Bool := false
  nullMarker : Option String := none
  fifoDir : String := "/tmp"
  channel : Option ChannelKind := none
  /-- Stands in for the family's own command. -/
  command : Option Command := none
  openTimeout : UInt64 := 10000
  finishTimeout : UInt64 := 60000
  terminateGrace : UInt64 := 2000
  deriving DecidableEq, Inhabited

inductive FileFormat where
  | text
  | cube
  deriving DecidableEq, Repr, Inhabited

/-- What to do when something stands at the output path. -/
inductive IfExists where
  /-- The step fails. -/
  | fail
  /-- The file is left alone, and nothing is written. -/
  | skip
  /-- A sibling with a time stamp in its name is written instead. -/
  | rename
  deriving DecidableEq, Repr, Inhabited

structure Output where
  path : String
  format : FileFormat := .text
  ifExists : IfExists := .fail
  deriving DecidableEq, Inhabited

/-- What becomes of the step when a row cannot be encoded. -/
inductive RowPolicy where
  | abort
  | skip
  deriving DecidableEq, Repr, Inhabited

/-- How much may go wrong before a step fails. -/
structure Policy where
  onRowError : RowPolicy := .abort
  /-- Rejected rows do not make the step fail. -/
  ignoreErrors : Bool := false
  deriving DecidableEq, Inhabited

structure Config where
  version : String
  name : String
  pipeline : String := "bulkbyte"
  input : Input := {}
  connection : Option Connection := none
  target : Target := {}
  mapping : Mapping := {}
  loader : Loader := {}
  output : Option Output := none
  policy : Policy := {}
  deriving DecidableEq, Inhabited

/-- What the runs of a step are known by. -/
def Config.identity (c : Config) : Identity := ⟨c.pipeline, c.name⟩

@[simp] theorem Config.identity_step (c : Config) : c.identity.step = c.name := rfl

/-- The schema of the declared fields, if any are declared. -/
def Input.schema? (i : Input) : Except SchemaError (Option Schema) :=
  if i.fields.isEmpty then .ok none else (Schema.ofFields i.fields).map some

/-- The key fields of the table. -/
def Target.keys (t : Target) : Keys := ⟨t.technicalKey, t.primaryKey⟩

def Loader.enclosure? (l : Loader) : Option String := Delimited.nonEmpty? l.enclosure

def Loader.escape? (l : Loader) : Option String := Delimited.nonEmpty? l.escape

/-- The rules of the text that is written, with a null marker used where none is configured. -/
def Loader.format (l : Loader) (defaultNull : String) : Delimited.Format :=
  { delimiter := l.delimiter
    enclosure := l.enclosure?
    escape := l.escape?
    nullMarker := l.nullMarker.getD defaultNull }

/-- Rows go to a loader process. -/
def Config.hasLoader (c : Config) : Bool := c.connection.isSome || c.loader.command.isSome

end BulkLoad.Step
