import BulkLoad.Double
import BulkLoad.Fault

/-!
What a step reports when it ends: counts of rows, the files it made, and what its consumer said.
-/

namespace BulkLoad.Step

/-- What a file is to those who come after the step. -/
inductive FileKind where
  | general
  | log
  | error
  | warning
  deriving DecidableEq, Repr, Inhabited

/-- A file made by a step. -/
structure ResultFile where
  kind : FileKind
  path : String
  /-- The step that made it. -/
  origin : String
  deriving DecidableEq, Inhabited

/-- What a consumer reported when it ended well. -/
structure SinkReport where
  exitCode : Int32 := 0
  records : UInt64 := 0
  bytes : UInt64 := 0
  /-- The end of its standard output. -/
  stdout : String := ""
  /-- The end of its standard error. -/
  stderr : String := ""
  deriving DecidableEq, Inhabited

/-- The outcome of a step. -/
structure Result where
  succeeded : Bool := false
  rowsRead : UInt64 := 0
  rowsWritten : UInt64 := 0
  /-- Rows rejected, and the fault that ended the step. -/
  errors : UInt64 := 0
  files : List ResultFile := []
  sink : Option SinkReport := none
  fault : Option Fault := none
  cancelled : Bool := false
  seconds : Double := ⟨0⟩
  deriving Inhabited

end BulkLoad.Step
