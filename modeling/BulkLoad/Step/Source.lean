import BulkLoad.Cube.Stream
import BulkLoad.Host.Dialogue

/-!
Sources of rows: a schema, and rows and faults in the order in which they come. A fault ends a
source.
-/

namespace BulkLoad.Step

open Host (Dialogue Request)

/-- The rows that a step is fed with. -/
structure Source where
  schema : Schema
  items : List (Except Fault Row)

/-- The fault of a cube that cannot be opened. -/
def openingFault (path : String) (e : Cube.Error) : Fault :=
  let fault := e.fault
  { fault with message := path ++ ": " ++ fault.message }

/-- The rows of a cube's contents, up to the first fault. -/
def Source.ofContents (c : Cube.Contents) : Source :=
  ⟨c.schema, (Cube.throughFault c.items).map fun item => item.mapError Cube.Error.fault⟩

/-- Reads a cube file; a limit of zero reads every row. -/
def readCube (path : String) (limit : Nat) : Dialogue (Except Cube.Error Cube.Contents) := do
  match ← (Request.readFile path).send with
  | .ok bytes => pure (Cube.read bytes limit)
  | .error message => pure (.error (.host message))

/-- The rows of a cube file. -/
def Source.ofFile (path : String) (limit : Nat) : Dialogue (Except Fault Source) := do
  match ← readCube path limit with
  | .ok contents => pure (.ok (ofContents contents))
  | .error e => pure (.error (openingFault path e))

end BulkLoad.Step
