import BulkLoad.Host.Dialogue
import BulkLoad.Path

/-!
Pipes in the file system, as what owns them holds on to them. The name of a pipe tells the step, in
characters that are safe everywhere, and is drawn so that no other session has it. A pipe is removed
at most once: the first attempt marks it, and giving it up makes an attempt only if there was none.
-/

namespace BulkLoad.Sink

open Host (Dialogue Request)

/-- A character that may stand in any file name. -/
def isSafe (c : Char) : Bool := c.isAlphanum || c == '-'

/-- A step's name with an underscore for every character that is not safe. -/
def safeName (step : String) : String := step.map fun c => if isSafe c then c else '_'

def pipeName (step : String) (unique : Host.UniqueName) : String :=
  "bulkbyte-" ++ safeName step ++ "-" ++ unique.process ++ "-" ++ unique.serial ++ ".fifo"

def pipePath (directory step : String) (unique : Host.UniqueName) : String :=
  Path.join directory (pipeName step unique)

/-- A pipe that has been made, and whether it was to be removed since. -/
structure Pipe where
  path : String
  removed : Bool := false
  deriving DecidableEq, Inhabited

namespace Pipe

/-- Removes the pipe, unless that was attempted before. -/
def remove (p : Pipe) : Dialogue (Except String Unit × Pipe) :=
  if p.removed then pure (.ok (), p)
  else do
    let answer ← (Request.remove p.path).send
    pure (answer, { p with removed := true })

/-- Gives the pipe up. One that cannot be removed is left behind. -/
def drop (p : Pipe) : Dialogue Unit := do
  let _ ← p.remove
  pure ()

end Pipe
end BulkLoad.Sink
