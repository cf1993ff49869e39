import BulkLoad.Fault
import BulkLoad.Host.Dialogue
import BulkLoad.Instant
import BulkLoad.Path
import BulkLoad.Step.Config

/-!
The place of an output file: the names that are tried in turn when something stands at the path, and
the verdict when all of them are taken. A claim makes the file at the first name that is free, and
it never touches a file that it did not make.
-/

namespace BulkLoad.Output

open Host (Dialogue Request Handle)
open Step (IfExists)

def stamp (time : Instant.Fields) : String :=
  Instant.yearText time.year ++ zeroPadded 2 time.month ++ zeroPadded 2 time.day ++ "_" ++
    zeroPadded 2 time.hour ++ zeroPadded 2 time.minute ++ zeroPadded 2 time.second

/-- The sibling of a path with a time in its stem. -/
def stamped (path : String) (time : Instant.Fields) : String :=
  Path.withStemSuffix path ("_" ++ stamp time)

/-- How many numbers are tried behind a time. -/
def numberLimit : Nat := 999

/-- The siblings that may stand in for a path: with the time, then with the time and a number. -/
def candidates (path : String) (time : Instant.Fields) : List String :=
  let base := stamped path time
  base :: (List.range numberLimit).map fun n => Path.withStemSuffix base ("_" ++ toString (n + 1))

/-- Where the output goes. -/
inductive Decision where
  | write (path : String)
  /-- The path is taken, and nothing is written. -/
  | skip (path : String)
  deriving DecidableEq, Repr

/-- The fault of a path that is taken. -/
def takenFault (path : String) : Fault :=
  Fault.of .config "OUTPUT_EXISTS" ("output file " ++ path ++ " already exists")

/-- The fault of a path whose siblings are all taken. -/
def exhaustedFault (path : String) : Fault :=
  Fault.of .resource "OUTPUT_RENAME" ("no free renamed path for " ++ path)

/-- The fault of a file that cannot be made. -/
def creationFault (path message : String) : Fault :=
  Fault.of .resource "OUTPUT_CREATE" ("cannot create " ++ path ++ ": " ++ message)

/-- The paths that are tried in turn. -/
def attempts (path : String) (policy : IfExists) (time : Instant.Fields) : List String :=
  match policy with
  | .rename => path :: candidates path time
  | _ => [path]

/-- Says where the output would go, given which paths are taken. -/
def resolve (isTaken : String → Bool) (path : String) (policy : IfExists) (time : Instant.Fields) :
    Except Fault Decision :=
  if isTaken path then
    match policy with
    | .fail => .error (takenFault path)
    | .skip => .ok (.skip path)
    | .rename =>
      match (candidates path time).find? fun p => !isTaken p with
      | some p => .ok (.write p)
      | none => .error (exhaustedFault path)
  else .ok (.write path)

/-- A claim that came through. -/
inductive Claim where
  | created (path : String) (file : Handle)
  /-- The path is taken, and nothing was made. -/
  | skipped (path : String)
  deriving DecidableEq

/-- The verdict when every path that may be tried is taken. -/
def allTaken (path : String) : IfExists → Except Fault Claim
  | .fail => .error (takenFault path)
  | .skip => .ok (.skipped path)
  | .rename => .error (exhaustedFault path)

/-- Makes a file at the first free path; `verdict` holds when all are taken. -/
def claimFirst (verdict : Except Fault Claim) : List String → Dialogue (Except Fault Claim)
  | [] => pure verdict
  | path :: rest => do
    match ← (Request.createFile path).send with
    | .made file => pure (.ok (.created path file))
    | .taken => claimFirst verdict rest
    | .refused message => pure (.error (creationFault path message))

/-- Makes the output file, at a path that its policy allows. -/
def claim (path : String) (policy : IfExists) (time : Instant.Fields) :
    Dialogue (Except Fault Claim) :=
  claimFirst (allTaken path policy) (attempts path policy time)

end BulkLoad.Output
