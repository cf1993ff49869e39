import BulkLoad.CommandLine
import BulkLoad.Host.SystemError

/-!
The program: it reads the command line, carries it out against the files, the environment and the
clocks of the machine, and prints what came of it. Nothing here starts a process or makes a pipe, so
a loader is refused as one that cannot be started; all else works.
-/

namespace BulkLoad.Main

open Host (Request Handle SystemError)

/-- The files that the program has open, by the numbers of their handles. -/
structure Table where
  next : Nat := 0
  files : List (Nat × IO.FS.Handle) := []

/-- Effects on the machine, with the open files. -/
abbrev Machine := StateT Table IO

/-- The number of an error, which some calls give with its sign turned. -/
def errorNumber (n : UInt32) : Nat := if n.toNat < 2 ^ 31 then n.toNat else 2 ^ 32 - n.toNat

/-- The message for an error with a number. -/
def numbered (n : UInt32) (details : String) : String :=
  match SystemError.ofNumber? (errorNumber n) with
  | some e => e.message
  | none => details ++ " (os error " ++ toString (errorNumber n) ++ ")"

/-- The message for an error. -/
def words : IO.Error → String
  | .noFileOrDirectory _ n details | .interrupted _ n details => numbered n details
  | .alreadyExists _ n details | .invalidArgument _ n details | .permissionDenied _ n details
  | .resourceExhausted _ n details | .inappropriateType _ n details | .noSuchThing _ n details =>
    numbered n details
  | .otherError n details | .resourceBusy n details | .resourceVanished n details
  | .unsupportedOperation n details | .hardwareFault n details
  | .unsatisfiedConstraints n details | .illegalOperation n details | .protocolError n details
  | .timeExpired n details => numbered n details
  | .unexpectedEof => "unexpected end of file"
  | .userError message => message

/-- An effect whose errors become words. -/
def attempt {α : Type} (act : IO α) : IO (Except String α) := do
  match ← act.toBaseIO with
  | .ok a => pure (.ok a)
  | .error e => pure (.error (words e))

def listOf (b : ByteArray) : Bytes := b.data.toList

/-- The point in time from which time is counted. -/
def epoch : Instant := { second := 0, nano := 0 }

/-- The point in time at which this is asked, as fields in universal time: a new file tells it. -/
def currentTime : IO Instant.Fields := do
  let (_, path) ← IO.FS.createTempFile
  let modified := (← path.metadata).modified
  IO.FS.removeFile path
  pure ((Instant.ofTimestamp? modified.sec 0).getD epoch).fields

/-- A name that nobody else draws. -/
def drawName : IO Host.UniqueName := do
  let own := listOf (← IO.getRandomBytes 4)
  let serial := listOf (← IO.getRandomBytes 16)
  pure ⟨toString (Bytes.toNat own), Bytes.toHex serial⟩

/-- The values of the variables that are set. -/
def valuesOf (names : List String) : IO (List (String × String)) := do
  let values ← names.mapM fun name => do
    pure ((← IO.getEnv name).map fun value => (name, value))
  pure (values.filterMap id)

def createFile (path : String) : Machine Host.Creation := do
  match ← (IO.FS.Handle.mk path .writeNew).toBaseIO with
  | .ok file =>
    let table ← get
    set { table with next := table.next + 1, files := (table.next, file) :: table.files }
    pure (.made ⟨table.next⟩)
  | .error (.alreadyExists ..) => pure .taken
  | .error e => pure (.refused (words e))

/-- What is said of a handle that stands for nothing. -/
def unknownHandle : String := "unknown handle"

/-- Does something with a file that is open. -/
def useFile (file : Handle) (act : IO.FS.Handle → IO Unit) : Machine (Except String Unit) := do
  match (← get).files.lookup file.id with
  | some h => attempt (act h)
  | none => pure (.error unknownHandle)

/-- Forgets a file, which closes it. -/
def forget (file : Handle) : Machine Unit :=
  modify fun table => { table with files := table.files.filter (·.1 != file.id) }

/-- Removes a file; it is all right if there is none. -/
def removeFile (path : String) : IO (Except String Unit) := do
  match ← (IO.FS.removeFile path).toBaseIO with
  | .ok () | .error (.noFileOrDirectory ..) => pure (.ok ())
  | .error e => pure (.error (words e))

/-- What is said of a program that is to be started. -/
def noProcesses : String := "processes are not supported on this platform"

/-- The machine's answer to a request. -/
def answer : (r : Request) → Machine r.Answer
  | .environment names => valuesOf names
  | .localTime => currentTime
  | .clock => IO.monoNanosNow
  | .readFile path => attempt do pure (listOf (← IO.FS.readBinFile path))
  | .createFile path => createFile path
  | .append _ file bytes => do
    match ← useFile file (·.write ⟨bytes.toArray⟩) with
    | .ok () => pure .done
    | .error message => pure (.refused message)
  | .closeFile file => do
    let flushed ← useFile file (·.flush)
    forget file
    pure flushed
  | .dropFile file => forget file
  | .remove path => removeFile path
  | .uniqueName => drawName
  | .makePipe _ => pure .unsupported
  | .openPipe _ => pure (.refused unknownHandle)
  | .writePipe .. => pure (.refused unknownHandle)
  | .closePipe _ => pure ()
  | .start .. => pure (.error noProcesses)
  | .openQueue process _ => pure process
  | .enqueue .. => pure .closed
  | .closeQueue _ => pure (.error unknownHandle)
  | .dropQueue _ => pure ()
  | .exitStatus _ => pure (.error unknownHandle)
  | .awaitExit .. => pure (.over (.refused unknownHandle))
  | .terminate _ => pure ()
  | .kill .. => pure (.over none)
  | .collect .. => pure (.over ⟨none, none⟩)
  | .dropProcess _ => pure ()
  | .pause _ time => do
    IO.sleep (UInt32.ofNat time)
    pure .elapsed
  | .stopRequested => pure false
  | .pull => pure .elapsed

/-- How the program is used. -/
def usage : String :=
  "usage: bulkbyte run STEP [--limit N] | check STEP | ddl STEP | inspect CUBE [--rows N]\n"

def usageCode : UInt32 := 2

end BulkLoad.Main

/-- Carries out the command line. -/
def main (args : List String) : IO UInt32 := do
  match BulkLoad.CommandLine.Invocation.ofArgs? args with
  | none =>
    IO.eprint BulkLoad.Main.usage
    pure BulkLoad.Main.usageCode
  | some invocation =>
    let (report, _) ← (invocation.carryOut.runM BulkLoad.Main.answer).run {}
    IO.print report.printed
    IO.eprint report.complaint
    pure report.exitCode
