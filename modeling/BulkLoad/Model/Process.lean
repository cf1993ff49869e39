import BulkLoad.Model.Routine

/-!
Processes: what a process has open, what it still does, and how it ends.
-/

namespace BulkLoad.Model

open Host (ExitStatus)

/-- What a number stands for in a process. -/
inductive Stream where
  | null
  /-- A file read from a position. -/
  | file (id position : Nat)
  /-- A file written to. -/
  | sink (id : Nat)
  | reader (pipe : Nat)
  | writer (pipe : Nat)
  /-- What the program hears of a process. -/
  | capture (id : Nat)
  deriving DecidableEq, Repr

/-- The open streams of a process. -/
abbrev Streams := List (Nat × Stream)

structure Process where
  number : Nat
  group : Nat
  routine : Routine
  streams : Streams
  saved : List Streams := []
  ignored : List Nat := []
  children : List Nat := []
  /-- The moment at which it wakes, while it sleeps. -/
  wake : Option Nat := none
  ended : Option ExitStatus := none

namespace Process

/-- The process has something open. -/
def holds (p : Process) (s : Stream) : Bool :=
  p.streams.any (·.2 == s) || p.saved.any fun streams => streams.any (·.2 == s)

/-- A process as it is when it has ended. -/
def finished (p : Process) (status : ExitStatus) : Process :=
  { p with ended := some status, streams := [], saved := [], wake := none }

/-- The signals that end a process unless it ignores them; others change nothing. -/
def endsProcess (signal : Nat) : Bool :=
  signal ≠ 0 && !([17, 18, 19, 20, 21, 22, 23, 28].contains signal)

/-- A process after a signal. -/
def signalled (signal : Nat) (p : Process) : Process :=
  if p.ended.isSome || !endsProcess signal || (signal ≠ 9 && p.ignored.contains signal) then p
  else p.finished (.signal signal)

end Process

/-- The streams that have names of their own. -/
def namedStream? (streams : Streams) (path : String) : Option (Option Stream) :=
  if path = "/dev/null" then some (some .null)
  else if path = "/dev/stdin" ∨ path = "/dev/fd/0" then some (streams.lookup 0)
  else if path = "/dev/stdout" ∨ path = "/dev/fd/1" then some (streams.lookup 1)
  else if path = "/dev/stderr" ∨ path = "/dev/fd/2" then some (streams.lookup 2)
  else none

/-- Streams with one set. -/
def setStream (streams : Streams) (number : Nat) (s : Stream) : Streams :=
  (number, s) :: streams.filter (·.1 != number)

/-- A process that goes on with a stream set. -/
def Process.withStream (p : Process) (number : Nat) (s : Stream) (routine : Routine) : Process :=
  { p with streams := setStream p.streams number s, routine }

end BulkLoad.Model
