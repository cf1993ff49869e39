import BulkLoad.Bytes
import BulkLoad.Host.ExitStatus

/-!
What a process does, step by step: each step is a call to the system, and the process goes on by its
answer.
-/

namespace BulkLoad.Model

open Host (ExitStatus)

/-- How a file is opened. -/
inductive OpenMode where
  | read
  /-- From the start, without its old content. -/
  | write
  /-- Behind its old content. -/
  | append
  deriving DecidableEq, Repr

/-- What a process still does. Numbers name its open streams. -/
inductive Routine where
  | exit (code : Nat)
  /-- Reads at most `limit` bytes; none at the end. -/
  | read (stream limit : Nat) (next : Option Bytes → Routine)
  | write (stream : Nat) (bytes : Bytes) (next : Routine)
  /-- Opens a path under a number; the answer is an error's words, if there was one. -/
  | openPath (path : String) (mode : OpenMode) (stream : Nat) (next : Option String → Routine)
  /-- Waits until somebody opens for writing a pipe that was opened so often before. -/
  | awaitWriter (stream opened : Nat) (next : Routine)
  /-- Makes a second number stand for what the first one does. -/
  | copyStream (source target : Nat) (next : Bool → Routine)
  | closeStream (stream : Nat) (next : Routine)
  /-- Sets the open streams aside, or takes up those set aside last. -/
  | saveStreams (next : Routine)
  | restoreStreams (next : Routine)
  /-- Makes a pipe with a number for each end. -/
  | makePipe (reader writer : Nat) (next : Routine)
  /-- Starts a process with the same streams. -/
  | fork (child : Routine) (next : Nat → Routine)
  | await (process : Nat) (next : ExitStatus → Routine)
  /-- Waits for every process that this one has started. -/
  | awaitAll (next : Routine)
  | sleep (time : Nat) (next : Routine)
  /-- Sends a signal to a process, or to the group of one. -/
  | signal (group : Bool) (process signal : Nat) (next : Bool → Routine)
  | ignoreSignal (signal : Nat) (ignored : Bool) (next : Routine)
  | ownNumber (next : Nat → Routine)
  /-- Becomes a program; the answer comes only if there is none. -/
  | become (program : String) (args : List String) (env : List (String × String))
      (next : String → Routine)
  | remove (path : String) (next : Option String → Routine)
  | makeDirectory (path : String) (next : Option String → Routine)
  | makeFile (path : String) (next : Option String → Routine)

namespace Routine

/-- More steps than any process takes. -/
def manySteps : Nat := 2 ^ 62

def complain (words : String) (next : Routine) : Routine :=
  write 2 (Bytes.ofText (words ++ "\n")) next

/-- The most bytes that are read at once. -/
def blockSize : Nat := 65536

/-- Copies a stream to standard output, for so many reads. -/
def copyAll (stream : Nat) (next : Routine) : Nat → Routine
  | 0 => next
  | n + 1 => read stream blockSize fun
    | none => next
    | some bytes => write 1 bytes (copyAll stream next n)

/-- Copies the first bytes of a stream to standard output. -/
def copyFirst (stream : Nat) (next : Routine) : Nat → Nat → Routine
  | 0, _ => next
  | _, 0 => next
  | reads + 1, bytes => read stream (min bytes blockSize) fun
    | none => next
    | some part => write 1 part (copyFirst stream next reads (bytes - part.length))

/-- Splits off a number of lines. -/
def splitLines : Nat → Bytes → Bytes → Bytes × Nat
  | 0, taken, _ => (taken.reverse, 0)
  | lines, taken, [] => (taken.reverse, lines)
  | lines + 1, taken, b :: rest =>
    splitLines (if b = 0x0A then lines else lines + 1) (b :: taken) rest

/-- Copies the first lines of a stream to standard output. -/
def copyLines (stream : Nat) (next : Routine) : Nat → Nat → Routine
  | 0, _ => next
  | _, 0 => next
  | reads + 1, lines => read stream blockSize fun
    | none => next
    | some part =>
      let (taken, lines) := splitLines lines [] part
      write 1 taken (copyLines stream next reads lines)

/-- Counts the bytes and the line ends of a stream. -/
def count (stream : Nat) (next : Nat → Nat → Routine) : Nat → Nat → Nat → Routine
  | 0, bytes, lines => next bytes lines
  | n + 1, bytes, lines => read stream blockSize fun
    | none => next bytes lines
    | some part => count stream next n (bytes + part.length) (lines + part.count 0x0A)

end Routine
end BulkLoad.Model
