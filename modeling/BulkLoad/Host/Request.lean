import BulkLoad.Bytes
import BulkLoad.Command
import BulkLoad.Host.ExitStatus
import BulkLoad.Instant

/-!
What the program asks of the host that it runs on, and what the host may answer. Nothing else
reaches the world outside: every effect of the program is one of these requests.
-/

namespace BulkLoad.Host

/-- Something that the host keeps for the program: an open file, an end of a channel, a process. -/
structure Handle where
  id : Nat
  deriving DecidableEq, Repr, Inhabited

/-- The answer to a request for a new file. -/
inductive Creation where
  | made (file : Handle)
  /-- Something stands at the path already. -/
  | taken
  | refused (message : String)
  deriving DecidableEq, Repr, Inhabited

/-- The answer to a request for a new pipe in the file system. -/
inductive PipeCreation where
  | made
  /-- Something stands at the path already. -/
  | taken
  /-- The directory may not be written to. -/
  | denied
  /-- The host has no pipes in its file system. -/
  | unsupported
  | refused (message : String)
  deriving DecidableEq, Repr, Inhabited

/-- The answer to an attempt to open a pipe for writing without waiting. -/
inductive Opening where
  | opened (pipe : Handle)
  /-- No process has the pipe open for reading yet. -/
  | noReader
  | refused (message : String)
  deriving DecidableEq, Repr, Inhabited

/-- The answer to a wait for the end of a process. -/
inductive Ending where
  | exited (status : ExitStatus)
  /-- The time was over first. -/
  | running
  | refused (message : String)
  deriving DecidableEq, Repr, Inhabited

/-- The answer to a request that waits; only one that may be stopped can end early. -/
inductive Waiting (stoppable : Bool) (α : Type) where
  | over (value : α)
  | stopped (allowed : stoppable = true)
  deriving DecidableEq, Repr

/-- The answer to a pause; only one that may be stopped can end early. -/
inductive Pause (stoppable : Bool) where
  | elapsed
  | stopped (allowed : stoppable = true)
  deriving DecidableEq, Repr

/-- The answer to a write; only one that may be stopped can end early, with a part of the bytes
written. -/
inductive Delivery (stoppable : Bool) where
  | done
  | refused (message : String)
  | stopped (allowed : stoppable = true)
  deriving DecidableEq, Repr

/-- The answer to a record handed to a queue; only one that may be stopped can end early, and then
the record is not in the queue. -/
inductive Handover (stoppable : Bool) where
  | taken
  /-- Whoever took records out of the queue is gone. -/
  | closed
  | stopped (allowed : stoppable = true)
  deriving DecidableEq, Repr

/-- What a process has said so far, for each stream that ended in time. -/
structure Said where
  stdout : Option Bytes
  stderr : Option Bytes
  deriving DecidableEq, Inhabited

/-- A name that no other process uses. -/
structure UniqueName where
  process : String
  serial : String
  deriving DecidableEq, Inhabited

inductive Request where
  /-- The values of environment variables, those that are set. -/
  | environment (names : List String)
  /-- The time on the local clock. -/
  | localTime
  /-- The nanoseconds on a clock that never goes back. -/
  | clock
  /-- The bytes of a file. -/
  | readFile (path : String)
  /-- Makes a file if nothing stands at the path. -/
  | createFile (path : String)
  /-- Appends bytes to a file. -/
  | append (stoppable : Bool) (file : Handle) (bytes : Bytes)
  /-- Writes out what is left and closes a file. -/
  | closeFile (file : Handle)
  /-- Closes a file as it is. -/
  | dropFile (file : Handle)
  /-- Removes a file or pipe; it is all right if nothing is there. -/
  | remove (path : String)
  /-- Draws a name for a new pipe. -/
  | uniqueName
  /-- Makes a pipe in the file system. -/
  | makePipe (path : String)
  /-- Tries to open a pipe for writing. -/
  | openPipe (path : String)
  /-- Writes all of the bytes to a pipe, waiting for space. -/
  | writePipe (stoppable : Bool) (pipe : Handle) (bytes : Bytes)
  /-- Closes the write end of a pipe. -/
  | closePipe (pipe : Handle)
  /-- Starts a process in a group of its own, with its standard input open or empty. -/
  | start (command : Command) (withInput : Bool)
  /-- Puts a queue of some capacity before the standard input of a process. -/
  | openQueue (process : Handle) (capacity : Nat)
  /-- Hands a record to a queue, waiting for space. -/
  | enqueue (stoppable : Bool) (queue : Handle) (bytes : Bytes)
  /-- Ends a queue and waits until all of it is written. -/
  | closeQueue (queue : Handle)
  /-- Ends a queue without waiting. -/
  | dropQueue (queue : Handle)
  /-- Asks whether a process has ended. -/
  | exitStatus (process : Handle)
  /-- Waits for the end of a process for some milliseconds. -/
  | awaitExit (stoppable : Bool) (process : Handle) (timeout : Nat)
  /-- Asks a process and its group to end. -/
  | terminate (process : Handle)
  /-- Ends a process and its group and waits for it. -/
  | kill (stoppable : Bool) (process : Handle)
  /-- Waits for some milliseconds for what a process says to end. -/
  | collect (stoppable : Bool) (process : Handle) (timeout : Nat)
  /-- Gives a process up; it does not outlive this. -/
  | dropProcess (process : Handle)
  /-- Waits for some milliseconds. -/
  | pause (stoppable : Bool) (time : Nat)
  /-- Asks whether the program is to stop. -/
  | stopRequested
  /-- Waits for the next row of the source, or a request to stop. -/
  | pull

namespace Request

@[reducible] def Answer : Request → Type
  | environment _ => List (String × String)
  | localTime => Instant.Fields
  | clock => Nat
  | readFile _ => Except String Bytes
  | createFile _ => Creation
  | append stoppable _ _ => Delivery stoppable
  | closeFile _ => Except String Unit
  | dropFile _ => Unit
  | remove _ => Except String Unit
  | uniqueName => UniqueName
  | makePipe _ => PipeCreation
  | openPipe _ => Opening
  | writePipe stoppable _ _ => Delivery stoppable
  | closePipe _ => Unit
  | start _ _ => Except String Handle
  | openQueue _ _ => Handle
  | enqueue stoppable _ _ => Handover stoppable
  | closeQueue _ => Except String Unit
  | dropQueue _ => Unit
  | exitStatus _ => Except String (Option ExitStatus)
  | awaitExit stoppable _ _ => Waiting stoppable Ending
  | terminate _ => Unit
  | kill stoppable _ => Waiting stoppable (Option ExitStatus)
  | collect stoppable _ _ => Waiting stoppable Said
  | dropProcess _ => Unit
  | pause stoppable _ => Pause stoppable
  | stopRequested => Bool
  | pull => Pause true

end Request
end BulkLoad.Host
