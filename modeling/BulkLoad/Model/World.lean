import BulkLoad.Environment
import BulkLoad.Instant
import BulkLoad.Model.Files
import BulkLoad.Model.Process
import BulkLoad.Sink.Queue

/-!
Worlds: files, pipes, processes and queues at one moment of a clock.
-/

namespace BulkLoad.Model

/-- A pipe: the bytes in it, the first ones first, and how often it was opened for writing. -/
structure Pipe where
  parts : List Bytes := []
  size : Nat := 0
  opened : Nat := 0

def pipeCapacity : Nat := 65536

/-- A process that the program started. -/
structure Child where
  number : Nat
  stdout : Nat
  stderr : Nat
  /-- The pipe to its standard input, until a queue takes it. -/
  stdin : Option Nat

/-- A queue before a pipe. -/
structure Pump where
  queue : Sink.Queue
  pipe : Nat

/-- The pump still holds the pipe. -/
def Pump.holds (p : Pump) (pipe : Nat) : Bool := p.pipe == pipe && p.queue.outcome.isNone

/-- Everything at one moment. -/
structure World where
  /-- The milliseconds gone by. -/
  clock : Nat := 0
  /-- How often the clock was looked at; each look takes a nanosecond. -/
  looks : Nat := 0
  files : Files := {}
  workingDirectory : Place := []
  environment : Environment := []
  localTime : Instant.Fields
  processes : List Process := []
  pipes : List (Nat × Pipe) := []
  captures : List (Nat × List Bytes) := []
  children : List (Nat × Child) := []
  pumps : List (Nat × Pump) := []
  /-- The pipes that the program has open for writing, by handle. -/
  openPipes : List (Nat × Nat) := []
  /-- The files that the program has open, by handle. -/
  openFiles : List (Nat × Nat) := []
  /-- The next number that nothing has. -/
  next : Nat := 1000
  /-- The program is to stop. -/
  stopping : Bool := false
  /-- The row at whose request the program is to stop. -/
  stopAt : Option Nat := none
  /-- The rows asked for so far. -/
  pulled : Nat := 0

namespace World

def pipe (w : World) (id : Nat) : Pipe := (w.pipes.lookup id).getD {}

def changePipe (w : World) (id : Nat) (f : Pipe → Pipe) : World :=
  { w with pipes := Files.change id f w.pipes }

def addPipe (w : World) : Nat × World :=
  (w.next, { w with next := w.next + 1, pipes := (w.next, {}) :: w.pipes })

/-- Puts a process in place of the one with its number. -/
def put (w : World) (p : Process) : World :=
  { w with processes := w.processes.map fun q => if q.number = p.number then p else q }

def process? (w : World) (number : Nat) : Option Process :=
  w.processes.find? (·.number == number)

/-- Some process has something open. -/
def isHeld (w : World) (s : Stream) : Bool := w.processes.any (Process.holds · s)

def hasReader (w : World) (pipe : Nat) : Bool := w.isHeld (.reader pipe)

def hasWriter (w : World) (pipe : Nat) : Bool :=
  w.isHeld (.writer pipe) || w.openPipes.any (·.2 == pipe) ||
    w.pumps.any (fun e => Pump.holds e.2 pipe) || w.children.any (·.2.stdin == some pipe)

/-- Takes at most `limit` bytes off the front of parts. -/
def takeParts : Nat → List Bytes → Bytes × List Bytes
  | _, [] => ([], [])
  | limit, part :: rest =>
    if part.length ≤ limit then
      let (more, left) := takeParts (limit - part.length) rest
      (part ++ more, left)
    else (part.take limit, part.drop limit :: rest)

def fill (w : World) (id : Nat) (bytes : Bytes) : World :=
  w.changePipe id fun p => { p with parts := p.parts ++ [bytes], size := p.size + bytes.length }

/-- Adds to what the program hears. -/
def hear (w : World) (id : Nat) (bytes : Bytes) : World :=
  { w with captures := Files.change id (bytes :: ·) w.captures }

/-- Sends a signal to a process or a group. -/
def signal (w : World) (group : Bool) (target signal : Nat) : World :=
  { w with processes := w.processes.map fun p =>
      if (if group then p.group else p.number) = target then p.signalled signal else p }

end World
end BulkLoad.Model
