import BulkLoad.Fault
import BulkLoad.Host.Dialogue
import BulkLoad.Sink.Pipe
import BulkLoad.Sink.Tail
import BulkLoad.Step.Result

/-!
Sink sessions. A session owns one channel, one consumer that reads from it, and the write end
between them, and takes them through their life: made, ready, running, draining, and closed or
failed. An operation that does not fit the state is refused and changes nothing. Whatever else goes
wrong ends the session, after the write end is closed, the consumer stopped, and the pipe removed.
-/

namespace BulkLoad.Sink

open Host (Dialogue Request Handle ExitStatus)

/-- Where a session is in its life. -/
inductive State where
  | created
  | pipeReady
  | consumerRunning
  | draining
  | closed
  | failed
  deriving DecidableEq, Repr, Inhabited

namespace State

def word : State → String
  | created => "created"
  | pipeReady => "pipe_ready"
  | consumerRunning => "consumer_running"
  | draining => "draining"
  | closed => "closed"
  | failed => "failed"

def isOver : State → Bool
  | closed | failed => true
  | _ => false

end State

/-- What kind of channel a session makes. -/
inductive ChannelChoice where
  /-- A pipe in a directory. -/
  | fifo (directory : String)
  /-- The standard input of the consumer, behind a queue. -/
  | stdin (capacity : Nat)
  deriving DecidableEq, Repr, Inhabited

def defaultCapacity : Nat := 64

/-- The choice and the bounds of a session, in milliseconds. -/
structure Settings where
  choice : ChannelChoice
  /-- The longest wait for a reader. -/
  openTimeout : Nat := 10000
  /-- The longest wait for the consumer after the end of its input. -/
  finishTimeout : Nat := 60000
  /-- The time between two looks for a reader. -/
  pollInterval : Nat := 20
  /-- The time a consumer has to end when asked to. -/
  terminateGrace : Nat := 2000
  deriving DecidableEq, Inhabited

/-- A channel that has been made. -/
inductive Channel where
  | fifo (path : String)
  | stdin (capacity : Nat)
  deriving DecidableEq, Repr, Inhabited

namespace Channel

def path? : Channel → Option String
  | fifo path => some path
  | stdin _ => none

/-- The channel is the consumer's standard input. -/
def isStdin : Channel → Bool
  | fifo _ => false
  | stdin _ => true

end Channel

/-- A consumer, and its end once it is known. -/
structure Consumer where
  process : Handle
  exit : Option ExitStatus := none
  deriving DecidableEq, Repr, Inhabited

/-- The write end of a channel. -/
inductive Writer where
  | pipe (handle : Handle)
  | queue (handle : Handle)
  deriving DecidableEq, Repr, Inhabited

structure Session where
  /-- The step that the session works for, by the name that it is configured with. -/
  step : String
  settings : Settings
  state : State := .created
  channel : Option Channel := none
  consumer : Option Consumer := none
  writer : Option Writer := none
  /-- The records written so far. -/
  records : Nat := 0
  /-- The bytes of those records. -/
  bytes : Nat := 0
  deriving DecidableEq, Inhabited

/-- The path that stands for standard input. -/
def stdinPath : String := "/dev/stdin"

namespace Session

/-- The path of the pipe, while there is one. -/
def pipePath? (s : Session) : Option String := s.channel.bind Channel.path?

/-- The path that the consumer reads from. -/
def inputPath (s : Session) : String := s.pipePath?.getD stdinPath

/-- The fault of an operation that does not fit the state. -/
def stateFault (s : Session) (operation : String) : Fault :=
  Fault.of .internal "SINK_STATE" ("cannot " ++ operation ++ " while sink is " ++ s.state.word)

def pipeFault (path : String) : Host.PipeCreation → Fault
  | .taken => Fault.of .resource "PIPE_COLLISION" ("pipe path " ++ path ++ " already exists")
  | .denied =>
    Fault.of .resource "PIPE_PERMISSION" ("permission denied creating pipe " ++ path)
  | .refused message =>
    Fault.of .resource "PIPE_CREATE" ("failed to create pipe " ++ path ++ ": " ++ message)
  | .unsupported | .made =>
    Fault.of .resource "UNSUPPORTED_PLATFORM" "named pipes are not supported on this platform"

/-- What is said of a path that holds the character that ends paths. -/
def nulInPath : String := "pipe path contains NUL"

/-- Makes a pipe in the file system. -/
def makePipe (path : String) : Dialogue Host.PipeCreation :=
  if path.toList.contains '\x00' then pure (.refused nulInPath) else (Request.makePipe path).send

/-- Makes the channel. -/
def provision (s : Session) : Dialogue (Except Fault Unit × Session) :=
  if s.state = .created then
    match s.settings.choice with
    | .stdin capacity => pure
      (.ok (), { s with channel := some (.stdin (max capacity 1)), state := .pipeReady })
    | .fifo directory => do
      let path := pipePath directory s.step (← Request.uniqueName.send)
      match ← makePipe path with
      | .made => pure (.ok (), { s with channel := some (.fifo path), state := .pipeReady })
      | other => pure (.error (pipeFault path other), { s with state := .failed })
  else pure (.error (s.stateFault "provision channel"), s)

/-- Closes the write end, without waiting. -/
def dropWriter : Option Writer → Dialogue Unit
  | some (.pipe h) => (Request.closePipe h).send
  | some (.queue h) => (Request.dropQueue h).send
  | none => pure ()

/-- Removes the pipe of a channel that is taken out of its session, and then gives it up; a pipe
that cannot be removed is left behind. -/
def removeChannel : Option Channel → Dialogue Unit
  | some (.fifo path) => do
    let (_, pipe) ← Pipe.remove { path }
    pipe.drop
  | _ => pure ()

/-- Gives a channel up with its session. -/
def dropChannel : Option Channel → Dialogue Unit
  | some (.fifo path) => Pipe.drop { path }
  | _ => pure ()

/-- Asks for the end of a consumer, unless it is known. -/
def poll (c : Consumer) : Dialogue (Except String Consumer) :=
  match c.exit with
  | some _ => pure (.ok c)
  | none => do
    match ← (Request.exitStatus c.process).send with
    | .ok exit => pure (.ok { c with exit })
    | .error message => pure (.error message)

/-- Waits for the end of a consumer, unless it is known. -/
def await (stoppable : Bool) (c : Consumer) (timeout : Nat) :
    Dialogue (Host.Waiting stoppable Host.Ending) :=
  match c.exit with
  | some status => pure (.over (.exited status))
  | none => (Request.awaitExit stoppable c.process timeout).send

/-- Stops a consumer that may still run: asks it to end, and ends it when it does not. -/
def stop (stoppable : Bool) (c : Consumer) (grace : Nat) :
    Dialogue (Host.Waiting stoppable Unit) := do
  match ← poll c with
  | .ok { exit := some _, .. } => pure (.over ())
  | _ =>
    (Request.terminate c.process).send
    match ← await stoppable c grace with
    | .over (.exited _) => pure (.over ())
    | .over _ =>
      match ← (Request.kill stoppable c.process).send with
      | .over _ => pure (.over ())
      | .stopped allowed => pure (.stopped allowed)
    | .stopped allowed => pure (.stopped allowed)

/-- The ends of what a consumer said; a stream that has not ended in time counts for nothing. -/
def collect (stoppable : Bool) (c : Consumer) (timeout : Nat) :
    Dialogue (Host.Waiting stoppable (String × String)) := do
  match ← (Request.collect stoppable c.process timeout).send with
  | .over said =>
    pure (.over ((said.stdout.map tailText).getD "", (said.stderr.map tailText).getD ""))
  | .stopped allowed => pure (.stopped allowed)

/-- Stops a consumer and gives what it said on standard error. -/
def quit (stoppable : Bool) (c : Consumer) (grace : Nat) :
    Dialogue (Host.Waiting stoppable String) := do
  match ← stop stoppable c grace with
  | .over () =>
    match ← collect stoppable c grace with
    | .over (_, stderr) => pure (.over stderr)
    | .stopped allowed => pure (.stopped allowed)
  | .stopped allowed => pure (.stopped allowed)

/-- Stops a consumer, if there is one, and gives it up; a request to stop cuts short all but the
last. -/
def stopConsumer (stoppable : Bool) (grace : Nat) :
    Option Consumer → Dialogue (Host.Waiting stoppable (Option String))
  | some c => do
    let said ← quit stoppable c grace
    (Request.dropProcess c.process).send
    match said with
    | .over stderr => pure (.over (some stderr))
    | .stopped allowed => pure (.stopped allowed)
  | none => pure (.over none)

/-- Gives up everything that the session owns; gives what the consumer said on standard error. When
the program is to stop, it may leave the channel. -/
def cleanup (stoppable : Bool) (s : Session) :
    Dialogue (Host.Waiting stoppable (Option String) × Session) := do
  dropWriter s.writer
  match ← stopConsumer stoppable s.settings.terminateGrace s.consumer with
  | .stopped allowed => pure (.stopped allowed, { s with consumer := none, writer := none })
  | .over stderr =>
    removeChannel s.channel
    pure (.over stderr, { s with channel := none, consumer := none, writer := none })

/-- A fault, with what the consumer said unless it said nothing or the fault has details. -/
def withStderr (fault : Fault) (stderr : Option String) : Fault :=
  match stderr, fault.details with
  | some said, none =>
    if said.isEmpty then fault else fault.withDetails (.object [("stderr", .text said)])
  | _, _ => fault

/-- Ends the session by a fault. -/
def fail (stoppable : Bool) (s : Session) (fault : Fault) :
    Dialogue (Interruption stoppable × Session) := do
  match ← s.cleanup stoppable with
  | (.over stderr, s) => pure (.failed (withStderr fault stderr), { s with state := .failed })
  | (.stopped allowed, s) => pure (.stopped allowed, s)

/-- Ends the session by a fault, as the outcome of an operation. -/
def failWith {α : Type} (s : Session) (fault : Fault) : Dialogue (Except Fault α × Session) := do
  match ← s.fail false fault with
  | (.failed fault, s) => pure (.error fault, s)

/-- Ends the session, unless it is over. -/
def abort (s : Session) : Dialogue Session :=
  if s.state.isOver then pure s
  else do
    match ← s.cleanup false with
    | (.over _, s) => pure { s with state := .failed }

def startConsumer (s : Session) (command : Command) : Dialogue (Except Fault Unit × Session) :=
  if s.state = .pipeReady then do
    match ← (Request.start command (s.channel.any Channel.isStdin)).send with
    | .ok process =>
      pure (.ok (), { s with consumer := some { process }, state := .consumerRunning })
    | .error message => s.failWith (Fault.of .sinkProcess "CONSUMER_SPAWN"
        ("failed to start '" ++ command.program ++ "': " ++ message))
  else pure (.error (s.stateFault "start consumer"), s)

/-- The fault of a pipe that cannot be opened. -/
def openFault (path message : String) : Fault :=
  Fault.of .resource "PIPE_OPEN" ("failed to open " ++ path ++ " for writing: " ++ message)

/-- The fault of a consumer that ended before it opened the pipe. -/
def exitedFault (status : ExitStatus) : Fault :=
  Fault.of .sinkProcess "CONSUMER_EXITED"
    ("consumer exited (" ++ status.text ++ ") before opening the pipe")

/-- The fault of a pipe that nobody opened in time. -/
def noReaderFault (path : String) (timeout : Nat) : Fault :=
  Fault.of .timeout "PIPE_OPEN_TIMEOUT"
    ("no reader opened " ++ path ++ " within " ++ toString timeout ++ "ms")

/-- The fault of a consumer whose end cannot be asked for. -/
def waitFault (message : String) : Fault := Fault.of .sinkProcess "CONSUMER_WAIT" message

/-- Looks at the consumer while nobody has opened the pipe: a consumer that has ended never will. -/
def lookAtConsumer : Option Consumer → Dialogue (Except Fault (Option Consumer))
  | none => pure (.ok none)
  | some c => do
    match ← poll c with
    | .ok c => match c.exit with
      | some status => pure (.error (exitedFault status))
      | none => pure (.ok (some c))
    | .error message => pure (.error (waitFault message))

/-- Tries to open the pipe, with `pauses` more pauses before time is over. No clock is read: time
goes by in the pauses alone, each as long as it is asked to be. Where a pause takes longer, fewer of
them fit. -/
def openPipe (stoppable : Bool) (path : String) (timeout interval : Nat) :
    Nat → Option Consumer → Dialogue (Except (Interruption stoppable) Handle × Option Consumer)
  | pauses, consumer => do
    match ← (Request.openPipe path).send with
    | .opened handle => pure (.ok handle, consumer)
    | .refused message => pure (.error (.failed (openFault path message)), consumer)
    | .noReader =>
      match ← lookAtConsumer consumer with
      | .error fault => pure (.error (.failed fault), consumer)
      | .ok consumer =>
        match pauses with
        | 0 => pure (.error (.failed (noReaderFault path timeout)), consumer)
        | pauses + 1 =>
          match ← (Request.pause stoppable interval).send with
          | .elapsed => openPipe stoppable path timeout interval pauses consumer
          | .stopped allowed => pure (.error (.stopped allowed), consumer)

/-- How many pauses fit before a time is over; the pause that reaches it counts. -/
def pausesWithin (timeout interval : Nat) : Nat := (timeout + interval - 1) / interval

/-- Opens the write end of the channel. -/
def openChannel (stoppable : Bool) (s : Session) :
    Dialogue (Except (Interruption stoppable) Writer × Option Consumer) :=
  match s.channel with
  | some (.fifo path) => do
    let interval := max s.settings.pollInterval 1
    let timeout := s.settings.openTimeout
    let (opened, consumer) ←
      openPipe stoppable path timeout interval (pausesWithin timeout interval) s.consumer
    pure (opened.map .pipe, consumer)
  | some (.stdin capacity) =>
    match s.consumer with
    | some c => do
      let handle ← (Request.openQueue c.process capacity).send
      pure (.ok (.queue handle), s.consumer)
    | none => pure (.error (.failed
        (Fault.of .internal "SINK_NO_CONSUMER" "stdin channel needs a running consumer")), none)
  | none => pure (.error (.failed
      (Fault.of .internal "SINK_NO_CHANNEL" "channel not provisioned")), s.consumer)

/-- Opens the write end, waiting for the consumer to open the other one. -/
def openWriter (stoppable : Bool) (s : Session) :
    Dialogue (Except (Interruption stoppable) Unit × Session) :=
  if s.state = .pipeReady ∨ s.state = .consumerRunning then do
    let (opened, consumer) ← s.openChannel stoppable
    let s := { s with consumer }
    match opened with
    | .ok writer => pure (.ok (), { s with writer := some writer, state := .draining })
    | .error (.failed fault) =>
      let (interruption, s) ← s.fail stoppable fault
      pure (.error interruption, s)
    | .error (.stopped allowed) => pure (.error (.stopped allowed), s)
  else pure (.error (.failed (s.stateFault "open writer")), s)

/-- What the end of a queue is called. -/
def queueClosed : String := "broken pipe"

/-- Writes a record to the channel. -/
def deliver (stoppable : Bool) (record : Bytes) : Writer → Dialogue (Host.Delivery stoppable)
  | .pipe h => (Request.writePipe stoppable h record).send
  | .queue h => do
    match ← (Request.enqueue stoppable h record).send with
    | .taken => pure .done
    | .closed => pure (.refused queueClosed)
    | .stopped allowed => pure (.stopped allowed)

/-- The fault of a record that cannot be written. -/
def writeFault (s : Session) (message : String) : Fault :=
  Fault.of .sinkProcess "PIPE_WRITE"
    ("consumer stopped reading after " ++ toString s.bytes ++ " bytes: " ++ message)

def write (stoppable : Bool) (s : Session) (record : Bytes) :
    Dialogue (Except (Interruption stoppable) Unit × Session) :=
  if s.state = .draining then
    match s.writer with
    | none => pure
      (.error (.failed (Fault.of .internal "SINK_NO_WRITER" "writer missing")), s)
    | some writer => do
      match ← deliver stoppable record writer with
      | .done =>
        pure (.ok (), { s with records := s.records + 1, bytes := s.bytes + record.length })
      | .refused message =>
        let (interruption, s) ← s.fail stoppable (s.writeFault message)
        pure (.error interruption, s)
      | .stopped allowed => pure (.error (.stopped allowed), s)
  else pure (.error (.failed (s.stateFault "write")), s)

/-- Closes the write end; a queue is written out first. -/
def closeWriter : Option Writer → Dialogue (Except String Unit)
  | some (.pipe h) => do
    (Request.closePipe h).send
    pure (.ok ())
  | some (.queue h) => (Request.closeQueue h).send
  | none => pure (.ok ())

/-- The report of a session that ended well. -/
def report (s : Session) (exitCode : Int32) (stdout stderr : String) : Step.SinkReport :=
  { exitCode, records := UInt64.ofNat s.records, bytes := UInt64.ofNat s.bytes, stdout, stderr }

def exitCode (status : ExitStatus) : Int32 :=
  match status.code? with
  | some n => Int32.ofNat n
  | none => -1

/-- The fault of a consumer that ended badly: it names the last line on standard error, and carries
both streams. -/
def exitFault (status : ExitStatus) (stdout stderr : String) : Fault :=
  (Fault.of .sinkProcess "CONSUMER_EXIT" ("consumer exited with " ++ status.text ++ ": " ++
    (lastLine? stderr).getD "no stderr output")).withDetails
      (.object [("exit_code", .int (exitCode status).toInt), ("stderr", .text stderr),
        ("stdout", .text stdout)])

/-- The fault of a consumer that goes on running. -/
def runningFault (timeout : Nat) : Fault :=
  Fault.of .timeout "CONSUMER_EXIT_TIMEOUT"
    ("consumer still running after " ++ toString timeout ++ "ms")

/-- Waits for the consumer after the end of its input, and ends the session. -/
def awaitConsumer (s : Session) : Dialogue (Except Fault Step.SinkReport × Session) :=
  match s.consumer with
  | none => do
    removeChannel s.channel
    pure (.ok (s.report 0 "" ""), { s with channel := none, state := .closed })
  | some c => do
    let timeout := s.settings.finishTimeout
    match ← await false c timeout with
    | .over .running => s.failWith (runningFault timeout)
    | .over (.refused message) => s.failWith (waitFault message)
    | .over (.exited status) =>
      match ← collect false c timeout with
      | .over (stdout, stderr) =>
        (Request.dropProcess c.process).send
        removeChannel s.channel
        let s := { s with consumer := none, channel := none }
        if status.succeeded then
          pure (.ok (s.report (exitCode status) stdout stderr), { s with state := .closed })
        else pure (.error (exitFault status stdout stderr), { s with state := .failed })

/-- Ends the input and waits for the consumer; the write end must be open. -/
def drain (s : Session) : Dialogue (Except Fault Step.SinkReport × Session) :=
  if s.state = .draining then do
    let closed ← closeWriter s.writer
    let s := { s with writer := none }
    match closed with
    | .ok () => s.awaitConsumer
    | .error message =>
      s.failWith (Fault.of .sinkProcess "PIPE_CLOSE" ("closing pipe failed: " ++ message))
  else pure (.error (s.stateFault "finish"), s)

/-- Ends the input and waits for the consumer. A session without a write end opens it first, so that
the consumer sees an end of its input. -/
def finish (s : Session) : Dialogue (Except Fault Step.SinkReport × Session) :=
  if s.state = .consumerRunning then do
    match ← s.openWriter false with
    | (.ok (), s) => s.drain
    | (.error (.failed fault), s) => pure (.error fault, s)
  else s.drain

/-- Gives the session up: what it still owns does not outlive it. -/
def drop (s : Session) : Dialogue Unit := do
  dropChannel s.channel
  match s.consumer with
  | some c => (Request.dropProcess c.process).send
  | none => pure ()
  dropWriter s.writer

end Session
end BulkLoad.Sink
