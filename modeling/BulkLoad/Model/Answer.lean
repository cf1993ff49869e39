import BulkLoad.Host.Dialogue
import BulkLoad.Model.Progress

/-!
A world as a host: its answer to every request, and the world behind it.
-/

namespace BulkLoad.Model.World

open Host

/-- Gives a handle out of numbers that nothing has. -/
def newHandle (w : World) : Handle × World := (⟨w.next⟩, { w with next := w.next + 1 })

/-- Makes a file for the program. -/
def createFile (w : World) (path : String) : Creation × World :=
  match w.files.insertFile w.workingDirectory path w.next {} with
  | .ok files =>
    let handle : Handle := ⟨w.next⟩
    (.made handle,
      { w with files, next := w.next + 1, openFiles := (w.next, w.next) :: w.openFiles })
  | .error .taken => (.taken, w)
  | .error e => (.refused e.message, w)

/-- Appends to a file that the program has open. -/
def appendTo (w : World) (file : Handle) (bytes : Bytes) : Except SystemError World :=
  match w.openFiles.lookup file.id with
  | some id => .ok { w with files := w.files.append id bytes }
  | none => .error .badHandle

def closeFile (w : World) (file : Handle) : World :=
  { w with openFiles := w.openFiles.filter (·.1 != file.id) }

/-- Removes a file; it is all right if there is none. -/
def removePath (w : World) (path : String) : Except String Unit × World :=
  match w.files.remove w.workingDirectory path with
  | .ok files => (.ok (), { w with files })
  | .error .noEntry => (.ok (), w)
  | .error e => (.error e.message, w)

/-- A number in hexadecimal digits, as many as in the names of pipes. -/
def serial (n : Nat) : String :=
  let digits := Nat.toDigits 16 n
  String.ofList (List.replicate (32 - digits.length) '0' ++ digits)

/-- Makes a pipe in the file system. -/
def makePipe (w : World) (path : String) : PipeCreation × World :=
  let (id, v) := w.addPipe
  match w.files.insert w.workingDirectory path (.pipe id) with
  | .ok files => (.made, { v with files })
  | .error .taken => (.taken, w)
  | .error .denied => (.denied, w)
  | .error e => (.refused e.message, w)

/-- Tries to open a pipe for writing. -/
def openPipe (w : World) (path : String) : Opening × World :=
  match w.files.find w.workingDirectory path with
  | .ok (_, .pipe id) =>
    if w.hasReader id then
      let (handle, w) := w.newHandle
      let w := w.changePipe id fun p => { p with opened := p.opened + 1 }
      (.opened handle, { w with openPipes := (handle.id, id) :: w.openPipes }.settle)
    else (.noReader, w)
  | .ok (_, .directory) => (.refused SystemError.isDirectory.message, w)
  | .ok (_, .file _) => (.refused "not a pipe", w)
  | .error e => (.refused e.message, w)

/-- Writes bytes to a pipe, as long as it takes, in at most so many parts. -/
def writePipe : Nat → World → Nat → Bytes → Except SystemError Unit × World
  | 0, w, _, _ => (.error .brokenPipe, w)
  | n + 1, w, id, bytes =>
    if bytes.isEmpty then (.ok (), w)
    else
      let w := w.waitUntil (fun w => !w.hasReader id || (w.pipe id).size < pipeCapacity) none
      let room := pipeCapacity - (w.pipe id).size
      if !w.hasReader id || room = 0 then (.error .brokenPipe, w)
      else writePipe n (w.fill id (bytes.take room)).settle id (bytes.drop room)

def start (w : World) (command : Command) (withInput : Bool) : Except String Handle × World :=
  let env := command.env ++ w.environment
  match w.program command.program command.args env with
  | .error e => (.error e.message, w)
  | .ok routine =>
    let number := w.next
    let stdout := w.next + 1
    let stderr := w.next + 2
    let w := { w with
      next := w.next + 3, captures := (stdout, []) :: (stderr, []) :: w.captures }
    let (stdin, w) : Option Nat × World :=
      if withInput then let (id, w) := w.addPipe; (some id, w) else (none, w)
    let input : Stream := match stdin with
      | some id => .reader id
      | none => .null
    let process : Process :=
      { number, group := number, routine
        streams := [(0, input), (1, .capture stdout), (2, .capture stderr)] }
    (.ok ⟨number⟩,
      { w with
        processes := w.processes ++ [process]
        children := (number, ⟨number, stdout, stderr, stdin⟩) :: w.children }.settle)

def openQueue (w : World) (process : Handle) (capacity : Nat) : Handle × World :=
  let (handle, w) := w.newHandle
  match (w.children.lookup process.id).bind (·.stdin) with
  | some pipe =>
    (handle, { w with
      pumps := (handle.id, ⟨.start capacity, pipe⟩) :: w.pumps
      children := Files.change process.id (fun c => { c with stdin := none }) w.children })
  | none => (handle, { w with pumps :=
      (handle.id, ⟨(Sink.Queue.start capacity).stop (.error SystemError.badHandle.message), 0⟩) ::
        w.pumps })

/-- The queue behind a handle. -/
def queue? (w : World) (queue : Handle) : Option Sink.Queue :=
  (w.pumps.lookup queue.id).map (·.queue)

/-- The queue would not make a record wait. -/
def isReady (queue : Handle) (w : World) : Bool :=
  match w.queue? queue with
  | some q => match q.offer [] with
    | .full => false
    | _ => true
  | none => true

/-- Hands a record to a queue, and whether it was taken. -/
def enqueue (w : World) (queue : Handle) (bytes : Bytes) : Bool × World :=
  let w := w.waitUntil (isReady queue) none
  match w.queue? queue with
  | some q => match q.offer bytes with
    | .taken q => (true, (w.putPump queue.id q).settle)
    | _ => (false, w)
  | none => (false, w)

def endQueue (w : World) (queue : Handle) : World :=
  match w.queue? queue with
  | some q => (w.putPump queue.id q.finish).settle
  | none => w

/-- Waits until a queue is written out. -/
def drainQueue (w : World) (queue : Handle) : Except String Unit × World :=
  let w := (w.endQueue queue).waitUntil
    (fun w => (w.queue? queue).all fun q => q.outcome.isSome) none
  (((w.queue? queue).bind (·.outcome)).getD (.ok ()), w)

/-- How a process ended, if it has. -/
def status? (w : World) (process : Handle) : Option ExitStatus :=
  (w.process? process.id).bind (·.ended)

/-- What a process said on one stream, if it has come to an end. -/
def said? (w : World) (capture : Nat) : Option Bytes :=
  if w.isHeld (.capture capture) then none
  else some ((w.captures.lookup capture).getD []).reverse.flatten

/-- What a process said. -/
def collect (w : World) (process : Handle) (timeout : Nat) : Said × World :=
  match w.children.lookup process.id with
  | some child =>
    let w := w.waitUntil
      (fun w => (w.said? child.stdout).isSome && (w.said? child.stderr).isSome)
      (some (w.clock + timeout))
    (⟨w.said? child.stdout, w.said? child.stderr⟩, w)
  | none => (⟨none, none⟩, w)

def dropProcess (w : World) (process : Handle) : World :=
  { w with children := w.children.filter (·.1 != process.id) }.signal false process.id 9 |>.settle

/-- The program is to stop before the next row. -/
def stopsNow (w : World) : Bool := w.stopping || w.stopAt == some w.pulled

/-- A wait for a row. -/
def pull (w : World) : Pause true × World :=
  if w.stopsNow then (.stopped rfl, { w with stopping := true })
  else (.elapsed, { w with pulled := w.pulled + 1 })

/-- A request that may be stopped is not answered once the program is to stop. -/
def unlessStopping {α : Type} (w : World) (stoppable : Bool) (stopped : stoppable = true → α)
    (answer : α × World) : α × World :=
  if h : stoppable = true then if w.stopping then (stopped h, w) else answer else answer

/-- The answer to a request, and the world behind it. -/
def answer : (r : Request) → World → r.Answer × World
  | .environment names, w => (w.environment.filter fun e => names.contains e.1, w)
  | .localTime, w => (w.localTime, w)
  | .clock, w => (w.clock * 1000000 + w.looks, { w with looks := w.looks + 1 })
  | .readFile path, w =>
    ((w.files.read w.workingDirectory path).mapError SystemError.message, w)
  | .createFile path, w => w.createFile path
  | .append stoppable file bytes, w => w.unlessStopping stoppable .stopped
      (match w.appendTo file bytes with
      | .ok w => (.done, w)
      | .error e => (.refused e.message, w))
  | .closeFile file, w => (.ok (), w.closeFile file)
  | .dropFile file, w => ((), w.closeFile file)
  | .remove path, w => w.removePath path
  | .uniqueName, w => (⟨"1", serial w.next⟩, { w with next := w.next + 1 })
  | .makePipe path, w => w.makePipe path
  | .openPipe path, w => w.openPipe path
  | .writePipe stoppable pipe bytes, w => w.unlessStopping stoppable .stopped
      (match w.openPipes.lookup pipe.id with
      | some id =>
        match writePipe (bytes.length + 1) w id bytes with
        | (.ok (), w) => (.done, w)
        | (.error e, w) => (.refused e.message, w)
      | none => (.refused SystemError.badHandle.message, w))
  | .closePipe pipe, w =>
    ((), { w with openPipes := w.openPipes.filter (·.1 != pipe.id) }.settle)
  | .start command withInput, w => w.start command withInput
  | .openQueue process capacity, w => w.openQueue process capacity
  | .enqueue stoppable queue bytes, w => w.unlessStopping stoppable .stopped
      (match w.enqueue queue bytes with
      | (true, w) => (.taken, w)
      | (false, w) => (.closed, w))
  | .closeQueue queue, w => w.drainQueue queue
  | .dropQueue queue, w => ((), w.endQueue queue)
  | .exitStatus process, w => (.ok (w.status? process), w)
  | .awaitExit stoppable process timeout, w => w.unlessStopping stoppable .stopped
      (let w := w.waitUntil (fun w => (w.status? process).isSome) (some (w.clock + timeout))
      (match w.status? process with
      | some status => .over (.exited status)
      | none => .over .running, w))
  | .terminate process, w => ((), (w.signal true process.id 15).settle)
  | .kill stoppable process, w => w.unlessStopping stoppable .stopped
      (let w := (w.signal true process.id 9).settle
      (.over (w.status? process), w))
  | .collect stoppable process timeout, w => w.unlessStopping stoppable .stopped
      (let (said, w) := w.collect process timeout
      (.over said, w))
  | .dropProcess process, w => ((), w.dropProcess process)
  | .pause stoppable time, w => w.unlessStopping stoppable .stopped (.elapsed, w.pause time)
  | .stopRequested, w => (w.stopping, w)
  | .pull, w => w.pull

end BulkLoad.Model.World
