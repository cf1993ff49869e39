import BulkLoad.Model.Program

/-!
How a world goes on. Processes run until each of them waits for something; only then does the clock
go on, to the next moment at which one wakes.
-/

namespace BulkLoad.Model.World

open Host (ExitStatus SystemError)

def openPath (w : World) (p : Process) (path : String) (mode : OpenMode) (number : Nat)
    (next : Option String → Routine) : World :=
  let refused (e : SystemError) : World := w.put { p with routine := next (some e.words) }
  match namedStream? p.streams path with
  | some (some s) => w.put (p.withStream number s (next none))
  | some none => refused .noEntry
  | none =>
    match w.files.find w.workingDirectory path, mode with
    | .ok (_, .file id), .read => w.put (p.withStream number (.file id 0) (next none))
    | .ok (_, .pipe id), .read =>
      w.put (p.withStream number (.reader id) (.awaitWriter number (w.pipe id).opened (next none)))
    | .ok (_, .directory), _ => refused .isDirectory
    | .ok (_, .file id), mode =>
      let w := if mode = .write then { w with files := w.files.truncate id } else w
      w.put (p.withStream number (.sink id) (next none))
    | .ok (_, .pipe id), _ =>
      (w.changePipe id fun q => { q with opened := q.opened + 1 }).put
        (p.withStream number (.writer id) (next none))
    | .error .noEntry, .read => refused .noEntry
    | .error .noEntry, _ =>
      match w.files.insertFile w.workingDirectory path w.next {} with
      | .ok files =>
        { w with files, next := w.next + 1 }.put
          (p.withStream number (.sink w.next) (next none))
      | .error e => refused e
    | .error e, _ => refused e

/-- Starts a process beside another one. -/
def fork (w : World) (p : Process) (child : Routine) (next : Nat → Routine) : World :=
  let number := w.next
  let w := w.put { p with routine := next number, children := number :: p.children }
  { w with
    next := number + 1
    processes := w.processes ++
      [{ number, group := p.group, routine := child, streams := p.streams, ignored := p.ignored }] }

/-- A read of a process; nothing while it has to wait. -/
def read (w : World) (p : Process) (number limit : Nat) (next : Option Bytes → Routine) :
    Option World :=
  let goOn (w : World) (answer : Option Bytes) : Option World :=
    some (w.put { p with routine := next answer })
  match p.streams.lookup number with
  | some (.file id position) =>
    let bytes := ((w.files.content id).bytes.drop position).take limit
    if bytes.isEmpty then goOn w none
    else some (w.put (p.withStream number (.file id (position + bytes.length)) (next (some bytes))))
  | some (.reader id) =>
    let pipe := w.pipe id
    if pipe.size = 0 then if w.hasWriter id then none else goOn w none
    else
      let (bytes, parts) := takeParts limit pipe.parts
      goOn (w.changePipe id fun q => { q with parts, size := q.size - bytes.length }) (some bytes)
  | _ => goOn w none

/-- A write of a process; nothing while it has to wait. A pipe without readers ends the process. -/
def write (w : World) (p : Process) (number : Nat) (bytes : Bytes) (next : Routine) :
    Option World :=
  let goOn (w : World) : Option World := some (w.put { p with routine := next })
  match p.streams.lookup number with
  | some (.sink id) => goOn { w with files := w.files.append id bytes }
  | some (.capture id) => goOn (w.hear id bytes)
  | some (.writer id) =>
    if bytes.isEmpty then goOn w
    else if !w.hasReader id then
      some (w.put (if p.ignored.contains 13 then { p with routine := next }
        else p.finished (.signal 13)))
    else
      let room := pipeCapacity - (w.pipe id).size
      if room = 0 then none
      else
        let rest := bytes.drop room
        some ((w.fill id (bytes.take room)).put
          { p with routine := if rest.isEmpty then next else .write number rest next })
  | _ => goOn w

/-- A process that has ended, or that there never was. -/
def endOf (w : World) (number : Nat) : Option ExitStatus :=
  match w.process? number with
  | some p => p.ended
  | none => some (.code 127)

def changeFiles (w : World) (p : Process) (changed : Except SystemError Files)
    (next : Option String → Routine) : World :=
  match changed with
  | .ok files => { w with files, next := w.next + 1 }.put { p with routine := next none }
  | .error e => w.put { p with routine := next (some e.words) }

/-- The next step of a process; nothing while it has to wait, or after its end. -/
def step (w : World) (p : Process) : Option World :=
  if p.ended.isSome then none
  else match p.routine with
    | .exit code => some (w.put (p.finished (.code code)))
    | .read number limit next => w.read p number limit next
    | .write number bytes next => w.write p number bytes next
    | .openPath path mode number next => some (w.openPath p path mode number next)
    | .awaitWriter number opened next =>
      match p.streams.lookup number with
      | some (.reader id) =>
        if w.hasWriter id || opened < (w.pipe id).opened then
          some (w.put { p with routine := next })
        else none
      | _ => some (w.put { p with routine := next })
    | .copyStream source target next =>
      match p.streams.lookup source with
      | some s => some (w.put (p.withStream target s (next true)))
      | none => some (w.put { p with routine := next false })
    | .closeStream number next =>
      some (w.put { p with streams := p.streams.filter (·.1 != number), routine := next })
    | .saveStreams next =>
      some (w.put { p with saved := p.streams :: p.saved, routine := next })
    | .restoreStreams next =>
      some (w.put { p with
        streams := p.saved.headD p.streams, saved := p.saved.drop 1, routine := next })
    | .makePipe reader writer next =>
      let (id, w) := w.addPipe
      some (w.put { p with
        streams := setStream (setStream p.streams reader (.reader id)) writer (.writer id)
        routine := next })
    | .fork child next => some (w.fork p child next)
    | .await number next => (w.endOf number).map fun s => w.put { p with routine := next s }
    | .awaitAll next =>
      if p.children.all fun n => (w.endOf n).isSome then some (w.put { p with routine := next })
      else none
    | .sleep time next =>
      match p.wake with
      | none => some (w.put { p with wake := some (w.clock + time) })
      | some wake =>
        if wake ≤ w.clock then some (w.put { p with wake := none, routine := next }) else none
    | .signal group target n next =>
      let target := if group && target = 0 then p.group else target
      let known := w.processes.any fun q => (if group then q.group else q.number) == target
      some ((w.put { p with routine := next known }).signal group target n)
    | .ignoreSignal n ignored next =>
      some (w.put { p with
        ignored := if ignored then n :: p.ignored else p.ignored.filter (· != n), routine := next })
    | .ownNumber next => some (w.put { p with routine := next p.number })
    | .become name args env next =>
      some (w.put { p with routine := match w.program name args env with
        | .ok routine => routine
        | .error e => next e.words })
    | .remove path next =>
      some (w.changeFiles p (w.files.remove w.workingDirectory path) next)
    | .makeDirectory path next =>
      some (w.changeFiles p (w.files.insert w.workingDirectory path .directory) next)
    | .makeFile path next =>
      some (w.changeFiles p (w.files.insertFile w.workingDirectory path w.next {}) next)

/-- Puts a pump in place of another. -/
def putPump (w : World) (id : Nat) (queue : Sink.Queue) : World :=
  { w with pumps := Files.change id (fun p => { p with queue }) w.pumps }

/-- The next step of a pump; nothing while it has to wait, or after its end. -/
def pumpStep (w : World) (id : Nat) (p : Pump) : Option World :=
  match p.queue.work with
  | .rest | .stopped => none
  | .take record waiting => some (w.putPump id (p.queue.took record waiting))
  | .close => some (w.putPump id (p.queue.stop (.ok ())))
  | .write bytes =>
    if !w.hasReader p.pipe then
      some (w.putPump id (p.queue.stop (.error SystemError.brokenPipe.message)))
    else
      let room := pipeCapacity - (w.pipe p.pipe).size
      if room = 0 then none
      else
        let part := bytes.take room
        some ((w.fill p.pipe part).putPump id (p.queue.wrote part.length))

/-- One step of something that need not wait. -/
def stepAny (w : World) : Option World :=
  match w.processes.findSome? (w.step ·) with
  | some w => some w
  | none => w.pumps.findSome? fun e => w.pumpStep e.1 e.2

/-- Goes on until everything waits, but no longer than so many steps. -/
def settleFor : Nat → World → World
  | 0, w => w
  | n + 1, w =>
    match w.stepAny with
    | some w => settleFor n w
    | none => w

/-- Goes on until everything waits. -/
def settle (w : World) : World := settleFor Routine.manySteps w

/-- The next moment at which a process wakes. -/
def nextWake? (w : World) : Option Nat :=
  (w.processes.filterMap fun p => if p.ended.isSome then none else p.wake).min?

/-- Lets time go on until something holds, up to a moment if one is given, for so many moments. -/
def waitFor (holds : World → Bool) (deadline : Option Nat) : Nat → World → World
  | 0, w => w
  | n + 1, w =>
    let w := w.settle
    if holds w then w
    else match w.nextWake?, deadline with
      | some wake, some limit =>
        if wake ≤ limit then waitFor holds deadline n { w with clock := wake }
        else { w with clock := max w.clock limit }
      | some wake, none => waitFor holds deadline n { w with clock := wake }
      | none, some limit => { w with clock := max w.clock limit }
      | none, none => w

/-- Lets time go on until something holds. -/
def waitUntil (w : World) (holds : World → Bool) (deadline : Option Nat) : World :=
  waitFor holds deadline Routine.manySteps w

def pause (w : World) (time : Nat) : World :=
  (w.waitUntil (fun _ => false) (some (w.clock + time))).settle

end BulkLoad.Model.World
