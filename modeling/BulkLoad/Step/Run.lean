import BulkLoad.Encoder
import BulkLoad.Output
import BulkLoad.Sink.Session
import BulkLoad.Step.Negotiation
import BulkLoad.Step.Result
import BulkLoad.Step.Source

/-!
Running a step: its targets are acquired, each row is encoded for all of them before a byte of it is
written to any, and in the end every target is finished. Whatever interrupts the run takes back what
it has made: a step leaves its complete output or none.
-/

namespace BulkLoad.Step

open Host (Dialogue Request Handle)
open Sink (Session)

/-- A file that rows are written to. -/
structure FileTarget where
  path : String
  /-- The open file, until it is closed. -/
  file : Option Handle
  encoder : Encoder

/-- A loader that rows are streamed to. -/
structure LoaderTarget where
  session : Session
  encoder : Encoder

/-- The targets of a run; each row goes to the file first. -/
structure Targets where
  file : Option FileTarget := none
  loader : Option LoaderTarget := none
  /-- The session of a loader that did not start; it has been given up, and is no target. -/
  unstarted : Option Session := none

/-- The counts of a run. -/
structure Counts where
  read : Nat := 0
  written : Nat := 0
  /-- Rows that were skipped because they could not be encoded. -/
  skipped : Nat := 0
  deriving DecidableEq, Repr

/-- The bounds and the channel of a loader's session. -/
def Loader.settings (l : Loader) : Sink.Settings :=
  { choice := match l.channel with
      | some .stdin => .stdin Sink.defaultCapacity
      | _ => .fifo l.fifoDir
    openTimeout := l.openTimeout.toNat
    finishTimeout := l.finishTimeout.toNat
    terminateGrace := l.terminateGrace.toNat }

/-- The encoder of an output file; nulls are empty in text unless a marker is configured. -/
def Config.fileEncoder (c : Config) (o : Output) (p : Projection) : Encoder :=
  match o.format with
  | .text => .ofFormat (c.loader.format "") p
  | .cube => .ofProjection p

/-- Goes on with a dialogue, unless the program is to stop. -/
def unlessStopping {α : Type} (stopped : α) (d : Dialogue α) : Dialogue α := do
  match ← Request.stopRequested.send with
  | true => pure stopped
  | false => d

/-- The fault of a file that cannot be written. -/
def writeFault (path message : String) : Fault :=
  Fault.of .resource "OUTPUT_WRITE" ("write to " ++ path ++ " failed: " ++ message)

/-- The fault of a file whose last bytes cannot be written. -/
def flushFault (path message : String) : Fault :=
  Fault.of .resource "OUTPUT_WRITE" ("flush of " ++ path ++ " failed: " ++ message)

/-- The fault of a file that has been closed. -/
def closedFault : Fault := Fault.of .internal "OUTPUT_CLOSED" "output already closed"

namespace FileTarget

def write (stoppable : Bool) (t : FileTarget) (bytes : Bytes) :
    Dialogue (Except (Interruption stoppable) Unit) :=
  match t.file with
  | none => pure (.error (.failed closedFault))
  | some file => do
    match ← (Request.append stoppable file bytes).send with
    | .done => pure (.ok ())
    | .refused message => pure (.error (.failed (writeFault t.path message)))
    | .stopped allowed => pure (.error (.stopped allowed))

/-- Writes what stands before the rows. -/
def writeHeader (t : FileTarget) : Dialogue (Except (Interruption false) Unit) :=
  if t.encoder.header.isEmpty then pure (.ok ()) else t.write false t.encoder.header

def finish (t : FileTarget) : Dialogue (Except Fault Unit × FileTarget) :=
  match t.file with
  | none => pure (.error closedFault, t)
  | some file => do
    match ← (Request.closeFile file).send with
    | .ok () => pure (.ok (), { t with file := none })
    | .error message => pure (.error (flushFault t.path message), { t with file := none })

/-- Removes the file; one that cannot be removed is left behind. -/
def abort (t : FileTarget) : Dialogue FileTarget := do
  match t.file with
  | some file => (Request.dropFile file).send
  | none => pure ()
  let _ ← (Request.remove t.path).send
  pure { t with file := none }

end FileTarget

/-- Makes the channel of a loader and starts its consumer; the session of one that fails is over. -/
def startLoader (c : Config) (p : Projection) : Dialogue (Except Fault Unit × LoaderTarget) := do
  let encoder := Encoder.ofFormat c.loaderFormat p
  let session : Session := { step := c.identity.step, settings := c.loader.settings }
  match ← session.provision with
  | (.error fault, session) => pure (.error fault, ⟨session, encoder⟩)
  | (.ok (), session) =>
    match c.loadCommand session.inputPath with
    | .error fault =>
      let session ← session.abort
      pure (.error fault, ⟨session, encoder⟩)
    | .ok command =>
      let (started, session) ← session.startConsumer command
      pure (started, ⟨session, encoder⟩)

/-- Opens the channel of a loader; a request to stop ends the wait for the consumer. -/
def LoaderTarget.connect (l : LoaderTarget) :
    Dialogue (Except (Interruption true) Unit × LoaderTarget) := do
  let (opened, session) ←
    unlessStopping (.error (.stopped rfl), l.session) (l.session.openWriter true)
  pure (opened, { l with session })

/-- Starts the loader, if there is one, and opens its channel. -/
def acquireLoader (c : Config) (p : Projection) (file : Option FileTarget) :
    Dialogue (Except (Interruption true) Unit × Targets) :=
  if c.hasLoader then do
    match ← startLoader c p with
    | (.error fault, loader) =>
      pure (.error (.failed fault), { file, unstarted := some loader.session })
    | (.ok (), loader) =>
      let (opened, loader) ← loader.connect
      pure (opened, { file, loader := some loader })
  else pure (.ok (), { file })

/-- Opens every configured target; those that were opened before a fault are given too. -/
def acquire (c : Config) (p : Projection) (file : Option FileTarget) :
    Dialogue (Except (Interruption true) Unit × Targets) :=
  match file with
  | none => acquireLoader c p none
  -- The header comes before the loader: a file that does not take it starts nothing.
  | some target => do
    match ← target.writeHeader with
    | .error (.failed fault) => pure (.error (.failed fault), { file })
    | .ok () => acquireLoader c p file

/-- The buffers that the records of a row are made in, one for each target. -/
structure Buffers where
  file : Bytes := []
  loader : Bytes := []

/-- Encodes a row into the buffer of a target, in place of what the buffer holds. -/
def encodeInto (encoder : Option Encoder) (row : Row) (buffer : Bytes) : Filled :=
  match encoder with
  | some e => e.fill row []
  | none => (.ok (), buffer)

/-- Encodes a row for one target after the other, until it cannot be encoded. -/
def Targets.encode (t : Targets) (row : Row) (b : Buffers) : Except EncodeError Unit × Buffers :=
  match encodeInto (t.file.map (·.encoder)) row b.file with
  | (.error e, file) => (.error e, { b with file })
  | (.ok (), file) =>
    let (ended, loader) := encodeInto (t.loader.map (·.encoder)) row b.loader
    (ended, ⟨file, loader⟩)

/-- Checks a row against the schema of the input and encodes it. -/
def Targets.accept (t : Targets) (input : Schema) (row : Row) (b : Buffers) :
    Except Fault Unit × Buffers :=
  match input.check row with
  | .error e => (.error (Fault.of .encoding "ROW_MISMATCH" e.message), b)
  | .ok () =>
    let (ended, b) := t.encode row b
    (ended.mapError EncodeError.fault, b)

/-- Writes the record of a row to the file, if there is one. -/
def Targets.writeFile (t : Targets) (record : Bytes) : Dialogue (Except (Interruption true) Unit) :=
  match t.file with
  | none => pure (.ok ())
  | some file => unlessStopping (.error (.stopped rfl)) (file.write true record)

/-- Writes the record of a row to the loader, if there is one. -/
def Targets.writeLoader (t : Targets) (record : Bytes) :
    Dialogue (Except (Interruption true) Unit × Targets) :=
  match t.loader with
  | none => pure (.ok (), t)
  | some loader => do
    let (written, session) ←
      unlessStopping (.error (.stopped rfl), loader.session) (loader.session.write true record)
    pure (written, { t with loader := some { loader with session } })

/-- Writes the records of a row, to the file first. -/
def Targets.write (t : Targets) (b : Buffers) :
    Dialogue (Except (Interruption true) Unit × Targets) := do
  match ← t.writeFile b.file with
  | .error i => pure (.error i, t)
  | .ok () => t.writeLoader b.loader

/-- What has become of the rows so far. -/
structure Pumped where
  outcome : Except (Interruption true) Unit
  counts : Counts
  targets : Targets

/-- The fault concerns one row, and such rows are skipped. -/
def Policy.skips (p : Policy) (fault : Fault) : Bool :=
  fault.scope == .row && p.onRowError == .skip

def nextRow : Dialogue (Host.Pause true) := unlessStopping (.stopped rfl) Request.pull.send

/-- Takes rows from the source until it ends, and writes them. -/
def pump (policy : Policy) (input : Schema) :
    List (Except Fault Row) → Counts → Buffers → Targets → Dialogue Pumped
  | [], counts, _, t => do
    match ← nextRow with
    | .stopped allowed => pure ⟨.error (.stopped allowed), counts, t⟩
    | .elapsed => pure ⟨.ok (), counts, t⟩
  | item :: rest, counts, b, t => do
    match ← nextRow with
    | .stopped allowed => pure ⟨.error (.stopped allowed), counts, t⟩
    | .elapsed =>
      match item with
      | .error fault => pure ⟨.error (.failed fault), counts, t⟩
      | .ok row =>
        let counts := { counts with read := counts.read + 1 }
        match t.accept input row b with
        -- What the row left in the buffers stays there; the next row is made in their place.
        | (.error fault, b) =>
          if policy.skips fault then
            pump policy input rest { counts with skipped := counts.skipped + 1 } b t
          else pure ⟨.error (.failed fault), counts, t⟩
        | (.ok (), b) =>
          match ← t.write b with
          | (.error i, t) => pure ⟨.error i, counts, t⟩
          | (.ok (), t) => pump policy input rest { counts with written := counts.written + 1 } b t

/-- What a run leaves when it comes through. -/
structure Products where
  files : List ResultFile := []
  sink : Option SinkReport := none

def finishFile (origin : String) (t : Targets) :
    Dialogue (Except Fault (List ResultFile) × Targets) :=
  match t.file with
  | none => pure (.ok [], t)
  | some file => do
    let (finished, file) ← file.finish
    pure (finished.map fun () => [⟨.general, file.path, origin⟩], { t with file := some file })

def finishLoader (t : Targets) : Dialogue (Except Fault (Option SinkReport) × Targets) :=
  match t.loader with
  | none => pure (.ok none, t)
  | some loader => do
    let (finished, session) ← loader.session.finish
    pure (finished.map some, { t with loader := some { loader with session } })

def finalize (origin : String) (t : Targets) : Dialogue (Except Fault Products × Targets) := do
  match ← finishFile origin t with
  | (.error fault, t) => pure (.error fault, t)
  | (.ok files, t) =>
    match ← finishLoader t with
    | (.error fault, t) => pure (.error fault, t)
    | (.ok sink, t) => pure (.ok ⟨files, sink⟩, t)

/-- Takes back what the file target has made. -/
def abortFile (t : Targets) : Dialogue Targets :=
  match t.file with
  | none => pure t
  | some file => do
    let file ← file.abort
    pure { t with file := some file }

/-- Takes back what the loader has made. -/
def abortLoader (t : Targets) : Dialogue Targets :=
  match t.loader with
  | none => pure t
  | some loader => do
    let session ← loader.session.abort
    pure { t with loader := some { loader with session } }

/-- Takes back what the targets have made. -/
def teardown (t : Targets) : Dialogue Targets := do abortLoader (← abortFile t)

/-- A result with the counts of a run. -/
def Counts.result (c : Counts) : Result :=
  { rowsRead := UInt64.ofNat c.read, rowsWritten := UInt64.ofNat c.written
    errors := UInt64.ofNat c.skipped }

/-- The result of a run that came through: rows that were skipped make it fail unless the policy
ignores them. -/
def finishedResult (policy : Policy) (c : Counts) (p : Products) : Result :=
  { c.result with
    files := p.files, sink := p.sink, succeeded := c.skipped == 0 || policy.ignoreErrors }

def interruptedResult (c : Counts) : Interruption true → Result
  | .stopped _ =>
    { c.result with cancelled := true, fault := some (Fault.stopped "step cancelled") }
  | .failed fault =>
    { c.result with errors := UInt64.ofNat (c.skipped + 1), fault := some fault }

/-- Takes back a run that was interrupted. -/
def takeBack (counts : Counts) (t : Targets) (i : Interruption true) :
    Dialogue (Result × Targets) := do
  let t ← teardown t
  pure (interruptedResult counts i, t)

/-- Finishes a run whose rows are through, and takes back one that is not. -/
def conclude (c : Config) (pumped : Pumped) : Dialogue (Result × Targets) :=
  match pumped.outcome with
  | .error i => takeBack pumped.counts pumped.targets i
  | .ok () => do
    match ← finalize c.identity.step pumped.targets with
    | (.ok products, t) => pure (finishedResult c.policy pumped.counts products, t)
    -- A file that is finished already is taken back with the loader that failed.
    | (.error fault, t) => takeBack pumped.counts t (.failed fault)

/-- Runs a step whose output file, if it has one, has been made. -/
def runWith (c : Config) (agreement : Agreement) (file : Option FileTarget)
    (items : List (Except Fault Row)) : Dialogue (Except Fault Result × Targets) := do
  match ← acquire c agreement.projection file with
  | (.ok (), t) =>
    let pumped ← pump c.policy agreement.input items {} {} t
    let (result, t) ← conclude c pumped
    pure (.ok result, t)
  | (.error i, t) =>
    -- What the configuration is to blame for is an error of the run, and no result.
    match i.configFault? with
    | some fault =>
      let t ← teardown t
      pure (.error fault, t)
    | none =>
      let (result, t) ← takeBack {} t i
      pure (.ok result, t)

/-- Makes the output file, if one is configured; a path that is taken may leave the step without
one. -/
def claimOutput (c : Config) (p : Projection) : Dialogue (Except Fault (Option FileTarget)) :=
  match c.output with
  | none => pure (.ok none)
  | some o => do
    match ← Output.claim o.path o.ifExists (← Request.localTime.send) with
    | .ok (.created path file) => pure (.ok (some ⟨path, some file, c.fileEncoder o p⟩))
    | .ok (.skipped _) => pure (.ok none)
    | .error fault => pure (.error fault)

/-- Carries out a step over rows; gives what it reports, and its targets as it left them. -/
def Plan.carryOut (plan : Plan) (input : Schema) (items : List (Except Fault Row)) :
    Dialogue (Except Fault Result × Targets) := do
  match plan.negotiate input with
  | .error fault => pure (.error fault, {})
  | .ok agreement =>
    match ← claimOutput plan.config agreement.projection with
    | .error fault =>
      if fault.category = .config then pure (.error fault, {})
      else pure (.ok { errors := 1, fault := some fault }, {})
    | .ok none =>
      -- Without any target no row is asked for.
      if plan.config.hasLoader then runWith plan.config agreement none items
      else pure (.ok { succeeded := true }, {})
    | .ok (some file) => runWith plan.config agreement (some file) items

/-- Runs a step over rows. A configuration that does not fit fails before any row is read; all else
is told by the result. -/
def Plan.run (plan : Plan) (input : Schema) (items : List (Except Fault Row)) :
    Dialogue (Except Fault Result) := do
  let (report, _) ← plan.carryOut input items
  pure report

end BulkLoad.Step
