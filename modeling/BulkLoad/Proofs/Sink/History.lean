import BulkLoad.Proofs.Sink.Verdict

/-!
Histories of a session: operations called one after the other, in any order and any number of times,
with whatever the host answers. One relation says all that a call may do to a session; what every
session that has a history owns follows from it call by call.
-/

namespace BulkLoad.Sink

/-- The states in which a session has a channel. -/
def State.hasChannel : State → Bool
  | pipeReady | consumerRunning | draining => true
  | _ => false

/-! ### Operations -/

/-- What may be called on a session. -/
inductive Operation where
  | provision
  | startConsumer (command : Command)
  | openWriter
  | write (record : Bytes)
  | finish
  | abort

namespace Operation

/-- The states that an operation fits. -/
def fits : Operation → State → Bool
  | provision, .created => true
  | startConsumer _, .pipeReady => true
  | openWriter, .pipeReady | openWriter, .consumerRunning => true
  | write _, .draining => true
  | finish, .consumerRunning | finish, .draining => true
  | abort, _ => true
  | _, _ => false

/-- What an operation is called by the fault of a call that does not fit. -/
def word : Operation → String
  | provision => "provision channel"
  | startConsumer _ => "start consumer"
  | openWriter => "open writer"
  | write _ => "write"
  | finish => "finish"
  | abort => "abort"

/-- The codes of the faults of calls that fit and fail. -/
def codes : Operation → List String
  | provision => Session.pipeCodes
  | startConsumer _ => ["CONSUMER_SPAWN"]
  | openWriter => Session.openCodes
  | write _ => ["PIPE_WRITE"]
  | finish =>
    Session.inputCodes ++ ["CONSUMER_EXIT_TIMEOUT", "CONSUMER_WAIT", "CONSUMER_EXIT"]
  | abort => []

/-- What a call that fails may have handed on in part. -/
def parcels : Operation → List Host.Parcel
  | write record => [⟨.channel, record, false, false⟩]
  | _ => []

variable {state : State}

theorem fits_provision : provision.fits state = true ↔ state = .created := by
  cases state <;> simp [fits]

theorem fits_startConsumer (command : Command) :
    (startConsumer command).fits state = true ↔ state = .pipeReady := by
  cases state <;> simp [fits]

theorem fits_openWriter :
    openWriter.fits state = true ↔ state = .pipeReady ∨ state = .consumerRunning := by
  cases state <;> simp [fits]

theorem fits_write (record : Bytes) : (write record).fits state = true ↔ state = .draining := by
  cases state <;> simp [fits]

theorem fits_finish : finish.fits state = true ↔ state = .draining ∨ state = .consumerRunning := by
  cases state <;> simp [fits]

end Operation

/-- What a call comes to: a fault, or nothing more to say, or the report of a session that is
finished. -/
abbrev Outcome := Except Fault (Option Step.SinkReport)

namespace Session

open Host (Dialogue Disk Handle Runs Trace)

/-- A dialogue with the outcome that its value tells. -/
def told {α : Type} (f : α → Outcome) (d : Dialogue (α × Session)) :
    Dialogue (Outcome × Session) := do
  let (a, s) ← d
  pure (f a, s)

/-- The outcome of an operation that only a fault cuts short. -/
def outcome : Except (Interruption false) Unit → Outcome
  | .ok () => .ok none
  | .error (.failed fault) => .error fault

/-- Calls an operation. -/
def perform (s : Session) : Operation → Dialogue (Outcome × Session)
  | .provision => told (fun r => r.map fun _ => none) s.provision
  | .startConsumer command => told (fun r => r.map fun _ => none) (s.startConsumer command)
  | .openWriter => told outcome (s.openWriter false)
  | .write record => told outcome (s.write false record)
  | .finish => told (fun r => r.map some) s.finish
  | .abort => do
    let s ← s.abort
    pure (.ok none, s)

/-! ### Histories, and what a session with a history owns -/

/-- A call and what it came to. -/
structure Call where
  operation : Operation
  outcome : Outcome

/-- A session as it is made. -/
def fresh (step : String) (settings : Settings) : Session := { step, settings }

/-- The session behind calls on another, and the exchanges that they took. -/
inductive History (start : Session) : List Call → Trace → Session → Prop
  | start : History start [] [] start
  | call {calls : List Call} {τ ρ : Trace} {s s' : Session} {r : Outcome} {operation : Operation}
      (before : History start calls τ s) (runs : Runs (s.perform operation) ρ (r, s')) :
      History start (calls ++ [⟨operation, r⟩]) (τ ++ ρ) s'

/-- What a session owns is what its state says. -/
def Owns (s : Session) : Prop :=
  match s.state with
  | .created => s.channel = none ∧ s.consumer = none ∧ s.writer = none
  | .pipeReady => s.channel.isSome = true ∧ s.consumer = none ∧ s.writer = none
  | .consumerRunning => s.channel.isSome = true ∧ s.consumer.isSome = true ∧ s.writer = none
  | .draining => s.channel.isSome = true ∧ s.writer.isSome = true
  | .closed | .failed => s.channel = none ∧ s.consumer = none ∧ s.writer = none

/-- The channel is of the kind that was chosen. -/
inductive Suits : ChannelChoice → Channel → Prop
  | fifo (directory path : String) : Suits (.fifo directory) (.fifo path)
  | stdin (chosen capacity : Nat) : Suits (.stdin chosen) (.stdin capacity)

/-- What holds of every session that has a history. -/
structure Sound (s : Session) : Prop where
  owns : s.Owns
  running : Running s.consumer
  suits : ∀ channel, s.channel = some channel → Suits s.settings.choice channel

namespace Sound

variable {s : Session}

theorem hasChannel (hs : Sound s) : s.channel.isSome = s.state.hasChannel := by
  have howns := hs.owns
  cases hstate : s.state <;> simp only [Owns, hstate] at howns <;>
    simp [howns.1, State.hasChannel]

theorem hasWriter (hs : Sound s) : s.writer.isSome = true ↔ s.state = .draining := by
  have howns := hs.owns
  cases hstate : s.state <;> simp only [Owns, hstate] at howns <;> simp [howns]

theorem writer_eq_none (hs : Sound s) (h : s.state ≠ .draining) : s.writer = none :=
  Option.not_isSome_iff_eq_none.1 (mt hs.hasWriter.1 h)

theorem channel_isSome (hs : Sound s) (h : s.state.hasChannel = true) :
    s.channel.isSome = true := by
  rw [hs.hasChannel, h]

end Sound

/-- One pipe stands in place of another behind the trace, on top of what stood there, so long as
what is to be removed can be. -/
def Turns (pipe pipe' : Option String) (τ : Trace) : Prop :=
  ∀ below d d', Disk.Laid below none pipe d → τ.RemovalsSucceed → d.Behind τ d' →
    Disk.Laid below none pipe' d'

theorem turns_of_unchanged {pipe : Option String} {τ : Trace}
    (h : ∀ x ∈ τ, x.changesDisk = false) : Turns pipe pipe τ := by
  intro below d d' hd hs hb
  clear hs
  induction hb with
  | nil d => exact hd
  | cons first _ ih =>
    obtain ⟨hx, hτ⟩ := List.forall_mem_cons.1 h
    rw [Disk.after_of_changesDisk_eq_false hx first] at ih
    exact ih hτ hd

theorem turns_of_onDisk {pipe : Option String} {τ : Trace} (h : τ.onDisk = []) :
    Turns pipe pipe τ :=
  turns_of_unchanged fun x hx => Disk.changesDisk_eq_false_of_isOnDisk (by
    simpa using List.filter_eq_nil_iff.1 h x hx)

theorem Turns.trans {p q r : Option String} {τ ρ : Trace} (h : Turns p q τ) (g : Turns q r ρ) :
    Turns p r (τ ++ ρ) := by
  intro below d d' hd hs hb
  obtain ⟨hsτ, hsρ⟩ := Trace.removalsSucceed_append.1 hs
  obtain ⟨d₁, hτ, hρ⟩ := Disk.behind_append_iff.1 hb
  exact g below d₁ d' (h below d d₁ hd hsτ hτ) hsρ hρ

theorem turns_of_removal {channel : Option Channel} {τ : Trace} (h : Removal channel τ.notable) :
    Turns (channel.bind Channel.path?) none τ := by
  intro below d d' hd hs hb
  exact (h.onDisk.laid hd hs.onDisk (Disk.behind_onDisk hb)).1

/-! ### Calls as transitions -/

/-- All that a call may do to a session that has a history. -/
inductive Transition (s : Session) : Operation → Trace → Outcome → Session → Prop
  | refused {op : Operation} (unfit : op.fits s.state = false) :
      Transition s op [] (.error (s.stateFault op.word)) s
  | spared (ended : s.state.isOver = true) : Transition s .abort [] (.ok none) s
  | provisioned {τ : Trace} {channel : Channel} (state : s.state = .created)
      (suits : Suits s.settings.choice channel) (turns : Turns s.pipePath? channel.path? τ)
      (handed : τ.parcels = []) :
      Transition s .provision τ (.ok none)
        { s with channel := some channel, state := .pipeReady }
  | started {command : Command} (process : Handle) (state : s.state = .pipeReady) :
      Transition s (.startConsumer command)
        [⟨.start command (s.channel.any Channel.isStdin), .ok process⟩] (.ok none)
        { s with consumer := some { process }, state := .consumerRunning }
  | opened {τ : Trace} (writer : Writer)
      (state : s.state = .pipeReady ∨ s.state = .consumerRunning) (seeks : τ.Seeks) :
      Transition s .openWriter τ (.ok none) { s with writer := some writer, state := .draining }
  | written {record : Bytes} {x : Host.Exchange} (state : s.state = .draining)
      (handed : Handed false record x .done) :
      Transition s (.write record) [x] (.ok none) (s.tallied 1 record.length)
  | finished {τ : Trace} (report : Step.SinkReport) (fits : Operation.finish.fits s.state = true)
      (released : Released s τ) (turns : Turns s.pipePath? none τ) (handed : τ.parcels = []) :
      Transition s .finish τ (.ok (some report)) (s.emptied .closed)
  | aborted {τ : Trace} (alive : s.state.isOver = false) (released : Released s τ)
      (turns : Turns s.pipePath? none τ) (handed : τ.parcels = []) :
      Transition s .abort τ (.ok none) (s.emptied .failed)
  | failed {op : Operation} {τ : Trace} {fault : Fault} (fits : op.fits s.state = true)
      (code : fault.code ∈ op.codes) (released : Released s τ) (turns : Turns s.pipePath? none τ)
      (handed : τ.parcels = op.parcels) : Transition s op τ (.error fault) (s.emptied .failed)

theorem runs_told_iff {α : Type} {f : α → Outcome} {d : Dialogue (α × Session)} {τ : Trace}
    {r : Outcome} {s' : Session} :
    Runs (told f d) τ (r, s') ↔ ∃ a, Runs d τ (a, s') ∧ r = f a := by
  constructor
  · intro h
    obtain ⟨τ₁, τ₂, ⟨a, s₁⟩, rfl, h₁, h₂⟩ := Host.runs_bind_iff.1 h
    obtain ⟨rfl, hv⟩ := Host.runs_pure_iff.1 h₂
    cases hv
    rw [List.append_nil]
    exact ⟨a, h₁, rfl⟩
  · rintro ⟨a, h, rfl⟩
    exact Host.runs_bind_iff.2 ⟨τ, [], (a, s'), (List.append_nil τ).symm, h, .done _⟩

variable {s s' : Session} {op : Operation} {τ : Trace} {r : Outcome}

/-- A removal behind a search for a reader is all that is done to the disk. -/
theorem removal_behind {channel : Option Channel} {μ ρ : Trace} (hμ : μ.Seeks)
    (h : Removal channel ρ.notable) :
    Turns (channel.bind Channel.path?) none (μ ++ ρ) ∧ (μ ++ ρ).parcels = [] := by
  refine ⟨(turns_of_onDisk hμ.meets.onDisk).trans (turns_of_removal h), ?_⟩
  rw [Trace.parcels_append, hμ.meets.parcels, h.still.parcels]
  rfl

theorem turns_of_made {name : Host.UniqueName} {path : String} :
    Turns none (some path)
      [⟨.uniqueName, name⟩, ⟨.makePipe path, Host.PipeCreation.made⟩] := by
  intro below d d' hd _ hb
  obtain ⟨d₁, hname, hb⟩ := Disk.behind_cons_iff.1 hb
  obtain ⟨d₂, hmade, hb⟩ := Disk.behind_cons_iff.1 hb
  rw [Disk.after_of_changesDisk_eq_false rfl hname] at hmade
  rw [Disk.behind_nil_iff.1 hb]
  exact (hd.piped hmade).1

theorem released_of_nothing (hchannel : s.channel = none) (hconsumer : s.consumer = none)
    (hwriter : s.writer = none) (hτ : τ.Unmet) : Released s τ := by
  refine ⟨by simp [hwriter], fun x hx w hopens => absurd hopens (not_opens_of_unmet hτ hx),
    by simp [hconsumer], ⟨none, ?_⟩, by simp [hconsumer], by simp [hchannel]⟩
  rw [hconsumer]
  exact .nobody τ

/-- A call that fits and fails gives everything up behind what it did until then. -/
theorem Transition.of_fail (op : Operation) {μ ρ : Trace} {fault : Fault} {i : Interruption false}
    (h : Runs (s.fail false fault) ρ (i, s')) (fits : op.fits s.state = true)
    (code : fault.code ∈ op.codes) (hc : Running s.consumer) (hunmet : μ.Unmet)
    (hdisk : μ.onDisk = []) (hparcels : μ.parcels = op.parcels) :
    ∃ f, i = .failed f ∧ Transition s op (μ ++ ρ) (.error f) s' := by
  have hremoval : Removal s.channel ρ.notable := by
    rcases fail_cases h with ⟨-, -, -, hr, -⟩ | ⟨allowed, -⟩
    · exact hr
    · cases allowed
  obtain ⟨said, rfl, -, rfl, hreleased⟩ := released_of_fail h hc
  refine ⟨_, rfl, .failed fits (by rwa [withStderr_code]) (hreleased.behind hunmet) ?_ ?_⟩
  · exact (turns_of_onDisk hdisk).trans (turns_of_removal hremoval)
  · rw [Trace.parcels_append, hremoval.still.parcels, hparcels, List.append_nil]

theorem Sound.decided (hs : Sound s) {r : Except Fault Step.SinkReport}
    (h : Finishing s τ r s') : Decided s τ r s' ∧ Released s τ := by
  have hchannel : s.state.hasChannel = true := by
    cases h with
    | draining state drained => rw [state, State.hasChannel]
    | opened state opened drained => rw [state, State.hasChannel]
    | unopened state unopened => rw [state, State.hasChannel]
  exact h.decided (hs.channel_isSome hchannel) hs.hasWriter.2
    (fun hstate => hs.writer_eq_none (by simp [hstate])) hs.running

section
variable (hs : Sound s)
include hs

theorem transition_of_provision {r : Except Fault Unit} (h : Runs s.provision τ (r, s')) :
    Transition s .provision τ (r.map fun _ => none) s' := by
  by_cases hstate : s.state = .created
  · have howns := hs.owns
    simp only [Owns, hstate] at howns
    obtain ⟨hchannel, hconsumer, hwriter⟩ := howns
    have hpipe : s.pipePath? = none := by simp [pipePath?, hchannel]
    cases provisioned_of_runs h hstate with
    | @stdin capacity choice =>
      refine .provisioned hstate ?_ ?_ rfl
      · rw [choice]
        exact .stdin _ _
      · rw [hpipe]
        exact turns_of_onDisk rfl
    | made name choice named =>
      refine .provisioned hstate ?_ ?_ rfl
      · rw [choice]
        exact .fifo _ _
      · rw [hpipe]
        exact turns_of_made
    | @unmade μ directory path name answer choice named nothing asked =>
      have hunmet : Trace.Unmet (⟨.uniqueName, name⟩ :: μ) := by
        rcases asked with rfl | rfl
        · exact Trace.unmet_singleton.2 rfl
        · exact Trace.unmet_cons.2 ⟨rfl, Trace.unmet_singleton.2 rfl⟩
      have hunchanged : ∀ x ∈ (⟨.uniqueName, name⟩ :: μ : Trace), x.changesDisk = false := by
        rcases asked with rfl | rfl
        · simp [Host.Exchange.changesDisk]
        · cases answer <;> simp_all [Host.Exchange.changesDisk, Host.PipeCreation.isMade]
      -- A session that has just been made fails without a cleanup: it has nothing to give up.
      have hs' : { s with state := .failed } = s.emptied .failed := by
        simp [emptied, hchannel, hconsumer, hwriter]
      rw [hs']
      refine .failed (Operation.fits_provision.2 hstate) (pipeFault_code path answer)
        (released_of_nothing hchannel hconsumer hwriter hunmet) ?_ ?_
      · rw [hpipe]
        exact turns_of_unchanged hunchanged
      · rcases asked with rfl | rfl <;> rfl
  · rw [provision, if_neg hstate] at h
    obtain ⟨rfl, hv⟩ := Host.runs_pure_iff.1 h
    cases hv
    exact .refused (Bool.eq_false_iff.2 (mt Operation.fits_provision.1 hstate))

theorem transition_of_startConsumer {command : Command} {r : Except Fault Unit}
    (h : Runs (s.startConsumer command) τ (r, s')) :
    Transition s (.startConsumer command) τ (r.map fun _ => none) s' := by
  by_cases hstate : s.state = .pipeReady
  · cases spawned_of_runs h hstate with
    | started process => exact .started process hstate
    | @failed message fault ρ r s' code fails =>
      obtain ⟨f, rfl, hfail⟩ := fail_of_failWith fails
      have hunmet : Trace.Unmet
          [⟨.start command (s.channel.any Channel.isStdin), .error message⟩] :=
        Trace.unmet_singleton.2 rfl
      obtain ⟨f', hf, htransition⟩ := Transition.of_fail (.startConsumer command) hfail
        ((Operation.fits_startConsumer command).2 hstate) (by simp [code, Operation.codes])
        hs.running hunmet rfl rfl
      cases hf
      exact htransition
  · rw [startConsumer, if_neg hstate] at h
    obtain ⟨rfl, hv⟩ := Host.runs_pure_iff.1 h
    cases hv
    exact .refused (Bool.eq_false_iff.2 (mt (Operation.fits_startConsumer command).1 hstate))

theorem transition_of_openWriter {r : Except (Interruption false) Unit}
    (h : Runs (s.openWriter false) τ (r, s')) : Transition s .openWriter τ (outcome r) s' := by
  by_cases hstate : s.state = .pipeReady ∨ s.state = .consumerRunning
  · have hchannel : s.channel.isSome = true :=
      hs.channel_isSome (by rcases hstate with hstate | hstate <;> rw [hstate, State.hasChannel])
    cases writerOpened_of_runs h hstate hs.running with
    | @opened μ x writer opens unmet seeks calm => exact .opened writer hstate seeks
    | @failed μ ρ fault i s' code unmet seeks calm fails =>
      obtain ⟨f, rfl, htransition⟩ := Transition.of_fail .openWriter fails
        (Operation.fits_openWriter.2 hstate) (code hchannel) hs.running unmet seeks.meets.onDisk
        seeks.meets.parcels
      exact htransition
    | stopped allowed unmet seeks => cases allowed
  · rw [openWriter, if_neg hstate] at h
    obtain ⟨rfl, hv⟩ := Host.runs_pure_iff.1 h
    cases hv
    exact .refused (Bool.eq_false_iff.2 (mt Operation.fits_openWriter.1 hstate))

theorem transition_of_write {record : Bytes} {r : Except (Interruption false) Unit}
    (h : Runs (s.write false record) τ (r, s')) :
    Transition s (.write record) τ (outcome r) s' := by
  by_cases hstate : s.state = .draining
  · cases wrote_of_runs h hstate (hs.hasWriter.2 hstate) with
    | done handed => exact .written hstate handed
    | @failed x message ρ i s' handed fails =>
      have hfacts : x.takesUp = false ∧ Trace.onDisk [x] = [] ∧
          Trace.parcels [x] = [⟨.channel, record, false, false⟩] := by
        cases handed <;> exact ⟨rfl, rfl, rfl⟩
      obtain ⟨hunmet, hdisk, hparcels⟩ := hfacts
      obtain ⟨f, rfl, htransition⟩ := Transition.of_fail (.write record) fails
        ((Operation.fits_write record).2 hstate) (by simp [writeFault, Fault.of, Operation.codes])
        hs.running (Trace.unmet_singleton.2 hunmet) hdisk hparcels
      exact htransition
    | stopped allowed handed => cases allowed
  · rw [write, if_neg hstate] at h
    obtain ⟨rfl, hv⟩ := Host.runs_pure_iff.1 h
    cases hv
    exact .refused (Bool.eq_false_iff.2 (mt (Operation.fits_write record).1 hstate))

theorem transition_of_finish {r : Except Fault Step.SinkReport} (h : Runs s.finish τ (r, s')) :
    Transition s .finish τ (r.map some) s' := by
  by_cases hstate : s.state = .draining ∨ s.state = .consumerRunning
  · have hfits := Operation.fits_finish.2 hstate
    have hfinishing := finishing_of_runs h hstate hs.running
    obtain ⟨hdecided, hreleased⟩ := hs.decided hfinishing
    obtain ⟨μ, ρ, rfl, hseeks, hremoval⟩ := hfinishing.removal
    obtain ⟨hturns, hparcels⟩ := removal_behind hseeks hremoval
    cases r with
    | ok report =>
      rcases hdecided with ⟨-, hjudged⟩ | ⟨-, f, hf, -⟩
      · obtain ⟨rfl, -⟩ := hjudged.closed report rfl
        exact .finished report hfits hreleased hturns hparcels
      · cases hf
    | error fault =>
      rcases hdecided with ⟨-, hjudged⟩ | ⟨-, f, hf, hcode, rfl⟩
      · obtain ⟨hcode, rfl⟩ := hjudged.failed fault rfl
        exact .failed hfits (List.mem_append_right _ hcode) hreleased hturns hparcels
      · cases hf
        exact .failed hfits (List.mem_append_left _ hcode) hreleased hturns hparcels
  · rw [finish, if_neg fun hr => hstate (.inr hr), drain, if_neg fun hd => hstate (.inl hd)] at h
    obtain ⟨rfl, hv⟩ := Host.runs_pure_iff.1 h
    cases hv
    exact .refused (Bool.eq_false_iff.2 (mt Operation.fits_finish.1 hstate))

theorem transition_of_abort (h : Runs s.abort τ s') : Transition s .abort τ (.ok none) s' := by
  rcases abort_cases h with ⟨hover, rfl, rfl⟩ | ⟨halive, rfl, hremoval, -⟩
  · exact .spared hover
  · rw [abort, if_neg (by simp [halive])] at h
    obtain ⟨τ₁, τ₂, ⟨w, s₁⟩, rfl, h₁, h₂⟩ := Host.runs_bind_iff.1 h
    obtain ⟨said, rfl, -, rfl, hreleased⟩ := released_of_cleanup h₁ hs.running
    obtain ⟨rfl, -⟩ := Host.runs_pure_iff.1 h₂
    rw [List.append_nil] at hremoval ⊢
    exact .aborted halive hreleased (turns_of_removal hremoval) hremoval.still.parcels

/-- Every call is one of the transitions. -/
theorem transition_of_runs (h : Runs (s.perform op) τ (r, s')) : Transition s op τ r s' := by
  cases op with
  | provision =>
    obtain ⟨a, h₁, rfl⟩ := runs_told_iff.1 h
    exact transition_of_provision hs h₁
  | startConsumer command =>
    obtain ⟨a, h₁, rfl⟩ := runs_told_iff.1 h
    exact transition_of_startConsumer hs h₁
  | openWriter =>
    obtain ⟨a, h₁, rfl⟩ := runs_told_iff.1 h
    exact transition_of_openWriter hs h₁
  | write record =>
    obtain ⟨a, h₁, rfl⟩ := runs_told_iff.1 h
    exact transition_of_write hs h₁
  | finish =>
    obtain ⟨a, h₁, rfl⟩ := runs_told_iff.1 h
    exact transition_of_finish hs h₁
  | abort =>
    obtain ⟨τ₁, τ₂, s₁, rfl, h₁, h₂⟩ := Host.runs_bind_iff.1 h
    obtain ⟨rfl, hv⟩ := Host.runs_pure_iff.1 h₂
    cases hv
    rw [List.append_nil]
    exact transition_of_abort hs h₁

end

/-! ### Every session with a history is sound -/

/-- A session that owns nothing is sound in any state that asks for nothing. -/
theorem sound_emptied {state : State} (h : state.isOver = true) : Sound (s.emptied state) := by
  refine ⟨?_, nofun, nofun⟩
  cases state <;> first | exact ⟨rfl, rfl, rfl⟩ | cases h

theorem Transition.sound (h : Transition s op τ r s') (hs : Sound s) : Sound s' := by
  have howns := hs.owns
  cases h with
  | refused unfit => exact hs
  | spared ended => exact hs
  | provisioned state suits turns handed =>
    simp only [Owns, state] at howns
    obtain ⟨-, hconsumer, hwriter⟩ := howns
    refine ⟨⟨rfl, hconsumer, hwriter⟩, hs.running, fun c hc => ?_⟩
    cases hc
    exact suits
  | started process state =>
    simp only [Owns, state] at howns
    obtain ⟨hchannel, -, hwriter⟩ := howns
    refine ⟨⟨hchannel, rfl, hwriter⟩, fun c hc => ?_, hs.suits⟩
    cases hc
    rfl
  | opened writer state seeks =>
    have hchannel : s.channel.isSome = true :=
      hs.channel_isSome (by rcases state with state | state <;> rw [state, State.hasChannel])
    exact ⟨⟨hchannel, rfl⟩, hs.running, hs.suits⟩
  | written state handed =>
    refine ⟨?_, hs.running, hs.suits⟩
    simp only [Owns, state, tallied] at howns ⊢
    exact howns
  | finished report fits released turns handed => exact sound_emptied rfl
  | aborted alive released turns handed => exact sound_emptied rfl
  | failed fits code released turns handed => exact sound_emptied rfl

theorem sound_fresh (step : String) (settings : Settings) : Sound (fresh step settings) :=
  ⟨⟨rfl, rfl, rfl⟩, nofun, nofun⟩

variable {start : Session} {calls : List Call}

theorem History.sound (h : History start calls τ s) (hs : Sound start) : Sound s := by
  induction h with
  | start => exact hs
  | call before runs ih => exact (transition_of_runs ih runs).sound ih

theorem Transition.settings_eq (h : Transition s op τ r s') : s'.settings = s.settings := by
  cases h <;> rfl

theorem History.settings_eq (h : History start calls τ s) (hs : Sound start) :
    s.settings = start.settings := by
  induction h with
  | start => rfl
  | call before runs ih =>
    rw [(transition_of_runs (before.sound hs) runs).settings_eq, ih]

end Session
end BulkLoad.Sink
