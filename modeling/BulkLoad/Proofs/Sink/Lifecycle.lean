import BulkLoad.Proofs.Sink.History

/-!
The life of a session. In every state it owns exactly what that state says, and its pipe stands on
the disk exactly as long as the state says; a call moves it along the edges of one graph, is refused
and changes nothing, or fails and releases everything; and what is over stays as it is.
-/

namespace BulkLoad.Sink

/-- The ways from one state to another. -/
inductive State.Edge : State → State → Prop
  | provisioned : Edge .created .pipeReady
  | started : Edge .pipeReady .consumerRunning
  | openedAlone : Edge .pipeReady .draining
  | opened : Edge .consumerRunning .draining
  | closed : Edge .draining .closed
  | failed {state : State} (alive : state.isOver = false) : Edge state .failed

/-- Where an operation leads that is done. -/
def Operation.goal : Operation → State → State
  | provision, _ => .pipeReady
  | startConsumer _, _ => .consumerRunning
  | openWriter, _ | write _, _ => .draining
  | finish, _ => .closed
  | abort, state => if state.isOver then state else .failed

theorem Operation.code_ne {op : Operation} {code : String} (h : code ∈ op.codes) :
    code ≠ "SINK_STATE" ∧ code ≠ "SINK_NO_CHANNEL" ∧ code ≠ "SINK_NO_WRITER" := by
  have hall : ∀ c ∈ op.codes,
      c ≠ "SINK_STATE" ∧ c ≠ "SINK_NO_CHANNEL" ∧ c ≠ "SINK_NO_WRITER" := by
    cases op <;>
      simp [codes, Session.pipeCodes, Session.openCodes, Session.inputCodes]
  exact hall code h

theorem Operation.isOver_eq_false_of_fits {op : Operation} {state : State}
    (h : op.fits state = true) (hop : op ≠ .abort) : state.isOver = false := by
  cases op <;> cases state <;> first | rfl | exact (hop rfl).elim | cases h

namespace Session

open Host (Disk Entry Runs Trace)

variable {s s' start : Session} {op : Operation} {τ ρ : Trace} {r : Outcome} {calls : List Call}
  {step : String} {settings : Settings}

/-- A fault of a call: it did not fit, and nothing has changed; or everything is given up. -/
theorem Transition.fault_cases {f : Fault} (h : Transition s op τ (.error f) s') :
    (op.fits s.state = false ∧ f = s.stateFault op.word ∧ τ = [] ∧ s' = s) ∨
    (op.fits s.state = true ∧ f.code ∈ op.codes ∧ s' = s.emptied .failed ∧ Released s τ) := by
  cases h with
  | refused unfit => exact .inl ⟨unfit, rfl, rfl, rfl⟩
  | failed fits code released turns handed => exact .inr ⟨fits, code, rfl, released⟩

theorem Transition.fits_or_refused (h : Transition s op τ r s') :
    op.fits s.state = true ∨ (r = .error (s.stateFault op.word) ∧ s' = s ∧ τ = []) := by
  cases h with
  | refused unfit => exact .inr ⟨rfl, rfl, rfl⟩
  | spared ended => exact .inl rfl
  | provisioned state suits turns handed => exact .inl (Operation.fits_provision.2 state)
  | started process state => exact .inl ((Operation.fits_startConsumer _).2 state)
  | opened writer state seeks => exact .inl (Operation.fits_openWriter.2 state)
  | written state handed => exact .inl ((Operation.fits_write _).2 state)
  | finished report fits released turns handed => exact .inl fits
  | aborted alive released turns handed => exact .inl rfl
  | failed fits code released turns handed => exact .inl fits

theorem Transition.turns (h : Transition s op τ r s') : Turns s.pipePath? s'.pipePath? τ := by
  cases h with
  | refused unfit => exact turns_of_onDisk rfl
  | spared ended => exact turns_of_onDisk rfl
  | provisioned state suits turns handed => exact turns
  | started process state => exact turns_of_onDisk rfl
  | opened writer state seeks => exact turns_of_onDisk seeks.meets.onDisk
  | written state handed =>
    refine turns_of_onDisk ?_
    cases handed <;> rfl
  | finished report fits released turns handed => exact turns
  | aborted alive released turns handed => exact turns
  | failed fits code released turns handed => exact turns

/-- The disk behind a history holds the pipe that the session has. -/
theorem History.turns (h : History start calls τ s) (hs : Sound start) :
    Turns start.pipePath? s.pipePath? τ := by
  induction h with
  | start => exact turns_of_onDisk rfl
  | call before runs ih => exact ih.trans (transition_of_runs (before.sound hs) runs).turns

theorem History.faults (h : History start calls τ s) (hs : Sound start) :
    ∀ call ∈ calls, ∀ f, call.outcome = .error f →
      f.code ≠ "SINK_NO_CHANNEL" ∧ f.code ≠ "SINK_NO_WRITER" := by
  induction h with
  | start => exact nofun
  | call before runs ih =>
    intro call hcall f hf
    rcases List.mem_append.1 hcall with hcall | hcall
    · exact ih call hcall f hf
    · rw [List.mem_singleton.1 hcall] at hf
      cases hf
      rcases (transition_of_runs (before.sound hs) runs).fault_cases with
        ⟨-, rfl, -⟩ | ⟨-, hcode, -⟩
      · simp [stateFault, Fault.of]
      · exact (Operation.code_ne hcode).2

theorem turns_of_drop {u : Unit} (h : Runs s.drop ρ u) : Turns s.pipePath? none ρ := by
  obtain ⟨ρ₁, ρ₂, u, rfl, h₁, h₂⟩ := Host.runs_bind_iff.1 h
  rw [dropChannel_eq] at h₁
  refine (turns_of_removal (runs_removeChannel h₁).1).trans (turns_of_onDisk ?_)
  cases hc : s.consumer with
  | none =>
    simp only [hc] at h₂
    rw [← Trace.onDisk_notable, (mild_dropWriter _).notable_eq_nil h₂]
    rfl
  | some c =>
    simp only [hc] at h₂
    obtain ⟨u, ρ₃, rfl, h₃⟩ := Host.runs_send_bind_iff.1 h₂
    rw [← Trace.onDisk_notable]
    exact congrArg Trace.onDisk ((mild_dropWriter _).notable_eq_nil h₃)

theorem entries_of_laid {below : String → Option Entry} {path : String} {d : Disk}
    (h : Disk.Laid below none (some path) d) :
    below path = none ∧ d.entries = Function.update below path (some .pipe) := by
  refine ⟨h.pipe_free path rfl, ?_⟩
  rw [h.entries]
  funext q
  by_cases hq : path = q
  · simp [Disk.layout, hq]
  · simp [Disk.layout, hq, Function.update_of_ne (Ne.symm hq)]

/-- Whatever was called on a session, and whatever came of it, the session owns what its state says,
and no call found its channel or its write end missing. Its pipe, if it was to have one, stands on
the disk exactly in the states in between, and nothing else has changed there; once the session is
dropped the disk is as it was. -/
theorem History.owned (h : History (fresh step settings) calls τ s) :
    s.Owns ∧
    (∀ call ∈ calls, ∀ f, call.outcome = .error f →
      f.code ≠ "SINK_NO_CHANNEL" ∧ f.code ≠ "SINK_NO_WRITER") ∧
    ∀ d d' : Disk, d.Behind τ d' → τ.RemovalsSucceed →
      (∀ directory, settings.choice = .fifo directory → s.state.hasChannel = true →
        ∃ path, s.channel = some (.fifo path) ∧ d.entries path = none ∧
          d'.entries = Function.update d.entries path (some .pipe)) ∧
      (∀ capacity, settings.choice = .stdin capacity → d'.entries = d.entries) ∧
      (s.state.hasChannel = false → d'.entries = d.entries) ∧
      ∀ (ρ : Trace) (d'' : Disk), Runs s.drop ρ () → d'.Behind ρ d'' → ρ.RemovalsSucceed →
        d''.entries = d.entries := by
  have hfresh := sound_fresh step settings
  have hs := h.sound hfresh
  have hchannel := hs.hasChannel
  have hsettings : s.settings.choice = settings.choice := by rw [h.settings_eq hfresh, fresh]
  refine ⟨hs.owns, h.faults hfresh, fun d d' hb hr => ?_⟩
  have hlaid := h.turns hfresh d.entries d d' (Disk.laid_self d) hr hb
  have hnone : s.pipePath? = none → d'.entries = d.entries := by
    intro hpipe
    rw [hpipe] at hlaid
    exact hlaid.entries_eq
  refine ⟨fun directory hchoice hstate => ?_, fun capacity hchoice => hnone ?_,
    fun hstate => hnone ?_, fun ρ d'' hdrop hb' hr' => ?_⟩
  · rw [hstate] at hchannel
    obtain ⟨channel, hsome⟩ := Option.isSome_iff_exists.1 hchannel
    have hsuits := hs.suits channel hsome
    rw [hsettings, hchoice] at hsuits
    cases hsuits with
    | fifo _ path =>
      rw [pipePath?, hsome] at hlaid
      exact ⟨path, hsome, entries_of_laid hlaid⟩
  · cases hsome : s.channel with
    | none => simp [pipePath?, hsome]
    | some channel =>
      have hsuits := hs.suits channel hsome
      rw [hsettings, hchoice] at hsuits
      cases hsuits with
      | stdin _ capacity => simp [pipePath?, hsome, Channel.path?]
  · rw [hstate] at hchannel
    have hmissing : s.channel = none := by simpa using hchannel
    simp [pipePath?, hmissing]
  · exact (turns_of_drop hdrop d.entries d' d'' hlaid hr' hb').entries_eq

/-- A pipe in the directory for temporary files. -/
def pipeSettings : Settings := { choice := .fifo "/tmp" }

/-- The pipe of a session that is named after its step. -/
def loadPipe : String := pipePath "/tmp" "load" ⟨"7", "1"⟩

/-- The session that has made its pipe. -/
def piped : Session :=
  { fresh "load" pipeSettings with channel := some (.fifo loadPipe), state := .pipeReady }

def pipedTrace : Trace :=
  [⟨.uniqueName, (⟨"7", "1"⟩ : Host.UniqueName)⟩, ⟨.makePipe loadPipe, Host.PipeCreation.made⟩]

theorem history_piped :
    History (fresh "load" pipeSettings) [⟨.provision, .ok none⟩] pipedTrace piped := by
  have hpath : ¬loadPipe.toList.contains '\x00' = true := by decide +kernel
  have hmake : Runs (makePipe loadPipe) [⟨.makePipe loadPipe, Host.PipeCreation.made⟩] .made := by
    rw [makePipe, if_neg hpath, Host.runs_send_iff]
  have hruns : Runs (fresh "load" pipeSettings).provision pipedTrace (.ok (), piped) :=
    Host.runs_send_bind_iff.2 ⟨_, _, rfl, Host.runs_bind_iff.2 ⟨_, [], _, rfl, hmake, .done _⟩⟩
  exact .call .start (runs_told_iff.2 ⟨_, hruns, rfl⟩)

theorem owned_piped :
    ∃ d d' : Disk, d.Behind pipedTrace d' ∧ pipedTrace.RemovalsSucceed ∧
      History (fresh "load" pipeSettings) [⟨.provision, .ok none⟩] pipedTrace piped ∧
      piped.Owns ∧ d'.entries = Function.update d.entries loadPipe (some .pipe) := by
  let d : Disk := ⟨fun _ => none, fun _ => none⟩
  have hbehind : d.Behind pipedTrace (d.put loadPipe (some .pipe)) :=
    .cons (.unchanged rfl) (.cons (.piped rfl) (.nil _))
  have hsucceed : pipedTrace.RemovalsSucceed := by
    intro x hx
    simp only [pipedTrace, List.mem_cons, List.not_mem_nil, or_false] at hx
    rcases hx with rfl | rfl <;> rfl
  obtain ⟨howns, -, hdisk⟩ := History.owned history_piped
  obtain ⟨path, hpath, -, hentries⟩ := (hdisk d _ hbehind hsucceed).1 "/tmp" rfl rfl
  cases hpath
  exact ⟨d, _, hbehind, hsucceed, history_piped, howns, hentries⟩

/-- A call that is done leads where its operation leads. -/
theorem Transition.goal_eq {report : Option Step.SinkReport}
    (h : Transition s op τ (.ok report) s') : s'.state = op.goal s.state := by
  cases h with
  | spared ended => simp [Operation.goal, ended]
  | provisioned state suits turns handed => rfl
  | started process state => rfl
  | opened writer state seeks => rfl
  | written state handed => exact state
  | finished report fits released turns handed => rfl
  | aborted alive released turns handed => simp [Operation.goal, alive, emptied]

theorem Transition.edge (h : Transition s op τ r s') :
    s'.state = s.state ∨ s.state.Edge s'.state ∨
      (op = .finish ∧ s.state = .consumerRunning ∧ s.state.Edge .draining ∧
        State.draining.Edge s'.state) := by
  cases h with
  | refused unfit => exact .inl rfl
  | spared ended => exact .inl rfl
  | provisioned state suits turns handed =>
    rw [state]
    exact .inr (.inl .provisioned)
  | started process state =>
    rw [state]
    exact .inr (.inl .started)
  | opened writer state seeks =>
    rcases state with state | state <;> rw [state]
    · exact .inr (.inl .openedAlone)
    · exact .inr (.inl .opened)
  | written state handed => exact .inl rfl
  | finished report fits released turns handed =>
    rcases Operation.fits_finish.1 fits with state | state <;> rw [state]
    · exact .inr (.inl .closed)
    · exact .inr (.inr ⟨rfl, rfl, .opened, .closed⟩)
  | aborted alive released turns handed => exact .inr (.inl (.failed alive))
  | @failed op τ fault fits code released turns handed =>
    by_cases hop : op = .abort
    · rw [hop] at code
      cases code
    · exact .inr (.inl (.failed (Operation.isOver_eq_false_of_fits fits hop)))

theorem Transition.over (h : Transition s op τ r s') (hover : s.state.isOver = true) :
    s' = s ∧ τ = [] := by
  -- Only a call to give up fits a session that is over, and that does nothing.
  rcases h.fits_or_refused with hfits | ⟨-, hsame⟩
  · by_cases hop : op = .abort
    · subst hop
      cases h with
      | refused unfit => exact ⟨rfl, rfl⟩
      | spared ended => exact ⟨rfl, rfl⟩
      | aborted alive released turns handed =>
        rw [alive] at hover
        cases hover
      | failed fits code released turns handed => cases code
    · rw [Operation.isOver_eq_false_of_fits hfits hop] at hover
      cases hover
  · exact hsame

theorem History.over (h : History start calls τ s) (hs : Sound start)
    (hover : start.state.isOver = true) : s = start ∧ τ = [] := by
  induction h with
  | start => exact ⟨rfl, rfl⟩
  | call before runs ih =>
    obtain ⟨rfl, rfl⟩ := ih
    obtain ⟨rfl, rfl⟩ := (transition_of_runs hs runs).over hover
    exact ⟨rfl, rfl⟩

/-- In every state that a session comes to, whatever is called and whatever the host answers: the
state moves along the edges of its graph, and a call that is done leads where it should; a call that
does not fit is refused and changes nothing; every other fault leaves the session failed, with all
that it owned released; and a session that is over stays as it is, whatever is called on it from
then on. -/
theorem History.proceeds (h : History (fresh step settings) calls τ s)
    (runs : Runs (s.perform op) ρ (r, s')) :
    (s'.state = s.state ∨ s.state.Edge s'.state ∨
      (op = .finish ∧ s.state = .consumerRunning ∧ s.state.Edge .draining ∧
        State.draining.Edge s'.state)) ∧
    (∀ report, r = .ok report → s'.state = op.goal s.state) ∧
    (op.fits s.state = false →
      ∃ f, r = .error f ∧ f.code = "SINK_STATE" ∧ s' = s ∧ ρ = []) ∧
    (op.fits s.state = true → ∀ f, r = .error f →
      f.code ≠ "SINK_STATE" ∧ s' = s.emptied .failed ∧ Released s ρ) ∧
    (s.state.isOver = true →
      ∀ later ρ' s'', History s later ρ' s'' → s'' = s ∧ ρ' = []) := by
  have hs := h.sound (sound_fresh step settings)
  have htransition := transition_of_runs hs runs
  refine ⟨htransition.edge, fun report hr => ?_, fun hfits => ?_, fun hfits f hf => ?_,
    fun hover later ρ' s'' hlater => hlater.over hs hover⟩
  · rw [hr] at htransition
    exact htransition.goal_eq
  · rcases htransition.fits_or_refused with hfits' | ⟨hr, hsame⟩
    · rw [hfits] at hfits'
      cases hfits'
    · exact ⟨_, hr, rfl, hsame⟩
  · rw [hf] at htransition
    rcases htransition.fault_cases with ⟨hunfit, -⟩ | ⟨-, hcode, rfl, hreleased⟩
    · rw [hfits] at hunfit
      cases hunfit
    · exact ⟨(Operation.code_ne hcode).1, rfl, hreleased⟩

theorem proceeds_unstarted :
    ∃ f, Runs (piped.perform (.startConsumer { program := "load" }))
        [⟨.start { program := "load" } false, .error "not found"⟩, ⟨.remove loadPipe, .ok ()⟩]
        (.error f, piped.emptied .failed) ∧
      f.code = "CONSUMER_SPAWN" ∧
      Released piped
        [⟨.start { program := "load" } false, .error "not found"⟩, ⟨.remove loadPipe, .ok ()⟩] := by
  have hruns : ∃ f, Runs (piped.perform (.startConsumer { program := "load" }))
      [⟨.start { program := "load" } false, .error "not found"⟩, ⟨.remove loadPipe, .ok ()⟩]
      (.error f, piped.emptied .failed) ∧ f.code = "CONSUMER_SPAWN" :=
    ⟨_, .ask _ (.ask _ (.done _)), rfl⟩
  obtain ⟨f, hruns, hcode⟩ := hruns
  obtain ⟨-, -, -, hfailed, -⟩ := History.proceeds history_piped hruns
  obtain ⟨-, -, hreleased⟩ := hfailed rfl f rfl
  exact ⟨f, hruns, hcode, hreleased⟩

end Session
end BulkLoad.Sink
