import BulkLoad.Proofs.Sink.Cleanup

/-!
What each operation of a session may come to: the session behind it, what was notable on the way,
and whether the program was told to stop.
-/

namespace BulkLoad.Sink.Session

open Host (Dialogue Keeps Mild Request Runs Seeking Trace)

theorem runs_makePipe {path : String} {t : Trace} {answer : Host.PipeCreation}
    (h : Runs (makePipe path) t answer) :
    (t = [] ∧ answer ≠ .made) ∨ t = [⟨.makePipe path, answer⟩] := by
  unfold makePipe at h
  by_cases hnul : path.toList.contains '\x00' = true
  · rw [if_pos hnul] at h
    obtain ⟨rfl, rfl⟩ := Host.runs_pure_iff.1 h
    exact .inl ⟨rfl, nofun⟩
  · rw [if_neg hnul] at h
    exact .inr (Host.runs_send_iff.1 h)

/-- The codes of the faults of a pipe that cannot be made. -/
def pipeCodes : List String :=
  ["PIPE_COLLISION", "PIPE_PERMISSION", "PIPE_CREATE", "UNSUPPORTED_PLATFORM"]

theorem pipeFault_code (path : String) (answer : Host.PipeCreation) :
    (pipeFault path answer).code ∈ pipeCodes := by
  cases answer <;> simp [pipeFault, Fault.of, pipeCodes]

/-- How a channel may come to be made: it needs nothing, or its pipe is made, or nothing is. -/
inductive Provisioned (s : Session) : Trace → Except Fault Unit → Session → Prop
  | stdin {capacity : Nat} (choice : s.settings.choice = .stdin capacity) :
      Provisioned s [] (.ok ())
        { s with channel := some (.stdin (max capacity 1)), state := .pipeReady }
  | made {directory path : String} (name : Host.UniqueName)
      (choice : s.settings.choice = .fifo directory)
      (named : path = pipePath directory s.step name) :
      Provisioned s [⟨.uniqueName, name⟩, ⟨.makePipe path, Host.PipeCreation.made⟩] (.ok ())
        { s with channel := some (.fifo path), state := .pipeReady }
  | unmade {μ : Trace} {directory path : String} (name : Host.UniqueName)
      (answer : Host.PipeCreation) (choice : s.settings.choice = .fifo directory)
      (named : path = pipePath directory s.step name) (nothing : answer ≠ .made)
      (asked : μ = [] ∨ μ = [⟨.makePipe path, answer⟩]) :
      Provisioned s (⟨.uniqueName, name⟩ :: μ) (.error (pipeFault path answer))
        { s with state := .failed }

theorem provisioned_of_runs {s s' : Session} {t : Trace} {r : Except Fault Unit}
    (h : Runs s.provision t (r, s')) (hs : s.state = .created) : Provisioned s t r s' := by
  rw [provision, if_pos hs] at h
  cases hc : s.settings.choice with
  | stdin capacity =>
    rw [hc] at h
    obtain ⟨rfl, hv⟩ := Host.runs_pure_iff.1 h
    cases hv
    exact .stdin hc
  | fifo directory =>
    rw [hc] at h
    obtain ⟨name, u, rfl, hu⟩ := Host.runs_send_bind_iff.1 h
    obtain ⟨t₁, t₂, answer, rfl, h₁, h₂⟩ := Host.runs_bind_iff.1 hu
    by_cases ha : answer = .made
    · subst ha
      obtain ⟨rfl, hv⟩ := Host.runs_pure_iff.1 h₂
      cases hv
      rcases runs_makePipe h₁ with ⟨-, hn⟩ | rfl
      · exact absurd rfl hn
      · exact .made name hc rfl
    · have hr : t₂ = [] ∧ r = .error (pipeFault (pipePath directory s.step name) answer) ∧
          s' = { s with state := .failed } := by
        cases answer with
        | made => exact absurd rfl ha
        | _ =>
          obtain ⟨rfl, hv⟩ := Host.runs_pure_iff.1 h₂
          cases hv
          exact ⟨rfl, rfl, rfl⟩
      obtain ⟨rfl, rfl, rfl⟩ := hr
      rw [List.append_nil]
      refine .unmade name answer hc rfl ha ?_
      rcases runs_makePipe h₁ with ⟨rfl, -⟩ | rfl
      · exact .inl rfl
      · exact .inr rfl

/-- Making the channel either leaves the session with a channel, and with the pipe made if it is
one, or ends it with nothing made. -/
theorem provision_cases {s s' : Session} {t : Trace} {r : Except Fault Unit}
    (h : Runs s.provision t (r, s')) (hs : s.state = .created) :
    t.Calm ∧
    ((∃ capacity, r = .ok () ∧ t.notable = [] ∧
        s' = { s with channel := some (.stdin capacity), state := .pipeReady }) ∨
      (∃ path, r = .ok () ∧ t.notable = [⟨.makePipe path, Host.PipeCreation.made⟩] ∧
        s' = { s with channel := some (.fifo path), state := .pipeReady }) ∨
      (∃ f, r = .error f ∧ s' = { s with state := .failed } ∧
        (t.notable = [] ∨ ∃ path answer, answer ≠ Host.PipeCreation.made ∧
          t.notable = [⟨.makePipe path, answer⟩]))) := by
  cases provisioned_of_runs h hs with
  | @stdin capacity choice => exact ⟨Trace.calm_nil, .inl ⟨max capacity 1, rfl, rfl, rfl⟩⟩
  | made name choice named =>
    exact ⟨Trace.calm_cons.2 ⟨rfl, Trace.calm_singleton.2 rfl⟩, .inr (.inl ⟨_, rfl, rfl, rfl⟩)⟩
  | unmade name answer choice named nothing asked =>
    rcases asked with rfl | rfl
    · exact ⟨Trace.calm_singleton.2 rfl, .inr (.inr ⟨_, rfl, rfl, .inl rfl⟩)⟩
    · exact ⟨Trace.calm_cons.2 ⟨rfl, Trace.calm_singleton.2 rfl⟩,
        .inr (.inr ⟨_, rfl, rfl, .inr ⟨_, answer, nothing, rfl⟩⟩)⟩

/-- How a consumer may come to be started: it runs, or the session fails. -/
inductive Spawned (s : Session) (command : Command) : Trace → Except Fault Unit → Session → Prop
  | started (process : Host.Handle) :
      Spawned s command [⟨.start command (s.channel.any Channel.isStdin), .ok process⟩] (.ok ())
        { s with consumer := some { process }, state := .consumerRunning }
  | failed {message : String} {fault : Fault} {ρ : Trace} {r : Except Fault Unit} {s' : Session}
      (code : fault.code = "CONSUMER_SPAWN") (fails : Runs (s.failWith fault) ρ (r, s')) :
      Spawned s command (⟨.start command (s.channel.any Channel.isStdin), .error message⟩ :: ρ) r s'

theorem spawned_of_runs {s s' : Session} {command : Command} {t : Trace} {r : Except Fault Unit}
    (h : Runs (s.startConsumer command) t (r, s')) (hs : s.state = .pipeReady) :
    Spawned s command t r s' := by
  rw [startConsumer, if_pos hs, Host.runs_send_bind_iff] at h
  obtain ⟨answer, u, rfl, hu⟩ := h
  cases answer with
  | ok process =>
    obtain ⟨rfl, hv⟩ := Host.runs_pure_iff.1 hu
    cases hv
    exact .started process
  | error message => exact .failed rfl hu

/-- Starting the consumer either leaves the session with it or ends the session. -/
theorem startConsumer_cases {s s' : Session} {command : Command} {t : Trace}
    {r : Except Fault Unit} (h : Runs (s.startConsumer command) t (r, s'))
    (hs : s.state = .pipeReady) :
    t.Calm ∧
    ((∃ process, r = .ok () ∧ t = [⟨.start command (s.channel.any Channel.isStdin), .ok process⟩] ∧
        s' = { s with consumer := some { process }, state := .consumerRunning }) ∨
      (∃ f, r = .error f ∧ s' = s.emptied .failed ∧ Removal s.channel t.notable)) := by
  cases spawned_of_runs h hs with
  | started process => exact ⟨Trace.calm_singleton.2 rfl, .inl ⟨process, rfl, rfl, rfl⟩⟩
  | failed code fails =>
    obtain ⟨f, rfl, rfl, hr, hc⟩ := failWith_cases fails
    exact ⟨Trace.calm_cons.2 ⟨rfl, hc⟩, .inr ⟨f, rfl, rfl, hr⟩⟩

section
variable {stoppable : Bool}

/-- An operation that was cut short. -/
def Halted {α : Type} (r : Except (Interruption stoppable) α) : Prop :=
  ∃ allowed, r = .error (.stopped allowed)

theorem keeps_lookAtConsumer {p : Request → Bool} (hp : ∀ process, p (.exitStatus process) = true)
    (consumer : Option Consumer) : Keeps p (fun _ => False) (lookAtConsumer consumer) := by
  cases consumer with
  | none => exact .pure _
  | some c =>
    refine (keeps_poll hp c).bind (fun polled => ?_) fun _ h => h.elim
    cases polled with
    | error message => exact .pure _
    | ok c =>
      cases hexit : c.exit with
      | some status =>
        simp only [hexit]
        exact .pure _
      | none =>
        simp only [hexit]
        exact .pure _

theorem seeking_openPipe (path : String) (timeout interval pauses : Nat)
    (consumer : Option Consumer) :
    Seeking (fun r => Halted r.1) (openPipe stoppable path timeout interval pauses consumer) := by
  induction pauses generalizing consumer with
  | zero =>
    unfold openPipe
    refine .send_bind rfl (fun _ => rfl) fun opening => ?_
    cases opening with
    | opened handle => exact .pure _
    | refused message => exact .pure _
    | noReader =>
      refine (keeps_lookAtConsumer (fun _ => rfl) consumer).bind (fun looked => ?_)
        fun _ h => h.elim
      cases looked with
      | error fault => exact .pure _
      | ok consumer => exact .pure _
  | succ pauses ih =>
    unfold openPipe
    refine .send_bind rfl (fun _ => rfl) fun opening => ?_
    cases opening with
    | opened handle => exact .pure _
    | refused message => exact .pure _
    | noReader =>
      refine (keeps_lookAtConsumer (fun _ => rfl) consumer).bind (fun looked => ?_)
        fun _ h => h.elim
      cases looked with
      | error fault => exact .pure _
      | ok consumer =>
        have hpause : Seeking (fun p => p.isStopped = true)
            (Request.pause stoppable interval).send :=
          Keeps.send (r := .pause stoppable interval) rfl fun _ h => h
        refine hpause.bind (fun pause => ?_) fun pause hp => ?_
        · cases pause with
          | elapsed => exact ih consumer
          | stopped allowed => exact .pure _
        · cases pause with
          | elapsed => cases hp
          | stopped allowed => exact Host.always_pure ⟨allowed, rfl⟩

theorem seeking_openChannel (s : Session) :
    Seeking (fun r => Halted r.1) (s.openChannel stoppable) := by
  unfold openChannel
  split
  · refine (seeking_openPipe _ _ _ _ _).bind (fun r => .pure _) ?_
    rintro ⟨r, consumer⟩ ⟨allowed, rfl⟩
    exact Host.always_pure ⟨allowed, rfl⟩
  · split
    · exact .send_bind rfl (fun _ => rfl) fun _ => .pure _
    · exact .pure _
  · exact .pure _

/-- The consumer, if there is one, is not known to have ended. -/
def Running (consumer : Option Consumer) : Prop := ∀ c, consumer = some c → c.exit = none

/-- A look at a consumer that was not known to have ended finds that out, or changes nothing. -/
theorem lookAtConsumer_cases {consumer : Option Consumer} {t : Trace}
    {looked : Except Fault (Option Consumer)} (h : Runs (lookAtConsumer consumer) t looked)
    (hc : Running consumer) :
    looked = .ok consumer ∨
      ∃ f, looked = .error f ∧ (f.code = "CONSUMER_EXITED" ∨ f.code = "CONSUMER_WAIT") := by
  cases consumer with
  | none =>
    obtain ⟨-, rfl⟩ := Host.runs_pure_iff.1 h
    exact .inl rfl
  | some c =>
    obtain ⟨process, exit⟩ := c
    obtain rfl : exit = none := hc _ rfl
    obtain ⟨t₁, t₂, polled, rfl, h₁, h₂⟩ := Host.runs_bind_iff.1 h
    obtain ⟨answer, t₃, rfl, h₃⟩ := Host.runs_send_bind_iff.1 h₁
    cases answer with
    | error message =>
      obtain ⟨-, rfl⟩ := Host.runs_pure_iff.1 h₃
      obtain ⟨-, rfl⟩ := Host.runs_pure_iff.1 h₂
      exact .inr ⟨_, rfl, .inr rfl⟩
    | ok exit =>
      obtain ⟨-, rfl⟩ := Host.runs_pure_iff.1 h₃
      cases exit with
      | some status =>
        obtain ⟨-, rfl⟩ := Host.runs_pure_iff.1 h₂
        exact .inr ⟨_, rfl, .inl rfl⟩
      | none =>
        obtain ⟨-, rfl⟩ := Host.runs_pure_iff.1 h₂
        exact .inl rfl

/-- The exchange opens a write end. -/
inductive Opens : Writer → Host.Exchange → Prop
  | pipe (path : String) (handle : Host.Handle) :
      Opens (.pipe handle) ⟨.openPipe path, Host.Opening.opened handle⟩
  | queue (process handle : Host.Handle) (capacity : Nat) :
      Opens (.queue handle) ⟨.openQueue process capacity, handle⟩

theorem Opens.takesUp {w : Writer} {x : Host.Exchange} (h : Opens w x) : x.takesUp = true := by
  cases h <;> rfl

/-- The codes of the faults of a channel that cannot be opened. -/
def openCodes : List String :=
  ["PIPE_OPEN", "CONSUMER_EXITED", "CONSUMER_WAIT", "PIPE_OPEN_TIMEOUT", "SINK_NO_CONSUMER"]

/-- The operation was cut short, or failed for want of a reader. -/
def Unopened (i : Interruption stoppable) : Prop := ∀ f, i = .failed f → f.code ∈ openCodes

theorem unopened_failed {f : Fault} (h : f.code ∈ openCodes) :
    Unopened (.failed f : Interruption stoppable) := by
  intro f' hf
  cases hf
  exact h

theorem unopened_stopped (allowed : stoppable = true) : Unopened (.stopped allowed) := nofun

section
variable {path : String} {timeout interval pauses : Nat} {consumer consumer' : Option Consumer}
  {t : Trace} {r : Except (Interruption stoppable) Host.Handle}

/-- An attempt at a pipe opens it, or fails with nobody there, or is followed by another. -/
theorem openPipe_step
    (h : Runs (openPipe stoppable path timeout interval pauses consumer) t (r, consumer'))
    (hc : Running consumer) :
    (∃ handle, r = .ok handle ∧ consumer' = consumer ∧
        t = [⟨.openPipe path, Host.Opening.opened handle⟩]) ∨
    (∃ i, r = .error i ∧ Unopened i ∧ consumer' = consumer ∧ t.Unmet) ∨
    ∃ rest, ∃ t₁ t₂ : Trace, pauses = rest + 1 ∧ t = t₁ ++ t₂ ∧ t₁.Unmet ∧
      Runs (openPipe stoppable path timeout interval rest consumer) t₂ (r, consumer') := by
  rw [openPipe] at h
  obtain ⟨opening, t, rfl, h₀⟩ := Host.runs_send_bind_iff.1 h
  cases opening with
  | opened handle =>
    obtain ⟨rfl, hv⟩ := Host.runs_pure_iff.1 h₀
    cases hv
    exact .inl ⟨handle, rfl, rfl, rfl⟩
  | refused message =>
    obtain ⟨rfl, hv⟩ := Host.runs_pure_iff.1 h₀
    cases hv
    exact .inr (.inl ⟨_, rfl, unopened_failed (.head _), rfl, Trace.unmet_singleton.2 rfl⟩)
  | noReader =>
    obtain ⟨t₁, t₂, looked, rfl, h₁, h₂⟩ := Host.runs_bind_iff.1 h₀
    have hlook := keeps_lookAtConsumer (p := Request.isMild) (fun _ => rfl) consumer
    have hunmet : Trace.Unmet (⟨.openPipe path, Host.Opening.noReader⟩ :: t₁) :=
      Trace.unmet_cons.2 ⟨rfl, (hlook.still h₁).unmet⟩
    rcases lookAtConsumer_cases h₁ hc with rfl | ⟨f, rfl, hcode⟩
    · cases pauses with
      | zero =>
        obtain ⟨rfl, hv⟩ := Host.runs_pure_iff.1 h₂
        cases hv
        rw [List.append_nil]
        exact .inr (.inl ⟨_, rfl, unopened_failed (by simp [noReaderFault, Fault.of, openCodes]),
          rfl, hunmet⟩)
      | succ rest =>
        obtain ⟨pause, t₃, rfl, h₃⟩ := Host.runs_send_bind_iff.1 h₂
        cases pause with
        | stopped allowed =>
          obtain ⟨rfl, hv⟩ := Host.runs_pure_iff.1 h₃
          cases hv
          refine .inr (.inl ⟨_, rfl, unopened_stopped allowed, rfl, ?_⟩)
          rw [← List.cons_append]
          exact Trace.unmet_append.2 ⟨hunmet, Trace.unmet_singleton.2 rfl⟩
        | elapsed =>
          refine .inr (.inr ⟨rest, (⟨.openPipe path, Host.Opening.noReader⟩ :: t₁) ++
            [⟨.pause stoppable interval, Host.Pause.elapsed⟩], t₃, rfl, by simp, ?_, h₃⟩)
          exact Trace.unmet_append.2 ⟨hunmet, Trace.unmet_singleton.2 rfl⟩
    · obtain ⟨rfl, hv⟩ := Host.runs_pure_iff.1 h₂
      cases hv
      rw [List.append_nil]
      refine .inr (.inl ⟨_, rfl, unopened_failed ?_, rfl, hunmet⟩)
      rcases hcode with hcode | hcode <;> simp [hcode, openCodes]

/-- A pipe is opened by the last exchange, or by none; the consumer stays as it was. -/
theorem openPipe_cases
    (h : Runs (openPipe stoppable path timeout interval pauses consumer) t (r, consumer'))
    (hc : Running consumer) :
    consumer' = consumer ∧
    ((∃ handle, ∃ μ : Trace, r = .ok handle ∧ μ.Unmet ∧
        t = μ ++ [⟨.openPipe path, Host.Opening.opened handle⟩]) ∨
      ∃ i, r = .error i ∧ Unopened i ∧ t.Unmet) := by
  -- The pauses that are left bound the attempts.
  induction pauses generalizing t with
  | zero =>
    rcases openPipe_step h hc with ⟨handle, rfl, rfl, rfl⟩ | ⟨i, rfl, hi, rfl, hunmet⟩ |
      ⟨rest, -, -, hrest, -⟩
    · exact ⟨rfl, .inl ⟨handle, [], rfl, Trace.unmet_nil, rfl⟩⟩
    · exact ⟨rfl, .inr ⟨i, rfl, hi, hunmet⟩⟩
    · cases hrest
  | succ pauses ih =>
    rcases openPipe_step h hc with ⟨handle, rfl, rfl, rfl⟩ | ⟨i, rfl, hi, rfl, hunmet⟩ |
      ⟨rest, t₁, t₂, hrest, rfl, hunmet, hnext⟩
    · exact ⟨rfl, .inl ⟨handle, [], rfl, Trace.unmet_nil, rfl⟩⟩
    · exact ⟨rfl, .inr ⟨i, rfl, hi, hunmet⟩⟩
    · cases hrest
      obtain ⟨rfl, ⟨handle, μ, rfl, hμ, rfl⟩ | ⟨i, rfl, hi, hunmet₂⟩⟩ := ih hnext
      · exact ⟨rfl, .inl ⟨handle, t₁ ++ μ, rfl, Trace.unmet_append.2 ⟨hunmet, hμ⟩,
          (List.append_assoc ..).symm⟩⟩
      · exact ⟨rfl, .inr ⟨i, rfl, hi, Trace.unmet_append.2 ⟨hunmet, hunmet₂⟩⟩⟩

end

/-- The write end is opened by the last exchange, or by none; the consumer stays as it was. -/
theorem openChannel_cases {s : Session} {t : Trace}
    {r : Except (Interruption stoppable) Writer} {consumer : Option Consumer}
    (h : Runs (s.openChannel stoppable) t (r, consumer)) (hc : Running s.consumer) :
    consumer = s.consumer ∧
    ((∃ writer x, ∃ μ : Trace, r = .ok writer ∧ μ.Unmet ∧ Opens writer x ∧ t = μ ++ [x]) ∨
      ∃ i, r = .error i ∧ (s.channel.isSome = true → Unopened i) ∧ t.Unmet) := by
  unfold openChannel at h
  split at h
  · rename_i path _
    obtain ⟨t₁, t₂, ⟨opened, consumer'⟩, rfl, h₁, h₂⟩ := Host.runs_bind_iff.1 h
    obtain ⟨rfl, hv⟩ := Host.runs_pure_iff.1 h₂
    cases hv
    rw [List.append_nil]
    obtain ⟨rfl, ⟨handle, μ, rfl, hμ, rfl⟩ | ⟨i, rfl, hi, hunmet⟩⟩ := openPipe_cases h₁ hc
    · exact ⟨rfl, .inl ⟨.pipe handle, _, μ, rfl, hμ, .pipe path handle, rfl⟩⟩
    · exact ⟨rfl, .inr ⟨i, rfl, fun _ => hi, hunmet⟩⟩
  · rename_i capacity _
    split at h
    · rename_i c _
      obtain ⟨handle, t₁, rfl, h₁⟩ := Host.runs_send_bind_iff.1 h
      obtain ⟨rfl, hv⟩ := Host.runs_pure_iff.1 h₁
      cases hv
      exact ⟨rfl, .inl ⟨.queue handle, _, [], rfl, Trace.unmet_nil,
        .queue c.process handle capacity, rfl⟩⟩
    · rename_i hnone
      obtain ⟨rfl, hv⟩ := Host.runs_pure_iff.1 h
      cases hv
      refine ⟨hnone.symm, .inr ⟨_, rfl, fun _ => unopened_failed ?_, Trace.unmet_nil⟩⟩
      simp [Fault.of, openCodes]
  · rename_i hnone
    obtain ⟨rfl, hv⟩ := Host.runs_pure_iff.1 h
    cases hv
    exact ⟨rfl, .inr ⟨_, rfl, by simp [hnone], Trace.unmet_nil⟩⟩

/-- How the write end may come to be opened: by the last exchange, or not at all, and then the
session fails or is left as it is. Nobody takes up a channel that is not opened. -/
inductive WriterOpened (stoppable : Bool) (s : Session) :
    Trace → Except (Interruption stoppable) Unit → Session → Prop
  | opened {μ : Trace} {x : Host.Exchange} {writer : Writer} (opens : Opens writer x)
      (unmet : μ.Unmet) (seeks : Trace.Seeks (μ ++ [x])) (calm : Trace.Calm (μ ++ [x])) :
      WriterOpened stoppable s (μ ++ [x]) (.ok ())
        { s with writer := some writer, state := .draining }
  | failed {μ ρ : Trace} {fault : Fault} {i : Interruption stoppable} {s' : Session}
      (code : s.channel.isSome = true → fault.code ∈ openCodes) (unmet : μ.Unmet) (seeks : μ.Seeks)
      (calm : μ.Calm) (fails : Runs (s.fail stoppable fault) ρ (i, s')) :
      WriterOpened stoppable s (μ ++ ρ) (.error i) s'
  | stopped {μ : Trace} (allowed : stoppable = true) (unmet : μ.Unmet) (seeks : μ.Seeks) :
      WriterOpened stoppable s μ (.error (.stopped allowed)) s

theorem writerOpened_of_runs {s s' : Session} {t : Trace} {r : Except (Interruption stoppable) Unit}
    (h : Runs (s.openWriter stoppable) t (r, s'))
    (hs : s.state = .pipeReady ∨ s.state = .consumerRunning) (hrunning : Running s.consumer) :
    WriterOpened stoppable s t r s' := by
  rw [openWriter, if_pos hs, Host.runs_bind_iff] at h
  obtain ⟨t₁, t₂, ⟨opened, consumer⟩, rfl, h₁, h₂⟩ := h
  have hseeks := (seeking_openChannel s).seeks h₁
  have hcalm := (seeking_openChannel s).calm h₁
  obtain ⟨rfl, ⟨writer, x, μ, rfl, hunmet, hopens, rfl⟩ | ⟨i, rfl, hi, hunmet⟩⟩ :=
    openChannel_cases h₁ hrunning
  · obtain ⟨rfl, hv⟩ := Host.runs_pure_iff.1 h₂
    cases hv
    rw [List.append_nil]
    exact .opened hopens hunmet hseeks (hcalm (by simp [Halted]))
  · cases i with
    | failed fault =>
      obtain ⟨t₃, t₄, ⟨i, s₁⟩, rfl, h₃, h₄⟩ := Host.runs_bind_iff.1 h₂
      obtain ⟨rfl, hv⟩ := Host.runs_pure_iff.1 h₄
      cases hv
      rw [List.append_nil]
      exact .failed (fun hchannel => hi hchannel fault rfl) hunmet hseeks
        (hcalm (by simp [Halted])) h₃
    | stopped allowed =>
      obtain ⟨rfl, hv⟩ := Host.runs_pure_iff.1 h₂
      cases hv
      rw [List.append_nil]
      exact .stopped allowed hunmet hseeks

/-- Opening the write end either succeeds, or ends the session, or is cut short with the channel
left to the session. Nobody takes up a channel that is not opened. -/
theorem openWriter_cases {s s' : Session} {t : Trace} {r : Except (Interruption stoppable) Unit}
    (h : Runs (s.openWriter stoppable) t (r, s'))
    (hs : s.state = .pipeReady ∨ s.state = .consumerRunning) (hrunning : Running s.consumer) :
    (∃ writer, r = .ok () ∧ t.Meets ∧ t.Calm ∧
      s' = { s with writer := some writer, state := .draining }) ∨
    (∃ f, ∃ μ ρ : Trace, r = .error (.failed f) ∧ t = μ ++ ρ ∧ s' = s.emptied .failed ∧ μ.Meets ∧
      μ.Unmet ∧ Removal s.channel ρ.notable ∧ t.Calm) ∨
    (∃ allowed consumer writer, r = .error (.stopped allowed) ∧ t.Meets ∧ t.Unmet ∧
      s' = { s with consumer, writer }) := by
  cases writerOpened_of_runs h hs hrunning with
  | @opened μ x writer opens unmet seeks calm => exact .inl ⟨writer, rfl, seeks.meets, calm, rfl⟩
  | @failed μ ρ fault i s' code unmet seeks calm fails =>
    rcases fail_cases fails with ⟨f, rfl, rfl, hr, hcalm⟩ | ⟨allowed, rfl, rfl, hnil⟩
    · exact .inr (.inl ⟨f, μ, ρ, rfl, rfl, rfl, seeks.meets, unmet, hr,
        Trace.calm_append.2 ⟨calm, hcalm⟩⟩)
    -- The fault is lost here: told to stop while it cleans up, the session leaves its channel.
    · refine .inr (.inr ⟨allowed, none, none, rfl, ?_, ?_, rfl⟩)
      · exact Trace.meets_append.2 ⟨seeks.meets, Trace.meets_of_notable_eq_nil hnil⟩
      · exact Trace.unmet_append.2 ⟨unmet, (Trace.still_of_notable_eq_nil hnil).unmet⟩
  | stopped allowed unmet seeks =>
    exact .inr (.inr ⟨allowed, s.consumer, s.writer, rfl, seeks.meets, unmet, rfl⟩)

/-- One record handed to a channel, with what came of it. -/
inductive Handed (stoppable : Bool) (record : Bytes) :
    Host.Exchange → Host.Delivery stoppable → Prop
  | piped (pipe : Host.Handle) (d : Host.Delivery stoppable) :
      Handed stoppable record ⟨.writePipe stoppable pipe record, d⟩ d
  | queued (queue : Host.Handle) :
      Handed stoppable record ⟨.enqueue stoppable queue record, Host.Handover.taken⟩ .done
  | refused (queue : Host.Handle) :
      Handed stoppable record ⟨.enqueue stoppable queue record, Host.Handover.closed⟩
        (.refused queueClosed)
  | cut (queue : Host.Handle) (allowed : stoppable = true) :
      Handed stoppable record ⟨.enqueue stoppable queue record, Host.Handover.stopped allowed⟩
        (.stopped allowed)

namespace Handed

variable {record : Bytes} {x : Host.Exchange} {d : Host.Delivery stoppable}

theorem parcel? (h : Handed stoppable record x d) :
    x.parcel? = some ⟨.channel, record, stoppable, d.isDone⟩ := by
  cases h <;> rfl

theorem tellsStop (h : Handed stoppable record x d) : x.tellsStop = d.isStopped := by
  cases h <;> rfl

end Handed

theorem runs_deliver {record : Bytes} {writer : Writer} {t : Trace} {d : Host.Delivery stoppable}
    (h : Runs (deliver stoppable record writer) t d) :
    ∃ x, t = [x] ∧ Handed stoppable record x d := by
  cases writer with
  | pipe handle => exact ⟨_, Host.runs_send_iff.1 h, .piped handle d⟩
  | queue handle =>
    obtain ⟨answer, u, rfl, hu⟩ := Host.runs_send_bind_iff.1 h
    cases answer with
    | taken =>
      obtain ⟨rfl, rfl⟩ := Host.runs_pure_iff.1 hu
      exact ⟨_, rfl, .queued handle⟩
    | closed =>
      obtain ⟨rfl, rfl⟩ := Host.runs_pure_iff.1 hu
      exact ⟨_, rfl, .refused handle⟩
    | stopped allowed =>
      obtain ⟨rfl, rfl⟩ := Host.runs_pure_iff.1 hu
      exact ⟨_, rfl, .cut handle allowed⟩

/-- The session with more records written. -/
def tallied (s : Session) (records bytes : Nat) : Session :=
  { s with records := s.records + records, bytes := s.bytes + bytes }

/-- How a record may come to be written: it is handed on and counted, or the session fails or is
left as it is. -/
inductive Wrote (stoppable : Bool) (s : Session) (record : Bytes) :
    Trace → Except (Interruption stoppable) Unit → Session → Prop
  | done {x : Host.Exchange} (handed : Handed stoppable record x .done) :
      Wrote stoppable s record [x] (.ok ()) (s.tallied 1 record.length)
  | failed {x : Host.Exchange} {message : String} {ρ : Trace} {i : Interruption stoppable}
      {s' : Session} (handed : Handed stoppable record x (.refused message))
      (fails : Runs (s.fail stoppable (s.writeFault message)) ρ (i, s')) :
      Wrote stoppable s record (x :: ρ) (.error i) s'
  | stopped {x : Host.Exchange} (allowed : stoppable = true)
      (handed : Handed stoppable record x (.stopped allowed)) :
      Wrote stoppable s record [x] (.error (.stopped allowed)) s

theorem wrote_of_runs {s s' : Session} {record : Bytes} {t : Trace}
    {r : Except (Interruption stoppable) Unit} (h : Runs (s.write stoppable record) t (r, s'))
    (hs : s.state = .draining) (hw : s.writer.isSome = true) : Wrote stoppable s record t r s' := by
  obtain ⟨writer, hw⟩ := Option.isSome_iff_exists.1 hw
  rw [write, if_pos hs, hw] at h
  obtain ⟨t₁, t₂, d, rfl, h₁, h₂⟩ := Host.runs_bind_iff.1 h
  obtain ⟨x, rfl, hx⟩ := runs_deliver h₁
  cases d with
  | done =>
    obtain ⟨rfl, hv⟩ := Host.runs_pure_iff.1 h₂
    cases hv
    have hdone := Wrote.done (s := s) hx
    rwa [tallied, hw] at hdone
  | refused message =>
    obtain ⟨t₃, t₄, ⟨i, s₁⟩, rfl, h₃, h₄⟩ := Host.runs_bind_iff.1 h₂
    obtain ⟨rfl, hv⟩ := Host.runs_pure_iff.1 h₄
    cases hv
    rw [List.append_nil]
    exact .failed hx h₃
  | stopped allowed =>
    obtain ⟨rfl, hv⟩ := Host.runs_pure_iff.1 h₂
    cases hv
    exact .stopped allowed hx

/-- Writing a record either counts it, or ends the session, or is cut short with the channel left to
the session. -/
theorem write_cases {s s' : Session} {record : Bytes} {t : Trace}
    {r : Except (Interruption stoppable) Unit} (h : Runs (s.write stoppable record) t (r, s'))
    (hs : s.state = .draining) (hw : s.writer.isSome = true) :
    ∃ x d, ∃ rest : Trace, t = x :: rest ∧ Handed stoppable record x d ∧
    ((d = .done ∧ r = .ok () ∧ rest = [] ∧
        s' = { s with records := s.records + 1, bytes := s.bytes + record.length }) ∨
      (∃ message f, d = .refused message ∧ r = .error (.failed f) ∧ s' = s.emptied .failed ∧
        Removal s.channel rest.notable ∧ rest.Calm) ∨
      (∃ allowed consumer writer, d.isDone = false ∧ r = .error (.stopped allowed) ∧
        rest.notable = [] ∧ s' = { s with consumer, writer })) := by
  cases wrote_of_runs h hs hw with
  | done handed => exact ⟨_, _, [], rfl, handed, .inl ⟨rfl, rfl, rfl, rfl⟩⟩
  | @failed x message ρ i s' handed fails =>
    refine ⟨x, _, ρ, rfl, handed, ?_⟩
    rcases fail_cases fails with ⟨f, rfl, rfl, hr, hc⟩ | ⟨allowed, rfl, rfl, hn⟩
    · exact .inr (.inl ⟨message, f, rfl, rfl, rfl, hr, hc⟩)
    · exact .inr (.inr ⟨allowed, none, none, rfl, rfl, hn, rfl⟩)
  | stopped allowed handed =>
    exact ⟨_, _, [], rfl, handed, .inr (.inr ⟨allowed, s.consumer, s.writer, rfl, rfl, rfl, rfl⟩)⟩

end

theorem mild_closeWriter (w : Option Writer) : Mild (fun _ => False) (closeWriter w) := by
  match w with
  | some (.pipe h) => exact .send_bind rfl (fun _ => rfl) fun _ => .pure _
  | some (.queue h) => exact Keeps.send (r := .closeQueue h) rfl nofun
  | none => exact .pure _

end BulkLoad.Sink.Session
