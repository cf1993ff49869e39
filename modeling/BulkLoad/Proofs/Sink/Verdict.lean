import BulkLoad.Proofs.Sink.Drain

/-!
What decides how a session that is finished ends: whether its write end closed without error, and
how the wait for its consumer ended. However it ends, all that it owned is released.
-/

namespace BulkLoad.Host

/-- The value that was waited for. -/
def Waiting.value? {stoppable : Bool} {α : Type} : Waiting stoppable α → Option α
  | .over a => some a
  | .stopped _ => none

/-- The process that the exchange waits for, for how long, and how the wait ended. -/
def Exchange.waited? : Exchange → Option (Handle × Nat × Ending)
  | ⟨.awaitExit s process timeout, answer⟩ =>
    (@Waiting.value? s Ending answer).map fun ending => (process, timeout, ending)
  | _ => none

/-- The first wait for a process. -/
def Trace.firstWait? (t : Trace) : Option (Handle × Nat × Ending) := t.findSome? Exchange.waited?

theorem Trace.firstWait?_append {μ t : Trace} (h : ∀ x ∈ μ, x.waited? = none) :
    (μ ++ t).firstWait? = t.firstWait? := by
  rw [firstWait?, List.findSome?_append, List.findSome?_eq_none_iff.2 h]
  rfl

theorem Trace.Seeks.waited? {t : Trace} (h : t.Seeks) : ∀ x ∈ t, x.waited? = none := by
  intro x hx
  have hseeks := h x hx
  obtain ⟨r, answer⟩ := x
  cases r <;> first | rfl | cases hseeks

end BulkLoad.Host

namespace BulkLoad.Sink.Session

open Host (Exchange ExitStatus Runs Said Trace Waiting)

/-- The exchange closes a write end without error. -/
inductive ClosesWell : Writer → Exchange → Prop
  | pipe (handle : Host.Handle) : ClosesWell (.pipe handle) ⟨.closePipe handle, ()⟩
  | queue (handle : Host.Handle) : ClosesWell (.queue handle) ⟨.closeQueue handle, .ok ()⟩

theorem ClosesWell.closes {w : Writer} {x : Exchange} (h : ClosesWell w x) : Closes w x := by
  cases h with
  | pipe handle => exact .pipe handle
  | queue handle => exact .queue handle _

/-- The consumer sees the end of its input: the write end, which was open or was opened on the way,
closes without error. -/
def EndsInput (s : Session) (τ : Trace) : Prop :=
  ∃ w x, (s.writer = some w ∨ ∃ y ∈ τ, Opens w y) ∧ x ∈ τ ∧ ClosesWell w x

/-- The first wait of a trace is that for the consumer, and it ended with an exit. -/
def ExitsWith (s : Session) (τ : Trace) (c : Consumer) (status : ExitStatus) : Prop :=
  τ.firstWait? = some (c.process, s.settings.finishTimeout, .exited status)

theorem ExitsWith.unique {s : Session} {τ : Trace} {c : Consumer} {status status' : ExitStatus}
    (h : s.ExitsWith τ c status) (h' : s.ExitsWith τ c status') : status = status' := by
  rw [ExitsWith, h] at h'
  cases h'
  rfl

/-- The consumer, if there is one, ends with the code 0 and in time. -/
def ExitsWell (s : Session) (τ : Trace) : Prop :=
  ∀ c, s.consumer = some c → s.ExitsWith τ c (.code 0)

/-- The outcome is the one that the consumer's exit asks for. -/
structure Judged (s : Session) (τ : Trace) (r : Except Fault Step.SinkReport) (s' : Session) :
    Prop where
  ok : (∃ report, r = .ok report) ↔ s.ExitsWell τ
  closed : ∀ report, r = .ok report →
    s' = s.emptied .closed ∧ ∃ stdout stderr, report = s.report 0 stdout stderr
  unsuccessful : ∀ c status, s.consumer = some c → s.ExitsWith τ c status →
    status ≠ .code 0 →
      ∃ said : Said,
        ⟨.collect false c.process s.settings.finishTimeout, Waiting.over said⟩ ∈ τ ∧
        r = .error (exitFault status (Session.heard said.stdout) (Session.heard said.stderr))
  failed : ∀ f, r = .error f →
    f.code ∈ ["CONSUMER_EXIT_TIMEOUT", "CONSUMER_WAIT", "CONSUMER_EXIT"] ∧ s' = s.emptied .failed

variable {s s' : Session} {t μ : Trace} {r : Except Fault Step.SinkReport}

theorem Judged.behind (h : Judged s t r s') (hμ : ∀ x ∈ μ, x.waited? = none) :
    Judged s (μ ++ t) r s' := by
  have hfirst := Trace.firstWait?_append (t := t) hμ
  refine ⟨?_, h.closed, ?_, h.failed⟩
  · simp only [ExitsWell, ExitsWith, hfirst]
    exact h.ok
  · intro c status hc hexit hstatus
    rw [ExitsWith, hfirst] at hexit
    obtain ⟨said, hsaid, hr⟩ := h.unsuccessful c status hc hexit hstatus
    exact ⟨said, List.mem_append_right μ hsaid, hr⟩

/-- A session without a consumer closes. -/
theorem judged_alone (nobody : s.consumer = none) (stdout stderr : String) :
    Judged s t (.ok (s.report 0 stdout stderr)) (s.emptied .closed) := by
  have hnobody : ∀ c, s.consumer ≠ some c := by
    intro c hsome
    rw [nobody] at hsome
    cases hsome
  refine ⟨⟨fun _ c hsome => absurd hsome (hnobody c), fun _ => ⟨_, rfl⟩⟩, fun report hr => ?_,
    fun c _ hsome => absurd hsome (hnobody c), nofun⟩
  cases hr
  exact ⟨rfl, stdout, stderr, rfl⟩

/-- A session whose consumer does not exit in time fails. -/
theorem judged_unended {c : Consumer} {f : Fault} (consumer : s.consumer = some c)
    (hnot : ∀ c' status, ¬s.ExitsWith t c' status)
    (code : f.code = "CONSUMER_EXIT_TIMEOUT" ∨ f.code = "CONSUMER_WAIT") :
    Judged s t (.error f) (s.emptied .failed) := by
  refine ⟨⟨fun ⟨report, hr⟩ => (by cases hr), fun hwell => ?_⟩, nofun,
    fun c' status _ hexit => absurd hexit (hnot c' status), fun f' hf => ?_⟩
  · exact absurd (hwell c consumer) (hnot c (.code 0))
  · cases hf
    rcases code with code | code <;> simp [code]

/-- A session whose consumer exits ends as the exit status says. -/
theorem judged_verdict {c : Consumer} {status : ExitStatus} {said : Said}
    (consumer : s.consumer = some c) (hexits : s.ExitsWith t c status)
    (collected : ⟨.collect false c.process s.settings.finishTimeout, Waiting.over said⟩ ∈ t) :
    Judged s t (s.verdict status said)
      (s.emptied (if status.succeeded then .closed else .failed)) := by
  -- There is one consumer, and it exits with one status.
  have honly : ∀ c' status', s.consumer = some c' → s.ExitsWith t c' status' →
      c' = c ∧ status' = status := by
    intro c' status' hsome hexit
    rw [consumer] at hsome
    cases hsome
    exact ⟨rfl, hexit.unique hexits⟩
  cases hstatus : status.succeeded with
  | true =>
    rw [verdict_of_succeeded said hstatus]
    refine ⟨⟨fun _ c' hsome => ?_, fun _ => ⟨_, rfl⟩⟩, fun report hr => ?_,
      fun c' status' hsome hexit hbad => ?_, nofun⟩
    · rw [consumer] at hsome
      cases hsome
      rwa [succeeded_iff.1 hstatus] at hexits
    · cases hr
      exact ⟨rfl, _, _, rfl⟩
    · obtain ⟨-, rfl⟩ := honly c' status' hsome hexit
      exact absurd (succeeded_iff.1 hstatus) hbad
  | false =>
    rw [verdict_of_not_succeeded said hstatus]
    refine ⟨⟨fun ⟨report, hr⟩ => (by cases hr), fun hwell => ?_⟩, nofun,
      fun c' status' hsome hexit _ => ?_, fun f hf => ?_⟩
    · obtain ⟨-, rfl⟩ := honly c (.code 0) consumer (hwell c consumer)
      cases hstatus
    · obtain ⟨rfl, rfl⟩ := honly c' status' hsome hexit
      exact ⟨said, collected, rfl⟩
    · cases hf
      exact ⟨by simp [exitFault, Fault.withDetails, Fault.of], rfl⟩

theorem Awaited.judged (h : Awaited s t r s') (hc : Running s.consumer) : Judged s t r s' := by
  cases h with
  | alone nobody removes => exact judged_alone nobody "" ""
  | @unended c ending fault ω ρ r s' consumer waits runs code fails =>
    obtain ⟨said, rfl, rfl, -⟩ := released_of_failWith fails hc
    rw [runs_await waits (hc c consumer)]
    refine judged_unended consumer (fun c' status hexit => ?_) (by rwa [withStderr_code])
    -- This is the first wait of the trace, and it does not end with an exit.
    exact runs status (congrArg (fun wait => wait.2.2) (Option.some.inj hexit))
  | @ended c status said ω ρ consumer waits removes =>
    rw [runs_await waits (hc c consumer)]
    exact judged_verdict consumer rfl (by simp)

theorem Awaited.released (h : Awaited s t r s') (hw : s.writer = none) (hc : Running s.consumer) :
    Released s t := by
  cases h with
  | alone nobody removes =>
    have hunmet := (runs_removeChannel removes).1.still.unmet
    refine ⟨?_, fun x hx w hopens => absurd hopens (not_opens_of_unmet hunmet hx), ?_, ?_, ?_,
      removed_of_removeChannel removes⟩
    · simp [hw]
    · simp [nobody]
    · exact ⟨none, nobody ▸ .nobody t⟩
    · simp [nobody]
  | @unended c ending fault ω ρ r s' consumer waits runs code fails =>
    obtain ⟨said, -, -, hreleased⟩ := released_of_failWith fails hc
    rw [runs_await waits (hc c consumer)]
    exact hreleased.behind (Trace.unmet_singleton.2 rfl)
  | @ended c status said ω ρ consumer waits removes =>
    have hunmet := (runs_removeChannel removes).1.still.unmet
    rw [runs_await waits (hc c consumer)]
    refine ⟨by simp [hw], fun x hx w hopens => ?_, fun c' hsome => ?_, ?_, fun c' hsome => ?_,
      fun path hp => ?_⟩
    · refine absurd hopens (not_opens_of_unmet (Trace.unmet_append.2 ⟨?_, ?_⟩) hx)
      · exact Trace.unmet_singleton.2 rfl
      · exact Trace.unmet_cons.2 ⟨rfl, Trace.unmet_cons.2 ⟨rfl, hunmet⟩⟩
    · rw [consumer] at hsome
      cases hsome
      exact ⟨_, by simp, .awaited s.settings.finishTimeout status⟩
    · rw [consumer]
      exact ⟨_, .said s.settings.finishTimeout said (by simp) (kept_heard said.stderr)⟩
    · rw [consumer] at hsome
      cases hsome
      simp
    · obtain ⟨answer, hx⟩ := removed_of_removeChannel removes path hp
      exact ⟨answer, by simp [hx]⟩

/-- A write end is closed by one exchange, which tells whether all went well. -/
theorem closeWriter_cases {w : Writer} {closed : Except String Unit}
    (h : Runs (closeWriter (some w)) t closed) :
    ∃ x, t = [x] ∧ Closes w x ∧
      ((closed = .ok () ∧ ClosesWell w x) ∨
        ∃ message, closed = .error message ∧ ∀ w', ¬ClosesWell w' x) := by
  cases w with
  | pipe handle =>
    obtain ⟨u, rest, rfl, h₁⟩ := Host.runs_send_bind_iff.1 h
    obtain ⟨rfl, rfl⟩ := Host.runs_pure_iff.1 h₁
    exact ⟨_, rfl, .pipe handle, .inl ⟨rfl, .pipe handle⟩⟩
  | queue handle =>
    obtain rfl := Host.runs_send_iff.1 h
    refine ⟨_, rfl, .queue handle closed, ?_⟩
    cases closed with
    | ok u => exact .inl ⟨rfl, .queue handle⟩
    | error message => exact .inr ⟨message, rfl, nofun⟩

/-- The codes of the faults of a session whose consumer does not see the end of its input. -/
def inputCodes : List String := "PIPE_CLOSE" :: openCodes

/-- The consumer sees the end of its input, and its exit decides; or it does not, and the session
fails. -/
def Decided (s : Session) (τ : Trace) (r : Except Fault Step.SinkReport) (s' : Session) : Prop :=
  (s.EndsInput τ ∧ s.Judged τ r s') ∨
    ((∀ x ∈ τ, ∀ w, ¬ClosesWell w x) ∧
      ∃ f, r = .error f ∧ f.code ∈ inputCodes ∧ s' = s.emptied .failed)

theorem Drained.decided {w : Writer} (h : Drained s t r s') (hw : s.writer = some w)
    (hc : Running s.consumer) : Decided s t r s' ∧ Released s t := by
  cases h with
  | closed closes awaited =>
    rw [hw] at closes
    obtain ⟨x, rfl, hcloses, ⟨-, hwell⟩ | ⟨message, hm, -⟩⟩ := closeWriter_cases closes
    · have hwaited : ∀ y ∈ [x], y.waited? = none := by
        intro y hy
        rw [List.mem_singleton.1 hy]
        cases hwell <;> rfl
      have hjudged := awaited.judged hc
      have hrest : Judged s _ r s' :=
        ⟨hjudged.ok, hjudged.closed, hjudged.unsuccessful, hjudged.failed⟩
      exact ⟨.inl ⟨⟨w, x, .inl hw, .head _, hwell⟩, hrest.behind hwaited⟩,
        (awaited.released rfl hc).closed hw hcloses⟩
    · cases hm
  | unclosed closes code fails =>
    rw [hw] at closes
    obtain ⟨x, rfl, hcloses, ⟨hm, -⟩ | ⟨message, -, hill⟩⟩ := closeWriter_cases closes
    · cases hm
    · obtain ⟨f, rfl, hfail⟩ := fail_of_failWith fails
      obtain ⟨said, hf, rfl, hreleased⟩ := released_of_failWith fails hc
      cases hf
      refine ⟨.inr ⟨fun y hy w' hwell => ?_, _, rfl, by simp [code, inputCodes], rfl⟩,
        hreleased.closed hw hcloses⟩
      rcases List.mem_cons.1 hy with rfl | hy
      · exact hill w' hwell
      · exact not_closes_of_fail hfail rfl hy hwell.closes

/-- The search for a reader closes nothing and waits for nobody, so what follows it decides. -/
theorem Decided.behind_opened {w : Writer} {x : Exchange} {state : State}
    (h : Decided { s with writer := some w, state } t r s') (hseeks : (μ ++ [x]).Seeks)
    (hx : Opens w x) : Decided s (μ ++ [x] ++ t) r s' := by
  rcases h with ⟨⟨w', y, hw, hy, hwell⟩, hjudged⟩ | ⟨hill, hfailed⟩
  · have hopened : ∃ z ∈ μ ++ [x] ++ t, Opens w' z := by
      rcases hw with hw | ⟨z, hz, hopens⟩
      · cases hw
        exact ⟨x, by simp, hx⟩
      · exact ⟨z, List.mem_append_right _ hz, hopens⟩
    have hrest : Judged s t r s' :=
      ⟨hjudged.ok, hjudged.closed, hjudged.unsuccessful, hjudged.failed⟩
    exact .inl ⟨⟨w', y, .inr hopened, List.mem_append_right _ hy, hwell⟩,
      hrest.behind hseeks.waited?⟩
  · refine .inr ⟨fun y hy w' hwell => ?_, hfailed⟩
    rcases List.mem_append.1 hy with hy | hy
    · exact not_closes_of_seeks hseeks hy hwell.closes
    · exact hill y hy w' hwell

/-- However a session is finished, what decides is seen in the trace, and all is released. -/
theorem Finishing.decided (h : Finishing s t r s') (hchannel : s.channel.isSome = true)
    (hd : s.state = .draining → s.writer.isSome = true)
    (hr : s.state = .consumerRunning → s.writer = none) (hc : Running s.consumer) :
    Decided s t r s' ∧ Released s t := by
  cases h with
  | draining state drained =>
    obtain ⟨w, hw⟩ := Option.isSome_iff_exists.1 (hd state)
    exact drained.decided hw hc
  | opened state opened drained =>
    cases opened with
    | @opened μ x writer opens unmet seeks calm =>
      obtain ⟨hdecided, hreleased⟩ := drained.decided rfl hc
      exact ⟨hdecided.behind_opened seeks opens, hreleased.opened_behind (hr state) unmet opens⟩
  | unopened state unopened =>
    cases unopened with
    | @failed μ ρ fault' i s' code unmet seeks calm fails =>
      obtain ⟨said, hi, -, rfl, hreleased⟩ := released_of_fail fails hc
      cases hi
      refine ⟨.inr ⟨fun y hy w hwell => ?_, _, rfl, ?_, rfl⟩, hreleased.behind unmet⟩
      · rcases List.mem_append.1 hy with hy | hy
        · exact not_closes_of_seeks seeks hy hwell.closes
        · exact not_closes_of_fail fails (hr state) hy hwell.closes
      · rw [withStderr_code]
        exact List.mem_cons_of_mem _ (code hchannel)

end BulkLoad.Sink.Session
