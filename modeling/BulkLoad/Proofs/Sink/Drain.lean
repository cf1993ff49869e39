import BulkLoad.Proofs.Host.Unfailing
import BulkLoad.Proofs.Sink.Release

/-!
How a session is finished, exchange by exchange: a write end that is not open yet is opened, then it
is closed, and the consumer is waited for and heard out. The session is closed if all of that went
well; otherwise it fails. Where nothing goes wrong, the consumer reports that it ended well.
-/

namespace BulkLoad.Sink.Session

open Host (Delivery Exchange Mild Runs Said Trace Waiting)

/-- The outcome for a consumer that ended. -/
def verdict (s : Session) (status : Host.ExitStatus) (said : Said) :
    Except Fault Step.SinkReport :=
  if status.succeeded then
    .ok (s.report (exitCode status) (Session.heard said.stdout) (Session.heard said.stderr))
  else .error (exitFault status (Session.heard said.stdout) (Session.heard said.stderr))

/-- How the wait for a consumer may end: there is none, or it does not end in time, or it does. -/
inductive Awaited (s : Session) : Trace → Except Fault Step.SinkReport → Session → Prop
  | alone {ρ : Trace} (nobody : s.consumer = none) (removes : Runs (removeChannel s.channel) ρ ()) :
      Awaited s ρ (.ok (s.report 0 "" "")) (s.emptied .closed)
  | unended {c : Consumer} {ending : Host.Ending} {fault : Fault} {ω ρ : Trace}
      {r : Except Fault Step.SinkReport} {s' : Session} (consumer : s.consumer = some c)
      (waits : Runs (await false c s.settings.finishTimeout) ω (.over ending))
      (runs : ∀ status, ending ≠ .exited status)
      (code : fault.code = "CONSUMER_EXIT_TIMEOUT" ∨ fault.code = "CONSUMER_WAIT")
      (fails : Runs (s.failWith fault) ρ (r, s')) : Awaited s (ω ++ ρ) r s'
  | ended {c : Consumer} {status : Host.ExitStatus} {said : Said} {ω ρ : Trace}
      (consumer : s.consumer = some c)
      (waits : Runs (await false c s.settings.finishTimeout) ω (.over (.exited status)))
      (removes : Runs (removeChannel s.channel) ρ ()) :
      Awaited s
        (ω ++ ⟨.collect false c.process s.settings.finishTimeout, Waiting.over said⟩ ::
          ⟨.dropProcess c.process, ()⟩ :: ρ)
        (s.verdict status said) (s.emptied (if status.succeeded then .closed else .failed))

/-- How the end of the input may be brought about: the write end closes and the consumer is waited
for, or it does not close. -/
inductive Drained (s : Session) : Trace → Except Fault Step.SinkReport → Session → Prop
  | closed {κ ρ : Trace} {r : Except Fault Step.SinkReport} {s' : Session}
      (closes : Runs (closeWriter s.writer) κ (.ok ()))
      (awaited : Awaited { s with writer := none } ρ r s') : Drained s (κ ++ ρ) r s'
  | unclosed {κ ρ : Trace} {message : String} {fault : Fault} {r : Except Fault Step.SinkReport}
      {s' : Session} (closes : Runs (closeWriter s.writer) κ (.error message))
      (code : fault.code = "PIPE_CLOSE")
      (fails : Runs ({ s with writer := none }.failWith fault) ρ (r, s')) : Drained s (κ ++ ρ) r s'

/-- How a session may be finished: its write end is open, or it is opened first, if it can be. -/
inductive Finishing (s : Session) : Trace → Except Fault Step.SinkReport → Session → Prop
  | draining {τ : Trace} {r : Except Fault Step.SinkReport} {s' : Session}
      (state : s.state = .draining) (drained : Drained s τ r s') : Finishing s τ r s'
  | opened {μ τ : Trace} {r : Except Fault Step.SinkReport} {s₁ s' : Session}
      (state : s.state = .consumerRunning) (opened : WriterOpened false s μ (.ok ()) s₁)
      (drained : Drained s₁ τ r s') : Finishing s (μ ++ τ) r s'
  | unopened {μ : Trace} {fault : Fault} {s' : Session} (state : s.state = .consumerRunning)
      (unopened : WriterOpened false s μ (.error (.failed fault)) s') :
      Finishing s μ (.error fault) s'

theorem runs_await {c : Consumer} {timeout : Nat} {t : Trace} {w : Waiting false Host.Ending}
    (h : Runs (await false c timeout) t w) (hc : c.exit = none) :
    t = [⟨.awaitExit false c.process timeout, w⟩] := by
  unfold await at h
  simp only [hc] at h
  exact Host.runs_send_iff.1 h

theorem succeeded_iff {status : Host.ExitStatus} :
    status.succeeded = true ↔ status = .code 0 := by
  cases status <;> simp [Host.ExitStatus.succeeded]

theorem exitCode_of_succeeded {status : Host.ExitStatus} (h : status.succeeded = true) :
    exitCode status = 0 := by
  rw [succeeded_iff.1 h]
  rfl

variable {s s' : Session} {t : Trace} {r : Except Fault Step.SinkReport}

theorem verdict_of_succeeded {status : Host.ExitStatus} (said : Said)
    (h : status.succeeded = true) : s.verdict status said =
      .ok (s.report 0 (Session.heard said.stdout) (Session.heard said.stderr)) := by
  rw [verdict, if_pos h, exitCode_of_succeeded h]

theorem verdict_of_not_succeeded {status : Host.ExitStatus} (said : Said)
    (h : status.succeeded = false) : s.verdict status said =
      .error (exitFault status (Session.heard said.stdout) (Session.heard said.stderr)) := by
  rw [verdict, if_neg (by simp [h])]

theorem awaited_of_runs (h : Runs s.awaitConsumer t (r, s')) (hw : s.writer = none) :
    Awaited s t r s' := by
  unfold awaitConsumer at h
  split at h
  · rename_i hnone
    obtain ⟨t₁, t₂, u, rfl, h₁, h₂⟩ := Host.runs_bind_iff.1 h
    obtain ⟨rfl, hv⟩ := Host.runs_pure_iff.1 h₂
    cases hv
    have halone := Awaited.alone hnone h₁
    rw [List.append_nil]
    simpa only [emptied, hnone, hw] using halone
  · rename_i c hsome
    obtain ⟨t₁, t₂, w₁, rfl, h₁, h₂⟩ := Host.runs_bind_iff.1 h
    match w₁, h₂ with
    | .over .running, h₂ => exact .unended hsome h₁ nofun (.inl rfl) h₂
    | .over (.refused message), h₂ => exact .unended hsome h₁ nofun (.inr rfl) h₂
    | .over (.exited status), h₂ =>
      obtain ⟨t₃, t₄, w₃, rfl, h₃, h₄⟩ := Host.runs_bind_iff.1 h₂
      obtain ⟨said, rfl, rfl⟩ := runs_collect h₃
      obtain ⟨u, t₅, rfl, h₅⟩ := Host.runs_send_bind_iff.1 h₄
      obtain ⟨t₆, t₇, v, rfl, h₆, h₇⟩ := Host.runs_bind_iff.1 h₅
      have hended : Awaited s _ (s.verdict status said) _ := .ended hsome h₁ h₆
      by_cases hstatus : status.succeeded = true
      · rw [if_pos hstatus] at h₇
        obtain ⟨rfl, hv⟩ := Host.runs_pure_iff.1 h₇
        cases hv
        simpa [verdict, hstatus, emptied, hw, report] using hended
      · rw [if_neg hstatus] at h₇
        obtain ⟨rfl, hv⟩ := Host.runs_pure_iff.1 h₇
        cases hv
        simpa [verdict, hstatus, emptied, hw] using hended

theorem drained_of_runs (h : Runs s.drain t (r, s')) (hs : s.state = .draining) :
    Drained s t r s' := by
  rw [drain, if_pos hs] at h
  obtain ⟨t₁, t₂, closed, rfl, h₁, h₂⟩ := Host.runs_bind_iff.1 h
  cases closed with
  | ok u => exact .closed h₁ (awaited_of_runs h₂ rfl)
  | error message => exact .unclosed h₁ rfl h₂

theorem finishing_of_runs (h : Runs s.finish t (r, s'))
    (hs : s.state = .draining ∨ s.state = .consumerRunning) (hc : Running s.consumer) :
    Finishing s t r s' := by
  rcases hs with hs | hs
  · rw [finish, if_neg (by simp [hs])] at h
    exact .draining hs (drained_of_runs h hs)
  · rw [finish, if_pos hs] at h
    obtain ⟨t₁, t₂, ⟨opened, s₁⟩, rfl, h₁, h₂⟩ := Host.runs_bind_iff.1 h
    have hopened := writerOpened_of_runs h₁ (.inr hs) hc
    match opened, h₂ with
    | .ok (), h₂ =>
      cases hopened with
      | opened opens unmet seeks calm =>
        exact .opened hs (.opened opens unmet seeks calm) (drained_of_runs h₂ rfl)
    | .error (.failed fault), h₂ =>
      obtain ⟨rfl, hv⟩ := Host.runs_pure_iff.1 h₂
      cases hv
      rw [List.append_nil]
      exact .unopened hs hopened

/-- The end of a session behind the end of its input: it owns nothing more, and the outcome says
whether it is closed or has failed. -/
inductive Concluded (s : Session) : Except Fault Step.SinkReport → Session → Prop
  | closed (stdout stderr : String) :
      Concluded s (.ok (s.report 0 stdout stderr)) (s.emptied .closed)
  | failed (fault : Fault) : Concluded s (.error fault) (s.emptied .failed)

theorem Awaited.concluded (h : Awaited s t r s') :
    Removal s.channel t.notable ∧ t.Calm ∧ Concluded s r s' := by
  have hwait : ∀ c, Mild Cut (await false c s.settings.finishTimeout) :=
    fun c => (tending_await c _).mild
  cases h with
  | alone nobody removes =>
    obtain ⟨hr, hc⟩ := runs_removeChannel removes
    exact ⟨hr, hc, .closed "" ""⟩
  | @unended c ending fault ω ρ r s' consumer waits runs code fails =>
    obtain ⟨f, rfl, rfl, hr, hc⟩ := failWith_cases fails
    have hn₁ := (hwait c).notable_eq_nil waits
    exact ⟨by simpa [hn₁] using hr, Trace.calm_append.2 ⟨(hwait c).calm waits nofun, hc⟩, .failed f⟩
  | @ended c status said ω ρ consumer waits removes =>
    obtain ⟨hr, hc⟩ := runs_removeChannel removes
    have hn₁ := (hwait c).notable_eq_nil waits
    refine ⟨?_, Trace.calm_append.2 ⟨(hwait c).calm waits nofun,
      Trace.calm_cons.2 ⟨rfl, Trace.calm_cons.2 ⟨rfl, hc⟩⟩⟩, ?_⟩
    · rw [Trace.notable_append, hn₁]
      exact hr
    · cases hstatus : status.succeeded with
      | true =>
        rw [verdict_of_succeeded said hstatus]
        exact .closed _ _
      | false =>
        rw [verdict_of_not_succeeded said hstatus]
        exact .failed _

/-- Ending the input of a session ends the session, one way or the other. -/
theorem Drained.concluded (h : Drained s t r s') :
    Removal s.channel t.notable ∧ t.Calm ∧ Concluded s r s' := by
  have hclose := mild_closeWriter s.writer
  cases h with
  | closed closes awaited =>
    obtain ⟨hr, hc, hend⟩ := awaited.concluded
    have hn₁ := hclose.notable_eq_nil closes
    exact ⟨by simpa [hn₁] using hr, Trace.calm_append.2 ⟨hclose.calm closes id, hc⟩,
      by cases hend <;> constructor⟩
  | unclosed closes code fails =>
    obtain ⟨f, rfl, rfl, hr, hc⟩ := failWith_cases fails
    have hn₁ := hclose.notable_eq_nil closes
    exact ⟨by simpa [hn₁] using hr, Trace.calm_append.2 ⟨hclose.calm closes id, hc⟩, .failed f⟩

/-- However a session is finished, its channel goes at the end, behind a search for a reader. -/
theorem Finishing.removal (h : Finishing s t r s') :
    ∃ μ ρ : Trace, t = μ ++ ρ ∧ μ.Seeks ∧ Removal s.channel ρ.notable := by
  cases h with
  | draining state drained => exact ⟨[], t, rfl, nofun, drained.concluded.1⟩
  | @opened μ τ r s₁ s' state opened drained =>
    cases opened with
    | opened opens unmet seeks calm => exact ⟨_, τ, rfl, seeks, drained.concluded.1⟩
  | unopened state unopened =>
    cases unopened with
    | @failed μ ρ fault i s' code unmet seeks calm fails =>
      rcases fail_cases fails with ⟨-, -, -, hr, -⟩ | ⟨allowed, -⟩
      · exact ⟨μ, ρ, rfl, seeks, hr⟩
      · cases allowed

theorem finish_cases (h : Runs s.finish t (r, s')) (hs : s.state = .draining) :
    Removal s.channel t.notable ∧ t.Calm ∧ Concluded s r s' := by
  rw [finish, if_neg (by simp [hs])] at h
  exact (drained_of_runs h hs).concluded

theorem Handed.fails {stoppable : Bool} {record : Bytes} {x : Exchange} {d : Delivery stoppable}
    (h : Handed stoppable record x d) : x.fails = !d.isDone := by
  cases h <;> rfl

theorem closeWriter_ok {w : Option Writer} {closed : Except String Unit}
    (h : Runs (closeWriter w) t closed) (hs : t.Unfailing) : closed = .ok () := by
  match w with
  | some (.pipe handle) =>
    obtain ⟨u, rest, -, h₁⟩ := Host.runs_send_bind_iff.1 h
    exact (Host.runs_pure_iff.1 h₁).2
  | some (.queue handle) =>
    rw [Host.runs_send_iff.1 h] at hs
    obtain ⟨hclosed, -⟩ := Trace.unfailing_cons.1 hs
    cases closed with
    | ok u => rfl
    | error message => cases hclosed
  | none => exact (Host.runs_pure_iff.1 h).2

theorem Awaited.ok (h : Awaited s t r s') (hc : Running s.consumer) (hs : t.Unfailing) :
    ∃ stdout stderr, r = .ok (s.report 0 stdout stderr) := by
  cases h with
  | alone nobody removes => exact ⟨"", "", rfl⟩
  | @unended c ending fault ω ρ r s' consumer waits runs code fails =>
    -- A wait that does not end with an exit is one that fails.
    rw [runs_await waits (hc c consumer)] at hs
    obtain ⟨hw, -⟩ := Trace.unfailing_cons.1 hs
    obtain ⟨status, hended, -⟩ :=
      Waiting.exited_of_endsWell (w := .over ending) (by simpa [Exchange.fails] using hw)
    cases hended
    exact absurd rfl (runs status)
  | @ended c status said ω ρ consumer waits removes =>
    rw [runs_await waits (hc c consumer)] at hs
    obtain ⟨hw, -⟩ := Trace.unfailing_cons.1 hs
    have hstatus : status.succeeded = true := by
      simpa [Exchange.fails, Waiting.endsWell] using hw
    exact ⟨_, _, verdict_of_succeeded said hstatus⟩

/-- Finishing reports all records that were written. -/
theorem finish_ok (h : Runs s.finish t (r, s')) (hd : s.state = .draining)
    (hc : Running s.consumer) (hs : t.Unfailing) :
    ∃ stdout stderr, r = .ok (s.report 0 stdout stderr) := by
  rw [finish, if_neg (by simp [hd])] at h
  cases drained_of_runs h hd with
  | closed closes awaited => exact awaited.ok hc (Trace.unfailing_append.1 hs).2
  | unclosed closes code fails =>
    have hclosed := closeWriter_ok closes (Trace.unfailing_append.1 hs).1
    cases hclosed

end BulkLoad.Sink.Session
