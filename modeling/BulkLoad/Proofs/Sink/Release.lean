import BulkLoad.Proofs.Sink.Operations
import BulkLoad.Proofs.Sink.Tail

/-!
What a session asks of the host to give up what it owns: its write end is closed, its consumer is
brought to its end and heard out, and its pipe is removed. What the consumer said on standard error
goes into the fault of the session, if the fault has room for it.
-/

namespace BulkLoad.Sink.Session

open Host (Exchange ExitStatus Handle Runs Said Trace Waiting)

/-- The exchange closes a write end. -/
inductive Closes : Writer → Exchange → Prop
  | pipe (handle : Handle) : Closes (.pipe handle) ⟨.closePipe handle, ()⟩
  | queue (handle : Handle) (answer : Except String Unit) :
      Closes (.queue handle) ⟨.closeQueue handle, answer⟩
  | dropped (handle : Handle) : Closes (.queue handle) ⟨.dropQueue handle, ()⟩

/-- The exchange tells the end of a process, or brings it about. -/
inductive EndOf (process : Handle) : Exchange → Prop
  | seen (status : ExitStatus) : EndOf process ⟨.exitStatus process, .ok (some status)⟩
  | awaited (timeout : Nat) (status : ExitStatus) :
      EndOf process ⟨.awaitExit false process timeout, Waiting.over (.exited status)⟩
  | killed (answer : Waiting false (Option ExitStatus)) :
      EndOf process ⟨.kill false process, answer⟩

/-- What counts of a stream that ended in time, or did not. -/
def heard (stream : Option Bytes) : String := (stream.map tailText).getD ""

theorem kept_heard (stream : Option Bytes) : Tail.Kept stream (heard stream) := by
  cases stream with
  | none => exact .lost
  | some bytes => exact Tail.kept_tailText bytes

/-- What a consumer, if there was one, said on standard error by the exchanges of a trace. -/
inductive Captured : Option Consumer → Trace → Option String → Prop
  | nobody (τ : Trace) : Captured none τ none
  | said {c : Consumer} {τ : Trace} {text : String} (timeout : Nat) (said : Said)
      (collected : ⟨.collect false c.process timeout, Waiting.over said⟩ ∈ τ)
      (kept : Tail.Kept said.stderr text) : Captured (some c) τ (some text)

theorem Captured.mono {consumer : Option Consumer} {τ τ' : Trace} {said : Option String}
    (h : Captured consumer τ said) (hsub : τ ⊆ τ') : Captured consumer τ' said := by
  cases h with
  | nobody τ => exact .nobody τ'
  | said timeout said collected kept => exact .said timeout said (hsub collected) kept

/-- The trace gives up all that the session owned, and all that was opened on the way. -/
structure Released (s : Session) (τ : Trace) : Prop where
  writer : ∀ w, s.writer = some w → ∃ x ∈ τ, Closes w x
  opened : ∀ x ∈ τ, ∀ w, Opens w x → ∃ y ∈ τ, Closes w y
  ended : ∀ c, s.consumer = some c → ∃ x ∈ τ, EndOf c.process x
  heard : ∃ said, Captured s.consumer τ said
  dropped : ∀ c, s.consumer = some c → ⟨.dropProcess c.process, ()⟩ ∈ τ
  removed : ∀ path, s.channel = some (.fifo path) → ∃ answer, ⟨.remove path, answer⟩ ∈ τ

theorem not_opens_of_unmet {τ : Trace} (h : τ.Unmet) {x : Exchange} (hx : x ∈ τ) {w : Writer} :
    ¬Opens w x := by
  intro hopens
  have htakes := hopens.takesUp
  rw [h x hx] at htakes
  cases htakes

theorem Opens.unique {w w' : Writer} {x : Exchange} (h : Opens w x) (h' : Opens w' x) : w = w' := by
  cases h <;> cases h' <;> rfl

theorem Released.mono {s : Session} {τ τ' : Trace} (h : Released s τ) (hsub : τ ⊆ τ')
    (hopened : ∀ x ∈ τ', ∀ w, Opens w x → ∃ y ∈ τ', Closes w y) : Released s τ' := by
  refine ⟨fun w hw => ?_, hopened, fun c hc => ?_, ?_, fun c hc => hsub (h.dropped c hc),
    fun path hp => ?_⟩
  · obtain ⟨x, hx, hcloses⟩ := h.writer w hw
    exact ⟨x, hsub hx, hcloses⟩
  · obtain ⟨x, hx, hend⟩ := h.ended c hc
    exact ⟨x, hsub hx, hend⟩
  · obtain ⟨said, hsaid⟩ := h.heard
    exact ⟨said, hsaid.mono hsub⟩
  · obtain ⟨answer, hx⟩ := h.removed path hp
    exact ⟨answer, hsub hx⟩

/-- What goes before, so long as nobody takes up a channel, takes nothing back. -/
theorem Released.behind {s : Session} {μ τ : Trace} (h : Released s τ) (hμ : μ.Unmet) :
    Released s (μ ++ τ) := by
  refine h.mono (List.subset_append_right μ τ) fun x hx w hopens => ?_
  rcases List.mem_append.1 hx with hx | hx
  · exact absurd hopens (not_opens_of_unmet hμ hx)
  · obtain ⟨y, hy, hcloses⟩ := h.opened x hx w hopens
    exact ⟨y, List.mem_append_right μ hy, hcloses⟩

theorem Released.closed {s : Session} {ρ : Trace} {w : Writer} {x : Exchange}
    (h : Released { s with writer := none } ρ) (hw : s.writer = some w) (hx : Closes w x) :
    Released s (x :: ρ) := by
  have hclosed : x.takesUp = false := by cases hx <;> rfl
  have hall := h.behind (μ := [x]) (Trace.unmet_singleton.2 hclosed)
  refine ⟨fun w' hw' => ?_, hall.opened, hall.ended, hall.heard, hall.dropped, hall.removed⟩
  rw [hw] at hw'
  cases hw'
  exact ⟨x, .head _, hx⟩

/-- A write end that is opened on the way is released with the rest. -/
theorem Released.opened_behind {s : Session} {μ ρ : Trace} {w : Writer} {x : Exchange}
    {state : State} (h : Released { s with writer := some w, state } ρ) (hs : s.writer = none)
    (hμ : μ.Unmet) (hx : Opens w x) : Released s (μ ++ [x] ++ ρ) := by
  have hall : Released { s with writer := some w, state } (μ ++ [x] ++ ρ) := by
    refine h.mono (List.subset_append_right _ _) fun y hy w' hopens => ?_
    simp only [List.mem_append, List.mem_singleton] at hy
    rcases hy with (hy | rfl) | hy
    · exact absurd hopens (not_opens_of_unmet hμ hy)
    · obtain rfl := hopens.unique hx
      obtain ⟨z, hz, hcloses⟩ := h.writer w' rfl
      exact ⟨z, List.mem_append_right _ hz, hcloses⟩
    · obtain ⟨z, hz, hcloses⟩ := h.opened y hy w' hopens
      exact ⟨z, List.mem_append_right _ hz, hcloses⟩
  refine ⟨fun w' hw' => ?_, hall.opened, hall.ended, hall.heard, hall.dropped, hall.removed⟩
  rw [hs] at hw'
  cases hw'

theorem closes_of_dropWriter {writer : Option Writer} {t : Trace} {u : Unit}
    (h : Runs (dropWriter writer) t u) : ∀ w, writer = some w → ∃ x ∈ t, Closes w x := by
  rintro w rfl
  cases w with
  | pipe handle =>
    rw [Host.runs_send_iff.1 h]
    exact ⟨_, .head _, .pipe handle⟩
  | queue handle =>
    rw [Host.runs_send_iff.1 h]
    exact ⟨_, .head _, .dropped handle⟩

theorem removed_of_removeChannel {channel : Option Channel} {t : Trace} {u : Unit}
    (h : Runs (removeChannel channel) t u) :
    ∀ path, channel = some (.fifo path) → ∃ answer, ⟨.remove path, answer⟩ ∈ t := by
  rintro path rfl
  rcases removeChannel_cases h with ⟨path', answer, hpath, rfl⟩ | ⟨hpipe, -⟩
  · cases hpath
    exact ⟨answer, .head _⟩
  · exact absurd rfl (hpipe path)

variable {c : Consumer} {t : Trace}

/-- A consumer that is stopped comes to its end: it is seen to have ended, or it ends in time, or it
is killed. -/
theorem endOf_of_stop {grace : Nat} {w : Waiting false Unit} (h : Runs (stop false c grace) t w)
    (hc : c.exit = none) : ∃ x ∈ t, EndOf c.process x := by
  obtain ⟨process, exit⟩ := c
  obtain rfl : exit = none := hc
  obtain ⟨t₁, t₂, polled, rfl, h₁, h₂⟩ := Host.runs_bind_iff.1 h
  obtain ⟨answer, t₃, rfl, h₃⟩ := Host.runs_send_bind_iff.1 h₁
  match answer, h₃ with
  | .ok (some status), h₃ => exact ⟨_, .head _, .seen status⟩
  -- Not seen to have ended, it is asked to, and killed if it outlasts the grace.
  | .ok none, h₃ | .error _, h₃ =>
    obtain ⟨rfl, rfl⟩ := Host.runs_pure_iff.1 h₃
    obtain ⟨u, t₄, rfl, h₄⟩ := Host.runs_send_bind_iff.1 h₂
    obtain ⟨ending, t₅, rfl, h₅⟩ := Host.runs_send_bind_iff.1 h₄
    match ending, h₅ with
    | .over (.exited status), h₅ => exact ⟨_, by simp, .awaited grace status⟩
    | .over .running, h₅ | .over (.refused _), h₅ =>
      obtain ⟨answer, t₆, rfl, -⟩ := Host.runs_send_bind_iff.1 h₅
      exact ⟨_, by simp, .killed answer⟩

theorem runs_collect {timeout : Nat} {w : Waiting false (String × String)}
    (h : Runs (collect false c timeout) t w) :
    ∃ said : Said, t = [⟨.collect false c.process timeout, .over said⟩] ∧
      w = .over (Session.heard said.stdout, Session.heard said.stderr) := by
  obtain ⟨answer, t₁, rfl, h₁⟩ := Host.runs_send_bind_iff.1 h
  match answer, h₁ with
  | .over said, h₁ =>
    obtain ⟨rfl, rfl⟩ := Host.runs_pure_iff.1 h₁
    exact ⟨said, rfl, rfl⟩

/-- A consumer that is stopped is brought to its end, heard out, and given up. -/
theorem runs_stopConsumer {grace : Nat} {consumer : Option Consumer}
    {w : Waiting false (Option String)} (h : Runs (stopConsumer false grace consumer) t w)
    (hc : Running consumer) :
    ∃ said, w = .over said ∧ Captured consumer t said ∧
      ∀ c, consumer = some c →
        ⟨.dropProcess c.process, ()⟩ ∈ t ∧ ∃ x ∈ t, EndOf c.process x := by
  cases consumer with
  | none =>
    obtain ⟨rfl, rfl⟩ := Host.runs_pure_iff.1 h
    exact ⟨none, rfl, .nobody [], nofun⟩
  | some c =>
    obtain ⟨t₁, t₂, quitted, rfl, h₁, h₂⟩ := Host.runs_bind_iff.1 h
    obtain ⟨u, t₃, rfl, h₃⟩ := Host.runs_send_bind_iff.1 h₂
    obtain ⟨t₄, t₅, stopped, rfl, h₄, h₅⟩ := Host.runs_bind_iff.1 h₁
    obtain ⟨x, hx, hend⟩ := endOf_of_stop h₄ (hc c rfl)
    match stopped, h₅ with
    | .over (), h₅ =>
      obtain ⟨t₆, t₇, answer, rfl, h₆, h₇⟩ := Host.runs_bind_iff.1 h₅
      obtain ⟨said, rfl, rfl⟩ := runs_collect h₆
      obtain ⟨rfl, rfl⟩ := Host.runs_pure_iff.1 h₇
      obtain ⟨rfl, rfl⟩ := Host.runs_pure_iff.1 h₃
      refine ⟨_, rfl, .said grace said (by simp) (kept_heard said.stderr), ?_⟩
      rintro c' hc'
      cases hc'
      exact ⟨by simp, x, by simp [hx], hend⟩

variable {s s' : Session}

theorem released_of_cleanup {w : Waiting false (Option String)}
    (h : Runs (s.cleanup false) t (w, s')) (hc : Running s.consumer) :
    ∃ said, w = .over said ∧ Captured s.consumer t said ∧ s' = s.emptied s.state ∧
      Released s t := by
  -- Nothing is opened on the way, so there is nothing to close but what the session owned.
  have hunmet : t.Unmet := by
    rcases cleanup_cases h with ⟨-, -, -, hr, -⟩ | ⟨allowed, -⟩
    · exact hr.still.unmet
    · cases allowed
  obtain ⟨t₁, t₂, u, rfl, h₁, h₂⟩ := Host.runs_bind_iff.1 h
  obtain ⟨t₃, t₄, stopped, rfl, h₃, h₄⟩ := Host.runs_bind_iff.1 h₂
  obtain ⟨said, rfl, hsaid, hdropped⟩ := runs_stopConsumer h₃ hc
  obtain ⟨t₅, t₆, u, rfl, h₅, h₆⟩ := Host.runs_bind_iff.1 h₄
  obtain ⟨rfl, hv⟩ := Host.runs_pure_iff.1 h₆
  cases hv
  have hcaptured : Captured s.consumer (t₁ ++ (t₃ ++ (t₅ ++ []))) said :=
    hsaid.mono fun x hx => by simp [hx]
  refine ⟨said, rfl, hcaptured, rfl, fun w hw => ?_, fun x hx w hopens => ?_, fun c hc => ?_,
    ⟨said, hcaptured⟩, fun c hc => ?_, fun path hp => ?_⟩
  · obtain ⟨x, hx, hcloses⟩ := closes_of_dropWriter h₁ w hw
    exact ⟨x, by simp [hx], hcloses⟩
  · exact absurd hopens (not_opens_of_unmet hunmet hx)
  · obtain ⟨x, hx, hend⟩ := (hdropped c hc).2
    exact ⟨x, by simp [hx], hend⟩
  · simp [(hdropped c hc).1]
  · obtain ⟨answer, hx⟩ := removed_of_removeChannel h₅ path hp
    exact ⟨answer, by simp [hx]⟩

/-- A session that fails releases all that it owns, and its fault carries what its consumer said. -/
theorem released_of_fail {fault : Fault} {i : Interruption false}
    (h : Runs (s.fail false fault) t (i, s')) (hc : Running s.consumer) :
    ∃ said, i = .failed (withStderr fault said) ∧ Captured s.consumer t said ∧
      s' = s.emptied .failed ∧ Released s t := by
  obtain ⟨t₁, t₂, ⟨w, s₁⟩, rfl, h₁, h₂⟩ := Host.runs_bind_iff.1 h
  obtain ⟨said, rfl, hsaid, rfl, hreleased⟩ := released_of_cleanup h₁ hc
  obtain ⟨rfl, hv⟩ := Host.runs_pure_iff.1 h₂
  cases hv
  rw [List.append_nil]
  exact ⟨said, rfl, hsaid, rfl, hreleased⟩

theorem fail_of_failWith {α : Type} {fault : Fault} {r : Except Fault α}
    (h : Runs (s.failWith fault) t (r, s')) :
    ∃ f, r = .error f ∧ Runs (s.fail false fault) t (.failed f, s') := by
  obtain ⟨t₁, t₂, ⟨i, s₁⟩, rfl, h₁, h₂⟩ := Host.runs_bind_iff.1 h
  match i, h₁, h₂ with
  | .failed f, h₁, h₂ =>
    obtain ⟨rfl, hv⟩ := Host.runs_pure_iff.1 h₂
    cases hv
    rw [List.append_nil]
    exact ⟨f, rfl, h₁⟩

theorem released_of_failWith {α : Type} {fault : Fault} {r : Except Fault α}
    (h : Runs (s.failWith fault) t (r, s')) (hc : Running s.consumer) :
    ∃ said, r = .error (withStderr fault said) ∧ s' = s.emptied .failed ∧ Released s t := by
  obtain ⟨f, rfl, hfail⟩ := fail_of_failWith h
  obtain ⟨said, hf, -, rfl, hreleased⟩ := released_of_fail hfail hc
  cases hf
  exact ⟨said, rfl, rfl, hreleased⟩

theorem not_closes_of_tends (h : t.Tends) {x : Exchange} (hx : x ∈ t) {w : Writer} :
    ¬Closes w x := by
  intro hcloses
  have htends := h x hx
  cases hcloses <;> cases htends

theorem not_closes_of_seeks (h : t.Seeks) {x : Exchange} (hx : x ∈ t) {w : Writer} :
    ¬Closes w x := by
  intro hcloses
  have hseeks := h x hx
  cases hcloses <;> cases hseeks

theorem not_closes_of_removeChannel {channel : Option Channel} {u : Unit}
    (h : Runs (removeChannel channel) t u) {x : Exchange} (hx : x ∈ t) {w : Writer} :
    ¬Closes w x := by
  rcases removeChannel_cases h with ⟨path, answer, -, rfl⟩ | ⟨-, rfl⟩
  · rw [List.mem_singleton.1 hx]
    exact nofun
  · cases hx

theorem not_closes_of_fail {fault : Fault} {i : Interruption false}
    (h : Runs (s.fail false fault) t (i, s')) (hw : s.writer = none) {x : Exchange} (hx : x ∈ t)
    {w : Writer} : ¬Closes w x := by
  obtain ⟨t₁, t₂, ⟨cleaned, s₁⟩, rfl, h₁, h₂⟩ := Host.runs_bind_iff.1 h
  obtain ⟨t₃, t₄, u, rfl, h₃, h₄⟩ := Host.runs_bind_iff.1 h₁
  obtain ⟨t₅, t₆, stopped, rfl, h₅, h₆⟩ := Host.runs_bind_iff.1 h₄
  rw [hw] at h₃
  obtain ⟨rfl, -⟩ := Host.runs_pure_iff.1 h₃
  match stopped, h₆ with
  | .over said, h₆ =>
    obtain ⟨t₇, t₈, u, rfl, h₇, h₈⟩ := Host.runs_bind_iff.1 h₆
    obtain ⟨rfl, hv⟩ := Host.runs_pure_iff.1 h₈
    cases hv
    obtain ⟨rfl, -⟩ := Host.runs_pure_iff.1 h₂
    simp only [List.nil_append, List.append_nil, List.mem_append] at hx
    rcases hx with hx | hx
    · exact not_closes_of_tends ((tending_stopConsumer _ _).tends h₅) hx
    · exact not_closes_of_removeChannel h₇ hx

@[simp] theorem withStderr_code (fault : Fault) (said : Option String) :
    (withStderr fault said).code = fault.code := by
  unfold withStderr
  split
  · split <;> rfl
  · rfl

end BulkLoad.Sink.Session
