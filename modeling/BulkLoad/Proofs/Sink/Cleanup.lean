import BulkLoad.Proofs.Host.Layout
import BulkLoad.Sink.Session

/-!
How a session gives up what it owns. The consumer is stopped and the write end closed without
anything notable; then the pipe is removed, unless the program is told to stop before that.
-/

namespace BulkLoad.Sink.Session

open Host (Always Dialogue Disk Keeps Mild Request Runs Tending Trace Waiting)

/-- What is notable when a channel is removed. -/
inductive Removal : Option Channel → Trace → Prop
  | pipe (path : String) (answer : Except String Unit) :
      Removal (some (.fifo path)) [⟨.remove path, answer⟩]
  | stdin (capacity : Nat) : Removal (some (.stdin capacity)) []
  | none : Removal none []

theorem Removal.still {channel : Option Channel} {t : Trace} (h : Removal channel t.notable) :
    t.Still := by
  apply Trace.still_of_notable
  generalize t.notable = ν at h
  cases h with
  | pipe path answer => exact Trace.still_cons.2 ⟨⟨rfl, rfl, rfl⟩, Trace.still_nil⟩
  | stdin capacity => exact Trace.still_nil
  | none => exact Trace.still_nil

theorem Removal.parcels {channel : Option Channel} {ρ : Trace} (h : Removal channel ρ) :
    ρ.parcels = [] := by
  cases h <;> rfl

theorem Removal.onDisk {channel : Option Channel} {t : Trace} (h : Removal channel t.notable) :
    Removal channel t.onDisk := by
  rw [← Trace.onDisk_notable]
  generalize t.notable = ν at h
  cases h with
  | pipe path answer => exact .pipe path answer
  | stdin capacity => exact .stdin capacity
  | none => exact .none

/-- A channel that is removed leaves the disk without its pipe. -/
theorem Removal.laid {below : String → Option Host.Entry} {file : Option (String × Bytes)}
    {channel : Option Channel} {ρ : Trace} {d d' : Disk} (h : Removal channel ρ)
    (hd : Disk.Laid below file (channel.bind Channel.path?) d) (hs : ρ.RemovalsSucceed)
    (hb : Disk.Behind d ρ d') : Disk.Laid below file Option.none d' ∧ d'.opened = d.opened := by
  cases h with
  | pipe path answer =>
    obtain ⟨d₁, ha, hb⟩ := Disk.behind_cons_iff.1 hb
    rw [Disk.behind_nil_iff] at hb
    rw [hb, Disk.after_remove (hs _ List.mem_cons_self) ha]
    exact ⟨hd.pipe_removed, rfl⟩
  | stdin capacity =>
    rw [Disk.behind_nil_iff.1 hb]
    exact ⟨hd, rfl⟩
  | none =>
    rw [Disk.behind_nil_iff.1 hb]
    exact ⟨hd, rfl⟩

/-- The session without anything that it owned. -/
def emptied (s : Session) (state : State) : Session :=
  { s with channel := none, consumer := none, writer := none, state }

/-- A pipe that was removed is given up without another attempt, so a channel that is dropped is
treated as one that is removed. -/
theorem dropChannel_eq (channel : Option Channel) :
    dropChannel channel = removeChannel channel := by
  match channel with
  | some (.fifo path) => rfl
  | some (.stdin capacity) => rfl
  | none => rfl

theorem removeChannel_cases {channel : Option Channel} {t : Trace} {u : Unit}
    (h : Runs (removeChannel channel) t u) :
    (∃ path answer, channel = some (.fifo path) ∧ t = [⟨.remove path, answer⟩]) ∨
      ((∀ path, channel ≠ some (.fifo path)) ∧ t = []) := by
  match channel with
  | some (.fifo path) =>
    obtain ⟨answer, rest, rfl, h₁⟩ := Host.runs_send_bind_iff.1 h
    obtain ⟨rfl, -⟩ := Host.runs_pure_iff.1 h₁
    exact .inl ⟨path, answer, rfl, rfl⟩
  | some (.stdin capacity) => exact .inr ⟨nofun, (Host.runs_pure_iff.1 h).1⟩
  | none => exact .inr ⟨nofun, (Host.runs_pure_iff.1 h).1⟩

theorem runs_removeChannel {channel : Option Channel} {t : Trace} {u : Unit}
    (h : Runs (removeChannel channel) t u) :
    Removal channel t.notable ∧ t.Calm := by
  rcases removeChannel_cases h with ⟨path, answer, rfl, rfl⟩ | ⟨hpipe, rfl⟩
  · exact ⟨.pipe path answer, Trace.calm_singleton.2 rfl⟩
  · refine ⟨?_, Trace.calm_nil⟩
    match channel with
    | some (.fifo path) => exact absurd rfl (hpipe path)
    | some (.stdin capacity) => exact .stdin capacity
    | none => exact .none

section
variable {stoppable : Bool}

/-- A wait that was cut short. -/
def Cut {α : Type} (w : Waiting stoppable α) : Prop := w.isStopped = true

theorem mild_dropWriter (w : Option Writer) : Mild (fun _ => False) (dropWriter w) := by
  match w with
  | some (.pipe h) => exact Keeps.send (r := .closePipe h) rfl nofun
  | some (.queue h) => exact Keeps.send (r := .dropQueue h) rfl nofun
  | none => exact .pure ()

theorem keeps_poll {p : Request → Bool} (hp : ∀ process, p (.exitStatus process) = true)
    (c : Consumer) : Keeps p (fun _ => False) (poll c) := by
  unfold poll
  split
  · exact .pure _
  · refine .send_bind (hp c.process) (fun _ => rfl) fun answer => ?_
    cases answer with
    | ok exit => exact .pure _
    | error message => exact .pure _

theorem tending_await (c : Consumer) (timeout : Nat) : Tending Cut (await stoppable c timeout) := by
  unfold await
  split
  · exact .pure _
  · exact Keeps.send (r := .awaitExit stoppable c.process timeout) rfl fun _ h => h

/-- Goes on with a value that was waited for, unless the wait was cut short. -/
theorem keeps_bind_over {p : Request → Bool} {α β : Type} {d : Dialogue (Waiting stoppable α)}
    {f : Waiting stoppable α → Dialogue (Waiting stoppable β)} (hd : Keeps p Cut d)
    (hover : ∀ a, Keeps p Cut (f (.over a)))
    (hstopped : ∀ allowed, f (.stopped allowed) = pure (.stopped allowed)) :
    Keeps p Cut (d >>= f) := by
  refine hd.bind ?_ ?_
  · rintro (a | allowed)
    · exact hover a
    · rw [hstopped allowed]
      exact .pure _
  · rintro (a | allowed) hc
    · cases hc
    · rw [hstopped allowed]
      exact Host.always_pure rfl

theorem tending_kill (c : Consumer) : Tending Cut (Request.kill stoppable c.process).send :=
  Keeps.send (r := .kill stoppable c.process) rfl fun _ h => h

theorem tending_stop (c : Consumer) (grace : Nat) : Tending Cut (stop stoppable c grace) := by
  unfold stop
  refine (keeps_poll (fun _ => rfl) c).bind (fun polled => ?_) fun _ h => h.elim
  split
  · exact .pure _
  · refine .send_bind rfl (fun _ => rfl) fun _ => ?_
    refine keeps_bind_over (tending_await c grace) (fun ending => ?_) fun _ => rfl
    cases ending with
    | exited status => exact .pure _
    | running => exact keeps_bind_over (tending_kill c) (fun _ => .pure _) fun _ => rfl
    | refused message => exact keeps_bind_over (tending_kill c) (fun _ => .pure _) fun _ => rfl

theorem tending_collect (c : Consumer) (timeout : Nat) :
    Tending Cut (collect stoppable c timeout) := by
  unfold collect
  refine keeps_bind_over (α := Host.Said) ?_ (fun said => .pure _) fun _ => rfl
  exact Keeps.send (r := .collect stoppable c.process timeout) rfl fun _ h => h

theorem tending_quit (c : Consumer) (grace : Nat) : Tending Cut (quit stoppable c grace) := by
  unfold quit
  refine keeps_bind_over (tending_stop c grace) (fun _ => ?_) fun _ => rfl
  exact keeps_bind_over (tending_collect c grace) (fun _ => .pure _) fun _ => rfl

theorem tending_stopConsumer (grace : Nat) (consumer : Option Consumer) :
    Tending Cut (stopConsumer stoppable grace consumer) := by
  cases consumer with
  | none => exact .pure _
  | some c =>
    refine (tending_quit c grace).bind (fun said => ?_) fun said hc => ?_
    · refine .send_bind rfl (fun _ => rfl) fun _ => ?_
      cases said with
      | «over» stderr => exact .pure _
      | stopped allowed => exact .pure _
    · cases said with
      | «over» stderr => cases hc
      | stopped allowed => exact Host.always_bind fun _ => Host.always_pure rfl

/-- What giving everything up may come to: all of it is gone, or the program was told to stop and
the channel is left. -/
theorem cleanup_cases {s s' : Session} {t : Trace} {w : Waiting stoppable (Option String)}
    (h : Runs (s.cleanup stoppable) t (w, s')) :
    (∃ said, w = .over said ∧ s' = s.emptied s.state ∧ Removal s.channel t.notable ∧ t.Calm) ∨
    (∃ allowed, w = .stopped allowed ∧ s' = { s with consumer := none, writer := none } ∧
      t.notable = []) := by
  rw [cleanup, Host.runs_bind_iff] at h
  obtain ⟨t₁, t₂, u, rfl, h₁, h⟩ := h
  obtain ⟨t₂, t₃, v, rfl, h₂, h₃⟩ := Host.runs_bind_iff.1 h
  -- The pipe is removed last, so a cleanup that is cut short has left it.
  have hm₁ := (mild_dropWriter s.writer).notable_eq_nil h₁
  have hm₂ := (tending_stopConsumer _ _).mild.notable_eq_nil h₂
  cases v with
  | stopped allowed =>
    obtain ⟨rfl, hv⟩ := Host.runs_pure_iff.1 h₃
    cases hv
    exact .inr ⟨allowed, rfl, rfl, by simp [hm₁, hm₂]⟩
  | «over» said =>
    obtain ⟨t₄, t₅, u, rfl, h₄, h₅⟩ := Host.runs_bind_iff.1 h₃
    obtain ⟨rfl, hv⟩ := Host.runs_pure_iff.1 h₅
    cases hv
    obtain ⟨hremoval, hc₃⟩ := runs_removeChannel h₄
    have hc₁ := (mild_dropWriter s.writer).calm h₁ id
    have hc₂ := (tending_stopConsumer _ _).mild.calm h₂ (by simp [Cut, Waiting.isStopped])
    exact .inl ⟨said, rfl, rfl, by simpa [hm₁, hm₂] using hremoval, by simp [hc₁, hc₂, hc₃]⟩

/-- A session that fails gives everything up and is over, or leaves its channel because the program
is told to stop. -/
theorem fail_cases {s s' : Session} {fault : Fault} {t : Trace} {i : Interruption stoppable}
    (h : Runs (s.fail stoppable fault) t (i, s')) :
    (∃ f, i = .failed f ∧ s' = s.emptied .failed ∧ Removal s.channel t.notable ∧ t.Calm) ∨
    (∃ allowed, i = .stopped allowed ∧ s' = { s with consumer := none, writer := none } ∧
      t.notable = []) := by
  rw [fail, Host.runs_bind_iff] at h
  obtain ⟨t₁, t₂, ⟨w, s₁⟩, rfl, h₁, h₂⟩ := h
  rcases cleanup_cases h₁ with ⟨said, rfl, rfl, hr, hs⟩ | ⟨allowed, rfl, rfl, hn⟩
  · obtain ⟨rfl, hv⟩ := Host.runs_pure_iff.1 h₂
    cases hv
    rw [List.append_nil]
    exact .inl ⟨_, rfl, rfl, hr, hs⟩
  · obtain ⟨rfl, hv⟩ := Host.runs_pure_iff.1 h₂
    cases hv
    exact .inr ⟨allowed, rfl, rfl, by simpa using hn⟩

end

theorem failWith_cases {α : Type} {s s' : Session} {fault : Fault} {t : Trace}
    {r : Except Fault α} (h : Runs (s.failWith fault) t (r, s')) :
    ∃ f, r = .error f ∧ s' = s.emptied .failed ∧ Removal s.channel t.notable ∧ t.Calm := by
  rw [failWith, Host.runs_bind_iff] at h
  obtain ⟨t₁, t₂, ⟨i, s₁⟩, rfl, h₁, h₂⟩ := h
  rcases fail_cases h₁ with ⟨f, rfl, rfl, hr, hs⟩ | ⟨allowed, -⟩
  · obtain ⟨rfl, hv⟩ := Host.runs_pure_iff.1 h₂
    cases hv
    rw [List.append_nil]
    exact ⟨f, rfl, rfl, hr, hs⟩
  · cases allowed

/-- A session that is not over gives everything up when it is aborted. -/
theorem abort_cases {s s' : Session} {t : Trace} (h : Runs s.abort t s') :
    (s.state.isOver = true ∧ t = [] ∧ s' = s) ∨
    (s.state.isOver = false ∧ s' = s.emptied .failed ∧ Removal s.channel t.notable ∧ t.Calm) := by
  unfold abort at h
  by_cases hover : s.state.isOver = true
  · rw [if_pos hover] at h
    obtain ⟨rfl, rfl⟩ := Host.runs_pure_iff.1 h
    exact .inl ⟨hover, rfl, rfl⟩
  · rw [if_neg hover, Host.runs_bind_iff] at h
    obtain ⟨t₁, t₂, ⟨w, s₁⟩, rfl, h₁, h₂⟩ := h
    rcases cleanup_cases h₁ with ⟨said, rfl, rfl, hr, hs⟩ | ⟨allowed, -⟩
    · obtain ⟨rfl, rfl⟩ := Host.runs_pure_iff.1 h₂
      rw [List.append_nil]
      exact .inr ⟨by simpa using hover, rfl, hr, hs⟩
    · cases allowed

end BulkLoad.Sink.Session
