import BulkLoad.Proofs.Host.Heed
import BulkLoad.Proofs.Host.Layout
import BulkLoad.Proofs.Host.Script
import BulkLoad.Proofs.Sink.Operations
import BulkLoad.Step.Run

/-!
What each operation on the targets of a run may come to, and what all of them together may do to
the disk: they write to the file, and they give the file and the pipe up.
-/

namespace BulkLoad.Step

open Host (Delivery Dialogue Exchange Handle Request Runs Trace asked)
open Sink (Session)
open Sink.Session (Handed Removal)

/-- Either the program is told to stop, or the dialogue takes place. -/
theorem runs_unlessStopping {α : Type} {stopped a : α} {d : Dialogue α} {τ : Trace}
    (h : Runs (unlessStopping stopped d) τ a) :
    (τ = [asked true] ∧ a = stopped) ∨ ∃ rest, τ = asked false :: rest ∧ Runs d rest a := by
  obtain ⟨stop, rest, rfl, h₁⟩ := Host.runs_send_bind_iff.1 h
  cases stop with
  | true =>
    obtain ⟨rfl, rfl⟩ := Host.runs_pure_iff.1 h₁
    exact .inl ⟨rfl, rfl⟩
  | false => exact .inr ⟨rest, rfl, h₁⟩

/-- The outcome of a write. -/
def outcomeOf {stoppable : Bool} (fault : String → Fault) :
    Delivery stoppable → Except (Interruption stoppable) Unit
  | .done => .ok ()
  | .refused message => .error (.failed (fault message))
  | .stopped allowed => .error (.stopped allowed)

namespace FileTarget

/-- Writing to an open file is one exchange. -/
theorem runs_write {f : FileTarget} {stoppable : Bool} {handle : Handle} {bytes : Bytes} {τ : Trace}
    {r : Except (Interruption stoppable) Unit} (h : Runs (f.write stoppable bytes) τ r)
    (hf : f.file = some handle) :
    ∃ d : Delivery stoppable, τ = [⟨.append stoppable handle bytes, d⟩] ∧
      r = outcomeOf (writeFault f.path) d := by
  rw [write, hf] at h
  obtain ⟨d, rest, rfl, h₁⟩ := Host.runs_send_bind_iff.1 h
  cases d with
  | done =>
    obtain ⟨rfl, rfl⟩ := Host.runs_pure_iff.1 h₁
    exact ⟨.done, rfl, rfl⟩
  | refused message =>
    obtain ⟨rfl, rfl⟩ := Host.runs_pure_iff.1 h₁
    exact ⟨.refused message, rfl, rfl⟩
  | stopped allowed =>
    obtain ⟨rfl, rfl⟩ := Host.runs_pure_iff.1 h₁
    exact ⟨.stopped allowed, rfl, rfl⟩

theorem runs_writeHeader {f : FileTarget} {handle : Handle} {τ : Trace}
    {r : Except (Interruption false) Unit} (h : Runs f.writeHeader τ r)
    (hf : f.file = some handle) :
    (f.encoder.header = [] ∧ τ = [] ∧ r = .ok ()) ∨
    (f.encoder.header ≠ [] ∧ ∃ d : Delivery false,
      τ = [⟨.append false handle f.encoder.header, d⟩] ∧ r = outcomeOf (writeFault f.path) d) := by
  unfold writeHeader at h
  by_cases hempty : f.encoder.header.isEmpty = true
  · rw [if_pos hempty] at h
    obtain ⟨rfl, rfl⟩ := Host.runs_pure_iff.1 h
    exact .inl ⟨by simpa using hempty, rfl, rfl⟩
  · rw [if_neg hempty] at h
    exact .inr ⟨by simpa using hempty, runs_write h hf⟩

/-- Closing an open file is one exchange. -/
theorem runs_finish {f f' : FileTarget} {handle : Handle} {τ : Trace} {r : Except Fault Unit}
    (h : Runs f.finish τ (r, f')) (hf : f.file = some handle) :
    f' = { f with file := none } ∧ ∃ answer : Except String Unit,
      τ = [⟨.closeFile handle, answer⟩] ∧ r = answer.mapError (flushFault f.path) := by
  rw [finish, hf] at h
  obtain ⟨answer, rest, rfl, h₁⟩ := Host.runs_send_bind_iff.1 h
  cases answer with
  | ok u =>
    obtain ⟨rfl, hv⟩ := Host.runs_pure_iff.1 h₁
    cases hv
    exact ⟨rfl, .ok (), rfl, rfl⟩
  | error message =>
    obtain ⟨rfl, hv⟩ := Host.runs_pure_iff.1 h₁
    cases hv
    exact ⟨rfl, .error message, rfl, rfl⟩

theorem runs_abort {f f' : FileTarget} {τ : Trace} (h : Runs f.abort τ f') :
    f' = { f with file := none } ∧ τ.Calm ∧
      ∃ answer : Except String Unit, τ.notable = [⟨.remove f.path, answer⟩] := by
  unfold abort at h
  cases hf : f.file with
  | none =>
    rw [hf] at h
    obtain ⟨answer, rest, rfl, h₁⟩ := Host.runs_send_bind_iff.1 h
    obtain ⟨rfl, rfl⟩ := Host.runs_pure_iff.1 h₁
    exact ⟨rfl, Trace.calm_singleton.2 rfl, answer, rfl⟩
  | some handle =>
    rw [hf] at h
    obtain ⟨u, rest, rfl, h₁⟩ := Host.runs_send_bind_iff.1 h
    obtain ⟨answer, rest, rfl, h₂⟩ := Host.runs_send_bind_iff.1 h₁
    obtain ⟨rfl, rfl⟩ := Host.runs_pure_iff.1 h₂
    exact ⟨rfl, Trace.calm_cons.2 ⟨rfl, Trace.calm_singleton.2 rfl⟩, answer, rfl⟩

end FileTarget

namespace Targets

/-- Every target is open for rows. -/
structure Open (t : Targets) : Prop where
  file : ∀ f, t.file = some f → f.file.isSome = true
  draining : ∀ l, t.loader = some l → l.session.state = .draining
  writer : ∀ l, t.loader = some l → l.session.writer.isSome = true

/-- The targets with another session of their loader. -/
def withSession (t : Targets) (l : LoaderTarget) (s : Session) : Targets :=
  { t with loader := some { l with session := s } }

theorem withSession_self {t : Targets} {l : LoaderTarget} (h : t.loader = some l) :
    t.withSession l l.session = t := by
  cases t
  simp_all [withSession]

/-- Writing a record to the file: nothing without a file, else one exchange behind the question
whether to stop. -/
theorem writeFile_cases {t : Targets} {record : Bytes} {τ : Trace}
    {r : Except (Interruption true) Unit} (h : Runs (t.writeFile record) τ r) (ho : t.Open) :
    (t.file = none ∧ τ = [] ∧ r = .ok ()) ∨
    ∃ f handle, t.file = some f ∧ f.file = some handle ∧
      ((τ = [asked true] ∧ r = .error (.stopped rfl)) ∨
        ∃ d : Delivery true, τ = [asked false, ⟨.append true handle record, d⟩] ∧
          r = outcomeOf (writeFault f.path) d) := by
  unfold writeFile at h
  cases hf : t.file with
  | none =>
    rw [hf] at h
    obtain ⟨rfl, rfl⟩ := Host.runs_pure_iff.1 h
    exact .inl ⟨rfl, rfl, rfl⟩
  | some f =>
    rw [hf] at h
    obtain ⟨handle, hh⟩ := Option.isSome_iff_exists.1 (ho.file f hf)
    refine .inr ⟨f, handle, rfl, hh, ?_⟩
    rcases runs_unlessStopping h with ⟨rfl, rfl⟩ | ⟨rest, rfl, h₁⟩
    · exact .inl ⟨rfl, rfl⟩
    · obtain ⟨d, rfl, rfl⟩ := FileTarget.runs_write h₁ hh
      exact .inr ⟨d, rfl, rfl⟩

/-- How writing a record to the loader ends, by what came of handing it over. -/
inductive LoaderWritten (t : Targets) (l : LoaderTarget) (record : Bytes) :
    Delivery true → Trace → Except (Interruption true) Unit → Targets → Prop
  | done : LoaderWritten t l record .done [] (.ok ()) (t.withSession l
      { l.session with
        records := l.session.records + 1, bytes := l.session.bytes + record.length })
  | failed (message : String) (f : Fault) (rest : Trace)
      (removed : Removal l.session.channel rest.notable) (calm : rest.Calm) :
      LoaderWritten t l record (.refused message) rest (.error (.failed f))
        (t.withSession l (l.session.emptied .failed))
  | stopped (d : Delivery true) (incomplete : d.isDone = false) (rest : Trace)
      (mild : rest.notable = []) (consumer : Option Sink.Consumer) (writer : Option Sink.Writer) :
      LoaderWritten t l record d rest (.error (.stopped rfl))
        (t.withSession l { l.session with consumer, writer })

/-- Writing a record to the loader: nothing without a loader, else the record is handed over behind
the question whether to stop. -/
theorem writeLoader_cases {t t' : Targets} {record : Bytes} {τ : Trace}
    {r : Except (Interruption true) Unit} (h : Runs (t.writeLoader record) τ (r, t'))
    (ho : t.Open) :
    (t.loader = none ∧ τ = [] ∧ r = .ok () ∧ t' = t) ∨
    ∃ l, t.loader = some l ∧
      ((τ = [asked true] ∧ r = .error (.stopped rfl) ∧ t' = t) ∨
        ∃ x d, ∃ rest : Trace, τ = asked false :: x :: rest ∧ Handed true record x d ∧
          LoaderWritten t l record d rest r t') := by
  unfold writeLoader at h
  cases hl : t.loader with
  | none =>
    rw [hl] at h
    obtain ⟨rfl, hv⟩ := Host.runs_pure_iff.1 h
    cases hv
    exact .inl ⟨rfl, rfl, rfl, rfl⟩
  | some l =>
    rw [hl] at h
    obtain ⟨τ₁, τ₂, ⟨written, s⟩, rfl, h₁, h₂⟩ := Host.runs_bind_iff.1 h
    obtain ⟨rfl, hv⟩ := Host.runs_pure_iff.1 h₂
    cases hv
    refine .inr ⟨l, rfl, ?_⟩
    rcases runs_unlessStopping h₁ with ⟨rfl, hw⟩ | ⟨τ₁, rfl, h₃⟩
    · cases hw
      exact .inl ⟨rfl, rfl, withSession_self hl⟩
    · obtain ⟨x, d, rest, rfl, hx, hcases⟩ :=
        Session.write_cases h₃ (ho.draining l hl) (ho.writer l hl)
      refine .inr ⟨x, d, rest, by simp, hx, ?_⟩
      rcases hcases with ⟨rfl, rfl, rfl, rfl⟩ | ⟨message, f, rfl, rfl, rfl, hr, hc⟩ |
        ⟨allowed, consumer, writer, hd, rfl, hn, rfl⟩
      · exact .done
      · exact .failed message f rest hr hc
      · exact .stopped d hd rest hn consumer writer

end Targets
end BulkLoad.Step
