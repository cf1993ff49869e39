import BulkLoad.Proofs.Sink.Drain
import BulkLoad.Proofs.Step.Acquire
import BulkLoad.Proofs.Step.Conclude
import BulkLoad.Proofs.Step.Rows

/-!
How far a run gets that nothing stands in the way of: its targets open, every row is written or
skipped and counted, and the targets finish.
-/

namespace BulkLoad.Step

open Host (Exchange Runs Trace asked bytesFor bytesFor_append)
open Sink (Session)

/-- Those of the rows that the schema does not take. -/
def rejected (input : Schema) (rows : List Row) : List Row :=
  rows.filter fun row => !(input.check row).toBool

theorem rejected_cons {input : Schema} {row : Row} (rows : List Row)
    (h : input.check row = .ok ()) : rejected input (row :: rows) = rejected input rows := by
  rw [rejected, List.filter_cons_of_neg (by rw [h]; nofun), rejected]

theorem rejected_cons_error {input : Schema} {row : Row} {e : SchemaError} (rows : List Row)
    (h : input.check row = .error e) :
    rejected input (row :: rows) = row :: rejected input rows := by
  rw [rejected, List.filter_cons_of_pos (by rw [h]; rfl), rejected]

namespace Targets

/-- The targets with more records written to their loader. -/
def tallied (t : Targets) (records bytes : Nat) : Targets :=
  { t with loader := t.loader.map fun l => { l with session := l.session.tallied records bytes } }

theorem tallied_zero (t : Targets) : t.tallied 0 0 = t := by
  cases t with
  | mk file loader unstarted => cases loader <;> rfl

theorem tallied_tallied (t : Targets) (r b r' b' : Nat) :
    (t.tallied r b).tallied r' b' = t.tallied (r + r') (b + b') := by
  cases t with
  | mk file loader unstarted =>
    cases loader with
    | none => rfl
    | some l => simp [tallied, Session.tallied, Nat.add_assoc]

variable {t t' : Targets} {τ : Trace} {r : Except (Interruption true) Unit}

theorem writeFile_through {record : Bytes} (h : Runs (t.writeFile record) τ r) (ho : t.Open)
    (hc : τ.Calm) (hs : τ.Unfailing) : r = .ok () ∧ bytesFor .channel τ.parcels = [] := by
  rcases writeFile_cases h ho with ⟨-, rfl, rfl⟩ | ⟨f, handle, -, -, ⟨rfl, -⟩ | ⟨d, rfl, rfl⟩⟩
  · exact ⟨rfl, rfl⟩
  · cases (Trace.calm_cons.1 hc).1
  · obtain ⟨-, hwritten⟩ := Trace.unfailing_cons.1 hs
    obtain ⟨hd, -⟩ := Trace.unfailing_cons.1 hwritten
    cases d with
    | done => exact ⟨rfl, rfl⟩
    | refused message => cases hd
    | stopped allowed => cases hd

theorem writeLoader_through {record : Bytes} (h : Runs (t.writeLoader record) τ (r, t'))
    (ho : t.Open) (hc : τ.Calm) (hs : τ.Unfailing) :
    r = .ok () ∧ t' = t.tallied 1 (bytesFor .channel τ.parcels).length := by
  rcases writeLoader_cases h ho with ⟨hl, rfl, rfl, rfl⟩ | ⟨l, hl, ⟨rfl, -, -⟩ |
    ⟨x, d, rest, rfl, hx, hw⟩⟩
  · refine ⟨rfl, ?_⟩
    cases t'
    cases hl
    rfl
  · cases (Trace.calm_cons.1 hc).1
  · obtain ⟨-, hwritten⟩ := Trace.unfailing_cons.1 hs
    obtain ⟨hd, -⟩ := Trace.unfailing_cons.1 hwritten
    rw [hx.fails] at hd
    cases hw with
    | failed message f rest removed calm => cases hd
    | stopped d incomplete rest mild consumer writer =>
      rw [incomplete] at hd
      cases hd
    | done =>
      have hparcels : Trace.parcels [asked false, x] = [⟨.channel, record, true, true⟩] := by
        rw [Trace.parcels_asked, Trace.parcels, List.filterMap_cons, hx.parcel?]
        rfl
      refine ⟨rfl, ?_⟩
      rw [hparcels]
      cases t
      cases hl
      simp [withSession, tallied, Session.tallied, Host.bytesFor_cons]

/-- A row that nothing stands in the way of is written and counted. -/
theorem write_through {b : Buffers} (h : Runs (t.write b) τ (r, t')) (ho : t.Open) (hc : τ.Calm)
    (hs : τ.Unfailing) : r = .ok () ∧ t' = t.tallied 1 (bytesFor .channel τ.parcels).length := by
  obtain ⟨τ₁, τ₂, w, rfl, h₁, h₂⟩ := Host.runs_bind_iff.1 h
  obtain ⟨hc₁, hc₂⟩ := Trace.calm_append.1 hc
  obtain ⟨hs₁, hs₂⟩ := Trace.unfailing_append.1 hs
  obtain ⟨rfl, hnothing⟩ := writeFile_through h₁ ho hc₁ hs₁
  rw [Trace.parcels_append, bytesFor_append, hnothing, List.nil_append]
  exact writeLoader_through h₂ ho hc₂ hs₂

end Targets

/-- All rows came through the loop: it wrote the accepted ones, skipped the others, and counted
both. -/
structure Through (input : Schema) (rows : List Row) (counts : Counts) (t : Targets) (τ : Trace)
    (p : Pumped) : Prop where
  outcome : p.outcome = .ok ()
  read : p.counts.read = counts.read + rows.length
  written : p.counts.written = counts.written + (accepted input rows).length
  skipped : p.counts.skipped = counts.skipped + (rejected input rows).length
  parcels : τ.parcels = (accepted input rows).flatMap t.encoders.parcels
  targets : p.targets =
    t.tallied (accepted input rows).length (bytesFor .channel τ.parcels).length

namespace Through

variable {input : Schema} {row : Row} {rows : List Row} {counts : Counts} {b b' : Buffers}
  {t t' : Targets} {τ τ' : Trace} {p : Pumped}

theorem nil (input : Schema) (counts : Counts) (t : Targets) :
    Through input [] counts t turn ⟨.ok (), counts, t⟩ :=
  ⟨rfl, rfl, rfl, rfl, rfl, t.tallied_zero.symm⟩

/-- A row that is skipped leaves nothing but its count. -/
theorem skip {e : SchemaError} (hrow : input.check row = .error e)
    (h : Through input rows counts.withSkipped t τ p) :
    Through input (row :: rows) counts t (turn ++ τ) p := by
  obtain ⟨outcome, read, written, skipped, parcels, targets⟩ := h
  have hparcels : Trace.parcels (turn ++ τ) = τ.parcels := by
    rw [Trace.parcels_append, parcels_turn, List.nil_append]
  refine ⟨outcome, ?_, ?_, ?_, ?_, ?_⟩
  · rw [read, List.length_cons, Counts.withSkipped_read]
    omega
  · rw [accepted_cons_error rows hrow]
    exact written
  · rw [skipped, rejected_cons_error rows hrow, List.length_cons, Counts.withSkipped_skipped]
    omega
  · rw [hparcels, accepted_cons_error rows hrow]
    exact parcels
  · rw [hparcels, accepted_cons_error rows hrow]
    exact targets

/-- A row that is written adds its records. -/
theorem write (hrow : input.check row = .ok ()) (hplanned : τ.parcels = t.encoders.parcels row)
    (ht : t' = t.tallied 1 (bytesFor .channel τ.parcels).length)
    (hencoders : t'.encoders = t.encoders) (h : Through input rows counts.withWritten t' τ' p) :
    Through input (row :: rows) counts t (turn ++ (τ ++ τ')) p := by
  obtain ⟨outcome, read, written, skipped, parcels, targets⟩ := h
  have hparcels : Trace.parcels (turn ++ (τ ++ τ')) = τ.parcels ++ τ'.parcels := by
    rw [Trace.parcels_append, parcels_turn, List.nil_append, Trace.parcels_append]
  refine ⟨outcome, ?_, ?_, ?_, ?_, ?_⟩
  · rw [read, List.length_cons, Counts.withWritten_read]
    omega
  · rw [written, accepted_cons rows hrow, List.length_cons, Counts.withWritten_written]
    omega
  · rw [rejected_cons rows hrow]
    exact skipped
  · rw [hparcels, accepted_cons rows hrow, List.flatMap_cons, hplanned, parcels, hencoders]
  · rw [targets, ht, Targets.tallied_tallied, hparcels, bytesFor_append, List.length_append,
      accepted_cons rows hrow, List.length_cons, Nat.add_comm 1]

end Through

variable {policy : Policy} {input : Schema} {items : List (Except Fault Row)} {counts : Counts}
  {b : Buffers} {t : Targets} {τ : Trace} {p : Pumped}

/-- A source that does not fail comes through, if rows that are not accepted are skipped. -/
theorem Pumps.through (h : Pumps policy input items counts b t τ p) (ho : t.Open)
    (ht : ∀ row, input.check row = .ok () → t.encoders.Takes row)
    (hskip : policy.onRowError = .skip) (hitems : ∀ fault, Except.error fault ∉ items)
    (hc : τ.Calm) (hs : τ.Unfailing) : Through input (arrivals items) counts t τ p := by
  have hskips : ∀ {fault : Fault}, fault.scope = .row → policy.skips fault = true := by
    intro fault hf
    rw [Policy.skips, hf, hskip]
    rfl
  -- The loop is not stopped and nothing fails, so every row is skipped or written.
  induction h with
  | stopped wait =>
    rcases nextRow_cases wait with ⟨hp, -⟩ | ⟨-, rfl | rfl⟩
    · cases hp
    · cases (Trace.calm_cons.1 hc).1
    · cases (Trace.calm_cons.1 (Trace.calm_cons.1 hc).2).1
  | drained => exact .nil _ _ _
  | source => exact absurd List.mem_cons_self (hitems _)
  | @rejected row rest counts b b' t fault refused ends =>
    obtain ⟨-, hscope⟩ := Targets.accept_error (ht row) refused
    rw [hskips hscope] at ends
    cases ends
  | @skipped row rest counts b b' t fault τ p refused goes _ ih =>
    obtain ⟨⟨e, hrow⟩, -⟩ := Targets.accept_error (ht row) refused
    exact .skip hrow (ih ho ht (fun fault hf => hitems fault (List.mem_cons_of_mem _ hf))
      (Trace.calm_append.1 hc).2 (Trace.unfailing_append.1 hs).2)
  | @unwritten row rest counts b b' t t' τ i taken write =>
    obtain ⟨hr, -⟩ := Targets.write_through write ho (Trace.calm_append.1 hc).2
      (Trace.unfailing_append.1 hs).2
    cases hr
  | @written row rest counts b b' t t' τ τ' p taken write _ ih =>
    obtain ⟨hc₁, hc₂⟩ := Trace.calm_append.1 (Trace.calm_append.1 hc).2
    obtain ⟨hs₁, hs₂⟩ := Trace.unfailing_append.1 (Trace.unfailing_append.1 hs).2
    obtain ⟨-, htallied⟩ := Targets.write_through write ho hc₁ hs₁
    obtain ⟨-, hwhole⟩ := Targets.write_follows write ho
    have halike := (Targets.write_alike write).encoders
    obtain ⟨hrow, hplanned⟩ := Targets.accept_ok (ht row) taken
    exact .write hrow (by rw [hwhole.2 rfl, hplanned]) htallied halike
      (ih (Targets.write_open write ho) (by rwa [halike])
        (fun fault hf => hitems fault (List.mem_cons_of_mem _ hf)) hc₂ hs₂)

/-- The loader did not become a target, and nobody has taken up its channel. -/
theorem acquireLoader_error {c : Config} {q : Projection} {file : Option FileTarget}
    {i : Interruption true} (h : Runs (acquireLoader c q file) τ (.error i, t)) :
    c.hasLoader = true ∧ τ.Unmet := by
  unfold acquireLoader at h
  by_cases hl : c.hasLoader = true
  · rw [if_pos hl] at h
    obtain ⟨τ₁, τ₂, ⟨started, l⟩, rfl, h₁, h₂⟩ := Host.runs_bind_iff.1 h
    obtain ⟨-, hstill, -, hstarted⟩ := startLoader_cases h₁ file
    cases hstarted with
    | failed f ended gone tends =>
      obtain ⟨rfl, -⟩ := Host.runs_pure_iff.1 h₂
      rw [List.append_nil]
      exact ⟨hl, hstill.unmet⟩
    | running made has state running unused =>
      obtain ⟨τ₃, τ₄, ⟨opened, l'⟩, rfl, h₃, h₄⟩ := Host.runs_bind_iff.1 h₂
      obtain ⟨rfl, hv⟩ := Host.runs_pure_iff.1 h₄
      cases hv
      rw [List.append_nil]
      exact ⟨hl, Trace.unmet_append.2 ⟨hstill.unmet, (connect_cases h₃ state running).unmet⟩⟩
  · rw [if_neg hl] at h
    obtain ⟨-, hv⟩ := Host.runs_pure_iff.1 h
    cases hv

/-- A run comes by its targets when nothing fails and somebody takes up the channel. -/
theorem acquire_through {c : Config} {q : Projection} {file : Option FileTarget}
    {r : Except (Interruption true) Unit} (h : Runs (acquire c q file) τ (r, t))
    (hf : ∀ f, file = some f → f.file.isSome = true) (hs : τ.Unfailing)
    (hmet : c.hasLoader = true → ¬τ.Unmet) : r = .ok () := by
  -- Before the loader, only the header is written, and that takes up no channel.
  have hloader : ∀ {τ₁ τ₂ : Trace}, τ = τ₁ ++ τ₂ → τ₁.Unmet →
      Runs (acquireLoader c q file) τ₂ (r, t) → r = .ok () := by
    rintro τ₁ τ₂ rfl hunmet hruns
    cases r with
    | ok u => rfl
    | error i =>
      obtain ⟨hl, hunmet₂⟩ := acquireLoader_error hruns
      exact absurd (Trace.unmet_append.2 ⟨hunmet, hunmet₂⟩) (hmet hl)
  cases file with
  | none => exact hloader (List.nil_append τ).symm Trace.unmet_nil h
  | some f =>
    obtain ⟨handle, hh⟩ := Option.isSome_iff_exists.1 (hf f rfl)
    obtain ⟨τ₁, τ₂, w, rfl, h₁, h₂⟩ := Host.runs_bind_iff.1 h
    obtain ⟨hs₁, -⟩ := Trace.unfailing_append.1 hs
    rcases FileTarget.runs_writeHeader h₁ hh with ⟨-, rfl, rfl⟩ | ⟨-, d, rfl, rfl⟩
    · exact hloader rfl Trace.unmet_nil h₂
    · obtain ⟨hd, -⟩ := Trace.unfailing_cons.1 hs₁
      cases d with
      | done => exact hloader rfl (Trace.unmet_singleton.2 rfl) h₂
      | refused message => cases hd
      | stopped allowed => cases allowed

/-- What the loader of the targets, if there is one, reports at the end. -/
inductive Targets.Reports (t : Targets) : Option SinkReport → Prop
  | nothing (alone : t.loader = none) : Targets.Reports t none
  | report {l : LoaderTarget} (loader : t.loader = some l) (stdout stderr : String) :
      Targets.Reports t (some (l.session.report 0 stdout stderr))

namespace Targets

variable {origin : String} {t' : Targets}

theorem finishFile_through {r : Except Fault (List ResultFile)}
    (h : Runs (finishFile origin t) τ (r, t')) (ho : t.Open) (hs : τ.Unfailing) :
    r = .ok (t.resultFiles origin) := by
  unfold finishFile at h
  cases hf : t.file with
  | none =>
    rw [hf] at h
    obtain ⟨-, hv⟩ := Host.runs_pure_iff.1 h
    cases hv
    simp [resultFiles, hf]
  | some f =>
    rw [hf] at h
    obtain ⟨τ₁, τ₂, ⟨finished, f'⟩, rfl, h₁, h₂⟩ := Host.runs_bind_iff.1 h
    obtain ⟨-, hv⟩ := Host.runs_pure_iff.1 h₂
    cases hv
    obtain ⟨handle, hh⟩ := Option.isSome_iff_exists.1 (ho.file f hf)
    obtain ⟨rfl, answer, rfl, rfl⟩ := FileTarget.runs_finish h₁ hh
    obtain ⟨hclosed, -⟩ := Trace.unfailing_cons.1 hs
    cases answer with
    | error message => cases hclosed
    | ok u =>
      rw [resultFiles, hf]
      rfl

theorem finishLoader_through {r : Except Fault (Option SinkReport)}
    (h : Runs (finishLoader t) τ (r, t'))
    (hd : ∀ l, t.loader = some l → l.session.state = .draining)
    (hc : ∀ l, t.loader = some l → Session.Running l.session.consumer) (hs : τ.Unfailing) :
    ∃ sink, r = .ok sink ∧ t.Reports sink := by
  unfold finishLoader at h
  cases hl : t.loader with
  | none =>
    rw [hl] at h
    obtain ⟨-, hv⟩ := Host.runs_pure_iff.1 h
    cases hv
    exact ⟨none, rfl, .nothing hl⟩
  | some l =>
    rw [hl] at h
    obtain ⟨τ₁, τ₂, ⟨finished, s⟩, rfl, h₁, h₂⟩ := Host.runs_bind_iff.1 h
    obtain ⟨-, hv⟩ := Host.runs_pure_iff.1 h₂
    cases hv
    obtain ⟨hs₁, -⟩ := Trace.unfailing_append.1 hs
    obtain ⟨stdout, stderr, rfl⟩ := Session.finish_ok h₁ (hd l hl) (hc l hl) hs₁
    exact ⟨_, rfl, .report hl stdout stderr⟩

/-- Targets that nothing fails for report the file and what was written to the loader. -/
theorem finalize_through {r : Except Fault Products} (h : Runs (finalize origin t) τ (r, t'))
    (ho : t.Open) (hc : ∀ l, t.loader = some l → Session.Running l.session.consumer)
    (hs : τ.Unfailing) :
    ∃ sink, r = .ok ⟨t.resultFiles origin, sink⟩ ∧ t.Reports sink := by
  obtain ⟨τ₁, τ₂, ⟨finished, t₁⟩, rfl, h₁, h₂⟩ := Host.runs_bind_iff.1 h
  obtain ⟨hs₁, hs₂⟩ := Trace.unfailing_append.1 hs
  obtain ⟨-, -, hloader, -⟩ := finishFile_cases h₁ ho
  obtain rfl := finishFile_through h₁ ho hs₁
  obtain ⟨τ₃, τ₄, ⟨ended, t₃⟩, rfl, h₃, h₄⟩ := Host.runs_bind_iff.1 h₂
  obtain ⟨hs₃, -⟩ := Trace.unfailing_append.1 hs₂
  obtain ⟨sink, rfl, hreports⟩ := finishLoader_through h₃ (by rw [hloader]; exact ho.draining)
    (by rw [hloader]; exact hc) hs₃
  obtain ⟨-, hv⟩ := Host.runs_pure_iff.1 h₄
  cases hv
  refine ⟨sink, rfl, ?_⟩
  cases hreports with
  | nothing alone => exact .nothing (hloader ▸ alone)
  | report loader stdout stderr => exact .report (hloader ▸ loader) stdout stderr

end Targets

/-- A run whose rows came through ends with its counts, its file and what the loader reports. -/
theorem conclude_through {c : Config} {t' : Targets} {result : Result}
    (h : Runs (conclude c p) τ (result, t')) (hp : p.outcome = .ok ()) (ho : p.targets.Open)
    (hc : ∀ l, p.targets.loader = some l → Session.Running l.session.consumer)
    (hs : τ.Unfailing) :
    ∃ sink, result = finishedResult c.policy p.counts ⟨p.targets.resultFiles c.name, sink⟩ ∧
      p.targets.Reports sink := by
  unfold conclude at h
  rw [hp] at h
  obtain ⟨τ₁, τ₂, ⟨finished, t₁⟩, rfl, h₁, h₂⟩ := Host.runs_bind_iff.1 h
  obtain ⟨hs₁, -⟩ := Trace.unfailing_append.1 hs
  obtain ⟨sink, rfl, hreports⟩ := Targets.finalize_through h₁ ho hc hs₁
  obtain ⟨-, hv⟩ := Host.runs_pure_iff.1 h₂
  cases hv
  exact ⟨sink, rfl, hreports⟩

end BulkLoad.Step
