import BulkLoad.Proofs.Sink.Drain
import BulkLoad.Proofs.Step.Upkeep

/-!
How a run ends: its targets are finished, or what they made is taken back. Either way every session
is over and no pipe is left; only a run that comes through leaves its file.
-/

namespace BulkLoad.Step

open Host (Exchange Handle Runs Trace)
open Sink (Session)
open Sink.Session (Concluded Removal)

variable {c : Config} {t t' : Targets} {τ : Trace}

theorem finished_emptied (s : Session) {state : Sink.State} (h : state.isOver = true) :
    Finished (s.emptied state) :=
  ⟨h, rfl⟩

namespace Targets

/-- Every session of the targets is over and has no channel, also one that did not start. -/
structure Over (t : Targets) : Prop where
  loader : ∀ l, t.loader = some l → Finished l.session
  unstarted : ∀ s, t.unstarted = some s → Finished s

/-- The targets have nothing on the disk. -/
structure Bare (t : Targets) : Prop where
  file : t.file = none
  pipe : t.pipe? = none

theorem abortLoader_cases (h : Runs (abortLoader t) τ t') (ht : t.Tidy) :
    τ.Calm ∧ τ.Still ∧ t'.file = t.file ∧ t'.unstarted = t.unstarted ∧
      (∀ l, t'.loader = some l → Finished l.session) ∧
      Tends { t with file := none } τ.onDisk { t' with file := none } := by
  unfold abortLoader at h
  cases hl : t.loader with
  | none =>
    rw [hl] at h
    obtain ⟨rfl, rfl⟩ := Host.runs_pure_iff.1 h
    refine ⟨Trace.calm_nil, Trace.still_nil, rfl, rfl, ?_, ?_⟩
    · intro l hl'
      rw [hl] at hl'
      cases hl'
    · rw [hl]
      exact .nil _
  | some l =>
    rw [hl] at h
    obtain ⟨τ₁, τ₂, s, rfl, h₁, h₂⟩ := Host.runs_bind_iff.1 h
    obtain ⟨rfl, rfl⟩ := Host.runs_pure_iff.1 h₂
    rw [List.append_nil]
    rcases Session.abort_cases h₁ with ⟨hover, rfl, rfl⟩ | ⟨-, rfl, hr, hc⟩
    · have hgone := ht l hl hover
      refine ⟨Trace.calm_nil, Trace.still_nil, rfl, rfl, ?_, ?_⟩
      · rintro l' hl'
        cases hl'
        exact ⟨hover, hgone⟩
      · exact Tends.to_session rfl rfl fun _ => hgone
    · refine ⟨hc, hr.still, rfl, rfl, ?_, ?_⟩
      · rintro l' hl'
        cases hl'
        exact finished_emptied _ rfl
      · exact Tends.to_emptied rfl hr.onDisk

/-- Taking everything back leaves nothing on the disk. -/
theorem teardown_cases (h : Runs (teardown t) τ t') (ht : t.Tidy)
    (hu : ∀ s, t.unstarted = some s → Finished s) :
    τ.Calm ∧ τ.Still ∧ t'.Over ∧ ∃ bare : Targets, bare.Bare ∧ Tends t τ.onDisk bare := by
  obtain ⟨τ₁, τ₂, t₁, rfl, h₁, h₂⟩ := Host.runs_bind_iff.1 h
  have hfile : τ₁.Calm ∧ τ₁.Still ∧ t₁.loader = t.loader ∧ t₁.unstarted = t.unstarted ∧
      Tends t τ₁.onDisk { t₁ with file := none } := by
    unfold abortFile at h₁
    cases hf : t.file with
    | none =>
      rw [hf] at h₁
      obtain ⟨rfl, rfl⟩ := Host.runs_pure_iff.1 h₁
      refine ⟨Trace.calm_nil, Trace.still_nil, rfl, rfl, ?_⟩
      rw [← hf]
      exact .nil _
    | some f =>
      rw [hf] at h₁
      obtain ⟨τ₃, τ₄, f', rfl, h₃, h₄⟩ := Host.runs_bind_iff.1 h₁
      obtain ⟨rfl, rfl⟩ := Host.runs_pure_iff.1 h₄
      obtain ⟨-, hcalm, answer, hn⟩ := FileTarget.runs_abort h₃
      rw [List.append_nil]
      refine ⟨hcalm, Trace.still_of_notable ?_, rfl, rfl, ?_⟩
      · rw [hn]
        exact Trace.still_cons.2 ⟨⟨rfl, rfl, rfl⟩, Trace.still_nil⟩
      · rw [← Trace.onDisk_notable, hn]
        exact .unlink answer hf (.nil _)
  -- Taking the file back leaves the loader as it was, so its session may still have a channel.
  obtain ⟨hcalm₁, hstill₁, hloader, hunstarted, htends₁⟩ := hfile
  have htidy : t₁.Tidy := by
    intro l hl
    rw [hloader] at hl
    exact ht l hl
  obtain ⟨hcalm₂, hstill₂, -, hkept, hfinished, htends₂⟩ := abortLoader_cases h₂ htidy
  refine ⟨Trace.calm_append.2 ⟨hcalm₁, hcalm₂⟩, Trace.still_append.2 ⟨hstill₁, hstill₂⟩,
    ⟨hfinished, ?_⟩, { t' with file := none }, ⟨rfl, ?_⟩, ?_⟩
  · rw [hkept, hunstarted]
    exact hu
  · cases hl : t'.loader with
    | none => simp [pipe?]
    | some l => simp [pipe?, Session.pipePath?, (hfinished l hl).2]
  · rw [Trace.onDisk_append]
    exact htends₁.trans htends₂

/-- What the report of a run says about its file. -/
def resultFiles (t : Targets) (origin : String) : List ResultFile :=
  t.file.toList.map fun f => ⟨.general, f.path, origin⟩

theorem finishFile_cases {origin : String} {r : Except Fault (List ResultFile)}
    (h : Runs (finishFile origin t) τ (r, t')) (ho : t.Open) :
    τ.Calm ∧ τ.Still ∧ t'.loader = t.loader ∧ t'.unstarted = t.unstarted ∧
      Tends t τ.onDisk t' ∧
      (∀ files, r = .ok files → files = t'.resultFiles origin) := by
  unfold finishFile at h
  cases hf : t.file with
  | none =>
    rw [hf] at h
    obtain ⟨rfl, hv⟩ := Host.runs_pure_iff.1 h
    cases hv
    refine ⟨Trace.calm_nil, Trace.still_nil, rfl, rfl, .nil _, ?_⟩
    rintro files hfiles
    cases hfiles
    simp [resultFiles, hf]
  | some f =>
    rw [hf] at h
    obtain ⟨τ₁, τ₂, ⟨finished, f'⟩, rfl, h₁, h₂⟩ := Host.runs_bind_iff.1 h
    obtain ⟨rfl, hv⟩ := Host.runs_pure_iff.1 h₂
    cases hv
    obtain ⟨handle, hh⟩ := Option.isSome_iff_exists.1 (ho.file f hf)
    obtain ⟨rfl, answer, rfl, rfl⟩ := FileTarget.runs_finish h₁ hh
    refine ⟨Trace.calm_singleton.2 rfl,
      Trace.still_cons.2 ⟨⟨rfl, rfl, rfl⟩, Trace.still_nil⟩, rfl, rfl, .close hf (.nil _), ?_⟩
    intro files hfiles
    cases answer with
    | error message => cases hfiles
    | ok u =>
      cases hfiles
      rfl

theorem finishLoader_cases {r : Except Fault (Option SinkReport)}
    (h : Runs (finishLoader t) τ (r, t'))
    (hd : ∀ l, t.loader = some l → l.session.state = .draining) :
    τ.Calm ∧ τ.Still ∧ t'.file = t.file ∧ t'.unstarted = t.unstarted ∧ t'.pipe? = none ∧
      (∀ l, t'.loader = some l → Finished l.session) ∧ Tends t τ.onDisk t' := by
  unfold finishLoader at h
  cases hl : t.loader with
  | none =>
    rw [hl] at h
    obtain ⟨rfl, hv⟩ := Host.runs_pure_iff.1 h
    cases hv
    refine ⟨Trace.calm_nil, Trace.still_nil, rfl, rfl, by simp [pipe?, hl], ?_, .nil _⟩
    intro l hl'
    rw [hl] at hl'
    cases hl'
  | some l =>
    rw [hl] at h
    obtain ⟨τ₁, τ₂, ⟨finished, s⟩, rfl, h₁, h₂⟩ := Host.runs_bind_iff.1 h
    obtain ⟨rfl, hv⟩ := Host.runs_pure_iff.1 h₂
    cases hv
    obtain ⟨hr, hc, hconcluded⟩ := Session.finish_cases h₁ (hd l hl)
    have hs : ∃ state, state.isOver = true ∧ s = l.session.emptied state := by
      cases hconcluded with
      | closed => exact ⟨.closed, rfl, rfl⟩
      | failed => exact ⟨.failed, rfl, rfl⟩
    obtain ⟨state, hover, rfl⟩ := hs
    rw [List.append_nil]
    refine ⟨hc, hr.still, rfl, rfl, rfl, ?_, Tends.to_emptied hl hr.onDisk⟩
    rintro l' hl'
    cases hl'
    exact finished_emptied _ hover

theorem finalize_cases {origin : String} {r : Except Fault Products}
    (h : Runs (finalize origin t) τ (r, t')) (ho : t.Open) :
    τ.Calm ∧ τ.Still ∧ t'.unstarted = t.unstarted ∧ Tends t τ.onDisk t' ∧
      (∀ products, r = .ok products → products.files = t'.resultFiles origin ∧
        t'.pipe? = none ∧ ∀ l, t'.loader = some l → Finished l.session) := by
  obtain ⟨τ₁, τ₂, ⟨finished, t₁⟩, rfl, h₁, h₂⟩ := Host.runs_bind_iff.1 h
  obtain ⟨hcalm₁, hstill₁, hloader, hunstarted, htends₁, hfiles⟩ := finishFile_cases h₁ ho
  cases finished with
  | error fault =>
    obtain ⟨rfl, hv⟩ := Host.runs_pure_iff.1 h₂
    cases hv
    rw [List.append_nil]
    exact ⟨hcalm₁, hstill₁, hunstarted, htends₁, nofun⟩
  | ok files =>
    obtain ⟨τ₃, τ₄, ⟨ended, t₃⟩, rfl, h₃, h₄⟩ := Host.runs_bind_iff.1 h₂
    have hdraining : ∀ l, t₁.loader = some l → l.session.state = .draining := by
      rw [hloader]
      exact ho.draining
    obtain ⟨hcalm₃, hstill₃, hfile, hunstarted₃, hpipe, hfinished, htends₃⟩ :=
      finishLoader_cases h₃ hdraining
    have hend : τ₄ = [] ∧ t' = t₃ ∧ ∀ products, r = .ok products → products.files = files := by
      cases ended with
      | error fault =>
        obtain ⟨rfl, hv⟩ := Host.runs_pure_iff.1 h₄
        cases hv
        exact ⟨rfl, rfl, nofun⟩
      | ok sink =>
        obtain ⟨rfl, hv⟩ := Host.runs_pure_iff.1 h₄
        cases hv
        refine ⟨rfl, rfl, ?_⟩
        rintro products hp
        cases hp
        rfl
    obtain ⟨rfl, rfl, hproducts⟩ := hend
    rw [List.append_nil]
    refine ⟨Trace.calm_append.2 ⟨hcalm₁, hcalm₃⟩, Trace.still_append.2 ⟨hstill₁, hstill₃⟩,
      hunstarted₃.trans hunstarted, ?_, fun products hr => ⟨?_, hpipe, hfinished⟩⟩
    · rw [Trace.onDisk_append]
      exact htends₁.trans htends₃
    · rw [hproducts products hr, hfiles files rfl, resultFiles, resultFiles, hfile]

end Targets

/-- How a run over its rows ends: it is taken back, or it comes through. -/
inductive Ended (c : Config) (pumped : Pumped) : Trace → Result → Targets → Prop
  | takenBack {δ : Trace} {t' bare : Targets} (i : Interruption true)
      (reason : pumped.outcome = .error i ∨ pumped.outcome = .ok () ∧ ∃ fault, i = .failed fault)
      (nothing : bare.Bare) (tends : Tends pumped.targets δ bare) :
      Ended c pumped δ (interruptedResult pumped.counts i) t'
  | finished {δ : Trace} {t' : Targets} (products : Products) (through : pumped.outcome = .ok ())
      (files : products.files = t'.resultFiles c.name) (pipe : t'.pipe? = none)
      (tends : Tends pumped.targets δ t') :
      Ended c pumped δ (finishedResult c.policy pumped.counts products) t'

theorem Ended.tends {pumped : Pumped} {δ : Trace} {result : Result}
    (h : Ended c pumped δ result t') : ∃ left, Tends pumped.targets δ left := by
  cases h with
  | takenBack i reason nothing tends => exact ⟨_, tends⟩
  | finished products through files pipe tends => exact ⟨_, tends⟩

/-- A loop that was told to stop is reported so. -/
theorem Ended.result_of_stopped {pumped : Pumped} {δ : Trace} {result : Result}
    (h : Ended c pumped δ result t') (hp : pumped.outcome = .error (.stopped rfl)) :
    result = interruptedResult pumped.counts (.stopped rfl) := by
  cases h with
  | takenBack i reason nothing tends =>
    rcases reason with hi | ⟨hok, -⟩
    · rw [hp] at hi
      cases hi
      rfl
    · rw [hp] at hok
      cases hok
  | finished products through files pipe tends =>
    rw [hp] at through
    cases through

theorem takeBack_cases {counts : Counts} {i : Interruption true} {result : Result}
    (h : Runs (takeBack counts t i) τ (result, t')) (ht : t.Tidy)
    (hu : ∀ s, t.unstarted = some s → Finished s) :
    τ.Calm ∧ τ.Still ∧ t'.Over ∧ result = interruptedResult counts i ∧
      ∃ bare : Targets, bare.Bare ∧ Tends t τ.onDisk bare := by
  obtain ⟨τ₁, τ₂, t₁, rfl, h₁, h₂⟩ := Host.runs_bind_iff.1 h
  obtain ⟨rfl, hv⟩ := Host.runs_pure_iff.1 h₂
  cases hv
  rw [List.append_nil]
  obtain ⟨hcalm, hstill, hover, hbare⟩ := Targets.teardown_cases h₁ ht hu
  exact ⟨hcalm, hstill, hover, rfl, hbare⟩

theorem conclude_cases {pumped : Pumped} {result : Result}
    (h : Runs (conclude c pumped) τ (result, t'))
    (ho : pumped.outcome = .ok () → pumped.targets.Open) (ht : pumped.targets.Tidy)
    (hu : ∀ s, pumped.targets.unstarted = some s → Finished s) :
    τ.Calm ∧ τ.Still ∧ t'.Over ∧ Ended c pumped τ.onDisk result t' := by
  unfold conclude at h
  cases hp : pumped.outcome with
  | error i =>
    rw [hp] at h
    obtain ⟨hcalm, hstill, hover, rfl, bare, hbare, htends⟩ := takeBack_cases h ht hu
    exact ⟨hcalm, hstill, hover, .takenBack i (.inl hp) hbare htends⟩
  | ok u =>
    rw [hp] at h
    obtain ⟨τ₁, τ₂, ⟨finished, t₁⟩, rfl, h₁, h₂⟩ := Host.runs_bind_iff.1 h
    obtain ⟨hcalm₁, hstill₁, hunstarted, htends₁, hproducts⟩ :=
      Targets.finalize_cases h₁ (ho hp)
    rw [← hunstarted] at hu
    rw [Trace.calm_append, Trace.still_append, Trace.onDisk_append]
    cases finished with
    | ok products =>
      obtain ⟨rfl, hv⟩ := Host.runs_pure_iff.1 h₂
      cases hv
      obtain ⟨hfiles, hpipe, hfinished⟩ := hproducts products rfl
      rw [Trace.onDisk_nil, List.append_nil]
      exact ⟨⟨hcalm₁, Trace.calm_nil⟩, ⟨hstill₁, Trace.still_nil⟩, ⟨hfinished, hu⟩,
        .finished products hp hfiles hpipe htends₁⟩
    -- A file that is finished already is taken back too when the loader fails.
    | error fault =>
      obtain ⟨hcalm, hstill, hover, rfl, bare, hbare, htends⟩ :=
        takeBack_cases h₂ (htends₁.tidy ht) hu
      exact ⟨⟨hcalm₁, hcalm⟩, ⟨hstill₁, hstill⟩, hover,
        .takenBack (.failed fault) (.inr ⟨hp, fault, rfl⟩) hbare (htends₁.trans htends)⟩

end BulkLoad.Step
