import BulkLoad.Proofs.Step.Acquire
import BulkLoad.Proofs.Step.Conclude
import BulkLoad.Proofs.Step.Course
import BulkLoad.Proofs.Step.Negotiation
import BulkLoad.Proofs.Step.Pump

/-!
What a run leaves behind, wherever it ends. A run that is refused or does not come through leaves
the files and pipes of the host as they were; one that comes through leaves its file and nothing
else. At no time is anything changed that stood there before.
-/

namespace BulkLoad.Step

open Host (Disk Entry Handle Runs Trace)
open Sink (Session)

variable {c : Config} {p : Projection} {δ ε : Trace} {file : Option FileTarget} {t left : Targets}
  {d d' : Disk}

/-- On the disk, a run makes its file or makes nothing, and then goes on with its targets. -/
inductive Leaves : Trace → Targets → Prop
  | bare {claim rest : Trace} {left : Targets} (refused : ∀ x ∈ claim, Refused x)
      (tends : Tends {} rest left) : Leaves (claim ++ rest) left
  | made {claim rest : Trace} {left : Targets} {path : String} {handle : Handle} {encoder : Encoder}
      (refused : ∀ x ∈ claim, Refused x)
      (tends : Tends { file := some ⟨path, some handle, encoder⟩ } rest left) :
      Leaves (claim ++ ⟨.createFile path, Host.Creation.made handle⟩ :: rest) left

theorem OutputClaimed.leaves (h : OutputClaimed c p δ (.ok file)) (ht : Tends { file } ε left) :
    Leaves (δ ++ ε) left := by
  cases h with
  | nothing missing refused =>
    cases file with
    | none => exact .bare refused ht
    | some f => exact absurd rfl (missing f)
  | made configured refused =>
    rw [List.append_assoc]
    exact .made refused ht

theorem staysWithin_of_refused {paths : List String} {files : List Handle}
    (h : ∀ x ∈ δ, Refused x) (hε : ε.StaysWithin paths files) :
    Trace.StaysWithin paths files (δ ++ ε) := by
  induction δ with
  | nil => exact hε
  | cons x δ ih =>
    obtain ⟨hx, hδ⟩ := List.forall_mem_cons.1 h
    exact staysWithin_cons_refused hx (ih hδ)

namespace Leaves

/-- What the run leaves stands on the disk, with all in its file that was handed to it. -/
theorem standing (h : Leaves δ left) (hs : δ.RemovalsSucceed) (hb : d.Behind δ d') :
    ∃ content, Grown [] δ content ∧ left.Standing d.entries content d' := by
  cases h with
  | bare refused tends =>
    obtain ⟨d₁, hb₁, hb₂⟩ := Disk.behind_append_iff.1 hb
    rw [behind_of_refused refused hb₁] at hb₂
    obtain ⟨content, hgrown, hstanding⟩ :=
      tends.standing (Targets.standing_none d) (Trace.removalsSucceed_append.1 hs).2 hb₂
    exact ⟨content, hgrown.behind (quiet_of_refused refused).2.parcels, hstanding⟩
  | made refused tends =>
    obtain ⟨-, hs₂⟩ := Trace.removalsSucceed_append.1 hs
    obtain ⟨d₁, hb₁, hb₂⟩ := Disk.behind_append_iff.1 hb
    obtain ⟨d₂, ha, hb₃⟩ := Disk.behind_cons_iff.1 hb₂
    rw [behind_of_refused refused hb₁] at ha
    obtain ⟨content, hgrown, hstanding⟩ :=
      tends.standing (standing_of_created (Targets.standing_none d) ha _)
        (Trace.removalsSucceed_cons.1 hs₂).2 hb₃
    exact ⟨content, (hgrown.cons rfl).behind (quiet_of_refused refused).2.parcels, hstanding⟩

theorem staysWithin (h : Leaves δ left) : δ.StaysWithin [] [] := by
  cases h with
  | bare refused tends =>
    refine staysWithin_of_refused refused (tends.staysWithin ⟨?_, ?_, nofun⟩)
    · rintro f hf
      cases hf
    · rintro f handle hf
      cases hf
  | made refused tends =>
    refine staysWithin_of_refused refused ⟨trivial, tends.staysWithin ⟨?_, ?_, nofun⟩⟩
    · rintro f hf
      cases hf
      exact List.mem_append_left _ (List.mem_singleton.2 rfl)
    · rintro f handle hf hh
      cases hf
      cases hh
      exact List.mem_append_left _ (List.mem_singleton.2 rfl)

end Leaves

/-- What a report says about what the run leaves behind. -/
inductive Reported (origin : String) : Except Fault Result → Targets → Prop
  | refused {fault : Fault} {left : Targets} (config : fault.category = .config)
      (nothing : left.Bare) : Reported origin (.error fault) left
  | failed {result : Result} {left : Targets}
      (bad : result.fault.isSome = true ∨ result.cancelled = true) (files : result.files = [])
      (nothing : left.Bare) : Reported origin (.ok result) left
  | through {result : Result} {left : Targets} (fault : result.fault = none)
      (cancelled : result.cancelled = false) (files : result.files = left.resultFiles origin)
      (pipe : left.pipe? = none) : Reported origin (.ok result) left

theorem Targets.bare_none : ({} : Targets).Bare := ⟨rfl, rfl⟩

theorem Targets.over_none : ({} : Targets).Over :=
  ⟨fun _ hl => (by cases hl), fun _ hs => (by cases hs)⟩

theorem interruptedResult_files (counts : Counts) (i : Interruption true) :
    (interruptedResult counts i).files = [] := by
  cases i <;> rfl

theorem interruptedResult_fault (counts : Counts) (i : Interruption true) :
    (interruptedResult counts i).fault.isSome = true := by
  cases i <;> rfl

theorem reported_unacquired {origin : String} {i : Interruption true} (hleft : left.Bare) :
    Reported origin (unacquiredReport i) left := by
  unfold unacquiredReport
  cases hi : i.configFault? with
  | none => exact .failed (.inl (interruptedResult_fault _ i)) (interruptedResult_files _ i) hleft
  | some fault =>
    refine .refused ?_ hleft
    cases i with
    | stopped allowed => cases hi
    | failed f =>
      rw [Interruption.configFault?] at hi
      by_cases hc : f.category = .config
      · rw [if_pos hc] at hi
        cases hi
        exact hc
      · rw [if_neg hc] at hi
        cases hi

theorem reported_unclaimed {origin : String} {fault : Fault} :
    Reported origin (unclaimedReport fault) {} := by
  unfold unclaimedReport
  by_cases hc : fault.category = .config
  · rw [if_pos hc]
    exact .refused hc Targets.bare_none
  · rw [if_neg hc]
    exact .failed (.inl rfl) rfl Targets.bare_none

theorem OutputClaimed.leaves_error {r : Except Fault (Option FileTarget)}
    (h : OutputClaimed c p δ r) (hr : ∀ f, r ≠ .ok (some f)) : Leaves δ {} := by
  cases h with
  | nothing missing refused =>
    have hleaves := Leaves.bare refused (.nil {})
    rwa [List.append_nil] at hleaves
  | made configured refused => exact absurd rfl (hr _)

variable {plan : Plan} {input : Schema} {items : List (Except Fault Row)} {τ : Trace}
  {report : Except Fault Result}

/-- Every course leaves what its report says. -/
theorem Course.leaves (h : Course plan input items τ report t) :
    t.Over ∧ (∀ fault, report = .error fault → τ.Rowless) ∧
      ∃ left, Leaves τ.onDisk left ∧ Reported plan.config.name report left := by
  cases h with
  | disagreed refused =>
    refine ⟨Targets.over_none, fun _ _ => Trace.rowless_nil, {}, ?_, ?_⟩
    · have hnothing : Leaves ([] ++ []) {} := .bare nofun (.nil _)
      exact hnothing
    · rcases plan.negotiate_cases input with ⟨fault, hf, hc⟩ | ⟨a, ha, -⟩
      · rw [hf] at refused
        cases refused
        exact .refused hc Targets.bare_none
      · rw [ha] at refused
        cases refused
  | unclaimed agreed claim =>
    obtain ⟨-, hstill, hclaimed⟩ := claimOutput_cases claim
    exact ⟨Targets.over_none, fun _ _ => hstill.rowless, {}, hclaimed.leaves_error nofun,
      reported_unclaimed⟩
  | idle agreed claim alone =>
    obtain ⟨-, -, hclaimed⟩ := claimOutput_cases claim
    exact ⟨Targets.over_none, nofun, {}, hclaimed.leaves_error nofun, .through rfl rfl rfl rfl⟩
  | unacquired agreed claim target acquire teardown =>
    obtain ⟨-, hstill₁, hclaimed⟩ := claimOutput_cases claim
    have hacquired := acquire_acquired acquire hclaimed.open
    obtain ⟨-, hstill₃, hover, bare, hbare, htends⟩ :=
      Targets.teardown_cases teardown hacquired.tidy hacquired.unstarted
    refine ⟨hover, fun _ _ => ?_, bare, ?_, reported_unacquired hbare⟩
    · exact Trace.rowless_append.2
        ⟨hstill₁.rowless, Trace.rowless_append.2 ⟨hacquired.rowless, hstill₃.rowless⟩⟩
    · rw [Trace.onDisk_append, Trace.onDisk_append]
      exact hclaimed.leaves (hacquired.tends.trans htends)
  | ran agreed claim target acquire pump conclude =>
    obtain ⟨-, -, hclaimed⟩ := claimOutput_cases claim
    have hacquired := acquire_acquired acquire hclaimed.open
    have hopen := hacquired.open rfl hclaimed.open
    have hpumps := pumps_of_runs pump
    have htends := hpumps.tends hopen
    have hfinished := hacquired.unstarted
    rw [← hpumps.alike.unstarted] at hfinished
    obtain ⟨-, -, hover, hended⟩ :=
      conclude_cases conclude (hpumps.open hopen) (htends.tidy hacquired.tidy) hfinished
    have hleaves : ∀ {ε left}, Tends _ ε left → Leaves _ left := fun hε =>
      hclaimed.leaves (hacquired.tends.trans (htends.trans hε))
    refine ⟨hover, nofun, ?_⟩
    rw [Trace.onDisk_append, Trace.onDisk_append, Trace.onDisk_append]
    cases hended with
    | takenBack i reason nothing tends =>
      exact ⟨_, hleaves tends, .failed (.inl (interruptedResult_fault _ i))
        (interruptedResult_files _ i) nothing⟩
    | finished products through files pipe tends =>
      exact ⟨_, hleaves tends, .through rfl rfl files pipe⟩

theorem entries_of_bare {content : Bytes} (h : left.Standing d.entries content d')
    (hleft : left.Bare) : d'.entries = d.entries := by
  have hlaid := h.laid
  rw [hleft.file, hleft.pipe] at hlaid
  exact hlaid.entries_eq

/-- Wherever a run ends, nothing half-made is left, provided that what is to be removed can be. A
run that is refused has read no row, and it leaves the disk as it was, and so does one that fails or
is told to stop; one that comes through leaves the one file that it reports, if it made one. Every
session is over. At no time, whatever fails, is anything changed that stood on the disk before. -/
theorem Plan.carryOut_remains (h : Runs (plan.carryOut input items) τ (report, t))
    (hb : d.Behind τ d') (hs : τ.RemovalsSucceed) :
    t.Over ∧
    (∀ fault, report = .error fault →
      fault.category = .config ∧ (∀ x ∈ τ, x.request ≠ .pull) ∧ d'.entries = d.entries) ∧
    (∀ result, report = .ok result → result.fault.isSome = true ∨ result.cancelled = true →
      result.files = [] ∧ d'.entries = d.entries) ∧
    (∀ result, report = .ok result → result.fault = none → result.cancelled = false →
      (result.files = [] ∧ d'.entries = d.entries) ∨
      ∃ path content, d.entries path = none ∧
        result.files = [⟨.general, path, plan.config.name⟩] ∧
        d'.entries = Function.update d.entries path (some (.file content))) ∧
    (∀ part d₁, part <+: τ → d.Behind part d₁ →
      ∀ q, d.entries q ≠ none → d₁.entries q = d.entries q) := by
  obtain ⟨hover, hrowless, left, hleaves, hreported⟩ := (course_of_runs h).leaves
  -- Only what is about the disk decides what is left; the rest of the trace is passed over.
  obtain ⟨content, -, hstanding⟩ := hleaves.standing hs.onDisk (Disk.behind_onDisk hb)
  have hwithin := Trace.staysWithin_of_onDisk hleaves.staysWithin
  refine ⟨hover, ?_, ?_, ?_, ?_⟩
  · rintro fault rfl
    cases hreported with
    | refused config nothing =>
      refine ⟨config, fun x hx hpull => ?_, entries_of_bare hstanding nothing⟩
      have hidle := hrowless fault rfl x hx
      rw [hpull] at hidle
      cases hidle
  · rintro result rfl hbad
    cases hreported with
    | failed bad files nothing => exact ⟨files, entries_of_bare hstanding nothing⟩
    | through fault cancelled files pipe => simp [fault, cancelled] at hbad
  · rintro result rfl hfault hcancelled
    cases hreported with
    | failed bad files nothing => simp [hfault, hcancelled] at bad
    | through fault cancelled files pipe =>
      have hlaid := hstanding.laid
      rw [pipe] at hlaid
      rw [files]
      cases hf : left.file with
      | none =>
        rw [hf] at hlaid
        exact .inl ⟨by simp [Targets.resultFiles, hf], hlaid.entries_eq⟩
      | some f =>
        rw [hf] at hlaid
        refine .inr ⟨f.path, content, hlaid.file_free f.path content rfl,
          by simp [Targets.resultFiles, hf], ?_⟩
        rw [hlaid.entries]
        funext q
        by_cases hq : f.path = q
        · simp [Disk.layout, hq]
        · simp [Disk.layout, hq, Function.update_of_ne (Ne.symm hq)]
  · intro part d₁ hpart hbehind
    exact (Disk.preserves_self d).behind (hwithin.of_isPrefix hpart) hbehind

/-- A disk on which nothing stands. -/
def emptyDisk : Disk := ⟨fun _ => none, fun _ => none⟩

/-- The program is told to stop before the first row. -/
def stoppedTrace : Trace :=
  [⟨.localTime, (⟨1970, 1, 1, 0, 0, 0, 0⟩ : Instant.Fields)⟩,
    ⟨.createFile "out.txt", Host.Creation.made ⟨3⟩⟩, Host.asked true, ⟨.dropFile ⟨3⟩, ()⟩,
    ⟨.remove "out.txt", Except.ok ()⟩]

theorem carryOut_remains_stopped :
    ∃ d', emptyDisk.Behind stoppedTrace d' ∧ stoppedTrace.RemovalsSucceed ∧
      (∃ t, Runs (copyPlan.carryOut copyInput []) stoppedTrace
        (.ok (interruptedResult {} (.stopped rfl)), t)) ∧
      d'.entries = emptyDisk.entries := by
  have hrun : ∃ t, Runs (copyPlan.carryOut copyInput []) stoppedTrace
      (.ok (interruptedResult {} (.stopped rfl)), t) :=
    ⟨_, .ask _ (.ask _ (.ask _ (.ask _ (.ask _ (.done _)))))⟩
  have hbehind : ∃ d', emptyDisk.Behind stoppedTrace d' :=
    ⟨_, .cons (.unchanged rfl) (.cons (.created rfl) (.cons (.unchanged rfl)
      (.cons (.unchanged rfl) (.cons .removed (.nil _)))))⟩
  have hsucceed : stoppedTrace.RemovalsSucceed := by
    intro x hx
    simp only [stoppedTrace, List.mem_cons, List.not_mem_nil, or_false] at hx
    rcases hx with rfl | rfl | rfl | rfl | rfl <;> rfl
  obtain ⟨t, hrun⟩ := hrun
  obtain ⟨d', hbehind⟩ := hbehind
  obtain ⟨-, -, hbad, -⟩ := Plan.carryOut_remains hrun hbehind hsucceed
  exact ⟨d', hbehind, hsucceed, ⟨t, hrun⟩, (hbad _ rfl (.inr rfl)).2⟩

end BulkLoad.Step
