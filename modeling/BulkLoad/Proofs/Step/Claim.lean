import BulkLoad.Proofs.Step.Upkeep

/-!
How a run comes by its output file: paths are tried in turn until a file is made at one of them.
Until then nothing changes on the disk.
-/

namespace BulkLoad.Step

open Host (Disk Entry Exchange Handle Runs Trace)

variable {c : Config} {p : Projection} {τ : Trace}

/-- What a claim of an output file may come to. -/
inductive Claimed (verdict : Except Fault Output.Claim) :
    Trace → Except Fault Output.Claim → Prop
  | verdict {τ : Trace} (refused : ∀ x ∈ τ, Refused x) : Claimed verdict τ verdict
  | made {τ : Trace} (refused : ∀ x ∈ τ, Refused x) (path : String) (file : Handle) :
      Claimed verdict (τ ++ [⟨.createFile path, Host.Creation.made file⟩])
        (.ok (.created path file))
  | failed {τ : Trace} (refused : ∀ x ∈ τ, Refused x) (path message : String) :
      Claimed verdict τ (.error (Output.creationFault path message))

/-- However many paths are tried, the claim ends in one of three ways. -/
theorem claimFirst_cases {verdict r : Except Fault Output.Claim} {paths : List String}
    (h : Runs (Output.claimFirst verdict paths) τ r) : Claimed verdict τ r := by
  induction paths generalizing τ with
  | nil =>
    obtain ⟨rfl, rfl⟩ := Host.runs_pure_iff.1 h
    exact .verdict nofun
  | cons path rest ih =>
    obtain ⟨answer, τ₁, rfl, h₁⟩ := Host.runs_send_bind_iff.1 h
    cases answer with
    | made file =>
      obtain ⟨rfl, rfl⟩ := Host.runs_pure_iff.1 h₁
      exact Claimed.made (τ := []) nofun path file
    | refused message =>
      obtain ⟨rfl, rfl⟩ := Host.runs_pure_iff.1 h₁
      exact .failed (by simpa using Refused.file path _ rfl) path message
    | taken =>
      have htaken : Refused ⟨.createFile path, Host.Creation.taken⟩ := .file path _ rfl
      cases ih h₁ with
      | verdict refused => exact .verdict (List.forall_mem_cons.2 ⟨htaken, refused⟩)
      | @made τ₂ refused path' file =>
        exact Claimed.made (τ := _ :: τ₂) (List.forall_mem_cons.2 ⟨htaken, refused⟩) path' file
      | failed refused path' message =>
        exact .failed (List.forall_mem_cons.2 ⟨htaken, refused⟩) path' message

theorem Refused.isOnDisk {x : Exchange} (h : Refused x) : x.request.isOnDisk = true := by
  cases h <;> rfl

theorem Refused.quiet {x : Exchange} (h : Refused x) :
    x.tellsStop = false ∧ x.parcel? = none ∧ x.request.isActive = false ∧ x.takesUp = false := by
  cases h <;> exact ⟨rfl, rfl, rfl, rfl⟩

theorem onDisk_of_refused {δ : Trace} (h : ∀ x ∈ δ, Refused x) : δ.onDisk = δ :=
  List.filter_eq_self.2 fun x hx => (h x hx).isOnDisk

theorem quiet_of_refused {δ : Trace} (h : ∀ x ∈ δ, Refused x) : δ.Calm ∧ δ.Still :=
  ⟨fun x hx => (h x hx).quiet.1, fun x hx => (h x hx).quiet.2⟩

/-- The output file of a run: it is made and open, or nothing is made. -/
inductive OutputClaimed (c : Config) (p : Projection) :
    Trace → Except Fault (Option FileTarget) → Prop
  | nothing {τ : Trace} {r : Except Fault (Option FileTarget)} (missing : ∀ f, r ≠ .ok (some f))
      (refused : ∀ x ∈ τ, Refused x) : OutputClaimed c p τ r
  | made {τ : Trace} {o : Output} {path : String} {handle : Handle} (configured : c.output = some o)
      (refused : ∀ x ∈ τ, Refused x) :
      OutputClaimed c p (τ ++ [⟨.createFile path, Host.Creation.made handle⟩])
        (.ok (some ⟨path, some handle, c.fileEncoder o p⟩))

theorem OutputClaimed.open {file : Option FileTarget} (h : OutputClaimed c p τ (.ok file)) :
    ∀ f, file = some f → f.file.isSome = true := by
  rintro f rfl
  cases h with
  | nothing missing refused => exact absurd rfl (missing f)
  | made configured refused => rfl

/-- The file target that a claim comes to. -/
def claimedTarget (c : Config) (o : Output) (p : Projection) :
    Except Fault Output.Claim → Except Fault (Option FileTarget)
  | .ok (.created path file) => .ok (some ⟨path, some file, c.fileEncoder o p⟩)
  | .ok (.skipped _) => .ok none
  | .error fault => .error fault

theorem claimOutput_cases {r : Except Fault (Option FileTarget)}
    (h : Runs (claimOutput c p) τ r) : τ.Calm ∧ τ.Still ∧ OutputClaimed c p τ.onDisk r := by
  unfold claimOutput at h
  cases ho : c.output with
  | none =>
    rw [ho] at h
    obtain ⟨rfl, rfl⟩ := Host.runs_pure_iff.1 h
    exact ⟨Trace.calm_nil, Trace.still_nil, .nothing nofun nofun⟩
  | some o =>
    rw [ho] at h
    obtain ⟨time, τ₁, rfl, h₁⟩ := Host.runs_send_bind_iff.1 h
    obtain ⟨τ₁, τ₂, claim, rfl, h₂, h₃⟩ := Host.runs_bind_iff.1 h₁
    have hend : τ₂ = [] ∧ r = claimedTarget c o p claim := by
      match claim with
      | .ok (.created path file) => exact Host.runs_pure_iff.1 h₃
      | .ok (.skipped path) => exact Host.runs_pure_iff.1 h₃
      | .error fault => exact Host.runs_pure_iff.1 h₃
    obtain ⟨rfl, rfl⟩ := hend
    have htime : ∀ ε : Trace, Trace.onDisk (⟨.localTime, time⟩ :: ε) = ε.onDisk := fun _ => rfl
    rw [List.append_nil, htime]
    cases claimFirst_cases h₂ with
    | @made τ₃ refused path file =>
      obtain ⟨hcalm, hstill⟩ := quiet_of_refused refused
      refine ⟨?_, ?_, ?_⟩
      · exact Trace.calm_cons.2 ⟨rfl, Trace.calm_append.2 ⟨hcalm,
          Trace.calm_singleton.2 rfl⟩⟩
      · exact Trace.still_cons.2 ⟨⟨rfl, rfl, rfl⟩, Trace.still_append.2 ⟨hstill,
          Trace.still_cons.2 ⟨⟨rfl, rfl, rfl⟩, Trace.still_nil⟩⟩⟩
      · rw [Trace.onDisk_append, onDisk_of_refused refused]
        exact .made ho refused
    | failed refused path message =>
      obtain ⟨hcalm, hstill⟩ := quiet_of_refused refused
      rw [onDisk_of_refused refused]
      exact ⟨Trace.calm_cons.2 ⟨rfl, hcalm⟩, Trace.still_cons.2 ⟨⟨rfl, rfl, rfl⟩, hstill⟩,
        .nothing nofun refused⟩
    | verdict refused =>
      obtain ⟨hcalm, hstill⟩ := quiet_of_refused refused
      rw [onDisk_of_refused refused]
      refine ⟨Trace.calm_cons.2 ⟨rfl, hcalm⟩, Trace.still_cons.2 ⟨⟨rfl, rfl, rfl⟩, hstill⟩,
        .nothing ?_ refused⟩
      cases o.ifExists <;> exact nofun

/-- Requests that made nothing leave the disk as it was. -/
theorem behind_of_refused {δ : Trace} {d d' : Disk} (h : ∀ x ∈ δ, Refused x)
    (hb : Disk.Behind d δ d') : d' = d := by
  induction hb with
  | nil d => rfl
  | cons first _ ih =>
    obtain ⟨hx, hδ⟩ := List.forall_mem_cons.1 h
    rw [ih hδ, Disk.after_of_changesDisk_eq_false hx.changesDisk first]

theorem Targets.standing_none (d : Disk) : ({} : Targets).Standing d.entries [] d :=
  ⟨Disk.laid_self d, fun _ _ hf => (by cases hf)⟩

/-- A file that was made stands on the disk, empty and open. -/
theorem standing_of_created {below : String → Option Entry} {path : String} {handle : Handle}
    {d d' : Disk} (hd : ({} : Targets).Standing below [] d)
    (ha : d.After ⟨.createFile path, Host.Creation.made handle⟩ d') (encoder : Encoder) :
    ({ file := some ⟨path, some handle, encoder⟩ } : Targets).Standing below [] d' := by
  have hbare : Disk.Laid below none none d := hd.laid
  obtain ⟨hlaid, hopened⟩ := hbare.created ha
  refine ⟨hlaid, ?_⟩
  rintro f handle' hf hh
  cases hf
  cases hh
  exact hopened

end BulkLoad.Step
