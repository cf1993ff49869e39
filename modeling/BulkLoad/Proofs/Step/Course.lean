import BulkLoad.Proofs.Host.Trace
import BulkLoad.Step.Run

/-!
The courses that a run may take, as one relation: up to where it comes, part by part, and what it
reports.
-/

namespace BulkLoad.Step

open Host (Runs Trace)

/-- What is reported when the output file cannot be made. -/
def unclaimedReport (fault : Fault) : Except Fault Result :=
  if fault.category = .config then .error fault else .ok { errors := 1, fault := some fault }

/-- What is reported when a target cannot be opened. -/
def unacquiredReport (i : Interruption true) : Except Fault Result :=
  match i.configFault? with
  | some fault => .error fault
  | none => .ok (interruptedResult {} i)

/-- The course of a run. -/
inductive Course (plan : Plan) (input : Schema) (items : List (Except Fault Row)) :
    Trace → Except Fault Result → Targets → Prop
  /-- There is no agreement. -/
  | disagreed {fault : Fault} (refused : plan.negotiate input = .error fault) :
      Course plan input items [] (.error fault) {}
  /-- The output file cannot be made. -/
  | unclaimed {a : Agreement} {fault : Fault} {τ : Trace} (agreed : plan.negotiate input = .ok a)
      (claim : Runs (claimOutput plan.config a.projection) τ (.error fault)) :
      Course plan input items τ (unclaimedReport fault) {}
  /-- The output file is left alone, and there is no other target. -/
  | idle {a : Agreement} {τ : Trace} (agreed : plan.negotiate input = .ok a)
      (claim : Runs (claimOutput plan.config a.projection) τ (.ok none))
      (alone : plan.config.hasLoader = false) :
      Course plan input items τ (.ok { succeeded := true }) {}
  /-- A target cannot be opened. -/
  | unacquired {a : Agreement} {file : Option FileTarget} {i : Interruption true} {t t' : Targets}
      {τ₁ τ₂ τ₃ : Trace} (agreed : plan.negotiate input = .ok a)
      (claim : Runs (claimOutput plan.config a.projection) τ₁ (.ok file))
      (target : file = none → plan.config.hasLoader = true)
      (acquire : Runs (acquire plan.config a.projection file) τ₂ (.error i, t))
      (teardown : Runs (teardown t) τ₃ t') :
      Course plan input items (τ₁ ++ (τ₂ ++ τ₃)) (unacquiredReport i) t'
  /-- The rows come. -/
  | ran {a : Agreement} {file : Option FileTarget} {t t' : Targets} {p : Pumped} {result : Result}
      {τ₁ τ₂ τ₃ τ₄ : Trace} (agreed : plan.negotiate input = .ok a)
      (claim : Runs (claimOutput plan.config a.projection) τ₁ (.ok file))
      (target : file = none → plan.config.hasLoader = true)
      (acquire : Runs (acquire plan.config a.projection file) τ₂ (.ok (), t))
      (pump : Runs (pump plan.config.policy a.input items {} {} t) τ₃ p)
      (conclude : Runs (conclude plan.config p) τ₄ (result, t')) :
      Course plan input items (τ₁ ++ (τ₂ ++ (τ₃ ++ τ₄))) (.ok result) t'

variable {plan : Plan} {input : Schema} {items : List (Except Fault Row)} {τ τ₁ : Trace}
  {report : Except Fault Result} {t : Targets}

theorem course_of_runWith {a : Agreement} {file : Option FileTarget}
    (agreed : plan.negotiate input = .ok a)
    (claim : Runs (claimOutput plan.config a.projection) τ₁ (.ok file))
    (target : file = none → plan.config.hasLoader = true)
    (h : Runs (runWith plan.config a file items) τ (report, t)) :
    Course plan input items (τ₁ ++ τ) report t := by
  obtain ⟨τ₂, τ₃, ⟨acquired, t₂⟩, rfl, h₂, h₃⟩ := Host.runs_bind_iff.1 h
  cases acquired with
  | ok u =>
    obtain ⟨τ₃, τ₄, p, rfl, h₄, h₅⟩ := Host.runs_bind_iff.1 h₃
    obtain ⟨τ₄, τ₅, ⟨result, t₄⟩, rfl, h₆, h₇⟩ := Host.runs_bind_iff.1 h₅
    obtain ⟨rfl, hv⟩ := Host.runs_pure_iff.1 h₇
    cases hv
    rw [List.append_nil]
    exact .ran agreed claim target h₂ h₄ h₆
  | error i =>
    have hend : ∃ τ₄, Runs (teardown t₂) τ₄ t ∧ τ₃ = τ₄ ∧ report = unacquiredReport i := by
      unfold unacquiredReport
      cases hi : i.configFault? with
      | some fault =>
        simp only [hi] at h₃
        obtain ⟨τ₄, τ₅, t₄, rfl, h₄, h₅⟩ := Host.runs_bind_iff.1 h₃
        obtain ⟨rfl, hv⟩ := Host.runs_pure_iff.1 h₅
        cases hv
        exact ⟨τ₄, h₄, List.append_nil τ₄, rfl⟩
      | none =>
        simp only [hi] at h₃
        obtain ⟨τ₄, τ₅, ⟨result, t₄⟩, rfl, h₄, h₅⟩ := Host.runs_bind_iff.1 h₃
        obtain ⟨rfl, hv⟩ := Host.runs_pure_iff.1 h₅
        cases hv
        obtain ⟨τ₆, τ₇, t₆, rfl, h₆, h₇⟩ := Host.runs_bind_iff.1 h₄
        obtain ⟨rfl, hv⟩ := Host.runs_pure_iff.1 h₇
        cases hv
        exact ⟨τ₆, h₆, by simp, rfl⟩
    obtain ⟨τ₄, hteardown, rfl, rfl⟩ := hend
    exact .unacquired agreed claim target h₂ hteardown

/-- Every run takes one of these courses. -/
theorem course_of_runs (h : Runs (plan.carryOut input items) τ (report, t)) :
    Course plan input items τ report t := by
  unfold Plan.carryOut at h
  cases ha : plan.negotiate input with
  | error fault =>
    rw [ha] at h
    obtain ⟨rfl, hv⟩ := Host.runs_pure_iff.1 h
    cases hv
    exact .disagreed ha
  | ok a =>
    rw [ha] at h
    obtain ⟨τ₁, τ₂, claimed, rfl, h₁, h₂⟩ := Host.runs_bind_iff.1 h
    match claimed with
    | .error fault =>
      have hend : τ₂ = [] ∧ (report, t) = (unclaimedReport fault, {}) := by
        unfold unclaimedReport
        by_cases hc : fault.category = .config
        · rw [if_pos hc]
          simp only [if_pos hc] at h₂
          exact Host.runs_pure_iff.1 h₂
        · rw [if_neg hc]
          simp only [if_neg hc] at h₂
          exact Host.runs_pure_iff.1 h₂
      obtain ⟨rfl, hv⟩ := hend
      cases hv
      rw [List.append_nil]
      exact .unclaimed ha h₁
    | .ok none =>
      by_cases hl : plan.config.hasLoader = true
      · simp only [if_pos hl] at h₂
        exact course_of_runWith ha h₁ (fun _ => hl) h₂
      · simp only [if_neg hl] at h₂
        obtain ⟨rfl, hv⟩ := Host.runs_pure_iff.1 h₂
        cases hv
        rw [List.append_nil]
        exact .idle ha h₁ (by simpa using hl)
    | .ok (some file) => exact course_of_runWith ha h₁ nofun h₂

/-- A step that writes one column of whole numbers to a file. -/
def copyPlan : Plan :=
  ⟨{ version := "1.0", name := "copy", mapping := ⟨[⟨"id", "ID", .plain⟩]⟩
     output := some { path := "out.txt" } }⟩

/-- The input of that step. -/
def copyInput : Schema := ⟨[{ name := "id", kind := .integer }], List.pairwise_singleton _ _⟩

end BulkLoad.Step
