import BulkLoad.Proofs.Step.Upkeep

/-!
The loop over the rows as a relation, one case for each way a row or the source may go. What is
proved of the loop is proved case by case, by induction on this relation.
-/

namespace BulkLoad.Step

open Host (Exchange Runs Trace asked)

/-- The answer of the source that a row is there, or that it has ended. -/
def pulled : Exchange := ⟨.pull, Host.Pause.elapsed⟩

/-- What is asked before a row is there. -/
def turn : Trace := [asked false, pulled]

/-- Waiting for a row ends when the program is told to stop, before or during the wait. -/
theorem nextRow_cases {τ : Trace} {p : Host.Pause true} (h : Runs nextRow τ p) :
    (p = .elapsed ∧ τ = turn) ∨
    (p = .stopped rfl ∧
      (τ = [asked true] ∨ τ = [asked false, ⟨.pull, Host.Pause.stopped rfl⟩])) := by
  rcases runs_unlessStopping h with ⟨rfl, rfl⟩ | ⟨rest, rfl, h₁⟩
  · exact .inr ⟨rfl, .inl rfl⟩
  · rw [Host.runs_send_iff.1 h₁]
    cases p with
    | elapsed => exact .inl ⟨rfl, rfl⟩
    | stopped allowed => exact .inr ⟨rfl, .inr rfl⟩

namespace Counts

/-- One more row was read. -/
def withRead (c : Counts) : Counts := { c with read := c.read + 1 }

/-- One more row was read and written. -/
def withWritten (c : Counts) : Counts := { c.withRead with written := c.written + 1 }

/-- One more row was read and skipped. -/
def withSkipped (c : Counts) : Counts := { c.withRead with skipped := c.skipped + 1 }

@[simp] theorem withWritten_read (c : Counts) : c.withWritten.read = c.read + 1 := rfl

@[simp] theorem withWritten_written (c : Counts) : c.withWritten.written = c.written + 1 := rfl

@[simp] theorem withSkipped_read (c : Counts) : c.withSkipped.read = c.read + 1 := rfl

@[simp] theorem withSkipped_skipped (c : Counts) : c.withSkipped.skipped = c.skipped + 1 := rfl

end Counts

/-- Runs of the loop over the rows. -/
inductive Pumps (policy : Policy) (input : Schema) :
    List (Except Fault Row) → Counts → Buffers → Targets → Trace → Pumped → Prop
  /-- The program is told to stop before the next row. -/
  | stopped {items : List (Except Fault Row)} {counts : Counts} {b : Buffers} {t : Targets}
      {τ : Trace} (wait : Runs nextRow τ (.stopped rfl)) :
      Pumps policy input items counts b t τ ⟨.error (.stopped rfl), counts, t⟩
  /-- The source has ended. -/
  | drained {counts : Counts} {b : Buffers} {t : Targets} :
      Pumps policy input [] counts b t turn ⟨.ok (), counts, t⟩
  /-- The source has failed. -/
  | source {fault : Fault} {rest : List (Except Fault Row)} {counts : Counts} {b : Buffers}
      {t : Targets} :
      Pumps policy input (.error fault :: rest) counts b t turn
        ⟨.error (.failed fault), counts, t⟩
  /-- The row cannot be taken, and that ends the run. -/
  | rejected {row : Row} {rest : List (Except Fault Row)} {counts : Counts} {b b' : Buffers}
      {t : Targets} {fault : Fault} (refused : t.accept input row b = (.error fault, b'))
      (ends : policy.skips fault = false) :
      Pumps policy input (.ok row :: rest) counts b t turn
        ⟨.error (.failed fault), counts.withRead, t⟩
  /-- The row cannot be taken, and is skipped. -/
  | skipped {row : Row} {rest : List (Except Fault Row)} {counts : Counts} {b b' : Buffers}
      {t : Targets} {fault : Fault} {τ : Trace} {p : Pumped}
      (refused : t.accept input row b = (.error fault, b')) (goes : policy.skips fault = true)
      (next : Pumps policy input rest counts.withSkipped b' t τ p) :
      Pumps policy input (.ok row :: rest) counts b t (turn ++ τ) p
  /-- A record of the row cannot be written. -/
  | unwritten {row : Row} {rest : List (Except Fault Row)} {counts : Counts} {b b' : Buffers}
      {t t' : Targets} {τ : Trace} {i : Interruption true}
      (taken : t.accept input row b = (.ok (), b')) (write : Runs (t.write b') τ (.error i, t')) :
      Pumps policy input (.ok row :: rest) counts b t (turn ++ τ) ⟨.error i, counts.withRead, t'⟩
  /-- The row is written. -/
  | written {row : Row} {rest : List (Except Fault Row)} {counts : Counts} {b b' : Buffers}
      {t t' : Targets} {τ τ' : Trace} {p : Pumped} (taken : t.accept input row b = (.ok (), b'))
      (write : Runs (t.write b') τ (.ok (), t'))
      (next : Pumps policy input rest counts.withWritten b' t' τ' p) :
      Pumps policy input (.ok row :: rest) counts b t (turn ++ (τ ++ τ')) p

/-- Every run of the loop is such a run. -/
theorem pumps_of_runs {policy : Policy} {input : Schema} {items : List (Except Fault Row)}
    {counts : Counts} {b : Buffers} {t : Targets} {τ : Trace} {p : Pumped}
    (h : Runs (pump policy input items counts b t) τ p) :
    Pumps policy input items counts b t τ p := by
  -- The loop recurs on the items alone; counts, buffers and targets change with each of them.
  induction items generalizing counts b t τ with
  | nil =>
    obtain ⟨τ₁, τ₂, a, rfl, h₁, h₂⟩ := Host.runs_bind_iff.1 h
    cases a with
    | stopped allowed =>
      obtain ⟨rfl, rfl⟩ := Host.runs_pure_iff.1 h₂
      rw [List.append_nil]
      exact .stopped h₁
    | elapsed =>
      obtain ⟨rfl, rfl⟩ := Host.runs_pure_iff.1 h₂
      rcases nextRow_cases h₁ with ⟨-, rfl⟩ | ⟨ha, -⟩
      · exact .drained
      · cases ha
  | cons item rest ih =>
    obtain ⟨τ₁, τ₂, a, rfl, h₁, h₂⟩ := Host.runs_bind_iff.1 h
    rcases nextRow_cases h₁ with ⟨rfl, rfl⟩ | ⟨rfl, -⟩
    · match item with
      | .error fault =>
        obtain ⟨rfl, rfl⟩ := Host.runs_pure_iff.1 h₂
        exact .source
      | .ok row =>
        rcases ha : t.accept input row b with ⟨fault | u, b'⟩
        · simp only [ha] at h₂
          by_cases hs : policy.skips fault = true
          · rw [if_pos hs] at h₂
            exact .skipped ha hs (ih h₂)
          · rw [if_neg hs] at h₂
            obtain ⟨rfl, rfl⟩ := Host.runs_pure_iff.1 h₂
            exact .rejected ha (by simpa using hs)
        · simp only [ha] at h₂
          obtain ⟨τ₃, τ₄, ⟨w, t'⟩, rfl, h₃, h₄⟩ := Host.runs_bind_iff.1 h₂
          cases w with
          | error i =>
            obtain ⟨rfl, rfl⟩ := Host.runs_pure_iff.1 h₄
            rw [List.append_nil]
            exact .unwritten ha h₃
          | ok u => exact .written ha h₃ (ih h₄)
    · obtain ⟨rfl, rfl⟩ := Host.runs_pure_iff.1 h₂
      rw [List.append_nil]
      exact .stopped h₁

variable {policy : Policy} {input : Schema} {items : List (Except Fault Row)} {counts : Counts}
  {b : Buffers} {t : Targets} {τ : Trace} {p : Pumped}

theorem onDisk_nextRow {a : Host.Pause true} (h : Runs nextRow τ a) : τ.onDisk = [] := by
  rcases nextRow_cases h with ⟨-, rfl⟩ | ⟨-, rfl | rfl⟩ <;> rfl

/-- All that the loop does to the disk is what operations on the targets do. -/
theorem Pumps.tends (h : Pumps policy input items counts b t τ p) (ho : t.Open) :
    Tends t τ.onDisk p.targets := by
  induction h with
  | stopped wait =>
    rw [onDisk_nextRow wait]
    exact .nil _
  | drained => exact .nil _
  | source => exact .nil _
  | rejected => exact .nil _
  | skipped _ _ _ ih => exact ih ho
  | unwritten _ write =>
    rw [Trace.onDisk_append]
    exact Targets.write_tends write ho
  | written _ write _ ih =>
    rw [Trace.onDisk_append, Trace.onDisk_append]
    exact (Targets.write_tends write ho).trans (ih (Targets.write_open write ho))

theorem Pumps.alike (h : Pumps policy input items counts b t τ p) : t.Alike p.targets := by
  induction h with
  | stopped => exact .refl _
  | drained => exact .refl _
  | source => exact .refl _
  | rejected => exact .refl _
  | skipped _ _ _ ih => exact ih
  | unwritten _ write => exact Targets.write_alike write
  | written _ write _ ih => exact (Targets.write_alike write).trans ih

/-- A loop that comes through leaves the targets open. -/
theorem Pumps.open (h : Pumps policy input items counts b t τ p) (ho : t.Open)
    (hp : p.outcome = .ok ()) : p.targets.Open := by
  induction h with
  | stopped => cases hp
  | drained => exact ho
  | source => cases hp
  | rejected => cases hp
  | skipped _ _ _ ih => exact ih ho hp
  | unwritten => cases hp
  | written _ write _ ih => exact ih (Targets.write_open write ho) hp

end BulkLoad.Step
