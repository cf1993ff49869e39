import BulkLoad.Proofs.Step.Completion

/-!
The accounts of a run. Every row that was taken from the source is written or skipped, but for the
one at which the run was interrupted. The report counts these rows and the faults, and it is one of
success exactly when nothing interrupted the run and the skipped rows do not stand against it.
-/

namespace BulkLoad.Host

/-- The source was asked for a row, and it has answered: there is one, there is none, or it has
failed. -/
def Exchange.draws : Exchange → Bool
  | ⟨.pull, answer⟩ => !@Pause.isStopped true answer
  | _ => false

theorem Exchange.draws_of_isRowWork {x : Exchange} (h : x.request.isRowWork = false) :
    x.draws = false := by
  unfold Exchange.draws
  split
  · cases h
  · rfl

namespace Trace

/-- How often the source has answered. -/
def draws (t : Trace) : Nat := t.countP Exchange.draws

variable {t u : Trace}

@[simp] theorem draws_append : draws (t ++ u) = t.draws + u.draws := List.countP_append

theorem Rowless.draws (h : t.Rowless) : t.draws = 0 :=
  List.countP_eq_zero.2 fun x hx => by simp [Exchange.draws_of_isRowWork (h x hx)]

end Trace
end BulkLoad.Host

namespace BulkLoad.Step

open Host (Runs Trace asked)
open Sink (Session)

/-- The rows that were taken from a source. -/
def taken (items : List (Except Fault Row)) (τ : Trace) : List Row :=
  (arrivals items).take τ.draws

/-- Those of the rows that are dropped: the ones that the schema does not take, if such rows are
skipped. -/
def Policy.dropped (p : Policy) (input : Schema) (rows : List Row) : List Row :=
  if p.onRowError = .skip then rejected input rows else []

theorem taken_of_draws {items : List (Except Fault Row)} {τ : Trace} (h : τ.draws = 0) :
    taken items τ = [] := by
  rw [taken, h, List.take_zero]

theorem taken_of_arrivals {items : List (Except Fault Row)} {τ : Trace} (h : arrivals items = []) :
    taken items τ = [] := by
  rw [taken, h, List.take_nil]

@[simp] theorem draws_turn : Trace.draws turn = 1 := rfl

theorem draws_of_stopped {τ : Trace} (h : Runs nextRow τ (.stopped rfl)) : τ.draws = 0 := by
  rcases nextRow_cases h with ⟨hp, -⟩ | ⟨-, rfl | rfl⟩
  · cases hp
  · rfl
  · rfl

theorem taken_turn {row : Row} {rest : List (Except Fault Row)} (τ : Trace) :
    taken (.ok row :: rest) (turn ++ τ) = row :: taken rest τ := by
  rw [taken, Trace.draws_append, draws_turn, Nat.add_comm, arrivals, List.take_succ_cons, taken]

namespace Policy

variable {p : Policy} {input : Schema} {row : Row}

theorem dropped_nil : p.dropped input [] = [] := by
  unfold dropped
  split <;> rfl

theorem dropped_cons (rows : List Row) (h : input.check row = .ok ()) :
    p.dropped input (row :: rows) = p.dropped input rows := by
  rw [dropped, dropped, rejected_cons rows h]

theorem dropped_cons_error {e : SchemaError} (rows : List Row) (h : input.check row = .error e)
    (hp : p.onRowError = .skip) :
    p.dropped input (row :: rows) = row :: p.dropped input rows := by
  rw [dropped, dropped, if_pos hp, if_pos hp, rejected_cons_error rows h]

theorem dropped_of_ne (rows : List Row) (hp : p.onRowError ≠ .skip) :
    p.dropped input rows = [] :=
  if_neg hp

theorem skips_iff {fault : Fault} (h : fault.scope = .row) :
    p.skips fault = true ↔ p.onRowError = .skip := by
  rw [skips, h]
  cases p.onRowError <;> decide

end Policy

namespace Targets

variable {t t' : Targets} {b : Buffers} {τ : Trace} {r : Except (Interruption true) Unit}

theorem draws_writeFile {record : Bytes} (h : Runs (t.writeFile record) τ r) (ho : t.Open) :
    τ.draws = 0 := by
  rcases writeFile_cases h ho with ⟨-, rfl, -⟩ | ⟨f, handle, -, -, ⟨rfl, -⟩ | ⟨d, rfl, -⟩⟩ <;> rfl

theorem draws_writeLoader {record : Bytes} (h : Runs (t.writeLoader record) τ (r, t'))
    (ho : t.Open) : τ.draws = 0 := by
  rcases writeLoader_cases h ho with ⟨-, rfl, -, -⟩ | ⟨l, -, ⟨rfl, -, -⟩ |
    ⟨x, d, rest, rfl, hx, hw⟩⟩
  · rfl
  · rfl
  · have hrest : rest.Still := by
      cases hw with
      | done => exact Trace.still_nil
      | failed message f rest removed calm => exact removed.still
      | stopped d incomplete rest mild => exact Trace.still_of_notable_eq_nil mild
    have hhanded : Trace.draws [asked false, x] = 0 := by cases hx <;> rfl
    rw [show asked false :: x :: rest = [asked false, x] ++ rest from rfl, Trace.draws_append,
      hhanded, hrest.rowless.draws]

/-- Nothing is taken from the source while a row is written. -/
theorem draws_write (h : Runs (t.write b) τ (r, t')) (ho : t.Open) : τ.draws = 0 := by
  obtain ⟨τ₁, τ₂, w, rfl, h₁, h₂⟩ := Host.runs_bind_iff.1 h
  rw [Trace.draws_append, draws_writeFile h₁ ho]
  cases w with
  | error i =>
    obtain ⟨rfl, -⟩ := Host.runs_pure_iff.1 h₂
    rfl
  | ok u => rw [draws_writeLoader h₂ ho]

/-- A row that is written is counted by the loader's session. -/
theorem write_tallied (h : Runs (t.write b) τ (.ok (), t')) (ho : t.Open) :
    ∃ bytes, t' = t.tallied 1 bytes := by
  obtain ⟨τ₁, τ₂, w, rfl, -, h₂⟩ := Host.runs_bind_iff.1 h
  cases w with
  | error i =>
    obtain ⟨-, hv⟩ := Host.runs_pure_iff.1 h₂
    cases hv
  | ok u =>
    rcases writeLoader_cases h₂ ho with ⟨hl, -, -, rfl⟩ | ⟨l, hl, ⟨-, hr, -⟩ |
      ⟨x, d, rest, -, -, hw⟩⟩
    · refine ⟨0, ?_⟩
      cases t'
      cases hl
      rfl
    · cases hr
    · cases hw with
      | done =>
        refine ⟨b.loader.length, ?_⟩
        cases t
        cases hl
        rfl

end Targets

/-- What the loop over the rows has counted when it ends: every row that it took is written or
dropped, but for the one at which it was interrupted. -/
structure Counted (counts : Counts) (t : Targets) (p : Pumped) (taken dropped written : Nat) :
    Prop where
  countsRead : p.counts.read = counts.read + taken
  countsWritten : p.counts.written = counts.written + written
  countsSkipped : p.counts.skipped = counts.skipped + dropped
  least : written + dropped ≤ taken
  most : taken ≤ written + dropped + 1
  through : p.outcome = .ok () →
    taken = written + dropped ∧ ∃ bytes, p.targets = t.tallied written bytes

namespace Counted

variable {counts : Counts} {t t' : Targets} {p : Pumped} {taken dropped written : Nat}

theorem nil (counts : Counts) (t : Targets) (outcome : Except (Interruption true) Unit) :
    Counted counts t ⟨outcome, counts, t⟩ 0 0 0 :=
  ⟨rfl, rfl, rfl, Nat.le_refl 0, Nat.zero_le 1, fun _ => ⟨rfl, 0, t.tallied_zero.symm⟩⟩

theorem interrupted (counts : Counts) (t t' : Targets) (i : Interruption true) :
    Counted counts t ⟨.error i, counts.withRead, t'⟩ 1 0 0 :=
  ⟨rfl, rfl, rfl, Nat.zero_le 1, Nat.le_refl 1, nofun⟩

theorem skip (h : Counted counts.withSkipped t p taken dropped written) :
    Counted counts t p (taken + 1) (dropped + 1) written := by
  obtain ⟨hread, hwritten, hskipped, least, most, through⟩ := h
  rw [Counts.withSkipped_read] at hread
  rw [Counts.withSkipped_skipped] at hskipped
  refine ⟨by omega, hwritten, by omega, by omega, by omega, fun hok => ?_⟩
  obtain ⟨hwhole, htargets⟩ := through hok
  exact ⟨by omega, htargets⟩

theorem write {bytes : Nat} (ht : t' = t.tallied 1 bytes)
    (h : Counted counts.withWritten t' p taken dropped written) :
    Counted counts t p (taken + 1) dropped (written + 1) := by
  obtain ⟨hread, hwritten, hskipped, least, most, through⟩ := h
  rw [Counts.withWritten_read] at hread
  rw [Counts.withWritten_written] at hwritten
  refine ⟨by omega, by omega, hskipped, by omega, by omega, fun hok => ?_⟩
  obtain ⟨hwhole, more, htargets⟩ := through hok
  refine ⟨by omega, bytes + more, ?_⟩
  rw [htargets, ht, Targets.tallied_tallied, Nat.add_comm 1]

end Counted

variable {policy : Policy} {input : Schema} {items : List (Except Fault Row)} {counts : Counts}
  {b : Buffers} {t : Targets} {τ : Trace} {p : Pumped}

/-- The loop counts every row that it takes. -/
theorem Pumps.counted (h : Pumps policy input items counts b t τ p) (ho : t.Open)
    (ht : ∀ row, input.check row = .ok () → t.encoders.Takes row) :
    ∃ written, Counted counts t p (taken items τ).length
      (policy.dropped input (taken items τ)).length written := by
  have hnothing : (policy.dropped input []).length = 0 := by rw [Policy.dropped_nil]; rfl
  induction h with
  | stopped wait =>
    rw [taken_of_draws (draws_of_stopped wait), hnothing]
    exact ⟨0, .nil _ _ _⟩
  | drained =>
    rw [taken_of_arrivals rfl, hnothing]
    exact ⟨0, .nil _ _ _⟩
  | source =>
    rw [taken_of_arrivals rfl, hnothing]
    exact ⟨0, .nil _ _ _⟩
  | @rejected row rest counts b b' t fault refused ends =>
    obtain ⟨-, hscope⟩ := Targets.accept_error (ht row) refused
    have hp : policy.onRowError ≠ .skip := by
      rw [Ne, ← Policy.skips_iff hscope, ends]
      decide
    rw [← List.append_nil turn, taken_turn, taken_of_draws rfl, Policy.dropped_of_ne _ hp]
    exact ⟨0, .interrupted _ _ _ _⟩
  | @skipped row rest counts b b' t fault τ p refused goes _ ih =>
    obtain ⟨⟨e, hrow⟩, hscope⟩ := Targets.accept_error (ht row) refused
    obtain ⟨written, hcounted⟩ := ih ho ht
    rw [taken_turn, Policy.dropped_cons_error _ hrow ((Policy.skips_iff hscope).1 goes)]
    exact ⟨written, hcounted.skip⟩
  | @unwritten row rest counts b b' t t' τ i accepted write =>
    obtain ⟨hrow, -⟩ := Targets.accept_ok (ht row) accepted
    rw [taken_turn, taken_of_draws (Targets.draws_write write ho), Policy.dropped_cons [] hrow,
      hnothing]
    exact ⟨0, .interrupted _ _ _ _⟩
  | @written row rest counts b b' t t' τ τ' p accepted write _ ih =>
    obtain ⟨hrow, -⟩ := Targets.accept_ok (ht row) accepted
    obtain ⟨bytes, htallied⟩ := Targets.write_tallied write ho
    have halike := (Targets.write_alike write).encoders
    obtain ⟨written, hcounted⟩ := ih (Targets.write_open write ho) (by rwa [halike])
    have htaken : taken rest (τ ++ τ') = taken rest τ' := by
      rw [taken, Trace.draws_append, Targets.draws_write write ho, Nat.zero_add, taken]
    rw [taken_turn, htaken, Policy.dropped_cons _ hrow]
    exact ⟨written + 1, hcounted.write htallied⟩

namespace Targets

variable {t' : Targets} {sink : Option SinkReport}

theorem finishLoader_reports (h : Runs (finishLoader t) τ (.ok sink, t'))
    (hd : ∀ l, t.loader = some l → l.session.state = .draining) : t.Reports sink := by
  unfold finishLoader at h
  cases hl : t.loader with
  | none =>
    rw [hl] at h
    obtain ⟨-, hv⟩ := Host.runs_pure_iff.1 h
    cases hv
    exact .nothing hl
  | some l =>
    rw [hl] at h
    obtain ⟨τ₁, τ₂, ⟨finished, s⟩, rfl, h₁, h₂⟩ := Host.runs_bind_iff.1 h
    obtain ⟨-, hv⟩ := Host.runs_pure_iff.1 h₂
    obtain ⟨-, -, hconcluded⟩ := Session.finish_cases h₁ (hd l hl)
    cases hconcluded with
    | closed stdout stderr =>
      cases hv
      exact .report hl stdout stderr
    | failed fault => cases hv

theorem finalize_reports {origin : String} {products : Products}
    (h : Runs (finalize origin t) τ (.ok products, t')) (ho : t.Open) :
    t.Reports products.sink := by
  obtain ⟨τ₁, τ₂, ⟨finished, t₁⟩, rfl, h₁, h₂⟩ := Host.runs_bind_iff.1 h
  obtain ⟨-, -, hloader, -⟩ := finishFile_cases h₁ ho
  cases finished with
  | error fault =>
    obtain ⟨-, hv⟩ := Host.runs_pure_iff.1 h₂
    cases hv
  | ok files =>
    obtain ⟨τ₃, τ₄, ⟨ended, t₃⟩, rfl, h₃, h₄⟩ := Host.runs_bind_iff.1 h₂
    cases ended with
    | error fault =>
      obtain ⟨-, hv⟩ := Host.runs_pure_iff.1 h₄
      cases hv
    | ok sink =>
      obtain ⟨-, hv⟩ := Host.runs_pure_iff.1 h₄
      cases hv
      cases finishLoader_reports h₃ (by rw [hloader]; exact ho.draining) with
      | nothing alone => exact .nothing (hloader ▸ alone)
      | report loader stdout stderr => exact .report (hloader ▸ loader) stdout stderr

theorem Reports.records {report : SinkReport} (h : t.Reports (some report)) :
    ∃ l, t.loader = some l ∧ report.exitCode = 0 ∧
      report.records = UInt64.ofNat l.session.records := by
  cases h with
  | report loader stdout stderr => exact ⟨_, loader, rfl, rfl⟩

end Targets

/-- What a run reports that came by its targets. -/
theorem conclude_reports {c : Config} {t' : Targets} {result : Result}
    (h : Runs (conclude c p) τ (result, t')) (ho : p.outcome = .ok () → p.targets.Open) :
    (∃ i, result = interruptedResult p.counts i) ∨
    ∃ products, p.outcome = .ok () ∧ result = finishedResult c.policy p.counts products ∧
      p.targets.Reports products.sink := by
  have htakeBack : ∀ {τ : Trace} {t : Targets} {i : Interruption true},
      Runs (takeBack p.counts t i) τ (result, t') → result = interruptedResult p.counts i := by
    intro τ t i hruns
    obtain ⟨τ₁, τ₂, t₁, -, -, h₂⟩ := Host.runs_bind_iff.1 hruns
    obtain ⟨-, hv⟩ := Host.runs_pure_iff.1 h₂
    cases hv
    rfl
  unfold conclude at h
  cases hp : p.outcome with
  | error i =>
    rw [hp] at h
    exact .inl ⟨i, htakeBack h⟩
  | ok u =>
    rw [hp] at h
    obtain ⟨τ₁, τ₂, ⟨finished, t₁⟩, rfl, h₁, h₂⟩ := Host.runs_bind_iff.1 h
    cases finished with
    | error fault => exact .inl ⟨.failed fault, htakeBack h₂⟩
    | ok products =>
      obtain ⟨-, hv⟩ := Host.runs_pure_iff.1 h₂
      cases hv
      exact .inr ⟨products, rfl, rfl, Targets.finalize_reports h₁ (ho hp)⟩

/-- The report of a run fits the rows that it took, dropped and wrote, and the errors there were. -/
structure Balanced (policy : Policy) (result : Result) (taken dropped written errors : Nat) :
    Prop where
  rowsRead : result.rowsRead = UInt64.ofNat taken
  rowsWritten : result.rowsWritten = UInt64.ofNat written
  errorCount : result.errors = UInt64.ofNat errors
  /-- At most one row was neither written nor dropped. -/
  least : written + dropped ≤ taken
  most : taken ≤ written + dropped + 1
  whole : result.fault = none → taken = written + dropped
  /-- A fault counts as one more error, unless it stands for a request to stop. -/
  failures : errors =
    if result.fault.isSome ∧ result.cancelled = false then dropped + 1 else dropped
  succeeded : result.succeeded = true ↔ result.fault = none ∧ result.cancelled = false ∧
    (errors = 0 ∨ policy.ignoreErrors = true)
  cancelled : result.cancelled = true → result.fault.map (·.code) = some "CANCELLED"
  sink : ∀ report, result.sink = some report →
    result.fault = none ∧ report.exitCode = 0 ∧ report.records = result.rowsWritten

theorem balanced_interruptedResult (policy : Policy) (counts : Counts) (i : Interruption true)
    (least : counts.written + counts.skipped ≤ counts.read)
    (most : counts.read ≤ counts.written + counts.skipped + 1) :
    ∃ errors, Balanced policy (interruptedResult counts i) counts.read counts.skipped
      counts.written errors := by
  have herrors : ∃ errors, (interruptedResult counts i).errors = UInt64.ofNat errors ∧
      errors = if (interruptedResult counts i).fault.isSome ∧
        (interruptedResult counts i).cancelled = false then counts.skipped + 1
        else counts.skipped := by
    cases i with
    | stopped allowed => exact ⟨counts.skipped, rfl, rfl⟩
    | failed fault => exact ⟨counts.skipped + 1, rfl, rfl⟩
  have hcounts : (interruptedResult counts i).rowsRead = UInt64.ofNat counts.read ∧
      (interruptedResult counts i).rowsWritten = UInt64.ofNat counts.written := by
    cases i <;> exact ⟨rfl, rfl⟩
  have hfault : (interruptedResult counts i).fault ≠ none := by
    cases i <;> exact Option.some_ne_none _
  have hended : (interruptedResult counts i).succeeded = false ∧
      (interruptedResult counts i).sink = none := by
    cases i <;> exact ⟨rfl, rfl⟩
  obtain ⟨errors, hcount, hfailures⟩ := herrors
  obtain ⟨hsucceeded, hsink⟩ := hended
  refine ⟨errors, hcounts.1, hcounts.2, hcount, least, most, fun h => absurd h hfault, hfailures,
    ?_, ?_, ?_⟩
  · rw [hsucceeded]
    exact ⟨fun h => absurd h Bool.false_ne_true, fun h => absurd h.1 hfault⟩
  · intro hcancelled
    cases i with
    | stopped allowed => rfl
    | failed fault => cases hcancelled
  · intro report hreport
    rw [hsink] at hreport
    cases hreport

theorem balanced_finishedResult (policy : Policy) (counts : Counts) (products : Products)
    (whole : counts.read = counts.written + counts.skipped)
    (sink : ∀ report, products.sink = some report →
      report.exitCode = 0 ∧ report.records = UInt64.ofNat counts.written) :
    ∃ errors, Balanced policy (finishedResult policy counts products) counts.read counts.skipped
      counts.written errors := by
  refine ⟨counts.skipped, rfl, rfl, rfl, by omega, by omega, fun _ => whole, rfl, ?_, ?_,
    fun report hreport => ⟨rfl, sink report hreport⟩⟩
  · simp [finishedResult, Counts.result]
  · intro hcancelled
    cases hcancelled

/-- However a run ends that came by its targets, its report fits what the loop has counted. -/
theorem Counted.balanced {c : Config} {t' : Targets} {result : Result}
    {taken dropped written : Nat} (h : Counted {} t p taken dropped written)
    (hunused : ∀ l, t.loader = some l → l.session.records = 0)
    (hc : Runs (conclude c p) τ (result, t')) (ho : p.outcome = .ok () → p.targets.Open) :
    ∃ errors, Balanced c.policy result taken dropped written errors := by
  obtain ⟨hread, hwritten, hskipped, hleast, hmost, hthrough⟩ := h
  rw [Nat.zero_add] at hread hwritten hskipped
  rw [← hread, ← hwritten, ← hskipped] at hleast hmost hthrough ⊢
  rcases conclude_reports hc ho with ⟨i, rfl⟩ | ⟨products, hp, rfl, hreports⟩
  · exact balanced_interruptedResult _ _ i hleast hmost
  · obtain ⟨hwhole, bytes, htargets⟩ := hthrough hp
    refine balanced_finishedResult _ _ _ hwhole fun report hreport => ?_
    rw [hreport] at hreports
    obtain ⟨l, hl, hexit, hrecords⟩ := hreports.records
    refine ⟨hexit, ?_⟩
    -- The session counted nothing before the loop, and one record for each row that it wrote.
    rw [htargets, Targets.tallied] at hl
    obtain ⟨l₀, hl₀, rfl⟩ := Option.map_eq_some_iff.1 hl
    rw [hrecords, Session.tallied, hunused l₀ hl₀, Nat.zero_add]

variable {plan : Plan} {result : Result}

theorem balanced_unmoved (hdraws : τ.draws = 0)
    (h : ∃ errors, Balanced policy result 0 0 0 errors) :
    ∃ written errors, Balanced policy result (taken items τ).length
      (policy.dropped input (taken items τ)).length written errors := by
  rw [taken_of_draws hdraws, Policy.dropped_nil]
  exact ⟨0, h⟩

/-- Every run that gives a result accounts for the rows that it took: each is written or dropped,
but for at most one, and none is unaccounted for when the run tells of no fault. The errors are the
dropped rows and the fault that ended the run, unless that was a request to stop. The run is a
success exactly when it tells of no fault, was not told to stop, and has no errors or is to ignore
them. Only a run without a fault tells of its consumer, which then ended well and took every record
that was written. -/
theorem Plan.carryOut_balances (h : Runs (plan.carryOut input items) τ (.ok result, t)) :
    ∃ written errors, Balanced plan.config.policy result (taken items τ).length
      (plan.config.policy.dropped input (taken items τ)).length written errors := by
  generalize hreport : Except.ok result = report at h
  cases course_of_runs h with
  | disagreed refused => cases hreport
  | @unclaimed a fault τ agreed claim =>
    obtain ⟨-, hstill, -⟩ := claimOutput_cases claim
    unfold unclaimedReport at hreport
    split at hreport
    · cases hreport
    · cases hreport
      exact balanced_unmoved hstill.rowless.draws
        (balanced_interruptedResult _ {} (.failed fault) (Nat.le_refl 0) (by decide))
  | @idle a τ agreed claim alone =>
    obtain ⟨-, hstill, -⟩ := claimOutput_cases claim
    cases hreport
    exact balanced_unmoved hstill.rowless.draws
      (balanced_finishedResult _ {} {} rfl nofun)
  | @unacquired a file i t t' τ₁ τ₂ τ₃ agreed claim target acquire teardown =>
    obtain ⟨-, hstill₁, hclaimed⟩ := claimOutput_cases claim
    have hacquired := acquire_acquired acquire hclaimed.open
    obtain ⟨-, hstill₃, -⟩ :=
      Targets.teardown_cases teardown hacquired.tidy hacquired.unstarted
    have hdraws : (τ₁ ++ (τ₂ ++ τ₃)).draws = 0 := by
      rw [Trace.draws_append, Trace.draws_append, hstill₁.rowless.draws, hacquired.rowless.draws,
        hstill₃.rowless.draws]
    unfold unacquiredReport at hreport
    split at hreport
    · cases hreport
    · cases hreport
      exact balanced_unmoved hdraws
        (balanced_interruptedResult _ {} i (Nat.le_refl 0) (by decide))
  | @ran a file t t' p result τ₁ τ₂ τ₃ τ₄ agreed claim target acquire pump conclude =>
    cases hreport
    obtain ⟨hinput, haligned⟩ := Plan.aligned_of_negotiate agreed
    obtain ⟨-, hstill₁, hclaimed⟩ := claimOutput_cases claim
    have hacquired := acquire_acquired acquire hclaimed.open
    obtain ⟨-, -, -, -, hready⟩ := hacquired.ready rfl
    have hopen := hacquired.open rfl hclaimed.open
    have hpumps := pumps_of_runs pump
    have hfinished := hacquired.unstarted
    rw [← hpumps.alike.unstarted] at hfinished
    obtain ⟨-, hstill₄, -⟩ := conclude_cases conclude (hpumps.open hopen)
      ((hpumps.tends hopen).tidy hacquired.tidy) hfinished
    have htakes : ∀ row, a.input.check row = .ok () → t.encoders.Takes row := by
      intro row hrow
      exact hacquired.takes hclaimed.fits (by rwa [hinput]) hrow
    -- Only the loop takes rows, so what the whole run took is what the loop has counted.
    have htaken : taken items (τ₁ ++ (τ₂ ++ (τ₃ ++ τ₄))) = taken items τ₃ := by
      rw [taken, Trace.draws_append, Trace.draws_append, Trace.draws_append,
        hstill₁.rowless.draws, hacquired.rowless.draws, hstill₄.rowless.draws, Nat.zero_add,
        Nat.zero_add, Nat.add_zero, taken]
    obtain ⟨written, hcounted⟩ := hpumps.counted hopen htakes
    rw [htaken, ← hinput]
    exact ⟨written, hcounted.balanced (fun l hl => (hready l hl).records) conclude
      (hpumps.open hopen)⟩

theorem carryOut_balances_load :
    ∃ record text result t written errors,
      Runs (loadPlan.carryOut copyInput [.ok [.integer 7], .ok []]) (loadTrace record text)
        (.ok result, t) ∧
      Balanced loadPlan.config.policy result 2 1 written errors := by
  have hruns : ∃ record text result t,
      Runs (loadPlan.carryOut copyInput [.ok [.integer 7], .ok []]) (loadTrace record text)
        (.ok result, t) :=
    ⟨_, _, _, _, .ask _ (.ask _ (.ask _ (.ask _ (.ask _ (.ask _ (.ask _ (.ask _ (.ask _ (.ask _
      (.ask _ (.ask _ (.ask _ (.ask _ (.ask _ (.ask _ (.ask _ (.ask _ (.ask _ (.ask _
        (.done _))))))))))))))))))))⟩
  obtain ⟨record, text, result, t, hruns⟩ := hruns
  obtain ⟨written, errors, hbalanced⟩ := Plan.carryOut_balances hruns
  exact ⟨record, text, result, t, written, errors, hruns, hbalanced⟩

end BulkLoad.Step
