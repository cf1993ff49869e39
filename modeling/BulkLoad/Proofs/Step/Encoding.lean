import BulkLoad.Proofs.Step.Agreement
import BulkLoad.Proofs.Step.Delivery

/-!
Rows that the input's schema takes are never refused by an encoder. The check looks at a row by
position, the mapping is bound by name, and each column looks for its own kind: all three agree on
every row, so that the only fault of a single row that the loop itself can raise is the check's.
-/

namespace BulkLoad

/-- Encoders for a projection, as text by any rules and as a cube, take the row whatever is in the
buffer. -/
def Projection.Encodes (p : Projection) (row : Row) : Prop := ∀ buffer,
  (∀ format, ∃ bytes, (Encoder.ofFormat format p).fill row buffer = (.ok (), buffer ++ bytes)) ∧
    ∃ bytes, (Encoder.ofProjection p).fill row buffer = (.ok (), buffer ++ bytes)

variable {input : Schema} {row : Row}

theorem Mapping.aligned_of_bind {m : Mapping} {p : Projection} (h : m.bind input = .ok p) :
    p.Aligned input := by
  rcases m.bind_cases input with ⟨e, he, -⟩ | ⟨p', hp', haligned⟩
  · rw [he] at h
    cases h
  · rw [hp'] at h
    cases h
    exact haligned

/-- A row with a record extends any buffer by it. -/
theorem Encoder.fill_of_record {e : Encoder} {record : Bytes} (h : e.record row = .ok record)
    (buffer : Bytes) : e.fill row buffer = (.ok (), buffer ++ record) := by
  have happended := e.fill_appended row buffer
  rw [h] at happended
  exact happended.of_ok

theorem Projection.Aligned.encodes {p : Projection} (hp : p.Aligned input)
    (hrow : input.check row = .ok ()) : p.Encodes row := by
  have hrecord : ∀ e, (⟨input, p⟩ : Step.Agreement).Encodes e →
      ∃ record, e.record row = .ok record :=
    fun e he => he.record_ok hp hrow
  intro buffer
  refine ⟨fun format => ?_, ?_⟩
  · obtain ⟨record, h⟩ := hrecord _ (.text format)
    exact ⟨record, Encoder.fill_of_record h buffer⟩
  · obtain ⟨record, h⟩ := hrecord _ .cube
    exact ⟨record, Encoder.fill_of_record h buffer⟩

namespace Sink.Session

open Host (Runs Trace)

variable {s s' : Session} {fault f : Fault} {τ : Trace} {stoppable : Bool}

@[simp] theorem withStderr_scope (said : Option String) :
    (withStderr fault said).scope = fault.scope := by
  unfold withStderr
  split
  · split <;> rfl
  · rfl

/-- The fault that ends a session reaches as far as the one it was ended by. -/
theorem fail_scope (h : Runs (s.fail stoppable fault) τ (.failed f, s')) :
    f.scope = fault.scope := by
  obtain ⟨τ₁, τ₂, ⟨w, s₁⟩, rfl, h₁, h₂⟩ := Host.runs_bind_iff.1 h
  rcases w with said | allowed
  · obtain ⟨-, hv⟩ := Host.runs_pure_iff.1 h₂
    cases hv
    exact withStderr_scope said
  · obtain ⟨-, hv⟩ := Host.runs_pure_iff.1 h₂
    cases hv

theorem write_scope {record : Bytes}
    (h : Runs (s.write stoppable record) τ (.error (.failed f), s')) : f.scope = .step := by
  unfold write at h
  split at h
  · cases hw : s.writer with
    | none =>
      rw [hw] at h
      obtain ⟨-, hv⟩ := Host.runs_pure_iff.1 h
      cases hv
      rfl
    | some writer =>
      rw [hw] at h
      obtain ⟨τ₁, τ₂, d, rfl, h₁, h₂⟩ := Host.runs_bind_iff.1 h
      cases d with
      | done =>
        obtain ⟨-, hv⟩ := Host.runs_pure_iff.1 h₂
        cases hv
      | refused message =>
        obtain ⟨τ₃, τ₄, ⟨i, s₁⟩, rfl, h₃, h₄⟩ := Host.runs_bind_iff.1 h₂
        obtain ⟨-, hv⟩ := Host.runs_pure_iff.1 h₄
        cases hv
        exact fail_scope h₃
      | stopped allowed =>
        obtain ⟨-, hv⟩ := Host.runs_pure_iff.1 h₂
        cases hv
  · obtain ⟨-, hv⟩ := Host.runs_pure_iff.1 h
    cases hv
    rfl

end Sink.Session

namespace Step

open Host (Runs Trace)

variable {τ τ₁ τ₂ : Trace} {fault : Fault}

theorem FileTarget.write_scope {f : FileTarget} {stoppable : Bool} {bytes : Bytes}
    (h : Runs (f.write stoppable bytes) τ (.error (.failed fault))) : fault.scope = .step := by
  unfold FileTarget.write at h
  split at h
  · obtain ⟨-, hv⟩ := Host.runs_pure_iff.1 h
    cases hv
    rfl
  · obtain ⟨d, τ₁, rfl, h₁⟩ := Host.runs_send_bind_iff.1 h
    cases d with
    | done =>
      obtain ⟨-, hv⟩ := Host.runs_pure_iff.1 h₁
      cases hv
    | refused message =>
      obtain ⟨-, hv⟩ := Host.runs_pure_iff.1 h₁
      cases hv
      rfl
    | stopped allowed =>
      obtain ⟨-, hv⟩ := Host.runs_pure_iff.1 h₁
      cases hv

namespace Targets

variable {t t' : Targets} {b b' : Buffers}

theorem writeFile_scope {record : Bytes}
    (h : Runs (t.writeFile record) τ (.error (.failed fault))) : fault.scope = .step := by
  unfold writeFile at h
  split at h
  · obtain ⟨-, hv⟩ := Host.runs_pure_iff.1 h
    cases hv
  · rcases runs_unlessStopping h with ⟨-, hv⟩ | ⟨rest, -, hw⟩
    · cases hv
    · exact FileTarget.write_scope hw

theorem writeLoader_scope {record : Bytes}
    (h : Runs (t.writeLoader record) τ (.error (.failed fault), t')) : fault.scope = .step := by
  unfold writeLoader at h
  split at h
  · obtain ⟨-, hv⟩ := Host.runs_pure_iff.1 h
    cases hv
  · obtain ⟨τ₁, τ₂, ⟨written, s⟩, rfl, h₁, h₂⟩ := Host.runs_bind_iff.1 h
    obtain ⟨-, hv⟩ := Host.runs_pure_iff.1 h₂
    cases hv
    rcases runs_unlessStopping h₁ with ⟨-, hv⟩ | ⟨rest, -, hw⟩
    · cases hv
    · exact Sink.Session.write_scope hw

/-- What fails when a record is written does not concern the row alone. -/
theorem write_scope (h : Runs (t.write b) τ (.error (.failed fault), t')) :
    fault.scope = .step := by
  obtain ⟨τ₁, τ₂, written, rfl, h₁, h₂⟩ := Host.runs_bind_iff.1 h
  cases written with
  | error i =>
    obtain ⟨-, hv⟩ := Host.runs_pure_iff.1 h₂
    cases hv
    exact writeFile_scope h₁
  | ok u => exact writeLoader_scope h₂

end Targets

/-- The fault of a row that the check does not take. -/
def mismatchFault (e : SchemaError) : Fault := Fault.of .encoding "ROW_MISMATCH" e.message

theorem Targets.accept_mismatch {t : Targets} {e : SchemaError} (h : input.check row = .error e)
    (b : Buffers) : t.accept input row b = (.error (mismatchFault e), b) := by
  rw [accept, h]
  rfl

theorem encodeInto_record {e : Encoder} {buffer filled : Bytes}
    (h : encodeInto (some e) row buffer = (.ok (), filled)) : e.record row = .ok filled := by
  have hfill : e.fill row [] = (.ok (), filled) := h
  rw [Encoder.record, hfill]
  rfl

/-- A row that is encoded has its record for each target in the target's buffer. -/
theorem Targets.encode_record {t : Targets} {b b' : Buffers} (h : t.encode row b = (.ok (), b')) :
    (∀ f, t.file = some f → f.encoder.record row = .ok b'.file) ∧
      ∀ l, t.loader = some l → l.encoder.record row = .ok b'.loader := by
  unfold Targets.encode at h
  rcases hfile : encodeInto (t.file.map (·.encoder)) row b.file with ⟨e | u, file⟩
  · rw [hfile] at h
    cases h
  · rcases hloader : encodeInto (t.loader.map (·.encoder)) row b.loader with ⟨ended, loader⟩
    rw [hfile] at h
    simp only [hloader] at h
    cases h
    refine ⟨fun f hf => ?_, fun l hl => ?_⟩
    · rw [hf] at hfile
      exact encodeInto_record hfile
    · rw [hl] at hloader
      exact encodeInto_record hloader

/-- A row that the check takes is encoded for all the targets, or for none of them. -/
theorem Targets.accept_whole {t : Targets} (h : t.encoders.Takes row)
    (hrow : input.check row = .ok ()) (b : Buffers) :
    ∃ b', t.accept input row b = (.ok (), b') ∧
      (∀ f, t.file = some f → f.encoder.record row = .ok b'.file) ∧
      ∀ l, t.loader = some l → l.encoder.record row = .ok b'.loader := by
  obtain ⟨b', hencode, -⟩ := Targets.encode_ok h b
  refine ⟨b', ?_, Targets.encode_record hencode⟩
  rw [accept, hrow]
  simp only [hencode]
  rfl

/-- A fault of a single row that ends the loop is the source's, or the check's of a row that had
arrived. -/
theorem Pumps.row_fault {policy : Policy} {items : List (Except Fault Row)} {counts : Counts}
    {b : Buffers} {t : Targets} {p : Pumped} (h : Pumps policy input items counts b t τ p)
    (ht : ∀ row, input.check row = .ok () → t.encoders.Takes row)
    (hp : p.outcome = .error (.failed fault)) (hrow : fault.scope = .row) :
    .error fault ∈ items ∨
      ∃ row ∈ arrivals items, ∃ e, input.check row = .error e ∧ fault = mismatchFault e := by
  induction h with
  | stopped => cases hp
  | drained => cases hp
  | source =>
    cases hp
    exact .inl List.mem_cons_self
  | @rejected row rest counts b b' t fault' refused ends =>
    cases hp
    obtain ⟨⟨e, he⟩, -⟩ := Targets.accept_error (ht row) refused
    rw [Targets.accept_mismatch he] at refused
    cases refused
    exact .inr ⟨row, List.mem_cons_self, e, he, rfl⟩
  | skipped _ _ _ ih =>
    rcases ih ht hp with hsource | ⟨row, harrived, hcheck⟩
    · exact .inl (List.mem_cons_of_mem _ hsource)
    · exact .inr ⟨row, List.mem_cons_of_mem _ harrived, hcheck⟩
  | unwritten _ write =>
    cases hp
    rw [Targets.write_scope write] at hrow
    cases hrow
  | written _ write _ ih =>
    have halike := (Targets.write_alike write).encoders
    rcases ih (by rwa [halike]) hp with hsource | ⟨row, harrived, hcheck⟩
    · exact .inl (List.mem_cons_of_mem _ hsource)
    · exact .inr ⟨row, List.mem_cons_of_mem _ harrived, hcheck⟩

/-- Whatever a mapping is bound to, text and cubes can be made of every row that the input's schema
takes. So the targets of a run take such a row together, and of another row nothing is made: the
check refuses it, which is the only fault of a single row that the loop adds to those of the
source. -/
theorem conforming_rows_encode (input : Schema) :
    (∀ m p, Mapping.bind m input = .ok p →
      ∀ row, input.check row = .ok () → p.Encodes row) ∧
    ∀ (plan : Plan) a, plan.negotiate input = .ok a →
      (∀ row, input.check row = .ok () → a.projection.Encodes row) ∧
      ∀ file t τ₁ τ₂, Runs (claimOutput plan.config a.projection) τ₁ (.ok file) →
        Runs (acquire plan.config a.projection file) τ₂ (.ok (), t) →
        (∀ t' row b, t.Alike t' → input.check row = .ok () →
          ∃ b', t'.accept a.input row b = (.ok (), b') ∧
            (∀ f, t'.file = some f → f.encoder.record row = .ok b'.file) ∧
            ∀ l, t'.loader = some l → l.encoder.record row = .ok b'.loader) ∧
        (∀ t' row b e, t.Alike t' → input.check row = .error e →
          t'.accept a.input row b = (.error (mismatchFault e), b)) ∧
        ∀ items counts b τ p fault,
          Runs (pump plan.config.policy a.input items counts b t) τ p →
          p.outcome = .error (.failed fault) → fault.scope = .row →
          .error fault ∈ items ∨
            ∃ row ∈ arrivals items, ∃ e, input.check row = .error e ∧ fault = mismatchFault e := by
  refine ⟨fun m p hp row hrow => (Mapping.aligned_of_bind hp).encodes hrow, fun plan a ha => ?_⟩
  obtain ⟨hinput, haligned⟩ := Plan.aligned_of_negotiate ha
  refine ⟨fun row hrow => haligned.encodes hrow, fun file t τ₁ τ₂ hclaim hacquire => ?_⟩
  obtain ⟨-, -, hclaimed⟩ := claimOutput_cases hclaim
  have hacquired := acquire_acquired hacquire hclaimed.open
  rw [hinput]
  have htakes : ∀ row, input.check row = .ok () → t.encoders.Takes row := fun row hrow =>
    hacquired.takes hclaimed.fits (by rwa [hinput]) (by rwa [hinput])
  refine ⟨fun t' row b halike hrow => ?_, fun t' row b e _ he => Targets.accept_mismatch he b, ?_⟩
  · refine Targets.accept_whole ?_ hrow b
    rw [halike.encoders]
    exact htakes row hrow
  · intro items counts b τ p fault hpump hp hscope
    exact (pumps_of_runs hpump).row_fault htakes hp hscope

/-- The step of `spreadPlan`, but one that gives up at a row that does not fit. -/
def strictPlan : Plan := ⟨{ spreadPlan.config with policy := {} }⟩

theorem conforming_rows_encode_spread :
    spreadAgreement.projection.Encodes [.integer 7, .null, .text "x"] ∧
    ∃ file t τ₁ τ₂ τ p fault,
      Runs (claimOutput strictPlan.config spreadAgreement.projection) τ₁ (.ok file) ∧
      Runs (acquire strictPlan.config spreadAgreement.projection file) τ₂ (.ok (), t) ∧
      (∃ b, t.accept spreadInput [.integer 7, .null, .text "x"] {} = (.ok (), b)) ∧
      Runs (pump strictPlan.config.policy spreadInput [.ok []] {} {} t) τ p ∧
      p.outcome = .error (.failed fault) ∧ ∃ e, spreadInput.check [] = .error e ∧
        fault = mismatchFault e := by
  have hagreed : strictPlan.negotiate spreadInput = .ok spreadAgreement := rfl
  have hrow : spreadInput.check [.integer 7, .null, .text "x"] = .ok () := rfl
  obtain ⟨hencodes, htargets⟩ :=
    (conforming_rows_encode spreadInput).2 strictPlan spreadAgreement hagreed
  let file : FileTarget := ⟨"out.cube", some ⟨3⟩, .ofProjection spreadAgreement.projection⟩
  have hclaim : ∃ τ, Runs (claimOutput strictPlan.config spreadAgreement.projection) τ
      (.ok (some file)) :=
    ⟨[⟨.localTime, (⟨1970, 1, 1, 0, 0, 0, 0⟩ : Instant.Fields)⟩,
      ⟨.createFile "out.cube", Host.Creation.made ⟨3⟩⟩], .ask _ (.ask _ (.done _))⟩
  have hacquire : ∃ τ, Runs (acquire strictPlan.config spreadAgreement.projection (some file)) τ
      (.ok (), { file := some file }) :=
    ⟨[⟨.append false ⟨3⟩ file.encoder.header, Host.Delivery.done⟩], .ask _ (.done _)⟩
  have hpump : ∃ τ p fault, Runs (pump strictPlan.config.policy spreadInput [.ok []] {} {}
      { file := some file }) τ p ∧ p.outcome = .error (.failed fault) ∧ fault.scope = .row :=
    ⟨turn, _, _, .ask _ (.ask _ (.done _)), rfl, rfl⟩
  obtain ⟨τ₁, hclaim⟩ := hclaim
  obtain ⟨τ₂, hacquire⟩ := hacquire
  obtain ⟨τ, p, fault, hpump, hfault, hscope⟩ := hpump
  obtain ⟨htaken, -, hrefused⟩ := htargets _ _ _ _ hclaim hacquire
  obtain ⟨b, hb, -⟩ := htaken _ _ {} (.refl _) hrow
  have hsource := hrefused _ _ _ _ _ _ hpump hfault hscope
  simp only [List.mem_singleton, reduceCtorEq, false_or, arrivals] at hsource
  obtain ⟨row, rfl, e, he⟩ := hsource
  exact ⟨hencodes _ hrow, _, _, _, _, _, _, _, hclaim, hacquire, ⟨b, hb⟩, hpump, hfault, e, he⟩

end Step
end BulkLoad
