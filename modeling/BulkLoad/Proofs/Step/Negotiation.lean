import BulkLoad.Proofs.Fill
import BulkLoad.Proofs.Schema.Check
import BulkLoad.Step.Run

/-!
What is known of an agreement: every column of the target takes its cell from a field of the input,
and has that field's kind. So a row that the input's schema takes can be encoded for every target,
and whatever fails before there is an agreement is a fault of the configuration.
-/

namespace BulkLoad

/-- Each column is fed from a field of the input that has the column's kind. -/
def Projection.Aligned (input : Schema) (p : Projection) : Prop :=
  List.Forall₂ (fun i f => ∃ g, input.fields[i]? = some g ∧ g.kind = f.kind) p.sources
    p.target.fields

theorem Schema.merge_cases (s : Schema) (incoming : List Field) (origin : String) :
    (∃ name, s.merge incoming origin = .error (.duplicateField name)) ∨
    ∃ s', s.merge incoming origin = .ok s' ∧
      s'.fields = s.fields ++ incoming.map (·.withOrigin origin) := by
  cases h : s.firstClash [] incoming with
  | some f => exact .inl ⟨_, merge_clash h origin⟩
  | none => exact .inr (merge_free h origin)

/-- The error is one of the fields, and not of a row. -/
def SchemaError.IsOfFields (e : SchemaError) : Prop := (Fault.ofSchemaError e).category = .config

namespace Mapping

theorem bindEntry_cases {input : Schema} {p : Projection} (hp : p.Aligned input)
    (e : MappingEntry) :
    (∃ error, bindEntry input p e = .error error ∧ error.IsOfFields) ∨
    ∃ p', bindEntry input p e = .ok p' ∧ p'.Aligned input := by
  cases hi : input.index? e.stream with
  | none => exact .inl ⟨.notFound e.stream, by rw [bindEntry, hi]; rfl, rfl⟩
  | some i =>
    cases hf : input.fields[i]? with
    | none =>
      refine .inl ⟨.notFound e.stream, ?_, rfl⟩
      simp [bindEntry, hi, hf]
      rfl
    | some f =>
      rcases p.target.add_cases (f.renamed e.column) with ⟨name, ha⟩ | ⟨target, ha, hfields⟩
      · refine .inl ⟨.duplicateField name, ?_, rfl⟩
        simp [bindEntry, hi, hf, ha]
      · refine .inr ⟨⟨p.sources ++ [i], p.hints ++ [e.hint], target⟩, ?_, ?_⟩
        · simp [bindEntry, hi, hf, ha]
        · rw [Projection.Aligned, hfields]
          exact List.rel_append hp (.cons ⟨f, hf, rfl⟩ .nil)

/-- Entry by entry the projection stays aligned. -/
theorem bindEntries_cases {input : Schema} (entries : List MappingEntry) {p : Projection}
    (hp : p.Aligned input) :
    (∃ error, entries.foldlM (bindEntry input) p = .error error ∧ error.IsOfFields) ∨
    ∃ p', entries.foldlM (bindEntry input) p = .ok p' ∧ p'.Aligned input := by
  induction entries generalizing p with
  | nil => exact .inr ⟨p, rfl, hp⟩
  | cons e entries ih =>
    rw [List.foldlM_cons]
    rcases bindEntry_cases hp e with ⟨error, he, hfields⟩ | ⟨p₁, he, hp₁⟩
    · exact .inl ⟨error, by rw [he]; rfl, hfields⟩
    · rw [he]
      exact ih hp₁

theorem bind_cases (m : Mapping) (input : Schema) :
    (∃ error, m.bind input = .error error ∧ error.IsOfFields) ∨
    ∃ p, m.bind input = .ok p ∧ p.Aligned input :=
  bindEntries_cases m.entries .nil

end Mapping

/-- Fields made by another step have the kinds they had. -/
theorem Projection.Aligned.with_target {input target : Schema} {p : Projection} {origin : String}
    (hp : p.Aligned input) (ht : target.fields = p.target.fields.map (·.withOrigin origin)) :
    ({ p with target } : Projection).Aligned input := by
  show List.Forall₂ _ p.sources target.fields
  rw [ht, List.forall₂_map_right_iff]
  exact hp

/-- A row that the input's schema takes has a cell for every column. -/
theorem Projection.Aligned.cell {input : Schema} {p : Projection} (hp : p.Aligned input) {row : Row}
    (hrow : input.check row = .ok ()) : ∀ c ∈ p.columns, ∃ cell, c.cell row = .ok cell := by
  intro c hc
  obtain ⟨⟨i, f⟩, hmem, rfl⟩ := List.mem_map.1 hc
  obtain ⟨g, hg, hkind⟩ := List.forall₂_iff_zip.1 hp |>.2 hmem
  obtain ⟨hcell, hadmits⟩ := Schema.cell_at hrow hg
  exact ⟨_, Column.cell_eq_ok hcell (hadmits.alike hkind)⟩

namespace Encoder

/-- What an encoder has to make of a row if the row has a cell for every column. -/
theorem record_cube_ok {target : Schema} {columns : List Column} {row : Row}
    (h : ∀ c ∈ columns, ∃ cell, c.cell row = .ok cell) :
    ∃ bytes, (cube target columns).record row = .ok bytes := by
  have hmade : ∃ cells, (columns.mapM fun c => (c.cell row).map Cube.putCell) = .ok cells := by
    apply exists_mapM_ok
    intro c hc
    obtain ⟨cell, hcell⟩ := h c hc
    exact ⟨Cube.putCell cell, by rw [hcell]; rfl⟩
  obtain ⟨cells, hcells⟩ := hmade
  refine ⟨Cube.putBytes cells.flatten, ?_⟩
  show Cube.putRecord columns row = _
  rw [Cube.putRecord_eq, Cube.putBody, hcells]
  rfl

theorem record_text_ok {format : Delimited.Format} {columns : List Delimited.TextColumn} {row : Row}
    (h : ∀ c ∈ columns, ∃ cell, c.column.cell row = .ok cell) :
    ∃ bytes, (text format columns).record row = .ok bytes := by
  have hmade : ∃ fields, columns.mapM (format.fieldOf row) = .ok fields := by
    apply exists_mapM_ok
    intro c hc
    obtain ⟨cell, hcell⟩ := h c hc
    exact ⟨_, by rw [Delimited.Format.fieldOf, hcell]; rfl⟩
  obtain ⟨fields, hfields⟩ := hmade
  have h := (format.fill_appended columns row []).record_eq
  rw [hfields] at h
  exact ⟨_, h⟩

end Encoder

namespace Step

theorem Config.problems_of_validate {c : Config} (h : c.validate = .ok ()) : c.problems = [] := by
  unfold Config.validate at h
  by_cases hempty : c.problems.isEmpty = true
  · exact List.isEmpty_iff.1 hempty
  · simp only [if_neg hempty] at h
    cases h

/-- The encoder is one for the agreement's rows. -/
inductive Agreement.Encodes (a : Agreement) : Encoder → Prop
  | text (format : Delimited.Format) : Agreement.Encodes a (.ofFormat format a.projection)
  | cube : Agreement.Encodes a (.ofProjection a.projection)

theorem Config.fileEncoder_encodes (c : Config) (o : Output) (a : Agreement) :
    a.Encodes (c.fileEncoder o a.projection) := by
  unfold Config.fileEncoder
  cases o.format with
  | text => exact .text _
  | cube => exact .cube

/-- A negotiation fails by the configuration, or gives an agreement on the input itself. -/
theorem Plan.negotiate_cases (plan : Plan) (input : Schema) :
    (∃ fault, plan.negotiate input = .error fault ∧ fault.category = .config) ∨
    ∃ a, plan.negotiate input = .ok a ∧ a.input = input ∧ a.projection.Aligned input := by
  unfold Plan.negotiate
  by_cases hv : (plan.config.mapping.missing input).isEmpty = true
  · have hvalid : plan.config.validateInput input = .ok () := if_pos hv
    rw [hvalid]
    rcases plan.config.mapping.bind_cases input with ⟨error, hb, hfields⟩ | ⟨p, hb, hp⟩
    · exact .inl ⟨Fault.ofSchemaError error, by simp only [hb]; rfl, hfields⟩
    · rcases Schema.empty.merge_cases p.target.fields plan.config.name with
        ⟨name, hm⟩ | ⟨target, hm, hfields⟩
      · exact .inl ⟨Fault.ofSchemaError (.duplicateField name),
          by simp only [hb, Config.identity_step, hm]; rfl, rfl⟩
      · exact .inr ⟨⟨input, { p with target }⟩,
          by simp only [hb, Config.identity_step, hm]; rfl, rfl,
          hp.with_target (by simpa [Schema.empty] using hfields)⟩
  · have hinvalid : ∃ fault, plan.config.validateInput input = .error fault ∧
        fault.category = .config := ⟨_, if_neg hv, rfl⟩
    obtain ⟨fault, hf, hc⟩ := hinvalid
    exact .inl ⟨fault, by rw [hf]; rfl, hc⟩

theorem Plan.aligned_of_negotiate {plan : Plan} {input : Schema} {a : Agreement}
    (h : plan.negotiate input = .ok a) : a.input = input ∧ a.projection.Aligned input := by
  rcases plan.negotiate_cases input with ⟨fault, hf, -⟩ | ⟨a', ha', hinput, haligned⟩
  · rw [hf] at h
    cases h
  · rw [ha'] at h
    cases h
    exact ⟨hinput, haligned⟩

/-- Whatever the input's schema takes can be encoded. -/
theorem Agreement.Encodes.record_ok {a : Agreement} {e : Encoder} (he : a.Encodes e)
    (ha : a.projection.Aligned a.input) {row : Row} (hrow : a.input.check row = .ok ()) :
    ∃ bytes, e.record row = .ok bytes := by
  have hcells := ha.cell hrow
  cases he with
  | cube => exact Encoder.record_cube_ok hcells
  | text format =>
    refine Encoder.record_text_ok fun c hc => ?_
    obtain ⟨⟨column, hint⟩, hmem, rfl⟩ := List.mem_map.1 hc
    exact hcells column (List.of_mem_zip hmem).1

end Step
end BulkLoad
