import BulkLoad.Proofs.Mapping.Binding
import BulkLoad.Step.Negotiation

/-!
How a mapping and an input come to an agreement, and when they do not. Three things are looked at in
turn: whether every entry is fed, whether every column is named once, and whether the columns can be
made fields of the step. The last never fails, so the first two decide.
-/

namespace BulkLoad

namespace Schema

theorem firstClash_eq_none {s : Schema} {before incoming : List Field}
    (d : (s.fields ++ before ++ incoming).Pairwise Field.Distinct) :
    s.firstClash before incoming = none := by
  induction incoming generalizing before with
  | nil => rfl
  | cons f rest ih =>
    rw [firstClash_free (hasName_eq_false d)]
    exact ih (by simpa using d)

/-- The fields of one schema go into an empty one, whatever step they are made by. -/
theorem merge_empty (s : Schema) (origin : String) :
    ∃ target, empty.merge s.fields origin = .ok target ∧
      target.fields = s.fields.map (·.withOrigin origin) := by
  have hclash : empty.firstClash [] s.fields = none := firstClash_eq_none s.distinct
  exact merge_free hclash origin

end Schema

namespace Mapping

/-- The entries that no field of an input feeds. -/
def unfed (m : Mapping) (input : Schema) : List MappingEntry :=
  m.entries.filter fun e => !Schema.hasName input.fields e.stream

theorem missing_eq (m : Mapping) (input : Schema) :
    m.missing input = (m.unfed input).map (·.stream) := by
  simp only [missing, unfed, Schema.isNone_index?]

theorem unfed_eq_nil_iff {m : Mapping} {input : Schema} :
    m.unfed input = [] ↔ ∀ e ∈ m.entries, Schema.hasName input.fields e.stream = true := by
  simp [unfed, List.filter_eq_nil_iff]

end Mapping

namespace Step

/-- The fault of a mapping whose entries are not all fed. -/
def unfedFault (entries : List MappingEntry) : Fault :=
  (Fault.of .config "FIELD_NOT_FOUND" ("mapped field(s) not found in upstream row: " ++
    ", ".intercalate (entries.map (·.stream)))).withDetails
      (.object [("missing", .list (entries.map fun e => .text e.stream))])

theorem Config.validateInput_eq (c : Config) (input : Schema) :
    c.validateInput input =
      if c.mapping.unfed input = [] then .ok ()
      else .error (unfedFault (c.mapping.unfed input)) := by
  unfold Config.validateInput
  simp only [Mapping.missing_eq, List.isEmpty_map, List.isEmpty_iff, List.map_map]
  rfl

/-- The agreement has one column for each binding, made by the step. -/
structure Agreement.Binds (a : Agreement) (origin : String) (bs : List Binding) : Prop where
  sources : a.projection.sources = bs.map (·.position)
  hints : a.projection.hints = bs.map (·.entry.hint)
  fields : a.output.fields = bs.map fun b => b.field.withOrigin origin

variable {plan : Plan} {input : Schema}

/-- The ways a negotiation ends. -/
inductive Plan.Negotiated (plan : Plan) (input : Schema) : Except Fault Agreement → Prop
  | unfed (some : plan.config.mapping.unfed input ≠ []) :
      Negotiated plan input (.error (unfedFault (plan.config.mapping.unfed input)))
  | repeated {i : Nat} {e : MappingEntry} (fed : plan.config.mapping.unfed input = [])
      (entry : plan.config.mapping.entries[i]? = some e)
      (again : plan.config.mapping.RepeatsAt i)
      (first : ∀ k < i, ¬ plan.config.mapping.RepeatsAt k) :
      Negotiated plan input (.error (Fault.ofSchemaError (.duplicateField e.column)))
  | agreed {a : Agreement} {bs : List Binding} (fed : plan.config.mapping.unfed input = [])
      (apart : ∀ i, ¬ plan.config.mapping.RepeatsAt i)
      (bound : plan.config.mapping.Bound input bs) (same : a.input = input)
      (binds : a.Binds plan.config.name bs) : Negotiated plan input (.ok a)

theorem Plan.negotiated (plan : Plan) (input : Schema) :
    plan.Negotiated input (plan.negotiate input) := by
  unfold Plan.negotiate
  rw [Config.validateInput_eq]
  by_cases hfed : plan.config.mapping.unfed input = []
  · rw [if_pos hfed]
    obtain ⟨bs, hbs⟩ := Mapping.exists_bound (Mapping.unfed_eq_nil_iff.1 hfed)
    rcases Mapping.bind_bound hbs with ⟨p, hbind, hp, hapart⟩ | ⟨i, e, hi, hagain, hfirst, hbind⟩
    · obtain ⟨target, hmerge, hfields⟩ := p.target.merge_empty plan.config.name
      simp only [hbind, Config.identity_step, hmerge]
      refine .agreed hfed hapart hbs rfl ⟨hp.sources, hp.hints, ?_⟩
      rw [Agreement.output, hfields, hp.fields, List.map_map]
      rfl
    · simp only [hbind]
      exact .repeated hfed hi hagain hfirst
  · rw [if_neg hfed]
    exact .unfed hfed

/-- What an agreement says of an input and a mapping: for each entry the one position of the field
that feeds it, its hint, and that field as a field of the step under the name of the column. -/
structure Plan.Agrees (plan : Plan) (input : Schema) (a : Agreement) : Prop where
  same : a.input = input
  sources : a.projection.sources.length = plan.config.mapping.entries.length
  hints : a.projection.hints.length = plan.config.mapping.entries.length
  fields : a.output.fields.length = plan.config.mapping.entries.length
  distinct : a.output.fields.Pairwise Field.Distinct
  entry : ∀ (i : Nat) (e : MappingEntry), plan.config.mapping.entries[i]? = some e →
    ∃ (j : Nat) (f : Field), a.projection.sources[i]? = some j ∧
    input.fields[j]? = some f ∧ f.isNamed e.stream = true ∧
    (∀ (k : Nat) (g : Field), input.fields[k]? = some g → g.isNamed e.stream = true → k = j) ∧
    a.projection.hints[i]? = some e.hint ∧
    a.output.fields[i]? = some { f with name := e.column, origin := plan.config.name }

theorem Plan.agrees_of_binds {a : Agreement} {bs : List Binding}
    (bound : plan.config.mapping.Bound input bs) (same : a.input = input)
    (binds : a.Binds plan.config.name bs) : plan.Agrees input a where
  same := same
  sources := by rw [binds.sources, bound.entries, List.length_map, List.length_map]
  hints := by rw [binds.hints, bound.entries, List.length_map, List.length_map]
  fields := by rw [binds.fields, bound.entries, List.length_map, List.length_map]
  distinct := a.output.distinct
  entry i e he := by
    obtain ⟨b, hb, rfl, hon⟩ := bound.at he
    refine ⟨b.position, b.source, ?_, hon.found, hon.named, ?_, ?_, ?_⟩
    · rw [binds.sources, List.getElem?_map, hb]
      rfl
    · intro k g hg hnamed
      exact Schema.position_unique hg hon.found hnamed hon.named
    · rw [binds.hints, List.getElem?_map, hb]
      rfl
    · rw [binds.fields, List.getElem?_map, hb]
      rfl

/-- Whatever is agreed on, its columns are bound to fields of the input. -/
theorem Plan.bound_of_negotiate {a : Agreement} (h : plan.negotiate input = .ok a) :
    ∃ bs, plan.config.mapping.Bound input bs ∧ a.input = input ∧ a.Binds plan.config.name bs := by
  have hended := plan.negotiated input
  rw [h] at hended
  cases hended with
  | agreed fed apart bound same binds => exact ⟨_, bound, same, binds⟩

theorem Plan.agrees_of_negotiate {a : Agreement} (h : plan.negotiate input = .ok a) :
    plan.Agrees input a := by
  obtain ⟨bs, bound, same, binds⟩ := Plan.bound_of_negotiate h
  exact agrees_of_binds bound same binds

/-- A negotiation fails for want of a field exactly if no field of the input feeds some entry, and
then names all such entries. Otherwise it fails for a column named twice exactly if there is one,
and names the first that was there before. Otherwise it comes to an agreement on every entry; to
make the columns fields of the step never fails. -/
theorem Plan.negotiate_decides (plan : Plan) (input : Schema) :
    ((∃ f, plan.negotiate input = .error f ∧ f.code = "FIELD_NOT_FOUND") ↔
      ∃ e ∈ plan.config.mapping.entries, Schema.hasName input.fields e.stream = false) ∧
    (∀ f, plan.negotiate input = .error f → f.code = "FIELD_NOT_FOUND" →
      f.details = some (.object [("missing", .list ((plan.config.mapping.entries.filter fun e =>
        !Schema.hasName input.fields e.stream).map fun e => .text e.stream))])) ∧
    ((∃ f, plan.negotiate input = .error f ∧ f.code = "DUPLICATE_FIELD") ↔
      (∀ e ∈ plan.config.mapping.entries, Schema.hasName input.fields e.stream = true) ∧
        ∃ i, plan.config.mapping.RepeatsAt i) ∧
    (∀ f, plan.negotiate input = .error f → f.code = "DUPLICATE_FIELD" →
      ∃ i e, plan.config.mapping.entries[i]? = some e ∧ plan.config.mapping.RepeatsAt i ∧
        (∀ k < i, ¬ plan.config.mapping.RepeatsAt k) ∧
        f = Fault.of .config "DUPLICATE_FIELD" ("duplicate field '" ++ e.column ++ "'")) ∧
    ((∃ a, plan.negotiate input = .ok a) ↔
      (∀ e ∈ plan.config.mapping.entries, Schema.hasName input.fields e.stream = true) ∧
        ∀ i, ¬ plan.config.mapping.RepeatsAt i) ∧
    (∀ a, plan.negotiate input = .ok a → plan.Agrees input a) ∧
    (∀ p, plan.config.mapping.bind input = .ok p →
      ∃ target, Schema.empty.merge p.target.fields plan.config.name = .ok target) := by
  have hmerge : ∀ p, plan.config.mapping.bind input = .ok p →
      ∃ target, Schema.empty.merge p.target.fields plan.config.name = .ok target := by
    intro p _
    obtain ⟨target, htarget, -⟩ := p.target.merge_empty plan.config.name
    exact ⟨target, htarget⟩
  have hcodes : "FIELD_NOT_FOUND" ≠ "DUPLICATE_FIELD" := by decide
  have hended := plan.negotiated input
  generalize plan.negotiate input = ended at hended ⊢
  cases hended with
  | unfed hunfed =>
    have hnot : ¬ ∀ e ∈ plan.config.mapping.entries, Schema.hasName input.fields e.stream = true :=
      fun h => hunfed (Mapping.unfed_eq_nil_iff.2 h)
    refine ⟨⟨fun _ => by simpa using hnot, fun _ => ⟨_, rfl, rfl⟩⟩, ?_, ?_, ?_, ?_, nofun, hmerge⟩
    · rintro f ⟨⟩ -
      rfl
    · refine ⟨?_, fun h => absurd h.1 hnot⟩
      rintro ⟨f, ⟨⟩, hf⟩
      exact absurd hf hcodes
    · rintro f ⟨⟩ hf
      exact absurd hf hcodes
    · exact ⟨nofun, fun h => absurd h.1 hnot⟩
  | @repeated i e fed entry again first =>
    have hfed := Mapping.unfed_eq_nil_iff.1 fed
    refine ⟨⟨?_, ?_⟩, ?_, ⟨fun _ => ⟨hfed, i, again⟩, fun _ => ⟨_, rfl, rfl⟩⟩, ?_, ?_, nofun,
      hmerge⟩
    · rintro ⟨f, ⟨⟩, hf⟩
      exact absurd hf hcodes.symm
    · rintro ⟨e, he, hnot⟩
      rw [hfed e he] at hnot
      cases hnot
    · rintro f ⟨⟩ hf
      exact absurd hf hcodes.symm
    · rintro f ⟨⟩ -
      exact ⟨i, e, entry, again, first, rfl⟩
    · exact ⟨nofun, fun h => absurd again (h.2 i)⟩
  | agreed fed apart bound same binds =>
    have hfed := Mapping.unfed_eq_nil_iff.1 fed
    refine ⟨⟨nofun, ?_⟩, nofun, ⟨nofun, ?_⟩, nofun, ⟨fun _ => ⟨hfed, apart⟩, fun _ => ⟨_, rfl⟩⟩, ?_,
      hmerge⟩
    · rintro ⟨e, he, hnot⟩
      rw [hfed e he] at hnot
      cases hnot
    · rintro ⟨-, i, hi⟩
      exact absurd hi (apart i)
    · rintro a ⟨⟩
      exact agrees_of_binds bound same binds

/-- A step that takes two of three fields, one of them twice, out of order and by names in another
case, and writes a cube. Rows that do not fit are skipped. -/
def spreadPlan : Plan :=
  ⟨{ version := "1.0", name := "spread"
     mapping := ⟨[⟨"LABEL", "first", .plain⟩, ⟨"id", "number", .number⟩,
       ⟨"label", "second", .escaped⟩]⟩
     output := some { path := "out.cube", format := .cube }
     policy := { onRowError := .skip } }⟩

/-- The input of that step. -/
def spreadInput : Schema :=
  ⟨[{ name := "id", kind := .integer }, { name := "note", kind := .text },
    { name := "label", kind := .text, length := some 20 }], by decide⟩

/-- What that step and its input agree on. -/
def spreadAgreement : Agreement :=
  ⟨spreadInput, ⟨[2, 0, 2], [.plain, .number, .escaped],
    ⟨[{ name := "first", kind := .text, length := some 20, origin := "spread" },
      { name := "number", kind := .integer, origin := "spread" },
      { name := "second", kind := .text, length := some 20, origin := "spread" }], by decide⟩⟩⟩

theorem spread_agreed : spreadPlan.negotiate spreadInput = .ok spreadAgreement := rfl

end Step
end BulkLoad
