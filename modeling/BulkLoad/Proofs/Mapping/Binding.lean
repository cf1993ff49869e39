import BulkLoad.Mapping
import BulkLoad.Proofs.Traversal
import Mathlib.Data.List.Basic

/-!
What it means for a mapping to bind. A name stands for at most one field of a schema, so each entry
of a mapping is tied to one position there; the lists of a projection are read off these ties, entry
by entry, and only a column that is named twice keeps a mapping from being bound.
-/

namespace BulkLoad

namespace Schema

variable {s : Schema} {name : String}

/-- Two positions whose fields go by one name are the same position. -/
theorem position_unique {i j : Nat} {f g : Field} (hf : s.fields[i]? = some f)
    (hg : s.fields[j]? = some g) (hfn : f.isNamed name = true) (hgn : g.isNamed name = true) :
    i = j := by
  have hsame : ∀ {i j : Nat} {f g : Field}, s.fields[i]? = some f → s.fields[j]? = some g →
      f.isNamed name = true → g.isNamed name = true → ¬ i < j := by
    intro i j f g hf hg hfn hgn hlt
    obtain ⟨hi, rfl⟩ := List.getElem?_eq_some_iff.1 hf
    obtain ⟨hj, rfl⟩ := List.getElem?_eq_some_iff.1 hg
    have hdistinct : sameName s.fields[i].name s.fields[j].name = false :=
      List.pairwise_iff_getElem.1 s.distinct i j hi hj hlt
    have hnamed : sameName name s.fields[j].name = true := by
      rw [sameName_comm]
      exact hgn
    rw [sameName_trans hfn hnamed] at hdistinct
    cases hdistinct
  have hle := hsame hf hg hfn hgn
  have hge := hsame hg hf hgn hfn
  omega

/-- A name is looked up to the position of the field that goes by it. -/
theorem index?_eq_some_iff {i : Nat} :
    s.index? name = some i ↔ ∃ f, s.fields[i]? = some f ∧ f.isNamed name = true := by
  rw [index?, List.findIdx?_eq_some_iff_getElem]
  constructor
  · rintro ⟨hi, hnamed, -⟩
    exact ⟨s.fields[i], List.getElem?_eq_getElem hi, hnamed⟩
  · rintro ⟨f, hf, hnamed⟩
    obtain ⟨hi, rfl⟩ := List.getElem?_eq_some_iff.1 hf
    refine ⟨hi, hnamed, fun j hj hjn => ?_⟩
    have := position_unique (List.getElem?_eq_getElem (by omega)) hf hjn hnamed
    omega

/-- A name is looked up in vain exactly if no field goes by it. -/
theorem isNone_index? : (s.index? name).isNone = !hasName s.fields name := by
  rw [← Option.not_isSome, isSome_index?]

end Schema

namespace MappingEntry

/-- The entries are for different columns. -/
def Apart (e e' : MappingEntry) : Prop := sameName e.column e'.column = false

end MappingEntry

/-- An entry of a mapping, and the field that feeds it. -/
structure Binding where
  entry : MappingEntry
  position : Nat
  source : Field

namespace Binding

/-- The field stands at the position, and goes by the name that the entry asks for. -/
structure On (input : Schema) (b : Binding) : Prop where
  found : input.fields[b.position]? = some b.source
  named : b.source.isNamed b.entry.stream = true

/-- The field of the target: that of the input, under the name of the column. -/
def field (b : Binding) : Field := b.source.renamed b.entry.column

end Binding

/-- The projection has one column for each binding, in their order. -/
structure Projection.Binds (p : Projection) (bs : List Binding) : Prop where
  sources : p.sources = bs.map (·.position)
  hints : p.hints = bs.map (·.entry.hint)
  fields : p.target.fields = bs.map (·.field)

namespace Projection.Binds

variable {p : Projection} {bs : List Binding}

theorem hasName_iff (h : p.Binds bs) {name : String} :
    Schema.hasName p.target.fields name = true ↔
      ∃ b ∈ bs, sameName b.entry.column name = true := by
  rw [Schema.hasName, h.fields, List.any_map, List.any_eq_true]
  rfl

/-- The columns of a projection are different ones. -/
theorem apart (h : p.Binds bs) : (bs.map (·.entry)).Pairwise MappingEntry.Apart := by
  have hdistinct := p.target.distinct
  rw [h.fields, List.pairwise_map] at hdistinct
  exact List.pairwise_map.2 hdistinct

end Projection.Binds

namespace Mapping

/-- The bindings of the entries of a mapping, one for each in their order. -/
structure Bound (m : Mapping) (input : Schema) (bs : List Binding) : Prop where
  entries : m.entries = bs.map (·.entry)
  on : ∀ b ∈ bs, b.On input

/-- The entry at this place is for the column of an entry before it. -/
def RepeatsAt (m : Mapping) (i : Nat) : Prop :=
  ∃ j e e', j < i ∧ m.entries[j]? = some e ∧ m.entries[i]? = some e' ∧
    sameName e.column e'.column = true

variable {m : Mapping} {input : Schema} {p : Projection} {b : Binding} {taken bs : List Binding}

/-- An entry of a bound mapping has its binding at the same place. -/
theorem Bound.at (h : m.Bound input bs) {i : Nat} {e : MappingEntry}
    (he : m.entries[i]? = some e) : ∃ b, bs[i]? = some b ∧ b.entry = e ∧ b.On input := by
  rw [h.entries, List.getElem?_map, Option.map_eq_some_iff] at he
  obtain ⟨b, hb, rfl⟩ := he
  exact ⟨b, hb, rfl, h.on b (List.mem_of_getElem? hb)⟩

/-- Where every entry is fed, every entry has its binding. -/
theorem exists_bound (h : ∀ e ∈ m.entries, Schema.hasName input.fields e.stream = true) :
    ∃ bs, m.Bound input bs := by
  obtain ⟨entries⟩ := m
  induction entries with
  | nil => exact ⟨[], rfl, nofun⟩
  | cons e entries ih =>
    obtain ⟨hfed, hrest⟩ := List.forall_mem_cons.1 h
    obtain ⟨bs, hentries, hon⟩ := ih hrest
    obtain ⟨f, hf, hnamed⟩ := List.any_eq_true.1 hfed
    obtain ⟨i, hi⟩ := List.getElem?_of_mem hf
    refine ⟨⟨e, i, f⟩ :: bs, ?_, List.forall_mem_cons.2 ⟨⟨hi, hnamed⟩, hon⟩⟩
    rw [List.map_cons, ← hentries]

/-- A binding gives the projection one column more, unless the column's name is taken. -/
theorem bindEntry_on (hb : b.On input) :
    bindEntry input p b.entry = (p.target.add b.field).map fun target =>
      ⟨p.sources ++ [b.position], p.hints ++ [b.entry.hint], target⟩ := by
  have hi : input.index? b.entry.stream = some b.position :=
    Schema.index?_eq_some_iff.2 ⟨b.source, hb.found, hb.named⟩
  simp only [bindEntry, hi, hb.found, pure_bind]
  cases h : p.target.add b.field with
  | error e =>
    have h' : p.target.add (b.source.renamed b.entry.column) = .error e := h
    rw [h']
    rfl
  | ok target =>
    have h' : p.target.add (b.source.renamed b.entry.column) = .ok target := h
    rw [h']
    rfl

theorem bindEntry_taken (hb : b.On input) (hp : p.Binds taken)
    (h : ∃ c ∈ taken, sameName c.entry.column b.entry.column = true) :
    bindEntry input p b.entry = .error (.duplicateField b.entry.column) := by
  have hname : Schema.hasName p.target.fields b.field.name = true := hp.hasName_iff.2 h
  rw [bindEntry_on hb, Schema.add_taken hname]
  rfl

theorem bindEntry_free (hb : b.On input) (hp : p.Binds taken)
    (h : ¬ ∃ c ∈ taken, sameName c.entry.column b.entry.column = true) :
    ∃ p', bindEntry input p b.entry = .ok p' ∧ p'.Binds (taken ++ [b]) := by
  have hname : Schema.hasName p.target.fields b.field.name = false := by
    rw [Bool.eq_false_iff]
    exact fun hn => h (hp.hasName_iff.1 hn)
  obtain ⟨target, hadd, hfields⟩ := Schema.add_free hname
  rw [bindEntry_on hb, hadd]
  refine ⟨_, rfl, ?_, ?_, ?_⟩
  · simp [hp.sources]
  · simp [hp.hints]
  · simp [hfields, hp.fields]

/-- Entry by entry the projection grows by a column, up to the first whose column is taken. -/
theorem bindEntries_on (hp : p.Binds taken) (hbs : ∀ b ∈ bs, b.On input) :
    (∃ p', (bs.map (·.entry)).foldlM (bindEntry input) p = .ok p' ∧ p'.Binds (taken ++ bs)) ∨
    ∃ front b back, ∃ p' : Projection, bs = front ++ b :: back ∧ p'.Binds (taken ++ front) ∧
      (∃ c ∈ taken ++ front, sameName c.entry.column b.entry.column = true) ∧
      (bs.map (·.entry)).foldlM (bindEntry input) p = .error (.duplicateField b.entry.column) := by
  induction bs generalizing taken p with
  | nil => exact .inl ⟨p, rfl, by rwa [List.append_nil]⟩
  | cons b bs ih =>
    obtain ⟨hb, hrest⟩ := List.forall_mem_cons.1 hbs
    rw [List.map_cons, List.foldlM_cons]
    by_cases htaken : ∃ c ∈ taken, sameName c.entry.column b.entry.column = true
    · rw [bindEntry_taken hb hp htaken]
      exact .inr ⟨[], b, bs, p, rfl, by rwa [List.append_nil], by rwa [List.append_nil], rfl⟩
    · obtain ⟨p₁, he, hp₁⟩ := bindEntry_free hb hp htaken
      rw [he]
      rcases ih hp₁ hrest with ⟨p', hfold, hp'⟩ | ⟨front, c, back, p', rfl, hp', hclash, hfold⟩
      · exact .inl ⟨p', hfold, by simpa using hp'⟩
      · exact .inr ⟨b :: front, c, back, p', rfl, by simpa using hp', by simpa using hclash, hfold⟩

theorem RepeatsAt.lt {i : Nat} (h : m.RepeatsAt i) : i < m.entries.length := by
  obtain ⟨-, -, e', -, -, hi, -⟩ := h
  exact (List.getElem?_eq_some_iff.1 hi).1

/-- An entry among those for different columns repeats none before it. -/
theorem not_repeatsAt {front back : List MappingEntry} {k : Nat} (he : m.entries = front ++ back)
    (ha : front.Pairwise MappingEntry.Apart) (hk : k < front.length) : ¬ m.RepeatsAt k := by
  rintro ⟨j, e, e', hjk, hj, hk', hsame⟩
  rw [he, List.getElem?_append_left (by omega), List.getElem?_eq_some_iff] at hj hk'
  obtain ⟨hj, rfl⟩ := hj
  obtain ⟨hk', rfl⟩ := hk'
  have hapart : sameName front[j].column front[k].column = false :=
    List.pairwise_iff_getElem.1 ha j k hj hk hjk
  rw [hsame] at hapart
  cases hapart

/-- A mapping whose entries are fed is bound, with a column for each of them, or fails at the first
entry whose column was there before. -/
theorem bind_bound (hm : m.Bound input bs) :
    (∃ p, m.bind input = .ok p ∧ p.Binds bs ∧ ∀ i, ¬ m.RepeatsAt i) ∨
    ∃ i e, m.entries[i]? = some e ∧ m.RepeatsAt i ∧ (∀ k < i, ¬ m.RepeatsAt k) ∧
      m.bind input = .error (.duplicateField e.column) := by
  have hempty : (⟨[], [], .empty⟩ : Projection).Binds [] := ⟨rfl, rfl, rfl⟩
  have hfold := bindEntries_on hempty hm.on
  rw [← hm.entries] at hfold
  rcases hfold with ⟨p, hfold, hp⟩ | ⟨front, b, back, p, rfl, hp, ⟨c, hc, hsame⟩, hfold⟩
  · refine .inl ⟨p, hfold, hp, fun i hi => ?_⟩
    have hapart := hp.apart
    rw [List.nil_append, ← hm.entries] at hapart
    exact not_repeatsAt (List.append_nil _).symm hapart hi.lt hi
  · have hsplit : m.entries = front.map (·.entry) ++ (b :: back).map (·.entry) := by
      rw [hm.entries, List.map_append]
    have hb : m.entries[front.length]? = some b.entry := by
      rw [hsplit, List.getElem?_append_right (by simp)]
      simp
    rw [List.nil_append] at hc
    obtain ⟨j, hj⟩ := List.getElem?_of_mem hc
    have hlt : j < front.length := (List.getElem?_eq_some_iff.1 hj).1
    have hc : m.entries[j]? = some c.entry := by
      rw [hsplit, List.getElem?_append_left (by simpa using hlt), List.getElem?_map, hj]
      rfl
    refine .inr ⟨front.length, b.entry, hb, ⟨j, c.entry, b.entry, hlt, hc, hb, hsame⟩, ?_, hfold⟩
    intro k hk
    exact not_repeatsAt hsplit hp.apart (by simpa using hk)

theorem fed_of_bindEntry {e : MappingEntry} {p' : Projection}
    (h : bindEntry input p e = .ok p') : Schema.hasName input.fields e.stream = true := by
  have hfound : (input.index? e.stream).isNone ≠ true := by
    intro hnone
    rw [bindEntry, Option.isNone_iff_eq_none.1 hnone] at h
    cases h
  rw [Schema.isNone_index?] at hfound
  simpa using hfound

theorem fed_of_bindEntries {entries : List MappingEntry} {p' : Projection}
    (h : entries.foldlM (bindEntry input) p = .ok p') :
    ∀ e ∈ entries, Schema.hasName input.fields e.stream = true := by
  induction entries generalizing p with
  | nil => nofun
  | cons e entries ih =>
    rw [List.foldlM_cons, bind_eq_ok_iff] at h
    obtain ⟨p₁, he, hrest⟩ := h
    exact List.forall_mem_cons.2 ⟨fed_of_bindEntry he, ih hrest⟩

/-- The projection of a mapping that is bound has a column for each entry. -/
theorem binds_of_bind (h : m.bind input = .ok p) : ∃ bs, m.Bound input bs ∧ p.Binds bs := by
  obtain ⟨bs, hbs⟩ := exists_bound (fed_of_bindEntries h)
  rcases bind_bound hbs with ⟨p', hp', hbinds, -⟩ | ⟨i, e, -, -, -, he⟩
  · rw [h] at hp'
    cases hp'
    exact ⟨bs, hbs, hbinds⟩
  · rw [h] at he
    cases he

end Mapping
end BulkLoad
