import BulkLoad.Proofs.Fill
import BulkLoad.Proofs.Mapping.Binding

/-!
The two encoders of a mapping take the same rows. They walk lists of columns that are made apart
from each other, one of them puts the length of its record in place afterwards, and yet each row is
taken by both or refused by both, for the first column that has no cell in it.
-/

namespace BulkLoad

/-- Why a row has no cell for a field that takes it from this position. -/
inductive Field.Refuses (f : Field) (source : Nat) (row : Row) : EncodeError → Prop
  | missing (h : row.length ≤ source) : f.Refuses source row (.missingCell f.name source row.length)
  | unresolved {cell : Cell} (hcell : row[source]? = some cell) (hcell' : cell ≠ .null)
      (h : f.kind = .unresolved) : f.Refuses source row (.unresolvedKind f.name)
  | kind {cell : Cell} {k : Kind} (hcell : row[source]? = some cell) (hk : cell.kind? = some k)
      (hf : f.kind ≠ .unresolved) (h : k ≠ f.kind) :
      f.Refuses source row (.cellKind f.name f.kind k)

theorem Cell.kind?_eq_none_iff {c : Cell} : c.kind? = none ↔ c = .null := by
  cases c <;> simp [kind?]

theorem Column.cell_eq_error_iff {c : Column} {row : Row} {e : EncodeError} :
    c.cell row = .error e ↔ c.field.Refuses c.source row e := by
  constructor
  · intro h
    unfold Column.cell at h
    split at h
    · rename_i hnone
      cases h
      exact .missing (List.getElem?_eq_none_iff.1 hnone)
    · rename_i cell hcell
      split at h
      · cases h
      rename_i k hk
      split at h
      · rename_i hf
        cases h
        refine .unresolved hcell ?_ hf
        rintro rfl
        cases hk
      split at h
      · cases h
      · rename_i hf hne
        cases h
        exact .kind hcell hk hf hne
  · intro h
    cases h with
    | missing hlength => simp [Column.cell, List.getElem?_eq_none hlength]
    | @unresolved cell hcell hnull hf =>
      cases hk : cell.kind? with
      | none => exact absurd (Cell.kind?_eq_none_iff.1 hk) hnull
      | some k => simp [Column.cell, hcell, hk, hf]
    | kind hcell hk hf hne => simp [Column.cell, hcell, hk, hf, hne]

namespace Projection

variable {p : Projection} {row : Row} {e : EncodeError}

/-- The row has no cell for the column at this place of the target. -/
def RefusesAt (p : Projection) (row : Row) (i : Nat) (e : EncodeError) : Prop :=
  ∃ source field, p.sources[i]? = some source ∧ p.target.fields[i]? = some field ∧
    field.Refuses source row e

theorem columns_getElem? {i : Nat} {c : Column} : p.columns[i]? = some c ↔
    p.sources[i]? = some c.source ∧ p.target.fields[i]? = some c.field := by
  rw [columns, List.getElem?_map, Option.map_eq_some_iff]
  constructor
  · rintro ⟨⟨source, field⟩, hzip, rfl⟩
    exact List.getElem?_zip_eq_some.1 hzip
  · exact fun h => ⟨(c.source, c.field), List.getElem?_zip_eq_some.2 h, rfl⟩

theorem refusesAt_iff {i : Nat} :
    p.RefusesAt row i e ↔ ∃ c, p.columns[i]? = some c ∧ c.cell row = .error e := by
  constructor
  · rintro ⟨source, field, hsource, hfield, h⟩
    exact ⟨⟨source, field⟩, columns_getElem?.2 ⟨hsource, hfield⟩, Column.cell_eq_error_iff.2 h⟩
  · rintro ⟨c, hc, h⟩
    obtain ⟨hsource, hfield⟩ := columns_getElem?.1 hc
    exact ⟨c.source, c.field, hsource, hfield, Column.cell_eq_error_iff.1 h⟩

/-- A walk over the columns fails for the first of them that has no cell. -/
theorem walk_eq_error_iff : p.columns.mapM (·.cell row) = .error e ↔
    ∃ i, p.RefusesAt row i e ∧ ∀ j < i, ∀ e', ¬ p.RefusesAt row j e' := by
  simp only [mapM_eq_error_iff, refusesAt_iff]
  constructor
  · rintro ⟨i, c, hc, he, hbefore⟩
    refine ⟨i, ⟨c, hc, he⟩, ?_⟩
    rintro j hj e' ⟨d, hd, he'⟩
    obtain ⟨cell, hcell⟩ := hbefore j hj d hd
    rw [hcell] at he'
    cases he'
  · rintro ⟨i, ⟨c, hc, he⟩, hbefore⟩
    refine ⟨i, c, hc, he, ?_⟩
    intro j hj d hd
    cases hcell : d.cell row with
    | ok cell => exact ⟨cell, rfl⟩
    | error e' => exact absurd ⟨d, hd, hcell⟩ (hbefore j hj e')

end Projection

namespace Encoder

variable {encoder : Encoder} {p : Projection} {row : Row} {e : EncodeError}

/-- Whatever stands in a buffer, a record of the row is put behind it, and always the same. -/
def Takes (encoder : Encoder) (row : Row) : Prop :=
  ∃ record, ∀ buffer, encoder.fill row buffer = (.ok (), buffer ++ record)

/-- Whatever stands in a buffer, it stays there, and the row is refused. -/
def Refuses (encoder : Encoder) (row : Row) (e : EncodeError) : Prop :=
  ∀ buffer, ∃ part, encoder.fill row buffer = (.error e, buffer ++ part)

theorem takes_of_record {record : Bytes} (h : encoder.record row = .ok record) :
    encoder.Takes row := by
  refine ⟨record, fun buffer => ?_⟩
  have happended := encoder.fill_appended row buffer
  rw [h] at happended
  exact happended.of_ok

theorem refuses_of_record (h : encoder.record row = .error e) : encoder.Refuses row e := by
  intro buffer
  have happended := encoder.fill_appended row buffer
  rw [h] at happended
  exact happended.of_error

/-- An encoder that fails where a walk over the columns fails takes all other rows. -/
theorem takes_or_refuses (h : ∀ e, encoder.record row = .error e ↔
      p.columns.mapM (·.cell row) = .error e) :
    ((∃ cells, p.columns.mapM (·.cell row) = .ok cells) → encoder.Takes row) ∧
    ∀ e, p.columns.mapM (·.cell row) = .error e → encoder.Refuses row e := by
  constructor
  · rintro ⟨cells, hcells⟩
    cases hrecord : encoder.record row with
    | ok record => exact takes_of_record hrecord
    | error e =>
      rw [h, hcells] at hrecord
      cases hrecord
  · exact fun e he => refuses_of_record ((h e).2 he)

theorem record_cube_eq_error_iff : (Encoder.ofProjection p).record row = .error e ↔
    p.columns.mapM (·.cell row) = .error e := by
  have hrecord : (Encoder.ofProjection p).record row = Cube.putRecord p.columns row := rfl
  have hwalk : (p.columns.mapM fun c => (c.cell row).map Cube.putCell) = .error e ↔
      (p.columns.map id).mapM (·.cell row) = .error e :=
    mapM_map_eq_error_iff (fun c : Column => c.cell row) id fun _ => Cube.putCell
  rw [List.map_id] at hwalk
  rw [hrecord, Cube.putRecord_eq, map_eq_error_iff, ← hwalk]
  exact map_eq_error_iff

/-- The hints are as many as the columns, so that no column is lost when they are put together. -/
theorem record_text_eq_error_iff (format : Delimited.Format)
    (h : p.columns.length ≤ p.hints.length) : (Encoder.ofFormat format p).record row = .error e ↔
      p.columns.mapM (·.cell row) = .error e := by
  have hcolumns : (Delimited.textColumns p).map (·.column) = p.columns := by
    rw [Delimited.textColumns, List.map_map]
    exact List.map_fst_zip h
  have hrecord : (Encoder.ofFormat format p).record row = _ :=
    (format.fill_appended (Delimited.textColumns p) row []).record_eq
  have hwalk : (Delimited.textColumns p).mapM (format.fieldOf row) = .error e ↔
      ((Delimited.textColumns p).map (·.column)).mapM (·.cell row) = .error e :=
    mapM_map_eq_error_iff (fun c : Column => c.cell row) (fun c : Delimited.TextColumn => c.column)
      fun c => format.field c.hint c.column.field.precision
  rw [hrecord, map_eq_error_iff, hwalk, hcolumns]

end Encoder

namespace Mapping

variable {m : Mapping} {input : Schema} {p : Projection}

/-- What becomes of a row is the same in both encoders of a mapping, for any buffer. -/
theorem encoders_agree (h : m.bind input = .ok p) (format : Delimited.Format) (row : Row) :
    p.sources.length = m.entries.length ∧ p.target.fields.length = m.entries.length ∧
    ((∀ i e, ¬ p.RefusesAt row i e) ∧ (Encoder.ofFormat format p).Takes row ∧
        (Encoder.ofProjection p).Takes row ∨
      ∃ i e, p.RefusesAt row i e ∧ (∀ j < i, ∀ e', ¬ p.RefusesAt row j e') ∧
        (Encoder.ofFormat format p).Refuses row e ∧ (Encoder.ofProjection p).Refuses row e) := by
  obtain ⟨bs, hbound, hbinds⟩ := binds_of_bind h
  have hsources : p.sources.length = m.entries.length := by
    rw [hbinds.sources, hbound.entries, List.length_map, List.length_map]
  have hfields : p.target.fields.length = m.entries.length := by
    rw [hbinds.fields, hbound.entries, List.length_map, List.length_map]
  have hhints : p.columns.length ≤ p.hints.length := by
    rw [Projection.columns, hbinds.hints, hbinds.sources, hbinds.fields]
    simp
  obtain ⟨htakes, hrefuses⟩ :=
    Encoder.takes_or_refuses fun e => Encoder.record_text_eq_error_iff (e := e) format hhints
  have hcube : ∀ e, (Encoder.ofProjection p).record row = .error e ↔
      p.columns.mapM (·.cell row) = .error e := fun _ => Encoder.record_cube_eq_error_iff
  obtain ⟨htakes', hrefuses'⟩ := Encoder.takes_or_refuses hcube
  refine ⟨hsources, hfields, ?_⟩
  cases hwalk : p.columns.mapM (·.cell row) with
  | ok cells =>
    refine .inl ⟨?_, htakes ⟨cells, hwalk⟩, htakes' ⟨cells, hwalk⟩⟩
    intro i e hi
    obtain ⟨c, hc, he⟩ := Projection.refusesAt_iff.1 hi
    obtain ⟨cell, hcell⟩ := exists_of_mapM_ok hwalk (List.mem_of_getElem? hc)
    rw [hcell] at he
    cases he
  | error e =>
    obtain ⟨i, hi, hbefore⟩ := Projection.walk_eq_error_iff.1 hwalk
    exact .inr ⟨i, e, hi, hbefore, hrefuses e hwalk, hrefuses' e hwalk⟩

/-- A mapping that asks for one field twice, and out of order. -/
def twice : Mapping := ⟨[⟨"count", "n", .plain⟩, ⟨"label", "s", .escaped⟩, ⟨"count", "m", .number⟩]⟩

def twiceInput : Schema :=
  ⟨[{ name := "label", kind := .text }, { name := "count", kind := .integer }], by decide⟩

/-- A row that is too short is refused by both, though it has a cell for one of the columns. -/
theorem encoders_agree_short : ∃ p e, twice.bind twiceInput = .ok p ∧
    (Encoder.ofFormat {} p).Refuses [.text "a"] e ∧
      (Encoder.ofProjection p).Refuses [.text "a"] e := by
  have hbind : twice.bind twiceInput = .ok _ := rfl
  obtain ⟨-, -, ⟨hnone, -⟩ | ⟨i, e, -, -, htext, hcube⟩⟩ := encoders_agree hbind {} [.text "a"]
  · exact absurd ⟨1, _, rfl, rfl, .missing (by decide)⟩ (hnone 0 _)
  · exact ⟨_, e, rfl, htext, hcube⟩

end Mapping
end BulkLoad
