import BulkLoad.Column
import Mathlib.Data.List.Forall2

/-!
Which rows a schema takes: those with one cell for each field, null or of the field's kind. An
encoder finds every cell of such a row where it looks for it.
-/

namespace BulkLoad

/-- The cell may stand in the field: it is null or of the field's kind. -/
def Field.Admits (f : Field) (c : Cell) : Prop := ∀ k, c.kind? = some k → k = f.kind

/-- A cell may stand in every field of one kind. -/
theorem Field.Admits.alike {f g : Field} {c : Cell} (h : g.Admits c) (hkind : g.kind = f.kind) :
    f.Admits c := fun k hk => (h k hk).trans hkind

namespace Schema

theorem firstMismatch_eq_none_iff {fields : List Field} {row : Row}
    (h : row.length = fields.length) :
    firstMismatch fields row = none ↔ List.Forall₂ Field.Admits fields row := by
  induction fields generalizing row with
  | nil =>
    have : row = [] := List.length_eq_zero_iff.1 h
    simp [this, firstMismatch]
  | cons f fields ih =>
    cases row with
    | nil => simp at h
    | cons c row =>
      have hrest := @ih row (by simpa using h)
      rw [List.forall₂_cons, ← hrest, firstMismatch]
      cases hk : c.kind? with
      | none => simp [Field.Admits, hk]
      | some k =>
        by_cases hf : k = f.kind
        · simp [Field.Admits, hk, hf]
        · simp [Field.Admits, hk, hf]

/-- A row passes the check exactly when each field admits the cell at its place. -/
theorem check_eq_ok_iff {s : Schema} {row : Row} :
    s.check row = .ok () ↔ List.Forall₂ Field.Admits s.fields row := by
  unfold check
  by_cases hl : row.length = s.size
  · rw [if_neg (by simp [hl])]
    rw [← firstMismatch_eq_none_iff hl]
    cases firstMismatch s.fields row <;> simp
  · rw [if_pos hl]
    refine ⟨nofun, fun h => ?_⟩
    exact absurd h.length_eq.symm hl

/-- At the position of a field an accepted row has a cell, and the field admits it. -/
theorem cell_at {s : Schema} {row : Row} {i : Nat} {f : Field} (hrow : s.check row = .ok ())
    (hf : s.fields[i]? = some f) :
    row[i]? = some (row.getD i .null) ∧ f.Admits (row.getD i .null) := by
  have hadmitted := check_eq_ok_iff.1 hrow
  rw [List.forall₂_iff_get] at hadmitted
  obtain ⟨hi, rfl⟩ := List.getElem?_eq_some_iff.1 hf
  have hlt : i < row.length := by omega
  have hcell : row.getD i .null = row[i] := by simp [hlt]
  rw [hcell, List.getElem?_eq_getElem hlt]
  exact ⟨rfl, hadmitted.2 i hi hlt⟩

/-- The check of a row has a reason to reject it whenever it does not accept it. -/
theorem check_cases (s : Schema) (row : Row) :
    s.check row = .ok () ∨ ∃ e, s.check row = .error e := by
  cases s.check row with
  | ok u => exact .inl rfl
  | error e => exact .inr ⟨e, rfl⟩

end Schema

namespace Column

/-- A column whose cell is there and admitted by its field gives that cell. -/
theorem cell_eq_ok {c : Column} {row : Row} {cell : Cell} (h : row[c.source]? = some cell)
    (ha : c.field.Admits cell) : c.cell row = .ok cell := by
  unfold Column.cell
  rw [h]
  cases hk : cell.kind? with
  | none => simp [hk]
  | some k =>
    have hf : k = c.field.kind := ha k hk
    have hu : c.field.kind ≠ .unresolved := by
      rintro h
      exact cell.kind?_ne_unresolved (by rw [hk, hf, h])
    simp [hk, hf, hu]

/-- A cell that a column gives is null or of the column's kind. -/
theorem kind_of_cell {c : Column} {row : Row} {cell : Cell} (h : c.cell row = .ok cell) :
    cell.kind? = none ∨ cell.kind? = some c.field.kind := by
  unfold Column.cell at h
  split at h
  · cases h
  · rename_i found hfound
    split at h
    · rename_i hnone
      cases h
      exact .inl hnone
    · rename_i k hk
      split at h
      · cases h
      · split at h
        · rename_i hsame
          cases h
          exact .inr (by rw [hk, hsame])
        · cases h

end Column

/-- The columns of a schema find the cells of an admitted row in order. -/
theorem Schema.columns_cells {s : Schema} {row : Row} (h : List.Forall₂ Field.Admits s.fields row) :
    List.Forall₂ (fun c cell => c.cell row = .ok cell) s.columns row := by
  rw [List.forall₂_iff_get] at h ⊢
  obtain ⟨hlength, hadmits⟩ := h
  refine ⟨by simpa [Schema.columns] using hlength, ?_⟩
  intro i hi hrow
  apply Column.cell_eq_ok
  · simp [Schema.columns]
  · simpa [Schema.columns] using hadmits i (by simpa [Schema.columns] using hi) hrow

end BulkLoad
