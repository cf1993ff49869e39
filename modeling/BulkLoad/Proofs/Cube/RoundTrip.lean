import BulkLoad.Proofs.Cube.Framing
import BulkLoad.Proofs.Cube.Header
import Mathlib.Data.List.Induction

/-!
Cube streams over whole histories of a writer. However the rows that fit and the rows that do not
are mixed, the stream holds the ones that fit, in order, and a reader gets them back.
-/

namespace BulkLoad

/-- Two cells with the same value: decimals are the same number, and the same pair where digits
stand behind the point; all others are equal. -/
def Cell.Same : Cell → Cell → Prop
  | .decimal a, .decimal b => a.value = b.value ∧ (0 ≤ a.scale → b = a)
  | a, b => a = b

theorem Cell.same_settled (c : Cell) : c.Same c.settled := by
  cases c with
  | decimal d => exact ⟨d.settled_value.symm, Decimal.settled_of_nonneg⟩
  | _ => rfl

/-- Row by row, a stream gives back the same values. -/
theorem same_settled_rows (rows : List Row) :
    List.Forall₂ (List.Forall₂ Cell.Same) rows (rows.map (List.map Cell.settled)) := by
  rw [List.forall₂_map_right_iff, List.forall₂_same]
  intro row _
  rw [List.forall₂_map_right_iff, List.forall₂_same]
  exact fun c _ => c.same_settled

namespace Cube

/-- The rows that a schema takes. -/
def accepted (s : Schema) (rows : List Row) : List Row :=
  rows.filter fun row => s.check row matches .ok ()

theorem mem_accepted_iff {s : Schema} {rows : List Row} {row : Row} :
    row ∈ accepted s rows ↔ row ∈ rows ∧ s.check row = .ok () := by
  rw [accepted, List.mem_filter]
  rcases s.check_cases row with h | ⟨e, h⟩ <;> simp [h]

/-- The record of a row that the schema takes. -/
def recordOf (row : Row) : Bytes := putBytes (bodyOf row)

namespace Writer

/-- The writer behind a history of calls, those included that were refused. -/
def after (s : Schema) (rows : List Row) : Writer :=
  rows.foldl (fun w row => (w.append row).2) (start s)

/-- What one call does, by the answer of the schema's check. -/
theorem append_of_check_ok {w : Writer} {row : Row} (h : w.schema.check row = .ok ()) :
    (w.append row).1 = .ok () ∧ (w.append row).2.schema = w.schema ∧
      (w.append row).2.bytes = w.bytes ++ recordOf row ∧ (w.append row).2.rows = w.rows + 1 := by
  have hbody := putBody_columns (Schema.check_eq_ok_iff.1 h)
  have hfill := fillRecord_appended w.schema.columns row []
  rw [hbody] at hfill
  have happend : w.append row =
      (.ok (), { w with scratch := recordOf row, chunks := recordOf row :: w.chunks,
                        rows := w.rows + 1 }) := by
    rw [append, h, hfill.of_ok]
    rfl
  simp [happend, bytes]

theorem append_of_check_error {w : Writer} {row : Row} {e : SchemaError}
    (h : w.schema.check row = .error e) : w.append row = (.error (.schema e), w) := by
  rw [append, h]

theorem after_concat (s : Schema) (rows : List Row) (row : Row) :
    after s (rows ++ [row]) = ((after s rows).append row).2 := by
  simp [after]

/-- The writer keeps its schema, and has the header and the records of the accepted rows. -/
theorem after_eq (s : Schema) (rows : List Row) :
    (after s rows).schema = s ∧
      (after s rows).bytes = putHeader s ++ (accepted s rows).flatMap recordOf ∧
      (after s rows).rows = (accepted s rows).length := by
  -- On the last call: what a writer does depends on the whole history before it.
  induction rows using List.reverseRecOn with
  | nil => simp [after, start, bytes, accepted]
  | append_singleton rows row ih =>
    obtain ⟨hschema, hbytes, hrows⟩ := ih
    rw [after_concat]
    rcases s.check_cases row with h | ⟨e, h⟩
    · obtain ⟨-, hschema', hbytes', hrows'⟩ := append_of_check_ok (hschema ▸ h)
      have hacc : accepted s (rows ++ [row]) = accepted s rows ++ [row] := by
        simp [accepted, h]
      refine ⟨hschema'.trans hschema, ?_, ?_⟩
      · rw [hbytes', hbytes, hacc]
        simp
      · rw [hrows', hrows, hacc]
        simp
    · have hacc : accepted s (rows ++ [row]) = accepted s rows := by
        simp [accepted, h]
      rw [append_of_check_error (hschema ▸ h), hacc]
      exact ⟨hschema, hbytes, hrows⟩

end Writer

/-- A stream of records gives its rows back, one for each record, and then nothing. -/
theorem items_records {s : Schema} {rows : List Row}
    (ha : ∀ row ∈ rows, List.Forall₂ Field.Admits s.fields row)
    (h : ∀ row ∈ rows, (bodyOf row).length < 2 ^ 32) :
    items s none (rows.flatMap recordOf) = rows.map fun row => .ok (row.map Cell.settled) := by
  have hbodies : rows.flatMap recordOf = (rows.map bodyOf).flatMap putBytes ++ [] := by
    rw [List.append_nil, List.flatMap_map]
    rfl
  have hfit : ∀ body ∈ rows.map bodyOf, body.length < 2 ^ 32 := List.forall_mem_map.2 h
  rw [hbodies, items_framed s _ [] hfit, items_finished rfl, List.append_nil, List.map_map]
  exact List.map_congr_left fun row hrow => rowOfBody_bodyOf (ha row hrow) (h row hrow)

theorem read_putHeader {s : Schema} (hs : Fits s) (b : Bytes) :
    read (putHeader s ++ b) 0 = .ok ⟨s, items s none b⟩ := by
  rw [read, takeHeader_putHeader hs]
  rfl

/-- Whatever rows a writer was given before, it takes the next one exactly when the schema does,
and refuses it without a trace and never for want of an encoding. Reading its bytes gives the schema
and the rows it took, in order, up to a clean end. -/
theorem read_writer_bytes {s : Schema} (hs : Fits s) (rows : List Row)
    (hrows : ∀ row ∈ rows, s.check row = .ok () → (bodyOf row).length < 2 ^ 32) :
    (∀ row, (((Writer.after s rows).append row).1 = .ok () ↔ s.check row = .ok ()) ∧
      (∀ e, ((Writer.after s rows).append row).1 ≠ .error (.encode e)) ∧
      (((Writer.after s rows).append row).1 ≠ .ok () →
        ((Writer.after s rows).append row).2.bytes = (Writer.after s rows).bytes ∧
        ((Writer.after s rows).append row).2.rows = (Writer.after s rows).rows)) ∧
    (Writer.after s rows).rows = (accepted s rows).length ∧
    ∃ back : List Row, read (Writer.after s rows).bytes 0 = .ok ⟨s, back.map .ok⟩ ∧
      List.Forall₂ (List.Forall₂ Cell.Same) (accepted s rows) back := by
  obtain ⟨hschema, hbytes, hcount⟩ := Writer.after_eq s rows
  refine ⟨?_, hcount, (accepted s rows).map (List.map Cell.settled), ?_, ?_⟩
  · intro row
    rcases s.check_cases row with h | ⟨e, h⟩
    · obtain ⟨hok, -⟩ := Writer.append_of_check_ok (hschema ▸ h)
      simp [hok, h]
    · simp [Writer.append_of_check_error (hschema ▸ h), h]
  · have hmem : ∀ row ∈ accepted s rows, row ∈ rows ∧ s.check row = .ok () := by
      intro row hrow
      obtain ⟨hin, hok⟩ := List.mem_filter.1 hrow
      refine ⟨hin, ?_⟩
      rcases s.check_cases row with h | ⟨e, h⟩
      · exact h
      · simp [h] at hok
    have hitems : items s none ((accepted s rows).flatMap recordOf) = _ := items_records
      (fun row hrow => Schema.check_eq_ok_iff.1 (hmem row hrow).2)
      (fun row hrow => hrows row (hmem row hrow).1 (hmem row hrow).2)
    rw [read, hbytes, takeHeader_putHeader hs]
    simp only [bind, Except.bind, limitOf, if_true, hitems, pure, Except.pure, List.map_map]
    rfl
  · rw [List.forall₂_map_right_iff, List.forall₂_same]
    intro row _
    rw [List.forall₂_map_right_iff, List.forall₂_same]
    exact fun c _ => c.same_settled

/-- A row of another kind between two decimals leaves no trace, and both decimals come back. -/
theorem read_writer_bytes_decimals :
    let s : Schema := ⟨[{ name := "amount", kind := .decimal }], List.pairwise_singleton _ _⟩
    let rows : List Row := [[.decimal ⟨150, 2⟩], [.text "?"], [.decimal ⟨3, -2⟩], [.null]]
    (Writer.after s rows).rows = 3 ∧
      ∃ back : List Row, read (Writer.after s rows).bytes 0 = .ok ⟨s, back.map .ok⟩ ∧
        List.Forall₂ (List.Forall₂ Cell.Same)
          [[.decimal ⟨150, 2⟩], [.decimal ⟨3, -2⟩], [.null]] back := by
  intro s rows
  have hs : Fits s := ⟨by decide, by decide, by decide⟩
  have hrows : ∀ row ∈ rows, s.check row = .ok () → (bodyOf row).length < 2 ^ 32 := by
    decide +kernel
  exact (read_writer_bytes hs rows hrows).2

end Cube
end BulkLoad
