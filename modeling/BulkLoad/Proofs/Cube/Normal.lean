import BulkLoad.Proofs.Cube.Canonical
import BulkLoad.Proofs.Cube.RoundTrip

/-!
Streams that are read and written again. Whatever a reader takes to the end fits the schema that it
has read, so a writer takes it, and gives it the one spelling that writers use. A stream spelled so
already comes out byte for byte, and one that is written twice is the same as written once.
-/

namespace BulkLoad

theorem Cell.settled_kind? (c : Cell) : c.settled.kind? = c.kind? := by
  cases c <;> rfl

namespace Cube

theorem putCell_settled (c : Cell) : putCell c.settled = putCell c := by
  cases c with
  | decimal d => simp only [Cell.settled, putCell, Cell.kind?, putPayload, d.settled_plain]
  | _ => rfl

/-- A row that has gone through a stream is written as it was. -/
theorem recordOf_settled (row : Row) : recordOf (row.map Cell.settled) = recordOf row := by
  simp only [recordOf, bodyOf, List.flatMap_map, putCell_settled]

theorem admits_settled {fields : List Field} {row : Row}
    (h : List.Forall₂ Field.Admits fields row) :
    List.Forall₂ Field.Admits fields (row.map Cell.settled) := by
  rw [List.forall₂_map_right_iff]
  exact h.imp fun f c hc k hk => hc k (by rwa [c.settled_kind?] at hk)

namespace Spelling

/-- A spelling that writers use is the one they give the cell. The length keeps the scale of a
decimal within what is read. -/
theorem bytes_of_settled {spelled : Spelling} {c : Cell} (hc : spelled.cell? = some c)
    (h : spelled.Settled) (hlength : spelled.bytes.length < 2 ^ 32) :
    spelled.bytes = putCell c := by
  cases spelled with
  | boolean x =>
    rcases h with rfl | rfl <;> cases hc <;> rfl
  | decimal t =>
    obtain ⟨d, rfl⟩ := h
    have hscale : d.scale < 2 ^ 63 := by
      have hplaces := d.scale_le_plain_length
      have hchars := length_le_utf8ByteSize d.plain
      have := length_putText d.plain
      rw [bytes, List.length_cons] at hlength
      omega
    rw [cell?, Decimal.ofText?_plain hscale] at hc
    cases hc
    rw [← Cell.settled, putCell_settled]
    rfl
  | other c' =>
    cases c' <;> cases hc <;> rfl

theorem body_of_settled {cells : List Spelling} {row : Row} (hrow : Means cells row)
    (h : ∀ spelled ∈ cells, spelled.Settled) (hlength : (body cells).length < 2 ^ 32) :
    body cells = bodyOf row := by
  induction hrow with
  | nil => rfl
  | @cons spelled c cells row hc _ ih =>
    obtain ⟨hsettled, hrest⟩ := List.forall_mem_cons.1 h
    have hsplit : body (spelled :: cells) = spelled.bytes ++ body cells := rfl
    rw [hsplit, List.length_append] at hlength
    rw [hsplit, bytes_of_settled hc hsettled (by omega), ih hrest (by omega)]
    rfl

end Spelling

/-- A stream of a schema and rows, by how its cells are spelled. -/
structure Spelt (s : Schema) (rows : List Row) (spelt : List (List Spelling)) (b : Bytes) :
    Prop where
  bytes : b = putHeader s ++ spelt.flatMap fun cells => putBytes (Spelling.body cells)
  means : List.Forall₂ Spelling.Means spelt rows
  short : ∀ cells ∈ spelt, (Spelling.body cells).length < 2 ^ 32

/-- Rows up to a clean end stand in records, each a spelling of its row. -/
theorem spelled_of_items {s : Schema} {rows : List Row} {b : Bytes}
    (h : items s none b = rows.map .ok) :
    (∀ row ∈ rows, List.Forall₂ Field.Admits s.fields row) ∧
    ∃ spelt, List.Forall₂ Spelling.Means spelt rows ∧
      (∀ cells ∈ spelt, (Spelling.body cells).length < 2 ^ 32) ∧
      b = spelt.flatMap fun cells => putBytes (Spelling.body cells) := by
  induction rows generalizing b with
  | nil =>
    cases hf : frame b with
    | finished => exact ⟨nofun, [], .nil, nofun, eq_nil_of_frame hf⟩
    | cut part =>
      rw [items_cut (by simp) hf] at h
      cases h
    | record body rest =>
      rw [items_record (by simp) hf] at h
      cases h
  | cons row rows ih =>
    cases hf : frame b with
    | finished =>
      rw [items_finished hf] at h
      cases h
    | cut part =>
      rw [items_cut (by simp) hf] at h
      cases h
    | record body rest =>
      rw [items_record (by simp) hf, remaining_none, List.map_cons] at h
      obtain ⟨hrow, hrest⟩ := List.cons.inj h
      obtain ⟨hlt, rfl⟩ := frame_eq_record_iff.1 hf
      obtain ⟨hadmits, cells, hmeans, rfl⟩ := spelled_of_rowOfBody hrow
      obtain ⟨hall, spelt, hspelt, hshort, rfl⟩ := ih hrest
      refine ⟨List.forall_mem_cons.2 ⟨hadmits, hall⟩, cells :: spelt, .cons hmeans hspelt,
        List.forall_mem_cons.2 ⟨hlt, hshort⟩, rfl⟩

theorem spelt_of_read {s : Schema} {rows : List Row} {b : Bytes}
    (h : read b 0 = .ok ⟨s, rows.map .ok⟩) :
    Fits s ∧ (∀ row ∈ rows, List.Forall₂ Field.Admits s.fields row) ∧
      ∃ spelt, Spelt s rows spelt b := by
  obtain ⟨⟨s', rest⟩, hheader, hdone⟩ := bind_eq_ok_iff.1 h
  obtain ⟨hfits, rfl⟩ := header_of_takeHeader hheader
  obtain ⟨rfl, hitems⟩ := Contents.mk.inj (Except.ok.inj hdone)
  obtain ⟨hadmits, spelt, hmeans, hshort, rfl⟩ := spelled_of_items hitems
  exact ⟨hfits, hadmits, spelt, rfl, hmeans, hshort⟩

theorem bytes_of_settled_spelt {s : Schema} {rows : List Row} {spelt : List (List Spelling)}
    {b : Bytes} (h : Spelt s rows spelt b)
    (hsettled : ∀ cells ∈ spelt, ∀ spelled ∈ cells, spelled.Settled) :
    putHeader s ++ rows.flatMap recordOf = b := by
  obtain ⟨rfl, hmeans, hshort⟩ := h
  congr 1
  induction hmeans with
  | nil => rfl
  | @cons cells row spelt rows hrow _ ih =>
    obtain ⟨hcells, hspelt⟩ := List.forall_mem_cons.1 hsettled
    obtain ⟨hlt, hshort⟩ := List.forall_mem_cons.1 hshort
    rw [List.flatMap_cons, List.flatMap_cons, ih hspelt hshort, recordOf,
      Spelling.body_of_settled hrow hcells hlt]

namespace Writer

/-- Rows that all fit are written one after the other. -/
theorem writeAll_of_check {rows : List Row} {w : Writer}
    (h : ∀ row ∈ rows, w.schema.check row = .ok ()) :
    w.writeAll rows = .ok (rows.foldl (fun w row => (w.append row).2) w) := by
  induction rows generalizing w with
  | nil => rfl
  | cons row rows ih =>
    obtain ⟨hrow, hrows⟩ := List.forall_mem_cons.1 h
    obtain ⟨hok, hschema, -⟩ := append_of_check_ok hrow
    have hwrite : w.write row = .ok (w.append row).2 := by
      simp only [write, hok, Except.map]
    have hrest := ih (w := (w.append row).2) (by rwa [hschema])
    rw [writeAll, List.foldlM_cons, hwrite]
    exact hrest

/-- The stream of rows that all fit is the header and their records. -/
theorem exists_writeAll {s : Schema} {rows : List Row}
    (h : ∀ row ∈ rows, List.Forall₂ Field.Admits s.fields row) :
    ∃ w, (start s).writeAll rows = .ok w ∧ w.bytes = putHeader s ++ rows.flatMap recordOf := by
  have hcheck : ∀ row ∈ rows, s.check row = .ok () :=
    fun row hrow => Schema.check_eq_ok_iff.2 (h row hrow)
  have haccepted : accepted s rows = rows := by
    rw [accepted, List.filter_eq_self]
    intro row hrow
    rw [hcheck row hrow]
  refine ⟨after s rows, writeAll_of_check hcheck, ?_⟩
  rw [(after_eq s rows).2.1, haccepted]

end Writer

/-- What is read up to a clean end can be written again, and that settles it. Every row fits the
schema; the stream that is written reads back as the same schema and the same values, unless a
record has grown too long, and written once more it stays as it is. The cells of the first stream
are spelled in some way, and if that is the way of writers, writing gives that stream itself. -/
theorem writeAll_of_read {b : Bytes} {s : Schema} {rows : List Row}
    (h : read b 0 = .ok ⟨s, rows.map .ok⟩) :
    (∀ row ∈ rows, s.check row = .ok ()) ∧
    ∃ w, (Writer.start s).writeAll rows = .ok w ∧
      ((∀ row ∈ rows, (bodyOf row).length < 2 ^ 32) →
        ∃ back : List Row, read w.bytes 0 = .ok ⟨s, back.map .ok⟩ ∧
          List.Forall₂ (List.Forall₂ Cell.Same) rows back ∧
          ∃ again, (Writer.start s).writeAll back = .ok again ∧ again.bytes = w.bytes) ∧
      (∃ spelt, Spelt s rows spelt b) ∧
      ∀ spelt, Spelt s rows spelt b →
        (∀ cells ∈ spelt, ∀ spelled ∈ cells, spelled.Settled) → w.bytes = b := by
  obtain ⟨hfits, hadmits, hspelt⟩ := spelt_of_read h
  obtain ⟨w, hw, hbytes⟩ := Writer.exists_writeAll hadmits
  refine ⟨fun row hrow => Schema.check_eq_ok_iff.2 (hadmits row hrow), w, hw, ?_, hspelt, ?_⟩
  · intro hshort
    have hback : ∀ row ∈ rows.map (List.map Cell.settled),
        List.Forall₂ Field.Admits s.fields row :=
      List.forall_mem_map.2 fun row hrow => admits_settled (hadmits row hrow)
    obtain ⟨again, hagain, hsame⟩ := Writer.exists_writeAll hback
    refine ⟨rows.map (List.map Cell.settled), ?_, same_settled_rows rows, again, hagain, ?_⟩
    · rw [hbytes, read_putHeader hfits, items_records hadmits hshort, List.map_map]
      rfl
    · rw [hsame, hbytes, List.flatMap_map]
      simp only [recordOf_settled]
  · intro spelt hspelt hsettled
    rw [hbytes]
    exact bytes_of_settled_spelt hspelt hsettled

/-- An exponent and a byte that is neither zero nor one are read, and written as writers have it. -/
theorem writeAll_of_read_foreign :
    let s : Schema :=
      ⟨[{ name := "paid", kind := .boolean }, { name := "amount", kind := .decimal }], by decide⟩
    let body : Bytes := [6, 2, 4, 0, 0, 0, 3, 0x31, 0x65, 0x32]
    let b : Bytes := putHeader s ++ putBytes body
    let rows : List Row := [[.boolean true, .decimal ⟨1, -2⟩]]
    read b 0 = .ok ⟨s, rows.map .ok⟩ ∧
      ∃ w, (Writer.start s).writeAll rows = .ok w ∧
        ∃ back : List Row, read w.bytes 0 = .ok ⟨s, back.map .ok⟩ ∧
          List.Forall₂ (List.Forall₂ Cell.Same) rows back ∧
          ∃ again, (Writer.start s).writeAll back = .ok again ∧ again.bytes = w.bytes := by
  intro s body b rows
  have hs : Fits s := ⟨by decide, by decide, by decide⟩
  have hframe : frame (putBytes body) = .record body [] :=
    frame_eq_record_iff.2 ⟨by decide, (List.append_nil _).symm⟩
  have hread : read b 0 = .ok ⟨s, rows.map .ok⟩ := by
    rw [read_putHeader hs, items_record (by simp) hframe, items_finished rfl]
    rfl
  obtain ⟨-, w, hw, hback, -⟩ := writeAll_of_read hread
  exact ⟨hread, w, hw, hback (by decide +kernel)⟩

end Cube
end BulkLoad
