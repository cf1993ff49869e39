import BulkLoad.Proofs.Delimited.Printing
import BulkLoad.Proofs.Delimited.Reader
import BulkLoad.Proofs.Schema.Check

/-!
Records of delimited text are read back. What an encoder makes of rows is a text in which the reader
finds one record for each row and one field for each column, the texts of the rows as they were and
every other field as it was written.
-/

namespace BulkLoad

namespace Bytes

theorem ofText_ofList_append (cs ds : List Char) :
    ofText (String.ofList (cs ++ ds)) = ofText (String.ofList cs) ++ ofText (String.ofList ds) := by
  rw [String.ofList_append, ofText_append]

theorem ofText_flatMap {α : Type} (g : α → List Char) (as : List α) :
    ofText (String.ofList (as.flatMap g)) =
      (as.map fun a => ofText (String.ofList (g a))).flatten := by
  induction as with
  | nil => rfl
  | cons a rest ih =>
    rw [List.flatMap_cons, ofText_ofList_append, ih, List.map_cons, List.flatten_cons]

theorem ofText_intercalate (separator : List Char) (parts : List (List Char)) :
    ofText (String.ofList (separator.intercalate parts)) =
      (ofText (String.ofList separator)).intercalate
        (parts.map fun part => ofText (String.ofList part)) := by
  induction parts with
  | nil => rfl
  | cons part rest ih =>
    rw [intercalate_cons, List.map_cons, intercalate_cons, ofText_ofList_append,
      ofText_ofList_append, ih, List.isEmpty_map]
    split <;> rfl

end Bytes

/-- Two lists are related through a third one if their items are related through items. -/
theorem exists_forall₂_between {α β γ : Type} {R : α → β → Prop} {S : β → γ → Prop} {as : List α}
    {cs : List γ} (h : List.Forall₂ (fun a c => ∃ b, R a b ∧ S b c) as cs) :
    ∃ bs, List.Forall₂ R as bs ∧ List.Forall₂ S bs cs := by
  induction h with
  | nil => exact ⟨[], .nil, .nil⟩
  | cons hac _ ih =>
    obtain ⟨b, hab, hbc⟩ := hac
    obtain ⟨bs, has, hcs⟩ := ih
    exact ⟨b :: bs, .cons hab has, .cons hbc hcs⟩

namespace Delimited

/-- The column holds no binary data, and texts only with escapes. -/
structure TextColumn.Readable (c : TextColumn) : Prop where
  notBinary : c.column.field.kind ≠ .binary
  escapes : c.column.field.kind = .text → c.hint = .escaped

/-- The null marker is nothing, or the letter N behind an escape. -/
def Marks.NullMarker (m : Marks) (marker : String) : Prop :=
  marker = "" ∨ marker = String.ofList [m.escape, 'N']

/-- None of the characters is one that values print. -/
def Marks.Unprinted (m : Marks) : Prop :=
  ∀ c ∈ m.delimiter :: m.terminator :: m.escape :: m.enclosure.toList, isPrinted c = false

instance (m : Marks) : Decidable m.Unprinted :=
  decidable_of_iff
    ((m.delimiter :: m.terminator :: m.escape :: m.enclosure.toList).all (isPrinted · == false) =
      true)
    (by simp [Marks.Unprinted])

/-- What a cell is read as: a text is there again when the escapes are taken away, any other cell
has the very field that was written for it. -/
def Format.Shows (f : Format) (m : Marks) (c : TextColumn) (span : Span) : Cell → Prop
  | .text s => span.enclosed = m.enclosure.isSome ∧
      String.ofList (unescaped m.escape span.raw) = s
  | cell => span.enclosed = false ∧
      Bytes.ofText (String.ofList span.raw) = f.field c.hint c.column.field.precision cell

/-- The reader has a field for what the row has in the column. -/
def Format.Reads (f : Format) (m : Marks) (row : Row) (c : TextColumn) (span : Span) : Prop :=
  ∃ cell, c.column.cell row = .ok cell ∧ f.Shows m c span cell

variable {f : Format} {m : Marks} {c : TextColumn} {cell : Cell} {row : Row}

theorem Format.fieldOf_eq_ok {bytes : Bytes} (h : f.fieldOf row c = .ok bytes) :
    ∃ cell, c.column.cell row = .ok cell ∧
      f.field c.hint c.column.field.precision cell = bytes := by
  unfold Format.fieldOf at h
  cases hcell : c.column.cell row with
  | error e =>
    rw [hcell] at h
    cases h
  | ok cell =>
    rw [hcell] at h
    cases h
    exact ⟨cell, rfl, rfl⟩

namespace Format.Uses

/-- A text with escapes is a run, and one that is read back. -/
theorem text_spelled (h : f.Uses m) (s : String) : ∃ span cs,
    f.enclosed (f.escaped s) = String.ofList cs ∧ m.Spells span cs ∧
      span.enclosed = m.enclosure.isSome ∧ String.ofList (unescaped m.escape span.raw) = s := by
  have hback : String.ofList (unescaped m.escape (f.escaped s).toList) = s := by
    rw [h.toList_escaped, unescaped_escaped m.special_escape, String.ofList_toList]
  cases hq : m.enclosure with
  | none =>
    refine ⟨⟨false, (f.escaped s).toList⟩, _, ?_, .bare ?_ (by simp [hq]), rfl, hback⟩
    · simp [Format.enclosed, h.enclosure, hq]
    · rw [h.toList_escaped]
      refine .escaped m.special_escape ?_ _
      simp [Marks.special, hq]
  | some q =>
    refine ⟨⟨true, (f.escaped s).toList⟩, _, ?_, .enclosed hq ?_, rfl, hback⟩
    · rw [← String.toList_inj]
      simp [Format.enclosed, h.enclosure, hq]
    · rw [h.toList_escaped]
      refine .escaped m.special_escape ?_ _
      simp [Marks.special, hq]

theorem printed_spelled (hm : m.Unprinted) {s : String} (hs : Printed s) :
    m.Spells ⟨false, s.toList⟩ s.toList := by
  have hne : ∀ c ∈ s.toList, c ∉ m.delimiter :: m.terminator :: m.escape :: m.enclosure.toList := by
    intro c hc hmark
    have hprinted := hs c hc
    rw [hm c hmark] at hprinted
    cases hprinted
  refine .bare (.of_plain fun c hc => ?_) fun q hq hhead => ?_
  · have := hne c hc
    simp only [List.mem_cons, not_or] at this ⊢
    exact ⟨this.2.2.1, this.1, this.2.1, List.not_mem_nil⟩
  · refine hne q (List.mem_of_head? hhead) ?_
    simp [Option.mem_def.1 hq]

theorem null_spelled {marker : String} (hm : m.NullMarker marker) :
    m.Spells ⟨false, marker.toList⟩ marker.toList := by
  rcases hm with rfl | rfl
  · exact .bare .nil (by simp)
  · rw [String.toList_ofList]
    refine .bare (.literal .nil) fun q hq hhead => ?_
    exact Marks.enclosure_ne_escape hq (Option.some.inj hhead).symm

/-- Every field of a readable column is one that the reader takes for what it is. -/
theorem field_spelled (h : f.Uses m) (hm : m.Unprinted) (hnull : m.NullMarker f.nullMarker)
    (hc : c.Readable) (hcell : c.column.cell row = .ok cell) : ∃ span cs,
    f.field c.hint c.column.field.precision cell = Bytes.ofText (String.ofList cs) ∧
      m.Spells span cs ∧ f.Shows m c span cell := by
  have hplain : ∀ s, f.field c.hint c.column.field.precision cell = Bytes.ofText s →
      m.Spells ⟨false, s.toList⟩ s.toList → (∀ t, cell ≠ .text t) → ∃ span cs,
      f.field c.hint c.column.field.precision cell = Bytes.ofText (String.ofList cs) ∧
        m.Spells span cs ∧ f.Shows m c span cell := by
    intro s hs hspells htext
    refine ⟨_, _, ?_, hspells, ?_⟩
    · rw [hs, String.ofList_toList]
    · unfold Format.Shows
      split
      · exact absurd rfl (htext _)
      · exact ⟨rfl, by rw [hs, String.ofList_toList]⟩
  rcases Column.kind_of_cell hcell with hk | hk
  · cases cell with
    | null => exact hplain f.nullMarker rfl (null_spelled hnull) nofun
    | _ => cases hk
  · by_cases htext : c.column.field.kind = .text
    · rw [htext] at hk
      cases cell with
      | text s =>
        obtain ⟨span, cs, hcs, hspells, hshows⟩ := h.text_spelled s
        refine ⟨span, cs, ?_, hspells, hshows⟩
        rw [hc.escapes htext, Format.field, hcs]
      | _ => cases hk
    · obtain ⟨s, hs, hprinted⟩ :=
        f.field_printed c.hint c.column.field.precision hk htext hc.notBinary
      refine hplain s hs (printed_spelled hm hprinted) ?_
      rintro t rfl
      exact htext (Option.some.inj hk).symm

/-- A record is fields that the reader takes, with delimiters between them, and a terminator. -/
theorem record_spelled (h : f.Uses m) (hm : m.Unprinted) (hnull : m.NullMarker f.nullMarker)
    {columns : List TextColumn} (hcolumns : ∀ c ∈ columns, c.Readable) {record : Bytes}
    (hrecord : (Encoder.text f columns).record row = .ok record) :
    ∃ spelled : List (Span × List Char),
      List.Forall₂ (fun c x => f.Reads m row c x.1) columns spelled ∧
      (∀ x ∈ spelled, m.Spells x.1 x.2) ∧
      Bytes.ofText (String.ofList
        ([m.delimiter].intercalate (spelled.map (·.2)) ++ [m.terminator])) = record := by
  have hform : (Encoder.text f columns).record row = _ :=
    (f.fill_appended columns row []).record_eq
  rw [hrecord] at hform
  cases hfields : columns.mapM (f.fieldOf row) with
  | error e =>
    rw [hfields] at hform
    cases hform
  | ok fields =>
    rw [hfields] at hform
    cases hform
    -- Each field is spelled by itself.
    have hspelled : List.Forall₂ (fun c bytes => ∃ x : Span × List Char, f.Reads m row c x.1 ∧
        m.Spells x.1 x.2 ∧ Bytes.ofText (String.ofList x.2) = bytes) columns fields := by
      refine ((List.forall₂_and_left _ _).2 ⟨hcolumns, mapM_eq_ok_iff.1 hfields⟩).imp ?_
      rintro c bytes ⟨hc, hbytes⟩
      obtain ⟨cell, hcell, rfl⟩ := fieldOf_eq_ok hbytes
      obtain ⟨span, cs, hcs, hspells, hshows⟩ := h.field_spelled hm hnull hc hcell
      exact ⟨⟨span, cs⟩, ⟨cell, hcell, hshows⟩, hspells, hcs.symm⟩
    obtain ⟨spelled, hreads, hbytes⟩ := exists_forall₂_between hspelled
    obtain ⟨hspells, hbytes⟩ := (List.forall₂_and_left _ _).1 hbytes
    rw [← List.forall₂_map_left_iff, List.forall₂_eq_eq_eq] at hbytes
    refine ⟨spelled, hreads, hspells, ?_⟩
    rw [Bytes.ofText_ofList_append, Bytes.ofText_intercalate, List.map_map, h.delimiter,
      h.terminator, ← hbytes]
    rfl

/-- The records of rows are read back: there is one for each row, with one field for each column. A
text is recovered from its field, whatever characters it has, and any other field is the one that
was written. -/
theorem records_read {p : Projection} {rows : List Row} {records : List Bytes} (h : f.Uses m)
    (hm : m.Unprinted) (hnull : m.NullMarker f.nullMarker) (hsome : textColumns p ≠ [])
    (hcolumns : ∀ c ∈ textColumns p, c.Readable)
    (hrecords : rows.mapM (Encoder.ofFormat f p).record = .ok records) :
    ∃ text read, Bytes.toText? records.flatten = some text ∧ m.read text = some read ∧
      List.Forall₂ (fun row spans => List.Forall₂ (f.Reads m row) (textColumns p) spans)
        rows read := by
  -- Each record is spelled by itself, and has a field.
  have hspelled : List.Forall₂ (fun row record => ∃ xs : List (Span × List Char),
      List.Forall₂ (fun c x => f.Reads m row c x.1) (textColumns p) xs ∧
      (xs ≠ [] ∧ ∀ x ∈ xs, m.Spells x.1 x.2) ∧
      Bytes.ofText (String.ofList
        ([m.delimiter].intercalate (xs.map (·.2)) ++ [m.terminator])) = record) rows records := by
    refine (mapM_eq_ok_iff.1 hrecords).imp fun row record hrecord => ?_
    obtain ⟨xs, hreads, hspells, hbytes⟩ := h.record_spelled hm hnull hcolumns hrecord
    refine ⟨xs, hreads, ⟨?_, hspells⟩, hbytes⟩
    rintro rfl
    exact hsome (List.forall₂_nil_right_iff.1 hreads)
  obtain ⟨spelled, hreads, hbytes⟩ := exists_forall₂_between hspelled
  obtain ⟨hspells, hbytes⟩ := (List.forall₂_and_left _ _).1 hbytes
  rw [← List.forall₂_map_left_iff, List.forall₂_eq_eq_eq] at hbytes
  have hparts : List.Forall₂ (List.Forall₂ m.Spells) (spelled.map (·.map (·.1)))
      (spelled.map (·.map (·.2))) := by
    rw [List.forall₂_map_left_iff, List.forall₂_map_right_iff, List.forall₂_same]
    intro xs hxs
    rw [List.forall₂_map_left_iff, List.forall₂_map_right_iff, List.forall₂_same]
    exact (hspells xs hxs).2
  have hne : ∀ parts ∈ spelled.map (·.map (·.2)), parts ≠ [] := by
    simp only [List.mem_map, forall_exists_index, and_imp, forall_apply_eq_imp_iff₂, ne_eq,
      List.map_eq_nil_iff]
    exact fun xs hxs => (hspells xs hxs).1
  refine ⟨_, _, ?_, Marks.read_records hparts hne, ?_⟩
  · rw [← hbytes, List.flatMap_map, ← Bytes.ofText_flatMap, Bytes.toText?_ofText]
  · rw [List.forall₂_map_right_iff]
    refine hreads.imp fun row xs hxs => ?_
    rw [List.forall₂_map_right_iff]
    exact hxs

end Format.Uses

/-- A text and an integer. -/
def labelled : Projection where
  sources := [0, 1]
  hints := [.escaped, .plain]
  target := ⟨[{ name := "label", kind := .text }, { name := "amount", kind := .integer }],
    by decide⟩

/-- The text has every mark in it, and ends in an escape. -/
def labelledRows : List Row := [[.text "a\t\"b\"\\\nß\\", .integer (-7)], [.null, .integer 0]]

/-- Tabs and quotes, and a null that is marked. -/
def markedFormat : Format := { nullMarker := "\\N" }

def markedMarks : Marks := ⟨'\t', '\n', '\\', some '"', by decide⟩

theorem records_read_labelled : ∃ records text read,
    labelledRows.mapM (Encoder.ofFormat markedFormat labelled).record = .ok records ∧
    Bytes.toText? records.flatten = some text ∧ markedMarks.read text = some read ∧
    List.Forall₂ (fun row spans =>
      List.Forall₂ (markedFormat.Reads markedMarks row) (textColumns labelled) spans)
      labelledRows read := by
  have huses : markedFormat.Uses markedMarks := ⟨by decide, by decide, by decide, by decide⟩
  have hunprinted : markedMarks.Unprinted := by decide
  have hreadable : ∀ c ∈ textColumns labelled, c.Readable := by
    intro c hc
    rcases List.mem_cons.1 hc with rfl | hc
    · exact ⟨by decide, fun _ => rfl⟩
    · rcases List.mem_cons.1 hc with rfl | hc
      · exact ⟨by decide, nofun⟩
      · cases hc
  have hsome : textColumns labelled ≠ [] := List.cons_ne_nil _ _
  have hrecords : ∃ records,
      labelledRows.mapM (Encoder.ofFormat markedFormat labelled).record = .ok records := ⟨_, rfl⟩
  obtain ⟨records, hrecords⟩ := hrecords
  obtain ⟨text, read, htext, hread, hreads⟩ :=
    huses.records_read hunprinted (.inr (by decide)) hsome hreadable hrecords
  exact ⟨records, text, read, hrecords, htext, hread, hreads⟩

end Delimited
end BulkLoad
