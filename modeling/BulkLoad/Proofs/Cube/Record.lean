import BulkLoad.Proofs.Decimal.Plain
import BulkLoad.Proofs.Fill
import BulkLoad.Proofs.Schema.Check

/-!
Records of a cube stream read back cell by cell. What comes back is the row that was written, with
one change: a decimal with a negative scale comes back multiplied out.
-/

namespace BulkLoad

theorem length_le_size_utf8Encode (cs : List Char) : cs.length ≤ cs.utf8Encode.size := by
  induction cs with
  | nil => simp
  | cons c cs ih =>
    rw [List.utf8Encode_cons, ByteArray.size_append, List.utf8Encode_singleton]
    simp only [List.length_cons, List.size_toByteArray, String.length_utf8EncodeChar]
    have := c.utf8Size_pos
    omega

/-- A text has at least a byte for each character. -/
theorem length_le_utf8ByteSize (s : String) : s.length ≤ s.utf8ByteSize := by
  have h := length_le_size_utf8Encode s.toList
  rwa [String.utf8Encode_toList, String.length_toList] at h

/-- The cell as a cube stream gives it back. -/
def Cell.settled : Cell → Cell
  | .decimal d => .decimal d.settled
  | c => c

theorem Instant.second_range (t : Instant) : -2 ^ 63 ≤ t.second ∧ t.second < 2 ^ 63 := by
  obtain ⟨hlow, hhigh, -, -⟩ := t.valid
  unfold firstSecond at hlow
  unfold lastSecond at hhigh
  omega

theorem Instant.ofTimestamp?_self (t : Instant) : ofTimestamp? t.second t.nano = some t :=
  dif_pos t.valid

namespace Cube

theorem length_putText (s : String) : (putText s).length = 4 + s.utf8ByteSize := by
  simp [putText, putBytes, Bytes.ofText]

theorem takePayload_text {s : String} (h : (putPayload (.text s)).length < 2 ^ 32) (f : Field)
    (rest : Bytes) :
    takePayload f Kind.text.tag .text (putPayload (.text s) ++ rest) = .ok (.text s, rest) := by
  rw [putPayload, length_putText] at h
  rw [takePayload, putPayload, takeText_putText (by omega)]
  rfl

theorem takePayload_integer (n : Int64) (f : Field) (rest : Bytes) :
    takePayload f Kind.integer.tag .integer (putPayload (.integer n) ++ rest) =
      .ok (.integer n, rest) := by
  rw [takePayload, putPayload, takeNat_bigEndian n.toUInt64.toNat_lt]
  simp [bind, Except.bind, pure, Except.pure]

theorem takePayload_number (x : Double) (f : Field) (rest : Bytes) :
    takePayload f Kind.number.tag .number (putPayload (.number x) ++ rest) =
      .ok (.number x, rest) := by
  rw [takePayload, putPayload, takeNat_bigEndian x.bits.toNat_lt]
  simp [bind, Except.bind, pure, Except.pure]

/-- The text of a decimal is read as the number it stands for. Its scale fits the reader because
the text has a character for each place. -/
theorem takePayload_decimal {d : Decimal} (h : (putPayload (.decimal d)).length < 2 ^ 32)
    (f : Field) (rest : Bytes) :
    takePayload f Kind.decimal.tag .decimal (putPayload (.decimal d) ++ rest) =
      .ok (.decimal d.settled, rest) := by
  rw [putPayload, length_putText] at h
  have hscale : d.scale < 2 ^ 63 := by
    have hplaces := d.scale_le_plain_length
    have hchars := length_le_utf8ByteSize d.plain
    omega
  rw [takePayload, putPayload, takeText_putText (by omega)]
  simp [Decimal.ofText?_plain hscale, bind, Except.bind, pure, Except.pure]

theorem takePayload_date (t : Instant) (f : Field) (rest : Bytes) :
    takePayload f Kind.date.tag .date (putPayload (.date t) ++ rest) = .ok (.date t, rest) := by
  obtain ⟨hlow, hhigh⟩ := t.second_range
  have hnano : t.nano < 256 ^ 4 := by
    have := t.valid.2.2.1
    omega
  have hsecond : (Int64.ofInt t.second).toInt = t.second := Int64.toInt_ofInt_of_le hlow hhigh
  rw [takePayload, putPayload, List.append_assoc,
    takeNat_bigEndian (Int64.ofInt t.second).toUInt64.toNat_lt]
  simp [takeNat_bigEndian hnano, hsecond, t.ofTimestamp?_self, bind, Except.bind, pure,
    Except.pure]

theorem takePayload_boolean (b : Bool) (f : Field) (rest : Bytes) :
    takePayload f Kind.boolean.tag .boolean (putPayload (.boolean b) ++ rest) =
      .ok (.boolean b, rest) := by
  cases b <;> rfl

theorem takePayload_binary {b : Bytes} (h : (putPayload (.binary b)).length < 2 ^ 32) (f : Field)
    (rest : Bytes) :
    takePayload f Kind.binary.tag .binary (putPayload (.binary b) ++ rest) =
      .ok (.binary b, rest) := by
  have hb : b.length < 2 ^ 32 := by
    simp only [putPayload, putBytes, List.length_append] at h
    omega
  rw [takePayload, putPayload, takeBytes_putBytes hb]
  rfl

/-- A cell reads back behind its tag, whatever follows it. -/
theorem takePayload_putPayload {c : Cell} {k : Kind} (hk : c.kind? = some k)
    (h : (putPayload c).length < 2 ^ 32) (f : Field) (rest : Bytes) :
    takePayload f k.tag k (putPayload c ++ rest) = .ok (c.settled, rest) := by
  cases c with
  | null => cases hk
  | text s =>
    cases hk
    exact takePayload_text h f rest
  | integer n =>
    cases hk
    exact takePayload_integer n f rest
  | number x =>
    cases hk
    exact takePayload_number x f rest
  | decimal d =>
    cases hk
    exact takePayload_decimal h f rest
  | date t =>
    cases hk
    exact takePayload_date t f rest
  | boolean b =>
    cases hk
    exact takePayload_boolean b f rest
  | binary b =>
    cases hk
    exact takePayload_binary h f rest

/-- A cell with its tag reads back in a field that admits it. -/
theorem takeCell_putCell {f : Field} {c : Cell} (ha : f.Admits c)
    (h : (putCell c).length < 2 ^ 32) (rest : Bytes) :
    takeCell f (putCell c ++ rest) = .ok (c.settled, rest) := by
  unfold putCell at h ⊢
  cases hk : c.kind? with
  | none =>
    have hc : c = .null := by cases c <;> simp_all [Cell.kind?]
    rw [hc]
    rfl
  | some k =>
    rw [hk] at h
    have hf : k = f.kind := ha k hk
    have hp := takePayload_putPayload hk (by simp at h; omega) f rest
    have htag : k.tag ≠ nullTag := k.tag_ne_zero
    simp only [takeCell, takeByte, List.cons_append, bind, Except.bind, if_neg htag,
      Kind.ofTag?_tag, if_pos hf]
    exact hp

/-- The body of a record. -/
def bodyOf (row : Row) : Bytes := row.flatMap putCell

/-- The cells of a row read back in order. -/
theorem takeCells_bodyOf {fields : List Field} {row : Row}
    (ha : List.Forall₂ Field.Admits fields row) (h : (bodyOf row).length < 2 ^ 32) (rest : Bytes) :
    takeCells fields (bodyOf row ++ rest) = .ok (row.map Cell.settled, rest) := by
  induction ha with
  | nil => rfl
  | @cons f c fields row hfc _ ih =>
    simp only [bodyOf, List.flatMap_cons, List.length_append] at h ih ⊢
    rw [takeCells, List.append_assoc, takeCell_putCell hfc (by omega)]
    have hrest := ih (by omega)
    simp only [bind, Except.bind, hrest, pure, Except.pure, List.map_cons]

/-- A schema's own columns make the body out of all the cells. -/
theorem putBody_columns {s : Schema} {row : Row} (h : List.Forall₂ Field.Admits s.fields row) :
    putBody s.columns row = .ok (bodyOf row) := by
  have hcells : s.columns.mapM (fun c => (c.cell row).map putCell) = .ok (row.map putCell) := by
    rw [mapM_eq_ok_iff, List.forall₂_map_right_iff]
    exact (Schema.columns_cells h).imp fun c cell hc => by rw [hc]; rfl
  rw [putBody, hcells]
  rfl

theorem rowOfBody_bodyOf {s : Schema} {row : Row} (ha : List.Forall₂ Field.Admits s.fields row)
    (h : (bodyOf row).length < 2 ^ 32) : rowOfBody s (bodyOf row) = .ok (row.map Cell.settled) := by
  have hcells := takeCells_bodyOf ha h []
  rw [List.append_nil] at hcells
  rw [rowOfBody, hcells]
  rfl

/-- A record at the front of a stream is found by its length. -/
theorem frame_putBytes {body : Bytes} (h : body.length < 2 ^ 32) (rest : Bytes) :
    frame (putBytes body ++ rest) = .record body rest := by
  have hne : (putBytes body ++ rest).isEmpty = false := by
    simp [putBytes, Bytes.bigEndian]
  rw [frame, hne, if_neg (by simp), takeBytes_putBytes h]

end Cube
end BulkLoad
