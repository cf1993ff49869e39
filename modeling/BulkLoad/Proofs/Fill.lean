import BulkLoad.Encoder
import BulkLoad.Proofs.Traversal

/-!
What encoders do to the buffer they append to. A record that can be made stands behind what was
there; a record that cannot leaves some part of itself behind it.
-/

namespace BulkLoad

/-- An attempt to append something to a buffer, by what was to be appended. -/
inductive Appended (buffer : Bytes) : Except EncodeError Bytes → Filled → Prop
  | whole (bytes : Bytes) : Appended buffer (.ok bytes) (.ok (), buffer ++ bytes)
  | part (e : EncodeError) (bytes : Bytes) : Appended buffer (.error e) (.error e, buffer ++ bytes)

namespace Appended

variable {buffer : Bytes} {made : Except EncodeError Bytes} {filled : Filled}

theorem of_ok {bytes : Bytes} (h : Appended buffer (.ok bytes) filled) :
    filled = (.ok (), buffer ++ bytes) := by
  cases h
  rfl

theorem of_error {e : EncodeError} (h : Appended buffer (.error e) filled) :
    ∃ bytes, filled = (.error e, buffer ++ bytes) := by
  cases h with
  | part _ bytes => exact ⟨bytes, rfl⟩

/-- On an empty buffer the attempt leaves what was to be appended, and nothing else. -/
theorem record_eq (h : Appended [] made filled) : (filled.1.map fun () => filled.2) = made := by
  cases h <;> rfl

end Appended

theorem intercalate_cons {α : Type} (separator a : List α) (rest : List (List α)) :
    separator.intercalate (a :: rest) =
      a ++ (if rest.isEmpty then [] else separator) ++ separator.intercalate rest := by
  cases rest with
  | nil => simp [List.intercalate]
  | cons b rest => simp [List.intercalate, List.intersperse]

@[simp] theorem intercalate_nil {α : Type} (parts : List (List α)) :
    ([] : List α).intercalate parts = parts.flatten := by
  induction parts with
  | nil => rfl
  | cons a rest ih =>
    rw [intercalate_cons, ih]
    simp

/-- Piece by piece the buffer gets all the pieces, with separators between them. -/
theorem fillEach_appended {α : Type} (give : α → Except EncodeError Bytes) (separator : Bytes)
    (as : List α) (buffer : Bytes) :
    Appended buffer ((as.mapM give).map separator.intercalate)
      (fillEach separator give as buffer) := by
  induction as generalizing buffer with
  | nil =>
    have h : Appended buffer _ _ := .whole []
    rwa [List.append_nil] at h
  | cons a rest ih =>
    cases ha : give a with
    | error e =>
      rw [mapM_cons_error ha, fillEach, ha]
      have h : Appended buffer _ _ := .part e []
      rwa [List.append_nil] at h
    | ok bytes =>
      rw [mapM_cons_ok ha, fillEach, ha]
      have h := ih (buffer ++ bytes ++ if rest.isEmpty then [] else separator)
      show Appended _ _ (fillEach _ _ rest _)
      cases hr : rest.mapM give with
      | error e =>
        rw [hr] at h
        obtain ⟨part, hp⟩ := h.of_error
        rw [hp, List.append_assoc, List.append_assoc]
        exact .part e _
      | ok more =>
        rw [hr] at h
        have hempty : rest.isEmpty = more.isEmpty := by
          have := length_of_mapM_ok hr
          cases rest <;> cases more <;> simp_all
        rw [h.of_ok, hempty, List.append_assoc, List.append_assoc, ← List.append_assoc bytes,
          ← intercalate_cons]
        exact .whole _

namespace Cube

theorem patch_length (buffer body : Bytes) (n m : Nat) :
    patch (buffer ++ Bytes.bigEndian 4 n ++ body) buffer.length m =
      buffer ++ (Bytes.bigEndian 4 m ++ body) := by
  have hdrop : (buffer ++ Bytes.bigEndian 4 n ++ body).drop (buffer.length + 4) = body :=
    List.drop_left' (by simp)
  have htake : (buffer ++ Bytes.bigEndian 4 n ++ body).take buffer.length = buffer := by
    rw [List.append_assoc, List.take_left]
  rw [patch, hdrop, htake, List.append_assoc]

/-- A record is its body with the body's length before it: the length that is filled in at the end
is the true one. -/
theorem fillRecord_appended (columns : List Column) (row : Row) (buffer : Bytes) :
    Appended buffer ((putBody columns row).map putBytes) (fillRecord columns row buffer) := by
  have h := fillEach_appended (fun c => (c.cell row).map putCell) [] columns
    (buffer ++ Bytes.bigEndian 4 0)
  unfold fillRecord
  cases hm : columns.mapM fun c => (c.cell row).map putCell with
  | error e =>
    rw [hm] at h
    obtain ⟨part, hp⟩ := h.of_error
    rw [hp, putBody, hm, List.append_assoc]
    exact .part e _
  | ok cells =>
    rw [hm] at h
    simp only [h.of_ok, putBody, hm, intercalate_nil]
    rw [patch_length]
    -- The length that is put in place is that of the body, whatever stood in the buffer.
    have hlength : (buffer ++ Bytes.bigEndian 4 0 ++ cells.flatten).length - buffer.length - 4 =
        cells.flatten.length := by
      simp only [List.length_append, Bytes.bigEndian_length]
      omega
    rw [hlength]
    exact .whole (putBytes cells.flatten)

theorem putRecord_eq (columns : List Column) (row : Row) :
    putRecord columns row = (putBody columns row).map putBytes :=
  (fillRecord_appended columns row []).record_eq

end Cube

namespace Delimited

/-- A record of text is its fields with delimiters between them, and a line end. -/
theorem Format.fill_appended (f : Format) (columns : List TextColumn) (row : Row)
    (buffer : Bytes) :
    Appended buffer ((columns.mapM (f.fieldOf row)).map fun fields =>
      (Bytes.ofText f.delimiter).intercalate fields ++ Bytes.ofText f.terminator)
      (f.fill columns row buffer) := by
  have h := fillEach_appended (f.fieldOf row) (Bytes.ofText f.delimiter) columns buffer
  unfold Format.fill
  cases hm : columns.mapM (f.fieldOf row) with
  | error e =>
    rw [hm] at h
    obtain ⟨part, hp⟩ := h.of_error
    rw [hp]
    exact .part e part
  | ok fields =>
    rw [hm] at h
    rw [h.of_ok]
    simp only [List.append_assoc]
    exact .whole _

end Delimited

namespace Encoder

/-- What an encoder appends does not depend on the buffer. -/
theorem fill_appended (e : Encoder) (row : Row) (buffer : Bytes) :
    Appended buffer (e.record row) (e.fill row buffer) := by
  cases e with
  | text format columns =>
    have h : (text format columns).record row = _ :=
      (format.fill_appended columns row []).record_eq
    rw [h]
    exact format.fill_appended columns row buffer
  | cube target columns =>
    have h : (cube target columns).record row = _ :=
      (Cube.fillRecord_appended columns row []).record_eq
    rw [h]
    exact Cube.fillRecord_appended columns row buffer

end Encoder
end BulkLoad
