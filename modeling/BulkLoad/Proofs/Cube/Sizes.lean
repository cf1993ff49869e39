import BulkLoad.Proofs.Cube.Canonical
import BulkLoad.Proofs.Cube.RoundTrip

/-!
The counts and lengths in a cube stream. Each stands in a word of four bytes, and a writer does not
ask whether it fits there: a larger one loses its high bytes. Such a word makes a reader look for
the rest of the stream in the wrong place, so what can be read back are the headers and records
whose words all state their true numbers.
-/

namespace BulkLoad.Cube

/-- A piece of a stream: bytes as they are, or the word for a count or a length. -/
inductive Piece where
  | raw (bytes : Bytes)
  | size (n : Nat)

namespace Piece

def bytes : Piece → Bytes
  | raw b => b
  | size n => Bytes.bigEndian 4 n

/-- The word states the number that it is for. -/
def IsTrue : Piece → Prop
  | raw _ => True
  | size n => Bytes.toNat (size n).bytes = n

@[simp] theorem isTrue_raw (b : Bytes) : (raw b).IsTrue := trivial

@[simp] theorem isTrue_size_iff {n : Nat} : (size n).IsTrue ↔ n < 2 ^ 32 := by
  rw [IsTrue, bytes, Bytes.toNat_bigEndian, Nat.mod_eq_iff_lt (by decide)]
  omega

/-- Bytes with their length before them. -/
def sized (b : Bytes) : List Piece := [size b.length, raw b]

/-- The bytes of pieces one after the other. -/
def written (pieces : List Piece) : Bytes := pieces.flatMap bytes

/-- All words among the pieces state their numbers. -/
def AllTrue (pieces : List Piece) : Prop := ∀ p ∈ pieces, p.IsTrue

@[simp] theorem written_append (ps qs : List Piece) :
    written (ps ++ qs) = written ps ++ written qs :=
  List.flatMap_append

@[simp] theorem written_cons (p : Piece) (ps : List Piece) :
    written (p :: ps) = p.bytes ++ written ps :=
  List.flatMap_cons

@[simp] theorem written_nil : written [] = [] := rfl

@[simp] theorem written_sized (b : Bytes) : written (sized b) = putBytes b := by
  simp [sized, putBytes, bytes]

@[simp] theorem allTrue_append {ps qs : List Piece} :
    AllTrue (ps ++ qs) ↔ AllTrue ps ∧ AllTrue qs :=
  List.forall_mem_append

@[simp] theorem allTrue_cons {p : Piece} {ps : List Piece} :
    AllTrue (p :: ps) ↔ p.IsTrue ∧ AllTrue ps :=
  List.forall_mem_cons

@[simp] theorem allTrue_nil : AllTrue [] := nofun

theorem allTrue_flatMap_iff {α : Type} {f : α → List Piece} {as : List α} :
    AllTrue (as.flatMap f) ↔ ∀ a ∈ as, AllTrue (f a) := by
  simp only [AllTrue, List.mem_flatMap]
  grind

theorem written_flatMap {α : Type} (f : α → List Piece) (as : List α) :
    written (as.flatMap f) = as.flatMap fun a => written (f a) :=
  List.flatMap_assoc

theorem allTrue_sized_iff {b : Bytes} : AllTrue (sized b) ↔ b.length < 2 ^ 32 := by
  simp [sized]

end Piece

open Piece (sized written AllTrue)

def fieldPieces (f : Field) : List Piece :=
  sized (Bytes.ofText f.name) ++
    .raw (f.kind.tag :: (putOption f.length ++ putOption f.precision)) ::
      sized (Bytes.ofText f.origin)

def headerPieces (s : Schema) : List Piece :=
  .raw (magic ++ Bytes.bigEndian 2 version) :: .size s.size :: s.fields.flatMap fieldPieces

def payloadPieces : Cell → List Piece
  | .text s => sized (Bytes.ofText s)
  | .decimal d => sized (Bytes.ofText d.plain)
  | .binary b => sized b
  | c => [.raw (putPayload c)]

def cellPieces (c : Cell) : List Piece :=
  match c.kind? with
  | some k => .raw [k.tag] :: payloadPieces c
  | none => [.raw [nullTag]]

def recordPieces (row : Row) : List Piece :=
  .size (bodyOf row).length :: row.flatMap cellPieces

/-- The pieces of a stream of rows: a header, and a record for each row. -/
def streamPieces (s : Schema) (rows : List Row) : List Piece :=
  headerPieces s ++ rows.flatMap recordPieces

theorem written_fieldPieces (f : Field) : written (fieldPieces f) = putField f := by
  simp [fieldPieces, putField, putText, Piece.bytes]

theorem written_headerPieces (s : Schema) : written (headerPieces s) = putHeader s := by
  simp [headerPieces, putHeader, Piece.written_flatMap, written_fieldPieces, Piece.bytes]

theorem written_payloadPieces (c : Cell) : written (payloadPieces c) = putPayload c := by
  cases c <;> simp [payloadPieces, putPayload, putText, Piece.bytes]

theorem written_cellPieces (c : Cell) : written (cellPieces c) = putCell c := by
  unfold cellPieces putCell
  cases c.kind? <;> simp [written_payloadPieces, Piece.bytes]

theorem written_recordPieces (row : Row) : written (recordPieces row) = recordOf row := by
  have hcells : written (row.flatMap cellPieces) = bodyOf row := by
    rw [Piece.written_flatMap, bodyOf]
    simp only [written_cellPieces]
  simp [recordPieces, recordOf, putBytes, hcells, Piece.bytes]

theorem written_streamPieces (s : Schema) (rows : List Row) :
    written (streamPieces s rows) = putHeader s ++ rows.flatMap recordOf := by
  rw [streamPieces, Piece.written_append, written_headerPieces, Piece.written_flatMap]
  simp only [written_recordPieces]

/-- The words of a header are true exactly if the counts and texts of the schema fit. -/
theorem allTrue_headerPieces_iff {s : Schema} : AllTrue (headerPieces s) ↔ Fits s := by
  have hfields : AllTrue (s.fields.flatMap fieldPieces) ↔ ∀ f ∈ s.fields,
      f.name.utf8ByteSize < 2 ^ 32 ∧ f.origin.utf8ByteSize < 2 ^ 32 := by
    simp [Piece.allTrue_flatMap_iff, fieldPieces, Piece.allTrue_sized_iff, Bytes.ofText]
  rw [headerPieces, Piece.allTrue_cons, Piece.allTrue_cons, Piece.isTrue_size_iff, hfields]
  constructor
  · rintro ⟨-, hsize, htexts⟩
    exact ⟨hsize, fun f hf => (htexts f hf).1, fun f hf => (htexts f hf).2⟩
  · rintro ⟨hsize, hnames, horigins⟩
    exact ⟨Piece.isTrue_raw _, hsize, fun f hf => ⟨hnames f hf, horigins f hf⟩⟩

theorem allTrue_sized_of_putBytes {b : Bytes} (h : (putBytes b).length < 2 ^ 32) :
    AllTrue (sized b) := by
  rw [putBytes, List.length_append] at h
  exact Piece.allTrue_sized_iff.2 (by omega)

theorem allTrue_payloadPieces {c : Cell} (h : (putPayload c).length < 2 ^ 32) :
    AllTrue (payloadPieces c) := by
  cases c with
  | text s => exact allTrue_sized_of_putBytes h
  | decimal d => exact allTrue_sized_of_putBytes h
  | binary b => exact allTrue_sized_of_putBytes h
  | _ => simp [payloadPieces]

theorem allTrue_cellPieces {c : Cell} (h : (putCell c).length < 2 ^ 32) :
    AllTrue (cellPieces c) := by
  unfold cellPieces
  unfold putCell at h
  cases hk : c.kind? with
  | none => simp
  | some k =>
    rw [hk] at h
    simp only [List.length_cons] at h
    have hpayload := allTrue_payloadPieces (c := c) (by omega)
    simpa using hpayload

/-- No length within a record is beyond that of its body, so it is the body's that has to fit. -/
theorem allTrue_recordPieces_iff {row : Row} :
    AllTrue (recordPieces row) ↔ (bodyOf row).length < 2 ^ 32 := by
  rw [recordPieces, Piece.allTrue_cons, Piece.isTrue_size_iff, Piece.allTrue_flatMap_iff,
    and_iff_left_iff_imp]
  intro hbody c hc
  refine allTrue_cellPieces ?_
  obtain ⟨front, back, rfl⟩ := List.append_of_mem hc
  simp only [bodyOf, List.flatMap_append, List.flatMap_cons, List.length_append] at hbody
  omega

theorem allTrue_streamPieces_iff {s : Schema} {rows : List Row} :
    AllTrue (streamPieces s rows) ↔
      Fits s ∧ ∀ row ∈ rows, (bodyOf row).length < 2 ^ 32 := by
  rw [streamPieces, Piece.allTrue_append, allTrue_headerPieces_iff, Piece.allTrue_flatMap_iff]
  simp only [allTrue_recordPieces_iff]

/-- A writer refuses no row for its size. It writes each count and length as the word that has the
low bytes of the number. If all of these words are true the stream is read back, and a header or a
record is found as it was written exactly if its own words are. -/
theorem writer_sizes (s : Schema) (rows : List Row) :
    (∀ row, ((Writer.after s rows).append row).1 = .ok () ↔ s.check row = .ok ()) ∧
    (Writer.after s rows).bytes = written (streamPieces s (accepted s rows)) ∧
    (∀ n, Bytes.toNat (Piece.size n).bytes = n % 2 ^ 32) ∧
    (AllTrue (streamPieces s (accepted s rows)) → ∃ back : List Row,
      read (Writer.after s rows).bytes 0 = .ok ⟨s, back.map .ok⟩ ∧
      List.Forall₂ (List.Forall₂ Cell.Same) (accepted s rows) back) ∧
    (∀ rest, takeHeader (written (headerPieces s) ++ rest) = .ok (s, rest) ↔
      AllTrue (headerPieces s)) ∧
    (∀ row rest, frame (written (recordPieces row) ++ rest) = .record (bodyOf row) rest ↔
      AllTrue (recordPieces row)) := by
  obtain ⟨hschema, hbytes, -⟩ := Writer.after_eq s rows
  refine ⟨fun row => ?_, ?_, Bytes.toNat_bigEndian 4, fun htrue => ?_, fun rest => ?_,
    fun row rest => ?_⟩
  · have hcheck : (Writer.after s rows).schema.check row = s.check row := by rw [hschema]
    rcases s.check_cases row with h | ⟨e, h⟩
    · exact iff_of_true (Writer.append_of_check_ok (hcheck.trans h)).1 h
    · simp [Writer.append_of_check_error (hcheck.trans h), h]
  · rw [hbytes, written_streamPieces]
  · obtain ⟨hfits, hbodies⟩ := allTrue_streamPieces_iff.1 htrue
    have hadmits : ∀ row ∈ accepted s rows, List.Forall₂ Field.Admits s.fields row :=
      fun row hrow => Schema.check_eq_ok_iff.1 (mem_accepted_iff.1 hrow).2
    refine ⟨_, ?_, same_settled_rows _⟩
    rw [hbytes, read_putHeader hfits, items_records hadmits hbodies, List.map_map]
    rfl
  · rw [written_headerPieces, takeHeader_eq_ok_iff, allTrue_headerPieces_iff, and_iff_left rfl]
  · rw [written_recordPieces, frame_eq_record_iff, allTrue_recordPieces_iff]
    exact and_iff_left rfl

/-- A schema with a single column for binary data. -/
def binarySchema : Schema := ⟨[{ name := "data", kind := .binary }], by decide⟩

theorem bigEndian_wrapped (width n : Nat) :
    Bytes.bigEndian width (n + 256 ^ width) = Bytes.bigEndian width n := by
  refine Bytes.toNat_inj (by simp) ?_
  rw [Bytes.toNat_bigEndian, Bytes.toNat_bigEndian, Nat.add_mod_right]

theorem bodyOf_binary (b : Bytes) :
    bodyOf [.binary b] = Kind.binary.tag :: (Bytes.bigEndian 4 b.length ++ b) := by
  simp [bodyOf, putCell, Cell.kind?, putPayload, putBytes]

/-- The record of four gibibytes is that of no bytes at all, with the bytes behind it. -/
theorem recordOf_wrapped {b : Bytes} (h : b.length = 2 ^ 32) :
    recordOf [.binary b] = recordOf [.binary []] ++ b := by
  have hlength : Bytes.bigEndian 4 b.length = Bytes.bigEndian 4 0 := by
    rw [h]
    exact bigEndian_wrapped 4 0
  have hrecord : Bytes.bigEndian 4 (bodyOf [.binary b]).length = Bytes.bigEndian 4 5 := by
    rw [bodyOf_binary, List.length_cons, List.length_append, Bytes.bigEndian_length, h]
    exact bigEndian_wrapped 4 5
  rw [recordOf, putBytes, hrecord, bodyOf_binary, hlength]
  simp [recordOf, putBytes, bodyOf_binary]

/-- Four gibibytes. -/
def gibibytes : Bytes := List.replicate (2 ^ 32) 0

/-- They are reported as written and are read back as no bytes: the word of their length is zero,
and that of the record's length is five. -/
theorem wrapped_size_written :
    ((Writer.after binarySchema []).append [.binary gibibytes]).1 = .ok () ∧
    (Writer.after binarySchema [[.binary gibibytes]]).rows = 1 ∧
    (bodyOf [.binary gibibytes]).length = 2 ^ 32 + 5 ∧
    Bytes.toNat ((recordOf [.binary gibibytes]).take 4) = 5 ∧
    ∃ items, read (Writer.after binarySchema [[.binary gibibytes]]).bytes 0 =
        .ok ⟨binarySchema, .ok [.binary []] :: items⟩ ∧
      ¬ (Cell.binary gibibytes).Same (.binary []) := by
  have hlength : gibibytes.length = 2 ^ 32 := List.length_replicate
  have hadmits : Field.Admits { name := "data", kind := .binary } (.binary gibibytes) := by
    intro k hk
    exact (Option.some.inj hk).symm
  have hcheck : binarySchema.check [.binary gibibytes] = .ok () :=
    Schema.check_eq_ok_iff.2 (.cons hadmits .nil)
  have haccepted : accepted binarySchema [[.binary gibibytes]] = [[.binary gibibytes]] := by
    simp [accepted, hcheck]
  obtain ⟨-, hbytes, hrows⟩ := Writer.after_eq binarySchema [[.binary gibibytes]]
  rw [haccepted] at hbytes hrows
  refine ⟨?_, hrows, ?_, ?_, ?_⟩
  · exact (Writer.append_of_check_ok hcheck).1
  · rw [bodyOf_binary, List.length_cons, List.length_append, Bytes.bigEndian_length, hlength]
    omega
  · rw [recordOf_wrapped hlength, List.take_append_of_le_length (by decide)]
    decide
  · have hfits : Fits binarySchema := ⟨by decide, by decide, by decide⟩
    have hframe : frame (recordOf [.binary []] ++ gibibytes) =
        .record (bodyOf [.binary []]) gibibytes :=
      frame_eq_record_iff.2 ⟨by decide, rfl⟩
    have hempty : rowOfBody binarySchema (bodyOf [.binary []]) = .ok [.binary []] := by rfl
    rw [hbytes, List.flatMap_singleton, recordOf_wrapped hlength, read_putHeader hfits,
      items_record (Option.some_ne_none 0).symm hframe, hempty]
    refine ⟨_, rfl, fun hsame => ?_⟩
    have hnil : gibibytes = [] := Cell.binary.inj hsame
    rw [hnil, List.length_nil] at hlength
    omega

end BulkLoad.Cube
