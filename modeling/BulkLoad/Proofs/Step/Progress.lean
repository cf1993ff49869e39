import BulkLoad.Proofs.Host.Script
import BulkLoad.Proofs.Step.Negotiation

/-!
How far rows have come on their way to the targets. Rows go one after the other, each to the file
and then to the loader; of all but the last row every record came through as a whole.
-/

namespace BulkLoad

open Host (Follows Parcel Port bytesFor bytesFor_append bytesFor_cons bytesFor_nil)

/-- The header of an encoder on its way to a file; one without bytes is not written. -/
def Encoder.headerParcels (e : Encoder) : List Parcel :=
  if e.header.isEmpty then [] else [⟨.file, e.header, false, true⟩]

namespace Step

/-- The encoders of the targets of a run. -/
structure Encoders where
  file : Option Encoder := none
  loader : Option Encoder := none

namespace Encoders

/-- The record of a row on its way to a port, if the port has an encoder. -/
def parcelOf (port : Port) (encoder : Option Encoder) (row : Row) : List Parcel :=
  (encoder.bind fun e => (e.record row).toOption).toList.map fun record =>
    ⟨port, record, true, true⟩

/-- The records of a row, the one for the file first. -/
def parcels (e : Encoders) (row : Row) : List Parcel :=
  parcelOf .file e.file row ++ parcelOf .channel e.loader row

/-- What stands in the file before the rows. -/
def header (e : Encoders) : List Parcel := e.file.elim [] Encoder.headerParcels

/-- The row has a record for every target. -/
structure Takes (e : Encoders) (row : Row) : Prop where
  file : ∀ x, e.file = some x → ∃ record, x.record row = .ok record
  loader : ∀ x, e.loader = some x → ∃ record, x.record row = .ok record

theorem parcelOf_some {port : Port} {encoder : Encoder} {row : Row} {record : Bytes}
    (h : encoder.record row = .ok record) :
    parcelOf port (some encoder) row = [⟨port, record, true, true⟩] := by
  simp [parcelOf, h, Except.toOption]

@[simp] theorem parcelOf_none (port : Port) (row : Row) : parcelOf port none row = [] := rfl

/-- The encoder of what goes to a port. -/
def toward (e : Encoders) : Port → Option Encoder
  | .file => e.file
  | .channel => e.loader

section
variable {e : Encoders} {port : Port} {row : Row}

theorem bytesFor_parcelOf {q : Port} {encoder : Option Encoder} (h : q ≠ port) :
    bytesFor port (parcelOf q encoder row) = [] := by
  cases encoder with
  | none => rfl
  | some x => cases hx : x.record row <;> simp [parcelOf, hx, Except.toOption, bytesFor_cons, h]

theorem bytesFor_parcels {x : Encoder} {record : Bytes} (hx : e.toward port = some x)
    (hr : x.record row = .ok record) : bytesFor port (e.parcels row) = record := by
  rw [parcels, bytesFor_append]
  cases port with
  | file =>
    have hfile : e.file = some x := hx
    rw [hfile, parcelOf_some hr, bytesFor_parcelOf (by decide)]
    simp [bytesFor_cons]
  | channel =>
    have hloader : e.loader = some x := hx
    rw [hloader, parcelOf_some hr, bytesFor_parcelOf (by decide)]
    simp [bytesFor_cons]

theorem bytesFor_parcels_none (hx : e.toward port = none) : bytesFor port (e.parcels row) = [] := by
  rw [parcels, bytesFor_append]
  cases port with
  | file =>
    have hfile : e.file = none := hx
    rw [hfile, bytesFor_parcelOf (show Port.channel ≠ .file by decide)]
    rfl
  | channel =>
    have hloader : e.loader = none := hx
    rw [hloader, bytesFor_parcelOf (by decide)]
    rfl

/-- The records of rows, as the bytes for a port. -/
theorem bytesFor_rows (port : Port) {x : Encoder} {rows : List Row} {records : List Bytes}
    (hx : e.toward port = some x) (hr : rows.mapM x.record = .ok records) :
    bytesFor port (rows.flatMap e.parcels) = records.flatten := by
  have hrecords := mapM_eq_ok_iff.1 hr
  clear hr
  induction hrecords with
  | nil => rfl
  | cons hrow _ ih =>
    rw [List.flatMap_cons, bytesFor_append, bytesFor_parcels hx hrow, ih, List.flatten_cons]

theorem bytesFor_rows_none (port : Port) (hx : e.toward port = none) (rows : List Row) :
    bytesFor port (rows.flatMap e.parcels) = [] := by
  induction rows with
  | nil => rfl
  | cons row rows ih =>
    rw [List.flatMap_cons, bytesFor_append, bytesFor_parcels_none hx, ih, List.append_nil]

theorem mem_header {q : Parcel} (h : q ∈ e.header) :
    q.port = .file ∧ q.ofRow = false ∧ q.whole = true := by
  unfold header at h
  cases hf : e.file with
  | none =>
    rw [hf] at h
    cases h
  | some x =>
    rw [hf] at h
    have hx : q ∈ x.headerParcels := h
    unfold Encoder.headerParcels at hx
    split at hx
    · cases hx
    · rw [List.mem_singleton.1 hx]
      exact ⟨rfl, rfl, rfl⟩

theorem bytesFor_header_channel : bytesFor .channel e.header = [] := by
  refine List.flatMap_eq_nil_iff.2 fun q hq => if_neg ?_
  rw [(mem_header hq).1]
  decide

theorem bytesFor_header_file {x : Encoder} (hx : e.file = some x) :
    bytesFor .file e.header = x.header := by
  rw [header, hx]
  show bytesFor .file x.headerParcels = x.header
  unfold Encoder.headerParcels
  split
  · rename_i hempty
    rw [bytesFor_nil, List.isEmpty_iff.1 hempty]
  · simp [bytesFor_cons]

theorem whole_of_mem {q : Parcel} (rows : List Row)
    (h : q ∈ e.header ++ rows.flatMap e.parcels) : q.whole = true := by
  have hparcelOf : ∀ {port encoder row}, q ∈ parcelOf port encoder row → q.whole = true := by
    intro port encoder row hq
    obtain ⟨record, -, rfl⟩ := List.mem_map.1 hq
    rfl
  rcases List.mem_append.1 h with h | h
  · exact (mem_header h).2.2
  · obtain ⟨row, -, hq⟩ := List.mem_flatMap.1 h
    rcases List.mem_append.1 hq with hq | hq
    · exact hparcelOf hq
    · exact hparcelOf hq

end

end Encoders

/-- Rows on their way to the targets, with what was handed on, and how many of them came through to
every target. -/
inductive Progress (e : Encoders) : List Row → List Parcel → Nat → Prop
  | idle (rows : List Row) : Progress e rows [] 0
  /-- The next row has not come through to every target. -/
  | within {row : Row} {rows : List Row} {parcels : List Parcel}
      (follows : Follows (e.parcels row) parcels) (part : parcels ≠ e.parcels row) :
      Progress e (row :: rows) parcels 0
  | through {row : Row} {rows : List Row} {parcels : List Parcel} {n : Nat}
      (rest : Progress e rows parcels n) :
      Progress e (row :: rows) (e.parcels row ++ parcels) (n + 1)

namespace Progress

variable {e : Encoders} {rows : List Row} {parcels : List Parcel} {n : Nat}

theorem follows (h : Progress e rows parcels n) : Follows (rows.flatMap e.parcels) parcels := by
  induction h with
  | idle rows => exact .nil _
  | within follows part =>
    rw [List.flatMap_cons]
    exact follows.append_right _
  | through _ ih =>
    rw [List.flatMap_cons]
    exact ih.append_left _

end Progress

/-- The records that came through to a port as a whole. -/
def recordsAt (port : Port) (parcels : List Parcel) : Nat :=
  parcels.countP fun q => decide (q.port = port) && q.ofRow && q.whole

@[simp] theorem recordsAt_nil (port : Port) : recordsAt port [] = 0 := rfl

theorem recordsAt_append (port : Port) (ps qs : List Parcel) :
    recordsAt port (ps ++ qs) = recordsAt port ps + recordsAt port qs :=
  List.countP_append

theorem recordsAt_cons (port : Port) (q : Parcel) (ps : List Parcel) :
    recordsAt port (q :: ps) =
      recordsAt port ps + if decide (q.port = port) && q.ofRow && q.whole then 1 else 0 :=
  List.countP_cons

section
variable {e : Encoders} {row : Row}

/-- The records of a row that came through to every target: one for each. -/
theorem recordsAt_parcels (ht : e.Takes row) :
    recordsAt .file (e.parcels row) = e.file.toList.length ∧
      recordsAt .channel (e.parcels row) = e.loader.toList.length := by
  obtain ⟨file, loader⟩ := e
  unfold Encoders.parcels
  rw [recordsAt_append, recordsAt_append]
  cases file with
  | none =>
    cases loader with
    | none => exact ⟨rfl, rfl⟩
    | some y =>
      obtain ⟨record, hy⟩ := ht.loader y rfl
      simp [Encoders.parcelOf_some hy, recordsAt_cons]
  | some x =>
    obtain ⟨record, hx⟩ := ht.file x rfl
    cases loader with
    | none => simp [Encoders.parcelOf_some hx, recordsAt_cons]
    | some y =>
      obtain ⟨record', hy⟩ := ht.loader y rfl
      simp [Encoders.parcelOf_some hx, Encoders.parcelOf_some hy, recordsAt_cons]

/-- Of a row that has not come through to every target, the last target has no whole record. -/
theorem recordsAt_part {parcels : List Parcel} (ht : e.Takes row)
    (follows : Follows (e.parcels row) parcels) (part : parcels ≠ e.parcels row) :
    recordsAt .channel parcels = 0 ∧ recordsAt .file parcels ≤ 1 ∧
      (e.loader = none → recordsAt .file parcels = 0) := by
  obtain ⟨file, loader⟩ := e
  unfold Encoders.parcels at follows part
  cases file with
  | none =>
    cases loader with
    | none =>
      cases follows
      exact absurd rfl part
    | some y =>
      obtain ⟨record, hy⟩ := ht.loader y rfl
      rw [Encoders.parcelOf_some hy] at follows part
      cases follows with
      | nil => simp
      | cut => simp [recordsAt_cons, Parcel.cut]
      | cons q rest =>
        cases rest
        exact absurd rfl part
  | some x =>
    obtain ⟨record, hx⟩ := ht.file x rfl
    rw [Encoders.parcelOf_some hx] at follows part
    cases follows with
    | nil => simp
    | cut => simp [recordsAt_cons, Parcel.cut]
    | cons q rest =>
      cases loader with
      | none =>
        cases rest
        exact absurd rfl part
      | some y =>
        obtain ⟨record', hy⟩ := ht.loader y rfl
        rw [Encoders.parcelOf_some hy] at rest part
        cases rest with
        | nil => simp [recordsAt_cons]
        | cut => simp [recordsAt_cons, Parcel.cut]
        | cons q' rest' =>
          cases rest'
          exact absurd rfl part

end

/-- Whole records at the targets: the loader has one for each row that came through, and the file is
at most one ahead. -/
theorem Progress.records {e : Encoders} {rows : List Row} {parcels : List Parcel} {n : Nat}
    (h : Progress e rows parcels n) (ht : ∀ row ∈ rows, e.Takes row) :
    (e.loader.isSome = true → recordsAt .channel parcels = n) ∧
      (e.file.isSome = true → n ≤ recordsAt .file parcels ∧ recordsAt .file parcels ≤ n + 1) ∧
      (e.file.isSome = true → e.loader = none → recordsAt .file parcels = n) := by
  induction h with
  | idle rows => simp
  | within follows part =>
    obtain ⟨hchannel, hfile, halone⟩ := recordsAt_part (ht _ List.mem_cons_self) follows part
    exact ⟨fun _ => hchannel, fun _ => ⟨Nat.zero_le _, hfile⟩, fun _ => halone⟩
  | @through row rows parcels n _ ih =>
    obtain ⟨hrow, hrows⟩ := List.forall_mem_cons.1 ht
    obtain ⟨hchannel, hfile, halone⟩ := ih hrows
    obtain ⟨hfileRow, hchannelRow⟩ := recordsAt_parcels hrow
    rw [recordsAt_append, recordsAt_append, hfileRow, hchannelRow]
    have hone : ∀ {encoder : Option Encoder}, encoder.isSome = true →
        encoder.toList.length = 1 := by
      intro encoder h
      obtain ⟨x, rfl⟩ := Option.isSome_iff_exists.1 h
      rfl
    refine ⟨fun h => ?_, fun h => ?_, fun h hnone => ?_⟩
    · rw [hone h, hchannel h]
      omega
    · have := hfile h
      rw [hone h]
      omega
    · rw [hone h, halone h hnone]
      omega

/-- Any first part of what was handed on shows rows on their way too. -/
theorem Progress.of_isPrefix {e : Encoders} {rows : List Row} {parcels part : List Parcel} {n : Nat}
    (h : Progress e rows parcels n) (hp : part <+: parcels) : ∃ m, Progress e rows part m := by
  induction h generalizing part with
  | idle rows =>
    rw [List.prefix_nil.1 hp]
    exact ⟨0, .idle rows⟩
  | @within row rows parcels follows hpart =>
    refine ⟨0, .within (follows.of_isPrefix hp) ?_⟩
    rintro rfl
    exact hpart (hp.eq_of_length_le follows.length_le).symm
  | @through row rows parcels n _ ih =>
    rcases List.prefix_or_prefix_of_prefix hp (List.prefix_append (e.parcels row) parcels) with
      hrow | ⟨rest, rfl⟩
    -- A part that ends with the records of the row counts the row; a shorter one does not.
    · by_cases heq : part = e.parcels row
      · refine ⟨1, ?_⟩
        rw [heq, ← List.append_nil (e.parcels row)]
        exact .through (.idle rows)
      · exact ⟨0, .within ((Follows.refl _).of_isPrefix hrow) heq⟩
    · obtain ⟨m, hm⟩ := ih ((List.prefix_append_right_inj _).1 hp)
      exact ⟨m + 1, .through hm⟩

end Step
end BulkLoad
