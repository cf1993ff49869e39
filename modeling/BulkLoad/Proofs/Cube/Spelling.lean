import BulkLoad.Proofs.Cube.Record
import BulkLoad.Proofs.Cube.Taker

/-!
How the cells of a stream may be spelled. A reader takes any byte for a boolean and any notation of
a number for a decimal; all else has one spelling, the one that a writer gives it. A row that is
read stands in its record spelled cell by cell, and fits the fields.
-/

namespace BulkLoad

theorem Instant.parts_of_ofTimestamp? {second : Int} {nano : Nat} {t : Instant}
    (h : ofTimestamp? second nano = some t) : t.second = second ∧ t.nano = nano := by
  unfold ofTimestamp? at h
  split at h
  · cases h
    exact ⟨rfl, rfl⟩
  · cases h

namespace Cube

/-- A cell as it stands in a stream. -/
inductive Spelling where
  | boolean (byte : UInt8)
  | decimal (text : String)
  /-- A cell that is neither, as a writer puts it. -/
  | other (c : Cell)

namespace Spelling

def bytes : Spelling → Bytes
  | boolean x => [Kind.boolean.tag, x]
  | decimal t => Kind.decimal.tag :: putText t
  | other c => putCell c

/-- The cell that is meant: every byte but zero is true, and a decimal has to be a number. -/
def cell? : Spelling → Option Cell
  | boolean x => some (.boolean (x != 0))
  | decimal t => (Decimal.ofText? t).map .decimal
  | other (.boolean _) => none
  | other (.decimal _) => none
  | other c => some c

/-- The spelling is one that writers use: a byte zero or one, or a number without exponent. -/
def Settled : Spelling → Prop
  | boolean x => x = 0 ∨ x = 1
  | decimal t => ∃ d : Decimal, t = d.plain
  | other _ => True

/-- The body of a record that spells its cells so. -/
def body (cells : List Spelling) : Bytes := cells.flatMap bytes

/-- Cell by cell the row is spelled so. -/
def Means (cells : List Spelling) (row : Row) : Prop :=
  List.Forall₂ (fun spelled c => spelled.cell? = some c) cells row

end Spelling

/-- Eight bytes are what is written of the integer that they are read as. -/
theorem putPayload_toInt64 {n : Nat} (h : n < 256 ^ 8) :
    putPayload (.integer (UInt64.ofNat n).toInt64) = Bytes.bigEndian 8 n := by
  rw [putPayload, UInt64.toUInt64_toInt64, UInt64.toNat_ofNat_of_lt' h]

theorem putPayload_bits {n : Nat} (h : n < 256 ^ 8) :
    putPayload (.number ⟨UInt64.ofNat n⟩) = Bytes.bigEndian 8 n := by
  rw [putPayload, UInt64.toNat_ofNat_of_lt' h]

theorem putPayload_timestamp {n nano : Nat} {t : Instant} (h : n < 256 ^ 8)
    (ht : Instant.ofTimestamp? (UInt64.ofNat n).toInt64.toInt nano = some t) :
    putPayload (.date t) = Bytes.bigEndian 8 n ++ Bytes.bigEndian 4 nano := by
  obtain ⟨hsecond, hnano⟩ := Instant.parts_of_ofTimestamp? ht
  rw [putPayload, hsecond, hnano, Int64.ofInt_toInt, UInt64.toUInt64_toInt64,
    UInt64.toNat_ofNat_of_lt' h]

/-- A payload that is read is a spelling of the cell. -/
theorem spelled_of_takePayload {f : Field} {tag : UInt8} {k : Kind} {c : Cell} {b rest : Bytes}
    (h : takePayload f tag k b = .ok (c, rest)) :
    c.kind? = some k ∧
      ∃ spelled : Spelling, spelled.cell? = some c ∧ k.tag :: b = spelled.bytes ++ rest := by
  cases k with
  | unresolved => cases h
  | text =>
    obtain ⟨⟨s, behind⟩, hs, hdone⟩ := bind_eq_ok_iff.1 h
    obtain ⟨-, rfl⟩ := takeText_eq_ok_iff.1 hs
    cases hdone
    exact ⟨rfl, .other (.text s), rfl, rfl⟩
  | integer =>
    obtain ⟨⟨n, behind⟩, hn, hdone⟩ := bind_eq_ok_iff.1 h
    obtain ⟨hlt, rfl⟩ := takeNat_eq_ok_iff.1 hn
    cases hdone
    exact ⟨rfl, .other (.integer _), rfl, by rw [← putPayload_toInt64 hlt]; rfl⟩
  | number =>
    obtain ⟨⟨n, behind⟩, hn, hdone⟩ := bind_eq_ok_iff.1 h
    obtain ⟨hlt, rfl⟩ := takeNat_eq_ok_iff.1 hn
    cases hdone
    exact ⟨rfl, .other (.number _), rfl, by rw [← putPayload_bits hlt]; rfl⟩
  | decimal =>
    obtain ⟨⟨t, behind⟩, ht, hdone⟩ := bind_eq_ok_iff.1 h
    obtain ⟨-, rfl⟩ := takeText_eq_ok_iff.1 ht
    cases hd : Decimal.ofText? t with
    | none =>
      simp only [hd] at hdone
      cases hdone
    | some d =>
      simp only [hd] at hdone
      cases hdone
      exact ⟨rfl, .decimal t, by simp [Spelling.cell?, hd], rfl⟩
  | date =>
    obtain ⟨⟨second, b₁⟩, hsecond, h₁⟩ := bind_eq_ok_iff.1 h
    obtain ⟨hlt, rfl⟩ := takeNat_eq_ok_iff.1 hsecond
    obtain ⟨⟨nano, b₂⟩, hnano, h₂⟩ := bind_eq_ok_iff.1 h₁
    obtain ⟨-, rfl⟩ := takeNat_eq_ok_iff.1 hnano
    dsimp only at h₂
    split at h₂
    case h_2 => cases h₂
    rename_i t ht
    cases h₂
    refine ⟨rfl, .other (.date t), rfl, ?_⟩
    rw [← List.append_assoc, ← putPayload_timestamp hlt ht]
    rfl
  | boolean =>
    obtain ⟨⟨x, behind⟩, hx, hdone⟩ := bind_eq_ok_iff.1 h
    obtain rfl := takeByte_eq_ok_iff.1 hx
    cases hdone
    exact ⟨rfl, .boolean x, rfl, rfl⟩
  | binary =>
    obtain ⟨⟨x, behind⟩, hx, hdone⟩ := bind_eq_ok_iff.1 h
    obtain ⟨-, rfl⟩ := takeBytes_eq_ok_iff.1 hx
    cases hdone
    exact ⟨rfl, .other (.binary x), rfl, rfl⟩

theorem spelled_of_takeCell {f : Field} {c : Cell} {b rest : Bytes}
    (h : takeCell f b = .ok (c, rest)) :
    f.Admits c ∧ ∃ spelled : Spelling, spelled.cell? = some c ∧ b = spelled.bytes ++ rest := by
  obtain ⟨⟨tag, behind⟩, htag, hcell⟩ := bind_eq_ok_iff.1 h
  obtain rfl := takeByte_eq_ok_iff.1 htag
  dsimp only at hcell
  split at hcell
  case isTrue hnull =>
    cases hcell
    refine ⟨nofun, .other .null, rfl, ?_⟩
    rw [hnull]
    rfl
  split at hcell
  case h_1 => cases hcell
  rename_i k hk
  split at hcell
  case isFalse => cases hcell
  rename_i hf
  obtain ⟨hkind, spelled, hspelled, hbytes⟩ := spelled_of_takePayload hcell
  refine ⟨?_, spelled, hspelled, by rw [← hbytes, Kind.tag_of_ofTag? hk]⟩
  intro k' hk'
  rw [hkind] at hk'
  cases hk'
  exact hf

theorem spelled_of_takeCells {fields : List Field} {row : Row} {b rest : Bytes}
    (h : takeCells fields b = .ok (row, rest)) :
    List.Forall₂ Field.Admits fields row ∧
      ∃ cells, Spelling.Means cells row ∧ b = Spelling.body cells ++ rest := by
  induction fields generalizing b row with
  | nil =>
    cases h
    exact ⟨.nil, [], .nil, rfl⟩
  | cons f fields ih =>
    obtain ⟨⟨c, b₁⟩, hc, h₁⟩ := bind_eq_ok_iff.1 h
    obtain ⟨⟨cs, b₂⟩, hcs, h₂⟩ := bind_eq_ok_iff.1 h₁
    cases h₂
    obtain ⟨hadmits, spelled, hspelled, rfl⟩ := spelled_of_takeCell hc
    obtain ⟨hall, cells, hcells, rfl⟩ := ih hcs
    exact ⟨.cons hadmits hall, spelled :: cells, .cons hspelled hcells, by simp [Spelling.body]⟩

/-- A body that is read as a row fits the fields and is a spelling of the row. -/
theorem spelled_of_rowOfBody {s : Schema} {body : Bytes} {row : Row}
    (h : rowOfBody s body = .ok row) :
    List.Forall₂ Field.Admits s.fields row ∧
      ∃ cells, Spelling.Means cells row ∧ body = Spelling.body cells := by
  obtain ⟨⟨row', rest⟩, hcells, hdone⟩ := bind_eq_ok_iff.1 h
  dsimp only at hdone
  split at hdone
  case isFalse => cases hdone
  rename_i hempty
  cases hdone
  obtain ⟨hadmits, cells, hmeans, rfl⟩ := spelled_of_takeCells hcells
  exact ⟨hadmits, cells, hmeans, by simp [List.isEmpty_iff.1 hempty]⟩

end Cube
end BulkLoad
