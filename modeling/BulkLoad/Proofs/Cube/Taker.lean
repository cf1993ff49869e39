import BulkLoad.Cube.Record
import BulkLoad.Proofs.Traversal

/-!
Readers of the front of a byte string. Two things are said of each. What it accepts is what a writer
puts there, and nothing else. And bytes that come later change nothing that is decided: a reader
that stops for want of bytes is the only one that more bytes can move.
-/

namespace BulkLoad

namespace Cube

variable {α β : Type}

theorem take_eq_ok_iff {n : Nat} {part : Part} {b front rest : Bytes} :
    take n part b = .ok (front, rest) ↔ front.length = n ∧ b = front ++ rest := by
  constructor
  · intro h
    obtain ⟨hb, hn⟩ := take_length h
    exact ⟨hn, hb⟩
  · rintro ⟨rfl, rfl⟩
    exact take_append front part rest

theorem takeNat_eq_ok_iff {width n : Nat} {part : Part} {b rest : Bytes} :
    takeNat width part b = .ok (n, rest) ↔
      n < 256 ^ width ∧ b = Bytes.bigEndian width n ++ rest := by
  constructor
  · intro h
    obtain ⟨⟨front, behind⟩, hfront, hn⟩ := bind_eq_ok_iff.1 h
    obtain ⟨rfl, rfl⟩ := take_eq_ok_iff.1 hfront
    cases hn
    exact ⟨Bytes.toNat_lt front, by rw [Bytes.bigEndian_toNat]⟩
  · rintro ⟨hn, rfl⟩
    exact takeNat_bigEndian hn part rest

theorem takeBytes_eq_ok_iff {part : Part} {b x rest : Bytes} :
    takeBytes part b = .ok (x, rest) ↔ x.length < 2 ^ 32 ∧ b = putBytes x ++ rest := by
  constructor
  · intro h
    obtain ⟨⟨n, behind⟩, hn, hx⟩ := bind_eq_ok_iff.1 h
    obtain ⟨hlt, rfl⟩ := takeNat_eq_ok_iff.1 hn
    obtain ⟨rfl, rfl⟩ := take_eq_ok_iff.1 hx
    exact ⟨hlt, by rw [putBytes, List.append_assoc]⟩
  · rintro ⟨hx, rfl⟩
    exact takeBytes_putBytes hx part rest

theorem takeText_eq_ok_iff {part : Part} {b rest : Bytes} {s : String} :
    takeText part b = .ok (s, rest) ↔ s.utf8ByteSize < 2 ^ 32 ∧ b = putText s ++ rest := by
  constructor
  · intro h
    obtain ⟨⟨x, behind⟩, hx, hs⟩ := bind_eq_ok_iff.1 h
    obtain ⟨hlt, rfl⟩ := takeBytes_eq_ok_iff.1 hx
    cases ht : Bytes.toText? x with
    | none => simp [ht] at hs
    | some t =>
      simp only [ht] at hs
      cases hs
      have htext := Bytes.ofText_of_toText? ht
      refine ⟨?_, by rw [putText, htext]⟩
      rw [← htext] at hlt
      simpa [Bytes.ofText] using hlt
  · rintro ⟨hs, rfl⟩
    exact takeText_putText hs part rest

theorem takeByte_eq_ok_iff {part : Part} {b rest : Bytes} {x : UInt8} :
    takeByte part b = .ok (x, rest) ↔ b = x :: rest := by
  cases b <;> simp [takeByte]

/-- What is read from some bytes, and what is read when more follow them. -/
inductive Prolonged (more : Bytes) :
    Except Error (α × Bytes) → Except Error (α × Bytes) → Prop
  /-- Bytes were missing, and anything may come of it. -/
  | short (part : Part) (answer : Except Error (α × Bytes)) :
      Prolonged more (.error (.truncated part)) answer
  | fault (e : Error) : Prolonged more (.error e) (.error e)
  | taken (a : α) (rest : Bytes) : Prolonged more (.ok (a, rest)) (.ok (a, rest ++ more))

theorem Prolonged.rest_eq {more rest rest' : Bytes} {a a' : α}
    (h : Prolonged more (.ok (a, rest)) (.ok (a', rest'))) : rest' = rest ++ more := by
  cases h
  rfl

/-- More bytes change nothing that is decided without them. -/
def Steady (t : Taker α) : Prop := ∀ b more, Prolonged more (t b) (t (b ++ more))

namespace Steady

theorem fault (e : Error) : Steady (fun _ => .error e : Taker α) := fun _ _ => .fault e

theorem taken (a : α) : Steady (fun b => .ok (a, b) : Taker α) := fun b _ => .taken a b

/-- A step that is steady itself may follow. -/
theorem bind {t : Taker α} {k : α × Bytes → Except Error (β × Bytes)} (ht : Steady t)
    (hk : ∀ a, Steady fun b => k (a, b)) : Steady fun b => t b >>= k := by
  intro b more
  have h := ht b more
  show Prolonged more (t b >>= k) (t (b ++ more) >>= k)
  generalize t b = before, t (b ++ more) = after at h
  cases h with
  | short part answer => exact .short part _
  | fault e => exact .fault e
  | taken a rest => exact hk a rest more

/-- What is read whole is not there when any of its bytes is missing. -/
theorem truncated {t : Taker α} {a : α} {used : Bytes} (ht : Steady t)
    (hused : t used = .ok (a, [])) {k : Nat} (hk : k < used.length) :
    ∃ part, t (used.take k) = .error (.truncated part) := by
  have h := ht (used.take k) (used.drop k)
  rw [List.take_append_drop, hused] at h
  cases hbefore : t (used.take k) with
  | error e =>
    rw [hbefore] at h
    cases h with
    | short part => exact ⟨part, rfl⟩
  | ok p =>
    rw [hbefore] at h
    obtain ⟨a, rest⟩ := p
    have hnone : used.drop k = [] := (List.append_eq_nil_iff.1 h.rest_eq.symm).2
    exact absurd (List.drop_eq_nil_iff.1 hnone) (by omega)

end Steady

theorem steady_take (n : Nat) (part : Part) : Steady (take n part) := by
  intro b more
  by_cases h : n ≤ b.length
  · have hb : take n part b = .ok (b.take n, b.drop n) :=
      take_eq_ok_iff.2 ⟨List.length_take_of_le h, (List.take_append_drop n b).symm⟩
    have hmore : take n part (b ++ more) = .ok (b.take n, b.drop n ++ more) :=
      take_eq_ok_iff.2
        ⟨List.length_take_of_le h, by rw [← List.append_assoc, List.take_append_drop]⟩
    rw [hb, hmore]
    exact .taken _ _
  · have hb : take n part b = .error (.truncated part) := by
      simp [take]
      omega
    rw [hb]
    exact .short part _

theorem steady_takeNat (width : Nat) (part : Part) : Steady (takeNat width part) :=
  (steady_take width part).bind fun front => .taken (Bytes.toNat front)

theorem steady_takeBytes (part : Part) : Steady (takeBytes part) :=
  (steady_takeNat 4 part).bind fun n => steady_take n part

theorem steady_takeText (part : Part) : Steady (takeText part) := by
  refine (steady_takeBytes part).bind fun x => ?_
  dsimp only
  cases Bytes.toText? x with
  | none => exact .fault _
  | some s => exact .taken s

theorem steady_takeByte (part : Part) : Steady (takeByte part) := by
  intro b more
  cases b with
  | nil => exact .short part _
  | cons x rest => exact .taken x rest

end Cube
end BulkLoad
