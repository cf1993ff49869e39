import BulkLoad.Cube.Stream
import BulkLoad.Proofs.Cube.Spelling

/-!
Records are found by their lengths alone. What a record is read as depends on its own body, whatever
stands before or behind it, and a fault in one leaves the reader at the next. Every item takes four
bytes or ends the stream, so a reader that is asked again and again runs dry.
-/

namespace BulkLoad.Cube

/-- A record is found exactly where it stands with its length before it. -/
theorem frame_eq_record_iff {b body rest : Bytes} :
    frame b = .record body rest ↔ body.length < 2 ^ 32 ∧ b = putBytes body ++ rest := by
  constructor
  · intro h
    unfold frame at h
    split at h
    · cases h
    · split at h
      · rename_i body' rest' htake
        cases h
        exact takeBytes_eq_ok_iff.1 htake
      · cases h
  · rintro ⟨hlt, rfl⟩
    exact frame_putBytes hlt rest

theorem eq_nil_of_frame {b : Bytes} (h : frame b = .finished) : b = [] := by
  unfold frame at h
  split at h
  · rename_i hempty
    exact List.isEmpty_iff.1 hempty
  · split at h <;> cases h

/-- A length of four bytes, with as many bytes behind it, is a record. -/
theorem frame_framed {lengthBytes body : Bytes} (hfour : lengthBytes.length = 4)
    (hlength : Bytes.toNat lengthBytes = body.length) (rest : Bytes) :
    frame (lengthBytes ++ (body ++ rest)) = .record body rest := by
  have hlt : body.length < 256 ^ 4 := by
    rw [← hlength, ← hfour]
    exact Bytes.toNat_lt lengthBytes
  refine frame_eq_record_iff.2 ⟨hlt, ?_⟩
  rw [putBytes, ← hlength, ← hfour, Bytes.bigEndian_toNat, List.append_assoc]

/-- The record is left behind as a whole, whether or not there is a row in it. -/
theorem takeRow_framed (s : Schema) {lengthBytes body : Bytes} (hfour : lengthBytes.length = 4)
    (hlength : Bytes.toNat lengthBytes = body.length) (rest : Bytes) :
    takeRow s (lengthBytes ++ (body ++ rest)) = ((rowOfBody s body).map some, rest) := by
  rw [takeRow, frame_framed hfour hlength]

/-- Reading from a position gives what stands there, if that is within the bytes. -/
theorem take_drop {body : Bytes} {pos : Nat} (h : pos ≤ body.length) (n : Nat) (part : Part) :
    take n part (body.drop pos) =
      if pos + n ≤ body.length then .ok ((body.drop pos).take n, body.drop (pos + n))
      else .error (.truncated part) := by
  split
  case isTrue hn =>
    refine take_eq_ok_iff.2 ⟨List.length_take_of_le (by rw [List.length_drop]; omega), ?_⟩
    rw [← List.drop_drop, List.take_append_drop]
  case isFalse hn =>
    have hshort : ((body.drop pos).take n).length ≠ n := by
      rw [List.length_take, List.length_drop]
      omega
    simp only [take, List.splitAt_eq, if_neg hshort]

/-- Cells are read forward, and what is left is the end of the body. -/
theorem exists_position {fields : List Field} {body rest : Bytes} {row : Row} {pos : Nat}
    (h : takeCells fields (body.drop pos) = .ok (row, rest)) (hpos : pos ≤ body.length) :
    ∃ pos' ≥ pos, pos' ≤ body.length ∧ rest = body.drop pos' := by
  obtain ⟨-, cells, -, hbytes⟩ := spelled_of_takeCells h
  have hlength := congrArg List.length hbytes
  rw [List.length_drop, List.length_append] at hlength
  refine ⟨pos + (Spelling.body cells).length, by omega, by omega, ?_⟩
  rw [← List.drop_drop, hbytes, List.drop_left]

section Items

variable {s : Schema} {limit : Option Nat} {b : Bytes}

/-- The rows that may still come after an item: a fault does not count. -/
def remaining (limit : Option Nat) : Except Error Row → Option Nat
  | .ok _ => limit.map (· - 1)
  | .error _ => limit

theorem items_exhausted (s : Schema) (b : Bytes) : items s (some 0) b = [] := by
  rw [items, if_pos rfl]

theorem items_finished (h : frame b = .finished) : items s limit b = [] := by
  rw [items]
  split
  · rfl
  · split <;> simp_all

theorem items_cut {part : Part} (hl : limit ≠ some 0) (h : frame b = .cut part) :
    items s limit b = [.error (.truncated part)] := by
  rw [items, if_neg hl]
  split <;> simp_all

theorem items_record {body rest : Bytes} (hl : limit ≠ some 0) (h : frame b = .record body rest) :
    items s limit b =
      rowOfBody s body :: items s (remaining limit (rowOfBody s body)) rest := by
  rw [items, if_neg hl]
  split
  · simp_all
  · simp_all
  · rename_i body' rest' hframe
    rw [h] at hframe
    cases hframe
    cases rowOfBody s body <;> rfl

theorem remaining_none (item : Except Error Row) : remaining none item = none := by
  cases item <;> rfl

/-- Records give one item each, in order, and what follows them gives its own. -/
theorem items_framed (s : Schema) (bodies : List Bytes) (tail : Bytes)
    (h : ∀ body ∈ bodies, body.length < 2 ^ 32) :
    items s none (bodies.flatMap putBytes ++ tail) =
      bodies.map (rowOfBody s) ++ items s none tail := by
  induction bodies with
  | nil => rfl
  | cons body bodies ih =>
    obtain ⟨hbody, hbodies⟩ := List.forall_mem_cons.1 h
    have hframe := frame_putBytes hbody (bodies.flatMap putBytes ++ tail)
    rw [List.flatMap_cons, List.append_assoc, items_record (by simp) hframe,
      remaining_none, ih hbodies]
    rfl

/-- An item takes four bytes at least, unless it is the last. -/
theorem items_length_le (s : Schema) (limit : Option Nat) (b : Bytes) :
    (items s limit b).length ≤ (b.length + 3) / 4 := by
  induction hn : b.length using Nat.strongRecOn generalizing b limit with
  | ind n ih =>
    subst hn
    by_cases hl : limit = some 0
    · simp [hl, items_exhausted]
    · cases hf : frame b with
      | finished => simp [items_finished hf]
      | cut part =>
        have hne : b ≠ [] := by
          rintro rfl
          cases hf
        have := List.length_pos_iff.2 hne
        rw [items_cut hl hf, List.length_singleton]
        omega
      | record body rest =>
        obtain ⟨lengthBytes, hfour, rfl, -⟩ := frame_record hf
        have hrest := ih rest.length (frame_record_rest_length hf)
          (remaining limit (rowOfBody s body)) rest rfl
        rw [items_record hl hf, List.length_cons]
        simp only [List.length_append, hfour]
        omega

end Items

/-- A reader between two calls: the rows it has given, and the bytes that it has not read. -/
structure Reader where
  schema : Schema
  limit : Option Nat
  read : Nat := 0
  rest : Bytes

namespace Reader

/-- What one call gives, and the reader behind it. Nothing is given at the limit or at the end. -/
def next (r : Reader) : Option (Except Error Row) × Reader :=
  if r.limit.any (· ≤ r.read) then (none, r)
  else match takeRow r.schema r.rest with
    | (.ok none, rest) => (none, { r with rest })
    | (.ok (some row), rest) => (some (.ok row), { r with rest, read := r.read + 1 })
    | (.error e, rest) => (some (.error e), { r with rest })

/-- What the call gives that follows `n` others. -/
def answer (r : Reader) : Nat → Option (Except Error Row)
  | 0 => r.next.1
  | n + 1 => r.next.2.answer n

/-- The items that are still to come. -/
def items (r : Reader) : List (Except Error Row) :=
  Cube.items r.schema (r.limit.map (· - r.read)) r.rest

theorem limit_spent (r : Reader) :
    r.limit.any (· ≤ r.read) = true ↔ r.limit.map (· - r.read) = some 0 := by
  cases r.limit <;> simp [Nat.sub_eq_zero_iff_le]

/-- A call takes the first item away, and a reader without items keeps to that. -/
theorem next_cases (r : Reader) :
    (r.items = [] ∧ r.next.1 = none ∧ r.next.2.items = []) ∨
    ∃ item, r.next.1 = some item ∧ r.items = item :: r.next.2.items := by
  by_cases hl : r.limit.any (· ≤ r.read) = true
  · have hnone : r.items = [] := by rw [items, r.limit_spent.1 hl, items_exhausted]
    have hnext : r.next = (none, r) := if_pos hl
    exact .inl ⟨hnone, by rw [hnext], by rw [hnext, hnone]⟩
  · have hsome : r.limit.map (· - r.read) ≠ some 0 := fun h => hl (r.limit_spent.2 h)
    cases hf : frame r.rest with
    | finished =>
      have hrow : r.next = (none, { r with rest := [] }) := by
        rw [next, if_neg hl, takeRow, hf]
      exact .inl ⟨items_finished hf, by rw [hrow], by rw [hrow]; exact items_finished rfl⟩
    | cut part =>
      have hrow : r.next = (some (.error (.truncated part)), { r with rest := [] }) := by
        rw [next, if_neg hl, takeRow, hf]
      refine .inr ⟨.error (.truncated part), by rw [hrow], ?_⟩
      rw [hrow, items, items_cut hsome hf, items, items_finished rfl]
    | record body rest =>
      have hitems := items_record (s := r.schema) hsome hf
      cases hbody : rowOfBody r.schema body with
      | error e =>
        have hrow : r.next = (some (.error e), { r with rest }) := by
          simp only [next, if_neg hl, takeRow, hf, hbody, Except.map]
        rw [hbody] at hitems
        exact .inr ⟨.error e, by rw [hrow], by rw [hrow]; exact hitems⟩
      | ok row =>
        have hrow : r.next = (some (.ok row), { r with rest, read := r.read + 1 }) := by
          simp only [next, if_neg hl, takeRow, hf, hbody, Except.map]
        have hlimit : remaining (r.limit.map (· - r.read)) (.ok row) =
            r.limit.map (· - (r.read + 1)) := by
          simp [remaining, Option.map_map, Function.comp_def, Nat.sub_sub]
        rw [hbody, hlimit] at hitems
        exact .inr ⟨.ok row, by rw [hrow], by rw [hrow]; exact hitems⟩

theorem answer_eq (r : Reader) (n : Nat) : r.answer n = r.items[n]? := by
  induction n generalizing r with
  | zero =>
    rcases r.next_cases with ⟨hitems, hnext, -⟩ | ⟨item, hnext, hitems⟩
    · rw [answer, hnext, hitems, List.getElem?_nil]
    · rw [answer, hnext, hitems, List.getElem?_cons_zero]
  | succ n ih =>
    rw [answer, ih]
    rcases r.next_cases with ⟨hitems, -, hrest⟩ | ⟨item, -, hitems⟩
    · rw [hitems, hrest, List.getElem?_nil, List.getElem?_nil]
    · rw [hitems, List.getElem?_cons_succ]

/-- A reader gives its items one by one, of which there are no more than there are words of four
bytes, the last one counted when it is cut short, and nothing ever after. -/
theorem exists_end (r : Reader) :
    ∃ m ≤ (r.rest.length + 3) / 4, ∀ n, (r.answer n).isSome ↔ n < m := by
  refine ⟨r.items.length, items_length_le _ _ _, fun n => ?_⟩
  rw [answer_eq, Option.isSome_iff_ne_none, Ne, List.getElem?_eq_none_iff, Nat.not_le]

end Reader

/-- Frames isolate what is in them. A length of four bytes with as many bytes behind it is left
behind as one record, whether it gives a row or a fault, and what it gives depends on the schema and
on the body alone; in the body every position is within it, and every slice that is given. Records
give one item each, whatever is wrong with the ones among them, and any stream runs dry. -/
theorem records_isolated (s : Schema) :
    (∀ lengthBytes body rest : Bytes, lengthBytes.length = 4 →
      Bytes.toNat lengthBytes = body.length →
      takeRow s (lengthBytes ++ (body ++ rest)) = ((rowOfBody s body).map some, rest)) ∧
    (∀ (fields : List Field) (body rest : Bytes) (row : Row), ∀ pos ≤ body.length,
      takeCells fields (body.drop pos) = .ok (row, rest) →
      ∃ pos' ≥ pos, pos' ≤ body.length ∧ rest = body.drop pos') ∧
    (∀ (n : Nat) (part : Part) (body : Bytes), ∀ pos ≤ body.length,
      take n part (body.drop pos) =
        if pos + n ≤ body.length then .ok ((body.drop pos).take n, body.drop (pos + n))
        else .error (.truncated part)) ∧
    (∀ (bodies : List Bytes) (tail : Bytes), (∀ body ∈ bodies, body.length < 2 ^ 32) →
      items s none (bodies.flatMap putBytes ++ tail) =
        bodies.map (rowOfBody s) ++ items s none tail) ∧
    ∀ (limit : Nat) (b : Bytes),
      let r : Reader := { schema := s, limit := limitOf limit, rest := b }
      (∀ n, r.answer n = (items s (limitOf limit) b)[n]?) ∧
      ∃ m ≤ (b.length + 3) / 4, ∀ n, (r.answer n).isSome ↔ n < m := by
  refine ⟨fun lengthBytes body rest hfour hlength => takeRow_framed s hfour hlength rest,
    fun fields body rest row pos hpos h => exists_position h hpos,
    fun n part body pos h => take_drop h n part,
    items_framed s, fun limit b => ?_⟩
  intro r
  have hitems : r.items = items s (limitOf limit) b := by
    simp [r, Reader.items]
  exact ⟨fun n => by rw [r.answer_eq, hitems], r.exists_end⟩

/-- A record with a tag that stands for nothing does no harm to those before and behind it. -/
theorem records_isolated_corrupt :
    let s : Schema := ⟨[{ name := "paid", kind := .boolean }], List.pairwise_singleton _ _⟩
    let bodies : List Bytes := [[6, 1], [9, 0, 0], [0]]
    items s none (bodies.flatMap putBytes ++ [0, 0]) =
      [.ok [.boolean true], .error (.unknownTag "paid" 9), .ok [.null],
        .error (.truncated .recordLength)] := by
  intro s bodies
  have h := (records_isolated s).2.2.2.1 bodies [0, 0] (by decide)
  rw [h, items_cut (by simp) (show frame [0, 0] = .cut .recordLength from rfl)]
  rfl

end BulkLoad.Cube
