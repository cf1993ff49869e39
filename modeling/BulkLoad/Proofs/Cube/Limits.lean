import BulkLoad.Proofs.Cube.Framing

/-!
Reading with a limit. A limit takes the items up to its last row and no others, and leaves what
stands behind the record of that row unread, so that nothing of it matters. Whatever is wrong with
the bytes of a stream is a fault of its format.
-/

namespace BulkLoad.Cube

/-- Items up to so many rows, the last of which ends them. Faults do not count. -/
def throughRows {ε α : Type} : Nat → List (Except ε α) → List (Except ε α)
  | 0, _ => []
  | _ + 1, [] => []
  | n + 1, .ok a :: rest => .ok a :: throughRows n rest
  | n + 1, .error e :: rest => .error e :: throughRows (n + 1) rest

/-- How many of the items are rows. -/
def rowCount {ε α : Type} : List (Except ε α) → Nat
  | [] => 0
  | .ok _ :: rest => rowCount rest + 1
  | .error _ :: rest => rowCount rest

/-- These items have so many rows, and end with the last of them. -/
inductive Spends {ε α : Type} : Nat → List (Except ε α) → Prop
  | none : Spends 0 []
  | row {n : Nat} {a : α} {rest : List (Except ε α)} (h : Spends n rest) :
      Spends (n + 1) (.ok a :: rest)
  | fault {n : Nat} {e : ε} {rest : List (Except ε α)} (h : Spends (n + 1) rest) :
      Spends (n + 1) (.error e :: rest)

section Rows

variable {ε α : Type} {n : Nat} {l : List (Except ε α)}

theorem spends_throughRows (h : n ≤ rowCount l) : Spends n (throughRows n l) := by
  induction l generalizing n with
  | nil =>
    obtain rfl : n = 0 := Nat.le_zero.1 h
    exact .none
  | cons item l ih =>
    cases n with
    | zero => exact .none
    | succ n =>
      cases item with
      | ok a => exact .row (ih (Nat.le_of_succ_le_succ h))
      | error e => exact .fault (ih h)

/-- Nothing is taken of what stands behind the last row. -/
theorem Spends.throughRows_append (h : Spends n l) (more : List (Except ε α)) :
    throughRows n (l ++ more) = l := by
  induction h with
  | none => rw [throughRows]
  | row _ ih => rw [List.cons_append, throughRows, ih]
  | fault _ ih => rw [List.cons_append, throughRows, ih]

end Rows

/-- A reader with a limit gives the items that it gives without, up to the last row of the limit. -/
theorem items_eq_throughRows (s : Schema) (n : Nat) (b : Bytes) :
    items s (some n) b = throughRows n (items s none b) := by
  induction hlength : b.length using Nat.strongRecOn generalizing n b with
  | ind length ih =>
    subst hlength
    cases n with
    | zero => rw [items_exhausted, throughRows]
    | succ n =>
      have hsome : some (n + 1) ≠ some 0 := by simp
      have hnone : (none : Option Nat) ≠ some 0 := by simp
      cases hf : frame b with
      | finished => rw [items_finished hf, items_finished hf, throughRows]
      | cut part => rw [items_cut hsome hf, items_cut hnone hf, throughRows, throughRows]
      | record body rest =>
        have hrest := frame_record_rest_length hf
        rw [items_record hsome hf, items_record hnone hf, remaining_none]
        cases rowOfBody s body with
        | ok row =>
          rw [throughRows, ← ih rest.length hrest n rest rfl]
          rfl
        | error e =>
          rw [throughRows, ← ih rest.length hrest (n + 1) rest rfl]
          rfl

/-- Where there are rows enough, the items up to a limit are those of the first records. -/
theorem exists_records (s : Schema) {n : Nat} {b : Bytes} (h : n ≤ rowCount (items s none b)) :
    ∃ (bodies : List Bytes) (tail : Bytes), b = bodies.flatMap putBytes ++ tail ∧
      (∀ body ∈ bodies, body.length < 2 ^ 32) ∧
      bodies.map (rowOfBody s) = throughRows n (items s none b) := by
  induction hlength : b.length using Nat.strongRecOn generalizing n b with
  | ind length ih =>
    subst hlength
    cases n with
    | zero => exact ⟨[], b, rfl, by simp, by rw [throughRows]; rfl⟩
    | succ n =>
      have hnone : (none : Option Nat) ≠ some 0 := by simp
      cases hf : frame b with
      | finished =>
        rw [items_finished hf] at h
        exact absurd h (Nat.not_succ_le_zero n)
      | cut part =>
        rw [items_cut hnone hf] at h
        exact absurd h (Nat.not_succ_le_zero n)
      | record body rest =>
        have hlt := frame_record_rest_length hf
        obtain ⟨hbody, rfl⟩ := frame_eq_record_iff.1 hf
        rw [items_record hnone hf, remaining_none] at h ⊢
        -- The record comes first, and after it those that the rest has up to its own limit.
        have hafter : ∀ m ≤ rowCount (items s none rest), ∃ (bodies : List Bytes) (tail : Bytes),
            putBytes body ++ rest = (body :: bodies).flatMap putBytes ++ tail ∧
            (∀ body' ∈ body :: bodies, body'.length < 2 ^ 32) ∧
            bodies.map (rowOfBody s) = throughRows m (items s none rest) := by
          intro m hm
          obtain ⟨bodies, tail, hb, hbodies, hitems⟩ := ih rest.length hlt hm rfl
          refine ⟨bodies, tail, ?_, List.forall_mem_cons.2 ⟨hbody, hbodies⟩, hitems⟩
          rw [List.flatMap_cons, List.append_assoc, ← hb]
        cases hrow : rowOfBody s body with
        | ok row =>
          rw [hrow] at h
          obtain ⟨bodies, tail, hb, hbodies, hitems⟩ := hafter n (Nat.le_of_succ_le_succ h)
          exact ⟨body :: bodies, tail, hb, hbodies,
            by rw [List.map_cons, hrow, throughRows, hitems]⟩
        | error e =>
          rw [hrow] at h
          obtain ⟨bodies, tail, hb, hbodies, hitems⟩ := hafter (n + 1) h
          exact ⟨body :: bodies, tail, hb, hbodies,
            by rw [List.map_cons, hrow, throughRows, hitems]⟩

namespace Reader

/-- A reader of the records behind a header, with a limit of rows; zero stands for none. -/
def start (s : Schema) (limit : Nat) (b : Bytes) : Reader :=
  { schema := s, limit := limitOf limit, rest := b }

/-- The reader behind so many calls. -/
def after (r : Reader) : Nat → Reader
  | 0 => r
  | n + 1 => r.next.2.after n

theorem after_add (r : Reader) (m n : Nat) : r.after (m + n) = (r.after m).after n := by
  induction m generalizing r with
  | zero => rw [Nat.zero_add, after]
  | succ m ih => rw [Nat.succ_add, after, after, ih]

variable {r : Reader}

theorem next_spent (h : r.limit = some r.read) : r.next = (none, r) := by
  rw [next, h]
  simp

theorem after_spent (h : r.limit = some r.read) (n : Nat) : r.after n = r := by
  induction n with
  | zero => rfl
  | succ n ih => rw [after, next_spent h, ih]

/-- A call takes one record, and counts it if there is a row in it. -/
theorem next_record {body rest : Bytes} (hmore : ¬ r.limit.any (· ≤ r.read) = true)
    (hrest : r.rest = putBytes body ++ rest) (hbody : body.length < 2 ^ 32) :
    r.next.2 = { r with rest, read := r.read + rowCount [rowOfBody r.schema body] } := by
  have hf : frame r.rest = .record body rest := frame_eq_record_iff.2 ⟨hbody, hrest⟩
  cases hrow : rowOfBody r.schema body with
  | ok row => simp only [next, if_neg hmore, takeRow, hf, hrow, Except.map, rowCount]
  | error e => simp only [next, if_neg hmore, takeRow, hf, hrow, Except.map, rowCount, Nat.add_zero]

/-- Records that have the rows of the limit are all that is read. -/
theorem after_records {bodies : List Bytes} {tail : Bytes} {n : Nat}
    (hn : Spends n (bodies.map (rowOfBody r.schema))) (hlimit : r.limit = some (r.read + n))
    (hrest : r.rest = bodies.flatMap putBytes ++ tail)
    (hbodies : ∀ body ∈ bodies, body.length < 2 ^ 32) :
    r.after bodies.length = { r with rest := tail, read := r.read + n } := by
  induction bodies generalizing r n with
  | nil =>
    cases hn
    rw [List.flatMap_nil, List.nil_append] at hrest
    rw [List.length_nil, after, ← hrest, Nat.add_zero]
  | cons body bodies ih =>
    obtain ⟨hbody, hbodies⟩ := List.forall_mem_cons.1 hbodies
    rw [List.flatMap_cons, List.append_assoc] at hrest
    have hmore : n ≠ 0 → ¬ r.limit.any (· ≤ r.read) = true := by
      intro hpos
      simp only [hlimit, Option.any_some, decide_eq_true_eq]
      omega
    have hlater : ∀ m, Spends m (bodies.map (rowOfBody r.schema)) →
        m + rowCount [rowOfBody r.schema body] = n → n ≠ 0 →
        r.after (bodies.length + 1) = { r with rest := tail, read := r.read + n } := by
      intro m hm hcount hpos
      let r' : Reader :=
        { r with
          rest := bodies.flatMap putBytes ++ tail
          read := r.read + rowCount [rowOfBody r.schema body] }
      have hread : r'.read + m = r.read + n := by
        show r.read + rowCount [rowOfBody r.schema body] + m = r.read + n
        omega
      have hlimit' : r'.limit = some (r'.read + m) := by rw [hread, ← hlimit]
      rw [after, next_record (hmore hpos) hrest hbody, show r'.after bodies.length = _ from
        ih hm hlimit' rfl hbodies, hread]
    rw [List.map_cons] at hn
    rw [List.length_cons]
    generalize hitem : rowOfBody r.schema body = item at hn hlater
    cases hn with
    | row h => exact hlater _ h rfl (Nat.succ_ne_zero _)
    | fault h => exact hlater _ h rfl (Nat.succ_ne_zero _)

end Reader

/-- A stream behind its header, read with a limit of rows. -/
structure Limited (s : Schema) (b : Bytes) (n : Nat) : Prop where
  unlimited : ∀ k, (Reader.start s 0 b).answer k = (items s none b)[k]?
  /-- The calls give the items up to the last row of the limit, and then nothing. -/
  answers : ∀ k, (Reader.start s n b).answer k = (throughRows n (items s none b))[k]?
  /-- Where the limit is reached, the record of its last row is the last that is read. Whatever
  stands behind it is left as it is, and the calls do not depend on it. -/
  unread : n ≤ rowCount (items s none b) → ∃ (bodies : List Bytes) (tail : Bytes),
    b = bodies.flatMap putBytes ++ tail ∧
    bodies.map (rowOfBody s) = throughRows n (items s none b) ∧
    ∀ tail' k,
      (Reader.start s n (bodies.flatMap putBytes ++ tail')).answer k =
        (bodies.map (rowOfBody s))[k]? ∧
      (bodies.length ≤ k →
        ((Reader.start s n (bodies.flatMap putBytes ++ tail')).after k).rest = tail')

theorem limited (s : Schema) (b : Bytes) {n : Nat} (hn : 0 < n) : Limited s b n := by
  have hlimit : limitOf n = some n := if_neg (by omega)
  have hanswer : ∀ b' k,
      (Reader.start s n b').answer k = (throughRows n (items s none b'))[k]? := by
    intro b' k
    rw [Reader.answer_eq, Reader.items, Reader.start, hlimit, ← items_eq_throughRows]
    rfl
  refine ⟨fun k => (Reader.start s 0 b).answer_eq k, hanswer b, fun henough => ?_⟩
  obtain ⟨bodies, tail, hb, hbodies, hitems⟩ := exists_records s henough
  have hspends : Spends n (bodies.map (rowOfBody s)) := by
    rw [hitems]
    exact spends_throughRows henough
  refine ⟨bodies, tail, hb, hitems, fun tail' k => ⟨?_, fun hk => ?_⟩⟩
  · rw [hanswer, items_framed s bodies tail' hbodies, hspends.throughRows_append]
  · let r := Reader.start s n (bodies.flatMap putBytes ++ tail')
    have hstart : r.limit = some (r.read + n) := by
      rw [show r.limit = some n from hlimit, show r.read = 0 from rfl, Nat.zero_add]
    have hread := Reader.after_records (r := r) hspends hstart rfl hbodies
    obtain ⟨j, rfl⟩ := Nat.exists_eq_add_of_le hk
    show (r.after (bodies.length + j)).rest = tail'
    rw [r.after_add, hread, Reader.after_spent hstart]

end BulkLoad.Cube
