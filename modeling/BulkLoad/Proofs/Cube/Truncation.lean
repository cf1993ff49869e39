import BulkLoad.Proofs.Cube.Framing
import BulkLoad.Proofs.Cube.RoundTrip

/-!
Streams that are cut off. A header with bytes missing is always read as cut off. Behind a whole
header the records that are whole come back, and then the end, if nothing is left of the next
record, or the fault that the stream is cut off.
-/

namespace BulkLoad.Cube

theorem steady_takeOption (part : Part) : Steady (takeOption part) := by
  refine (steady_takeNat 1 part).bind fun marker => ?_
  dsimp only
  by_cases hzero : marker = 0
  · simp only [if_pos hzero]
    exact .taken none
  simp only [if_neg hzero]
  by_cases hone : marker = 1
  · simp only [if_pos hone]
    exact (steady_takeNat 4 part).bind fun n => .taken (some (UInt32.ofNat n))
  · simp only [if_neg hone]
    exact .fault _

theorem steady_takeField : Steady takeField := by
  refine (steady_takeText .fieldName).bind fun name => ?_
  refine (steady_takeByte .fieldKind).bind fun tag => ?_
  dsimp only
  cases Kind.ofTag? tag with
  | none => exact .fault _
  | some kind =>
    refine (steady_takeOption .fieldLength).bind fun length => ?_
    dsimp only
    refine (steady_takeOption .fieldPrecision).bind fun precision => ?_
    dsimp only
    exact (steady_takeText .fieldOrigin).bind fun origin =>
      .taken (⟨name, kind, length, precision, origin⟩ : Field)

theorem steady_takeFields (n : Nat) (s : Schema) : Steady (takeFields n s) := by
  induction n generalizing s with
  | zero => exact .taken s
  | succ n ih =>
    refine steady_takeField.bind fun f => ?_
    dsimp only
    cases s.add f with
    | error e => exact .fault _
    | ok longer => exact ih longer

theorem steady_takeHeader : Steady takeHeader := by
  refine (steady_take magic.length .magic).bind fun m => ?_
  dsimp only
  by_cases hmagic : m ≠ magic
  · simp only [if_pos hmagic]
    exact .fault _
  simp only [if_neg hmagic]
  refine (steady_takeNat 2 .version).bind fun v => ?_
  dsimp only
  by_cases hversion : v ≠ version
  · simp only [if_pos hversion]
    exact .fault _
  simp only [if_neg hversion]
  exact (steady_takeNat 4 .fieldCount).bind fun count => steady_takeFields count .empty

/-- A header that breaks off is read as cut off, wherever it breaks off. -/
theorem takeHeader_take {s : Schema} (hs : Fits s) {k : Nat} (hk : k < (putHeader s).length) :
    ∃ part, takeHeader ((putHeader s).take k) = .error (.truncated part) := by
  have hwhole := takeHeader_putHeader hs []
  rw [List.append_nil] at hwhole
  exact steady_takeHeader.truncated hwhole hk

/-- A record that breaks off is found to be cut off. -/
theorem frame_take {body : Bytes} (h : body.length < 2 ^ 32) {k : Nat} (hpos : 0 < k)
    (hk : k < (putBytes body).length) : ∃ part, frame ((putBytes body).take k) = .cut part := by
  have hwhole := takeBytes_putBytes h .recordBody []
  rw [List.append_nil] at hwhole
  obtain ⟨part, hpart⟩ := (steady_takeBytes .recordBody).truncated hwhole hk
  have hempty : ((putBytes body).take k).isEmpty = false := by
    rw [List.isEmpty_eq_false_iff, ← List.length_pos_iff, List.length_take]
    omega
  rw [frame, hempty, hpart]
  exact ⟨_, rfl⟩

/-- How many bytes the first `n` records take. -/
def recordsLength (rows : List Row) (n : Nat) : Nat := ((rows.take n).flatMap recordOf).length

/-- Where the first `n` records of a stream end. -/
def recordEnd (s : Schema) (rows : List Row) (n : Nat) : Nat :=
  (putHeader s).length + recordsLength rows n

theorem recordsLength_cons (row : Row) (rows : List Row) (n : Nat) :
    recordsLength (row :: rows) (n + 1) = (recordOf row).length + recordsLength rows n := by
  simp [recordsLength]

theorem recordsLength_mono (rows : List Row) {m n : Nat} (h : m ≤ n) :
    recordsLength rows m ≤ recordsLength rows n := by
  obtain ⟨k, rfl⟩ := Nat.exists_eq_add_of_le h
  simp [recordsLength, List.take_add]

/-- What comes behind the rows of a stream that is cut off, by whether it is cut at the end of a
record. -/
inductive CutOff (between : Prop) : List (Except Error Row) → Prop
  | clean (h : between) : CutOff between []
  | torn (h : ¬between) (part : Part) : CutOff between [.error (.truncated part)]

theorem CutOff.congr_between {p q : Prop} {ending : List (Except Error Row)} (h : CutOff p ending)
    (hpq : p ↔ q) : CutOff q ending := by
  cases h with
  | clean hp => exact .clean (hpq.1 hp)
  | torn hp part => exact .torn (mt hpq.2 hp) part

/-- The records of a stream that is cut off: `n` of them are whole. -/
theorem items_take {s : Schema} {rows : List Row}
    (ha : ∀ row ∈ rows, List.Forall₂ Field.Admits s.fields row)
    (h : ∀ row ∈ rows, (bodyOf row).length < 2 ^ 32) {k : Nat}
    (hk : k ≤ (rows.flatMap recordOf).length) :
    ∃ n ≤ rows.length, (∀ m ≤ rows.length, recordsLength rows m ≤ k ↔ m ≤ n) ∧
      ∃ ending, CutOff (k = recordsLength rows n) ending ∧
        items s none ((rows.flatMap recordOf).take k) =
          (rows.take n).map (fun row => .ok (row.map Cell.settled)) ++ ending := by
  induction rows generalizing k with
  | nil =>
    obtain rfl : k = 0 := by simpa using hk
    refine ⟨0, Nat.le_refl _, fun m hm => iff_of_true ?_ hm, [], .clean rfl, items_finished rfl⟩
    simp [recordsLength]
  | cons row rows ih =>
    obtain ⟨harow, harows⟩ := List.forall_mem_cons.1 ha
    obtain ⟨hrow, hrows⟩ := List.forall_mem_cons.1 h
    have hlength : (List.flatMap recordOf (row :: rows)).length =
        (recordOf row).length + (rows.flatMap recordOf).length := by simp
    rw [hlength] at hk
    rw [List.flatMap_cons, List.take_append]
    -- Either the first record is whole, and the cut is in what follows it, or nothing follows it.
    by_cases hwhole : (recordOf row).length ≤ k
    · obtain ⟨n, hn, hends, ending, hending, hitems⟩ :=
        ih harows hrows (show k - (recordOf row).length ≤ (rows.flatMap recordOf).length by omega)
      have hframe := frame_putBytes hrow
        ((rows.flatMap recordOf).take (k - (recordOf row).length))
      have hend := recordsLength_cons row rows n
      refine ⟨n + 1, by simpa using hn, ?_, ending, hending.congr_between (by omega), ?_⟩
      · intro m hm
        cases m with
        | zero => exact iff_of_true (Nat.zero_le _) (Nat.zero_le _)
        | succ m =>
          have := hends m (by simpa using hm)
          rw [recordsLength_cons]
          omega
      · rw [List.take_of_length_le hwhole]
        show items s none (putBytes (bodyOf row) ++ _) = _
        rw [items_record (by simp) hframe, remaining_none, rowOfBody_bodyOf harow hrow, hitems]
        simp
    · have hrest : k - (recordOf row).length = 0 := by omega
      rw [hrest, List.take_zero, List.append_nil]
      refine ⟨0, Nat.zero_le _, ?_, ?_⟩
      · intro m hm
        cases m with
        | zero => exact iff_of_true (Nat.zero_le _) (Nat.le_refl _)
        | succ m =>
          rw [recordsLength_cons]
          omega
      by_cases hzero : k = 0
      · refine ⟨[], .clean hzero, ?_⟩
        rw [hzero]
        exact items_finished rfl
      · obtain ⟨part, hpart⟩ := frame_take hrow (show 0 < k by omega) (by rw [← recordOf]; omega)
        exact ⟨_, .torn hzero part, items_cut (by simp) hpart⟩

/-- A stream cut off short of its end is never taken for another one. Within the header there is no
schema to be had; behind it just the rows come back whose records are whole, and then the end, if
the cut is where a record ends, or the fault that bytes are missing. -/
theorem read_take {s : Schema} (hs : Fits s) (rows : List Row)
    (hrows : ∀ row ∈ rows, s.check row = .ok () → (bodyOf row).length < 2 ^ 32) {k : Nat}
    (hk : k < (Writer.after s rows).bytes.length) :
    let kept := accepted s rows
    let cut := (Writer.after s rows).bytes.take k
    (k < (putHeader s).length → ∃ part, takeHeader cut = .error (.truncated part) ∧
      read cut 0 = .error (.truncated part)) ∧
    ((putHeader s).length ≤ k → ∃ n ≤ kept.length,
      (∀ i < kept.length, i < n ↔ recordEnd s kept (i + 1) ≤ k) ∧
      ∃ back ending, List.Forall₂ (List.Forall₂ Cell.Same) (kept.take n) back ∧
        read cut 0 = .ok ⟨s, back.map .ok ++ ending⟩ ∧
        CutOff (∃ m ≤ kept.length, k = recordEnd s kept m) ending) := by
  intro kept cut
  have hbytes : (Writer.after s rows).bytes = putHeader s ++ kept.flatMap recordOf :=
    (Writer.after_eq s rows).2.1
  have hmem : ∀ row ∈ kept, row ∈ rows ∧ s.check row = .ok () :=
    fun row hrow => mem_accepted_iff.1 hrow
  rw [hbytes, List.length_append] at hk
  constructor
  · intro hshort
    have hcut : cut = (putHeader s).take k := by
      show (Writer.after s rows).bytes.take k = _
      rw [hbytes, List.take_append_of_le_length (Nat.le_of_lt hshort)]
    obtain ⟨part, hpart⟩ := takeHeader_take hs hshort
    rw [hcut]
    exact ⟨part, hpart, by rw [read, hpart]; rfl⟩
  · intro hlong
    have hcut : cut = putHeader s ++ (kept.flatMap recordOf).take (k - (putHeader s).length) := by
      show (Writer.after s rows).bytes.take k = _
      rw [hbytes, List.take_append, List.take_of_length_le hlong]
    obtain ⟨n, hn, hends, ending, hending, hitems⟩ := items_take
      (fun row hrow => Schema.check_eq_ok_iff.1 (hmem row hrow).2)
      (fun row hrow => hrows row (hmem row hrow).1 (hmem row hrow).2)
      (show k - (putHeader s).length ≤ (kept.flatMap recordOf).length by omega)
    have hend : ∀ m ≤ kept.length, recordEnd s kept m ≤ k ↔ m ≤ n := by
      intro m hm
      rw [← hends m hm, recordEnd]
      omega
    refine ⟨n, hn, fun i hi => (hend (i + 1) hi).symm, (kept.take n).map (List.map Cell.settled),
      ending, same_settled_rows _, ?_, ?_⟩
    · rw [hcut, read_putHeader hs, hitems, List.map_map]
      rfl
    · refine hending.congr_between ⟨?_, ?_⟩
      · intro h
        exact ⟨n, hn, by rw [recordEnd]; omega⟩
      · rintro ⟨m, hm, hkm⟩
        have hmn := recordsLength_mono kept ((hend m hm).1 (Nat.le_of_eq hkm.symm))
        have hle := (hends n hn).2 (Nat.le_refl n)
        rw [recordEnd] at hkm
        omega

/-- Two bytes into the length of the second record, there is the first row and then the fault. -/
theorem read_take_torn :
    let s : Schema := ⟨[{ name := "amount", kind := .decimal }], List.pairwise_singleton _ _⟩
    let rows : List Row := [[.decimal ⟨150, 2⟩], [.text "?"], [.null]]
    ∃ back part, List.Forall₂ (List.Forall₂ Cell.Same) [[.decimal ⟨150, 2⟩]] back ∧
      read ((Writer.after s rows).bytes.take 46) 0 =
        .ok ⟨s, back.map .ok ++ [.error (.truncated part)]⟩ := by
  intro s rows
  have hs : Fits s := ⟨by decide, by decide, by decide⟩
  have hrows : ∀ row ∈ rows, s.check row = .ok () → (bodyOf row).length < 2 ^ 32 := by
    decide +kernel
  have hk : 46 < (Writer.after s rows).bytes.length := by decide +kernel
  obtain ⟨n, hn, hwhole, back, ending, hback, hread, hcut⟩ :=
    (read_take hs rows hrows hk).2 (by decide +kernel)
  have hfirst := (hwhole 0 (by decide +kernel)).2 (by decide +kernel)
  have hsecond := (hwhole 1 (by decide +kernel)).not.2 (by decide +kernel)
  obtain rfl : n = 1 := by omega
  have hkept : (accepted s rows).take 1 = [[.decimal ⟨150, 2⟩]] := by decide +kernel
  rw [hkept] at hback
  cases hcut with
  | clean h => exact absurd h (by decide +kernel)
  | torn h part => exact ⟨back, part, hback, hread⟩

end BulkLoad.Cube
