import BulkLoad.Proofs.Cube.Framing

/-!
What can be wrong with the bytes of a stream. Readers blame the bytes for it, and neither the host
nor a row that was to be written, so that a step takes each of these faults for one of the format.
-/

namespace BulkLoad.Cube

variable {α β : Type}

/-- The error is about the bytes of a stream. -/
def Error.ofBytes : Error → Bool
  | host _ | encode _ => false
  | _ => true

/-- A fault of the format ends the step. -/
def IsFormatFault (f : Fault) : Prop :=
  f.category = .encoding ∧ f.code = "CUBE_FORMAT" ∧ f.scope = .step

/-- A fault of the host ends it too. -/
def IsHostFault (f : Fault) : Prop :=
  f.category = .resource ∧ f.code = "CUBE_IO" ∧ f.scope = .step

theorem isFormatFault_of_ofBytes {e : Error} (h : e.ofBytes = true) : IsFormatFault e.fault := by
  cases e with
  | host m | encode x => cases h
  | _ => exact ⟨rfl, rfl, rfl⟩

/-- A reader that finds nothing wrong but with the bytes. -/
def Candid (t : Taker α) : Prop := ∀ b e, t b = .error e → e.ofBytes = true

namespace Candid

theorem fault {e : Error} (h : e.ofBytes = true) : Candid (fun _ => .error e : Taker α) := by
  rintro b e' ⟨⟩
  exact h

theorem taken (a : α) : Candid (fun b => .ok (a, b) : Taker α) := nofun

theorem bind {t : Taker α} {k : α × Bytes → Except Error (β × Bytes)} (ht : Candid t)
    (hk : ∀ a, Candid fun b => k (a, b)) : Candid fun b => t b >>= k := by
  intro b e (h : (t b >>= k) = .error e)
  cases htaken : t b with
  | error e' =>
    rw [htaken] at h
    cases h
    exact ht b _ htaken
  | ok read =>
    rw [htaken] at h
    exact hk read.1 read.2 e h

end Candid

theorem candid_take (n : Nat) (part : Part) : Candid (take n part) := by
  intro b e h
  simp only [take] at h
  split at h
  · cases h
  · cases h
    rfl

theorem candid_takeNat (width : Nat) (part : Part) : Candid (takeNat width part) :=
  (candid_take width part).bind fun front => .taken (Bytes.toNat front)

theorem candid_takeBytes (part : Part) : Candid (takeBytes part) :=
  (candid_takeNat 4 part).bind fun n => candid_take n part

theorem candid_takeText (part : Part) : Candid (takeText part) := by
  refine (candid_takeBytes part).bind fun x => ?_
  dsimp only
  cases Bytes.toText? x with
  | none => exact .fault rfl
  | some s => exact .taken s

theorem candid_takeByte (part : Part) : Candid (takeByte part) := by
  intro b e h
  cases b with
  | nil =>
    cases h
    rfl
  | cons x rest => cases h

theorem candid_takePayload (f : Field) (tag : UInt8) (k : Kind) : Candid (takePayload f tag k) := by
  cases k with
  | text => exact (candid_takeText .text).bind fun s => .taken (Cell.text s)
  | integer => exact (candid_takeNat 8 .integer).bind fun n => .taken _
  | number => exact (candid_takeNat 8 .number).bind fun n => .taken _
  | decimal =>
    refine (candid_takeText .decimal).bind fun s => ?_
    dsimp only
    cases Decimal.ofText? s with
    | none => exact .fault rfl
    | some d => exact .taken _
  | date =>
    refine (candid_takeNat 8 .date).bind fun second => ?_
    refine (candid_takeNat 4 .date).bind fun nano => ?_
    dsimp only
    cases Instant.ofTimestamp? (UInt64.ofNat second).toInt64.toInt nano with
    | none => exact .fault rfl
    | some t => exact .taken _
  | boolean => exact (candid_takeByte .boolean).bind fun x => .taken _
  | binary => exact (candid_takeBytes .binary).bind fun x => .taken _
  | unresolved => exact .fault rfl

theorem candid_takeCell (f : Field) : Candid (takeCell f) := by
  refine (candid_takeByte .tag).bind fun tag => ?_
  dsimp only
  by_cases hnull : tag = nullTag
  · simp only [if_pos hnull]
    exact .taken Cell.null
  simp only [if_neg hnull]
  cases Kind.ofTag? tag with
  | none => exact .fault rfl
  | some k =>
    dsimp only
    by_cases hkind : k = f.kind
    · simp only [if_pos hkind]
      exact candid_takePayload f tag k
    · simp only [if_neg hkind]
      exact .fault rfl

theorem candid_takeCells (fields : List Field) : Candid (takeCells fields) := by
  induction fields with
  | nil => exact .taken []
  | cons f fields ih =>
    exact (candid_takeCell f).bind fun c => ih.bind fun row => .taken (c :: row)

theorem ofBytes_of_rowOfBody {s : Schema} {body : Bytes} {e : Error}
    (h : rowOfBody s body = .error e) : e.ofBytes = true := by
  unfold rowOfBody at h
  cases htaken : takeCells s.fields body with
  | error e' =>
    rw [htaken] at h
    cases h
    exact candid_takeCells s.fields body _ htaken
  | ok read =>
    obtain ⟨row, rest⟩ := read
    rw [htaken] at h
    dsimp only [Bind.bind, Except.bind] at h
    split at h
    · cases h
    · cases h
      rfl

/-- The faults among the items of a stream are about its bytes. -/
theorem ofBytes_of_items {s : Schema} {limit : Option Nat} {b : Bytes} {e : Error}
    (h : .error e ∈ items s limit b) : e.ofBytes = true := by
  induction hlength : b.length using Nat.strongRecOn generalizing limit b with
  | ind length ih =>
    subst hlength
    by_cases hl : limit = some 0
    · rw [hl, items_exhausted] at h
      cases h
    cases hf : frame b with
    | finished =>
      rw [items_finished hf] at h
      cases h
    | cut part =>
      rw [items_cut hl hf, List.mem_singleton] at h
      cases h
      rfl
    | record body rest =>
      rw [items_record hl hf, List.mem_cons] at h
      rcases h with hrow | hrest
      · exact ofBytes_of_rowOfBody hrow.symm
      · exact ih rest.length (frame_record_rest_length hf) hrest rfl

theorem mem_of_mem_throughFault {ε α : Type} {l : List (Except ε α)} {item : Except ε α}
    (h : item ∈ throughFault l) : item ∈ l := by
  induction l with
  | nil => exact h
  | cons first l ih =>
    cases first with
    | ok a =>
      rcases List.mem_cons.1 h with rfl | hrest
      · exact List.mem_cons_self
      · exact List.mem_cons_of_mem _ (ih hrest)
    | error e =>
      rw [List.mem_singleton.1 h]
      exact List.mem_cons_self

end BulkLoad.Cube
