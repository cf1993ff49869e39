import BulkLoad.Proofs.Text
import BulkLoad.Sink.Tail
import Mathlib.Data.List.Forall2
import Mathlib.Data.List.Induction

/-!
What is kept of the lines of a stream: the longest end of them that is within the budget of bytes.
A line that is cut is within the budget by itself, so the last one is always kept; and each line
that goes was counted in full, so the count never falls below the bytes that are taken off it. The
text of a stream is made of the lines that are kept of it.
-/

namespace BulkLoad.Sink.Tail

/-- The bytes of lines with their ends. -/
def total : List String → Nat
  | [] => 0
  | line :: rest => line.utf8ByteSize + 1 + total rest

/-- The longest end of some lines that is within a budget. -/
structure LongestEnd (budget : Nat) (lines kept : List String) : Prop where
  suffix : kept <:+ lines
  within : total kept ≤ budget
  longest : ∀ other, other <:+ lines → total other ≤ budget → other.length ≤ kept.length

/-- The first line goes, and its bytes off the count, as long as the count is over the budget. The
count holds these bytes each time, and comes within the budget before the lines are used up. -/
inductive Trims (budget : Nat) : List String → Nat → List String → Nat → Prop
  | done {lines : List String} {bytes : Nat} (within : bytes ≤ budget) :
      Trims budget lines bytes lines bytes
  | drop {line : String} {rest kept : List String} {bytes left : Nat} (exceeds : budget < bytes)
      (counted : line.utf8ByteSize + 1 ≤ bytes)
      (trims : Trims budget rest (bytes - (line.utf8ByteSize + 1)) kept left) :
      Trims budget (line :: rest) bytes kept left

theorem cost_eq (line : String) : cost line = line.utf8ByteSize + 1 := rfl

@[simp] theorem total_nil : total [] = 0 := rfl

@[simp] theorem total_cons (line : String) (rest : List String) :
    total (line :: rest) = cost line + total rest := rfl

@[simp] theorem total_append (front back : List String) :
    total (front ++ back) = total front + total back := by
  induction front with
  | nil => exact (Nat.zero_add _).symm
  | cons line front ih => rw [List.cons_append, total_cons, total_cons, ih, Nat.add_assoc]

/-! ### The cost of a line -/

theorem lengthOfText_ofList_le (cs : List Char) :
    Bytes.lengthOfText (String.ofList cs) ≤ 4 * cs.length := by
  induction cs with
  | nil => exact Nat.le_refl 0
  | cons c cs ih =>
    have hchar := c.utf8Size_le_four
    rw [Bytes.lengthOfText] at ih ⊢
    rw [String.ofList_cons, String.utf8ByteSize_append, String.utf8ByteSize_singleton,
      List.length_cons]
    omega

theorem cost_cut_le (line : String) : cost (cut line) ≤ tailBytes := by
  have hchars := List.length_take_le lineChars line.toList
  have hbytes := lengthOfText_ofList_le (line.toList.take lineChars)
  have hroom : 4 * lineChars + 1 ≤ tailBytes := by decide
  rw [cost, cut]
  omega

/-- The ends that are counted stand between the lines, but for the last. -/
theorem lengthOfText_joined (line : String) (rest : List String) :
    Bytes.lengthOfText ("\n".intercalate (line :: rest)) + 1 = total (line :: rest) := by
  induction rest generalizing line with
  | nil => rw [String.intercalate_singleton, total_cons, total_nil, cost, Nat.add_zero]
  | cons next rest ih =>
    have hrest := ih next
    have hend : "\n".utf8ByteSize = 1 := rfl
    rw [Bytes.lengthOfText] at hrest ⊢
    rw [String.intercalate_cons_cons, String.utf8ByteSize_append, String.utf8ByteSize_append, hend,
      Nat.add_assoc, hrest, total_cons line, cost, Bytes.lengthOfText]

/-! ### What lines leave when they are trimmed -/

section Trims

variable {budget : Nat} {lines kept : List String} {bytes left : Nat}

theorem dropFront_of_le (h : bytes ≤ tailBytes) : dropFront lines bytes = (lines, bytes) := by
  cases lines with
  | nil => rfl
  | cons line rest => rw [dropFront, if_neg (Nat.not_lt.2 h)]

theorem trims_dropFront (h : bytes = total lines) :
    Trims tailBytes lines bytes (dropFront lines bytes).1 (dropFront lines bytes).2 := by
  induction lines generalizing bytes with
  | nil => exact .done (by simp [h])
  | cons line rest ih =>
    by_cases hover : tailBytes < bytes
    · rw [total_cons, cost_eq] at h
      rw [dropFront, if_pos hover, cost_eq]
      exact .drop hover (by omega) (ih (by omega))
    · rw [Nat.not_lt] at hover
      rw [dropFront_of_le hover]
      exact .done hover

theorem Trims.bytes_eq (h : Trims budget lines bytes kept left) (hcount : bytes = total lines) :
    left = total kept := by
  induction h with
  | done within => exact hcount
  | drop exceeds counted trims ih =>
    rw [total_cons, cost_eq] at hcount
    exact ih (by omega)

theorem Trims.within (h : Trims budget lines bytes kept left) : left ≤ budget := by
  induction h with
  | done within => exact within
  | drop exceeds counted trims ih => exact ih

theorem Trims.suffix (h : Trims budget lines bytes kept left) : kept <:+ lines := by
  induction h with
  | done within => exact List.suffix_rfl
  | drop exceeds counted trims ih => exact ih.trans (List.suffix_cons _ _)

/-- An end within the budget outlasts the trimming. -/
theorem Trims.keeps {other : List String} (h : Trims budget lines bytes kept left)
    (hcount : bytes = total lines) (hend : other <:+ lines) (hfits : total other ≤ budget) :
    other <:+ kept := by
  induction h with
  | done within => exact hend
  | drop exceeds counted trims ih =>
    rcases List.suffix_cons_iff.1 hend with rfl | hrest
    · -- A line goes only while all the lines together are over the budget.
      omega
    · rw [total_cons, cost_eq] at hcount
      exact ih (by omega) hrest

theorem Trims.longestEnd (h : Trims budget lines bytes kept left) (hcount : bytes = total lines) :
    LongestEnd budget lines kept where
  suffix := h.suffix
  within := h.bytes_eq hcount ▸ h.within
  longest _ hend hfits := (h.keeps hcount hend hfits).length_le

theorem LongestEnd.unique {other : List String} (h : LongestEnd budget lines kept)
    (hother : LongestEnd budget lines other) : other = kept := by
  have hlength : other.length = kept.length :=
    Nat.le_antisymm (h.longest other hother.suffix hother.within)
      (hother.longest kept h.suffix h.within)
  have hsuffix : other <:+ kept :=
    List.suffix_of_suffix_length_le hother.suffix h.suffix (Nat.le_of_eq hlength)
  exact hsuffix.eq_of_length hlength

/-- The longest end need not be found among all lines again when one more comes. -/
theorem LongestEnd.concat {line : String} {next : List String} (h : LongestEnd budget lines kept)
    (hnext : LongestEnd budget (kept ++ [line]) next) :
    LongestEnd budget (lines ++ [line]) next where
  suffix := hnext.suffix.trans (List.suffix_concat_iff.2 (.inr ⟨kept, rfl, h.suffix⟩))
  within := hnext.within
  longest other hend hfits := by
    apply hnext.longest other _ hfits
    rcases List.suffix_concat_iff.1 hend with rfl | ⟨front, rfl, hfront⟩
    · exact List.nil_suffix
    · -- The earlier lines of this end fitted before as well, so none of them is gone.
      have hless : total front ≤ budget := by
        rw [total_append] at hfits
        omega
      have hshort := h.longest front hfront hless
      exact List.suffix_concat_iff.2
        (.inr ⟨front, rfl, List.suffix_of_suffix_length_le hfront h.suffix hshort⟩)

theorem LongestEnd.getLast? {line : String} (h : LongestEnd budget (lines ++ [line]) kept)
    (hfits : cost line ≤ budget) : kept.getLast? = some line := by
  have hlength := h.longest [line] (List.suffix_append _ _) (by simpa using hfits)
  rcases List.suffix_concat_iff.1 h.suffix with rfl | ⟨front, rfl, -⟩
  · simp at hlength
  · exact List.getLast?_concat

end Trims

/-! ### One push -/

theorem dropFront_append (front back : List String) (bytes : Nat) :
    dropFront (front ++ back) bytes =
      match dropFront front bytes with
      | ([], left) => dropFront back left
      | (kept, left) => (kept ++ back, left) := by
  induction front generalizing bytes with
  | nil => rfl
  | cons line rest ih =>
    by_cases hover : tailBytes < bytes
    · rw [List.cons_append, dropFront, if_pos hover, ih, dropFront, if_pos hover]
    · rw [Nat.not_lt] at hover
      rw [dropFront_of_le hover, dropFront_of_le hover]

/-- That the later lines are kept backwards makes no difference to what goes. -/
theorem shrink_eq (t : Tail) :
    t.shrink.lines = (dropFront t.lines t.bytes).1 ∧
      t.shrink.bytes = (dropFront t.lines t.bytes).2 := by
  have hfront : dropFront t.lines t.bytes = _ := dropFront_append t.earlier t.later.reverse t.bytes
  rw [hfront, shrink]
  rcases dropFront t.earlier t.bytes with ⟨_ | ⟨line, rest⟩, left⟩
  · dsimp only
    by_cases hover : tailBytes < left
    · rw [if_pos hover]
      exact ⟨List.append_nil _, rfl⟩
    · rw [if_neg hover, dropFront_of_le (Nat.not_lt.1 hover)]
      exact ⟨rfl, rfl⟩
  · exact ⟨rfl, rfl⟩

/-- The lines that are kept have the bytes that are counted. -/
structure Counted (t : Tail) : Prop where
  bytes_eq : t.bytes = total t.lines
  within : t.bytes ≤ tailBytes

variable {t : Tail}

theorem Counted.bytes_add (h : t.Counted) (line : String) :
    t.bytes + cost line = total (t.lines ++ [line]) := by
  simp [h.bytes_eq]

/-- A push is the line put behind the others, and the trimming of them all. -/
theorem Counted.trims_push (h : t.Counted) (line : String) :
    Trims tailBytes (t.lines ++ [cut line]) (t.bytes + cost (cut line)) (t.push line).lines
      (t.push line).bytes := by
  let longer : Tail := { t with later := cut line :: t.later, bytes := t.bytes + cost (cut line) }
  have hlines : longer.lines = t.lines ++ [cut line] := by simp [longer, lines]
  obtain ⟨hkept, hleft⟩ := shrink_eq longer
  rw [hlines] at hkept hleft
  rw [push, hkept, hleft]
  exact trims_dropFront (h.bytes_add (cut line))

theorem Counted.longestEnd_push (h : t.Counted) (line : String) :
    LongestEnd tailBytes (t.lines ++ [cut line]) (t.push line).lines :=
  (h.trims_push line).longestEnd (h.bytes_add (cut line))

theorem Counted.push (h : t.Counted) (line : String) : (t.push line).Counted where
  bytes_eq := (h.trims_push line).bytes_eq (h.bytes_add (cut line))
  within := (h.trims_push line).within

/-! ### All pushes -/

/-- What is kept once some lines are pushed, one behind the other. -/
def ofLines (pushed : List String) : Tail := pushed.foldl push {}

theorem ofLines_concat (pushed : List String) (line : String) :
    ofLines (pushed ++ [line]) = (ofLines pushed).push line := by
  rw [ofLines, List.foldl_append]
  rfl

theorem tailText_eq (stream : Bytes) :
    tailText stream = (ofLines ((splitLines [] [] stream).reverse.map lineText)).text := by
  rw [tailText, ofLines, List.foldl_map]

/-- After any lines the count is right, and what is kept is the longest end within the budget. -/
theorem counted_ofLines (pushed : List String) :
    (ofLines pushed).Counted ∧ LongestEnd tailBytes (pushed.map cut) (ofLines pushed).lines := by
  induction pushed using List.reverseRecOn with
  | nil =>
    refine ⟨⟨rfl, Nat.zero_le _⟩, List.suffix_rfl, Nat.zero_le _, fun other hend _ => ?_⟩
    rw [List.suffix_nil.1 hend]
    exact Nat.le_refl _
  | append_singleton pushed line ih =>
    obtain ⟨hcounted, hlongest⟩ := ih
    rw [ofLines_concat, List.map_append]
    exact ⟨hcounted.push line, hlongest.concat (hcounted.longestEnd_push line)⟩

theorem Counted.lengthOfText_lt (h : t.Counted) : Bytes.lengthOfText t.text < tailBytes := by
  have hwithin := h.within
  rw [h.bytes_eq] at hwithin
  rw [text]
  cases hlines : t.lines with
  | nil => decide
  | cons line rest =>
    rw [hlines] at hwithin
    have hjoined := lengthOfText_joined line rest
    omega

/-- Whatever lines are pushed, each is cut to its first 2048 characters, and what is kept is exactly
the longest end of them that is within 16384 bytes; its bytes are counted, and it is less than that
as a text. The next line is put behind it, the first lines go one by one while the count is over the
budget and holds their bytes, and the line itself is kept. -/
theorem keeps_longest_end (pushed : List String) :
    (ofLines pushed).bytes = total (ofLines pushed).lines ∧ (ofLines pushed).bytes ≤ 16384 ∧
      (∀ kept,
        LongestEnd 16384 (pushed.map fun line => String.ofList (line.toList.take 2048)) kept ↔
          kept = (ofLines pushed).lines) ∧
      (ofLines pushed).text.toList =
        ['\n'].intercalate ((ofLines pushed).lines.map String.toList) ∧
      (ofLines pushed).text.utf8ByteSize < 16384 ∧
      ∀ line, (ofLines (pushed ++ [line])).lines.getLast? =
          some (String.ofList (line.toList.take 2048)) ∧
        Trims 16384 ((ofLines pushed).lines ++ [String.ofList (line.toList.take 2048)])
          ((ofLines pushed).bytes + ((String.ofList (line.toList.take 2048)).utf8ByteSize + 1))
          (ofLines (pushed ++ [line])).lines (ofLines (pushed ++ [line])).bytes := by
  obtain ⟨hcounted, hlongest⟩ := counted_ofLines pushed
  refine ⟨hcounted.bytes_eq, hcounted.within, fun kept => ⟨hlongest.unique, ?_⟩, ?_,
    hcounted.lengthOfText_lt, fun line => ?_⟩
  · rintro rfl
    exact hlongest
  · exact String.toList_intercalate
  · rw [ofLines_concat]
    exact ⟨(hcounted.longestEnd_push line).getLast? (cost_cut_le line), hcounted.trims_push line⟩

/-! ### The text of a stream -/

/-- The lines of a stream, with the ends that they have; behind the last end there is a line only if
anything stands there. -/
inductive Lines : Bytes → List Bytes → Prop
  | none : Lines [] []
  | last {line : Bytes} (nonempty : line ≠ []) (unended : 0x0A ∉ line) : Lines line [line]
  | ended {line rest : Bytes} {lines : List Bytes} (unended : 0x0A ∉ line)
      (more : Lines rest lines) : Lines (line ++ 0x0A :: rest) ((line ++ [0x0A]) :: lines)

/-- The text of a line: its characters up to the last that is not part of a line end. -/
structure LineText (line : Bytes) (text : String) : Prop where
  cut : ∃ ends, (Text.lossy line).toList = text.toList ++ ends ∧ ∀ c ∈ ends, c = '\r' ∨ c = '\n'
  last : ∀ c, text.toList.getLast? = some c → c ≠ '\r' ∧ c ≠ '\n'

/-- The text that is kept of a stream: of the texts of its lines, each cut to its first 2048
characters, the longest end that is within 16384 bytes. A stream that has not ended in time counts
for nothing. -/
inductive Kept : Option Bytes → String → Prop
  | lost : Kept none ""
  | ended {stream : Bytes} {lines : List Bytes} {texts kept : List String}
      (split : Lines stream lines) (read : List.Forall₂ LineText lines texts)
      (longest : LongestEnd 16384
        (texts.map fun line => String.ofList (line.toList.take 2048)) kept) :
      Kept (some stream) ("\n".intercalate kept)

theorem exists_splitLines (done : List Bytes) {current : Bytes} (bytes : Bytes)
    (h : 0x0A ∉ current) : ∃ lines, Lines (current.reverse ++ bytes) lines ∧
      splitLines done current bytes = lines.reverse ++ done := by
  induction bytes generalizing done current with
  | nil =>
    cases current with
    | nil => exact ⟨[], .none, rfl⟩
    | cons b current =>
      refine ⟨[(b :: current).reverse], ?_, rfl⟩
      rw [List.append_nil]
      have hunended : 0x0A ∉ (b :: current).reverse := mt List.mem_reverse.1 h
      exact .last (by simp) hunended
  | cons b bytes ih =>
    by_cases hb : b = 0x0A
    · subst hb
      obtain ⟨lines, hlines, hsplit⟩ := ih ((0x0A :: current).reverse :: done) List.not_mem_nil
      refine ⟨(current.reverse ++ [0x0A]) :: lines, .ended (by simpa using h) hlines, ?_⟩
      rw [splitLines, if_pos rfl, hsplit]
      simp
    · have hnext : 0x0A ∉ b :: current := by simp [Ne.symm hb, h]
      obtain ⟨lines, hlines, hsplit⟩ := ih done hnext
      refine ⟨lines, by simpa using hlines, ?_⟩
      rw [splitLines, if_neg hb, hsplit]

theorem lineText_spec (line : Bytes) : LineText line (lineText line) := by
  obtain ⟨ends, hcut, hends, hlast⟩ :=
    Text.dropTrailing_cut (fun c => c == '\r' || c == '\n') (Text.lossy line).toList
  rw [← String.toList_ofList (l := Text.dropTrailing _ _), ← lineText] at hcut hlast
  refine ⟨⟨ends, hcut, fun c hc => ?_⟩, fun c hc => ?_⟩
  · simpa using hends c hc
  · simpa using hlast c hc

theorem kept_tailText (stream : Bytes) : Kept (some stream) (tailText stream) := by
  obtain ⟨lines, hlines, hsplit⟩ := exists_splitLines [] stream List.not_mem_nil
  have hread : List.Forall₂ LineText lines (lines.map lineText) := by
    rw [List.forall₂_map_right_iff, List.forall₂_same]
    exact fun line _ => lineText_spec line
  rw [tailText_eq, hsplit, List.append_nil, List.reverse_reverse]
  exact .ended hlines hread (counted_ofLines _).2

end BulkLoad.Sink.Tail
