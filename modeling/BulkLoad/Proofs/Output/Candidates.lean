import BulkLoad.Output
import BulkLoad.Proofs.Path.Stems
import Mathlib.Data.Nat.Digits.Defs

/-!
The siblings that may stand in for an output path. Each has the directory and the extension of the
path, and a stem of its own: that of the path with the time behind it, and from the second on a
number behind the time.
-/

namespace BulkLoad.Output

open BulkLoad.Path (IsEntry IsFileName lastPart)

/-! ### What is added to the stem -/

/-- What the stem of a stand-in has behind that of the path; the first has no number. -/
def suffixAt (time : Instant.Fields) (n : Nat) : String :=
  "_" ++ stamp time ++ if n = 0 then "" else "_" ++ toString n

section Suffix

variable {time : Instant.Fields} {m n : Nat}

/-- The characters of times and numbers. -/
def isStampChar (c : Char) : Bool := c.isDigit || c == '_' || c == '+' || c == '-'

theorem isStampChar_toDigits : ∀ c ∈ Nat.toDigits 10 n, isStampChar c = true := by
  intro c hc
  rw [isStampChar, Nat.isDigit_of_mem_toDigits (by decide) (by decide) hc]
  rfl

theorem isStampChar_zeroPadded (width n : Nat) :
    ∀ c ∈ (zeroPadded width n).toList, isStampChar c = true := by
  intro c hc
  rw [zeroPadded, String.toList_ofList, List.mem_append] at hc
  rcases hc with hzero | hdigit
  · rw [List.eq_of_mem_replicate hzero]
    decide
  · exact isStampChar_toDigits c hdigit

theorem isStampChar_yearText (year : Int) :
    ∀ c ∈ (Instant.yearText year).toList, isStampChar c = true := by
  unfold Instant.yearText
  split
  · exact isStampChar_zeroPadded _ _
  · rw [String.toList_append, List.forall_mem_append]
    refine ⟨?_, isStampChar_zeroPadded _ _⟩
    split <;> exact List.forall_mem_singleton.2 rfl

theorem isStampChar_stamp (time : Instant.Fields) :
    ∀ c ∈ (stamp time).toList, isStampChar c = true := by
  simp only [stamp, String.toList_append, List.forall_mem_append]
  refine ⟨⟨⟨⟨⟨⟨?_, ?_⟩, ?_⟩, List.forall_mem_singleton.2 rfl⟩, ?_⟩, ?_⟩, ?_⟩
  · exact isStampChar_yearText _
  all_goals exact isStampChar_zeroPadded _ _

theorem toList_toString (n : Nat) : (toString n).toList = Nat.toDigits 10 n := by
  rw [Nat.toString_eq_repr, Nat.toList_repr]

theorem isStampChar_suffixAt (time : Instant.Fields) (n : Nat) :
    ∀ c ∈ (suffixAt time n).toList, isStampChar c = true := by
  simp only [suffixAt, String.toList_append, List.forall_mem_append]
  refine ⟨⟨List.forall_mem_singleton.2 rfl, isStampChar_stamp time⟩, ?_⟩
  split
  · exact nofun
  · rw [String.toList_append, List.forall_mem_append, toList_toString]
    exact ⟨List.forall_mem_singleton.2 rfl, isStampChar_toDigits⟩

/-- What is added holds nothing that separates names. -/
theorem slash_not_mem_suffixAt : '/' ∉ (suffixAt time n).toList := fun hmem =>
  absurd (isStampChar_suffixAt time n _ hmem) (by decide)

/-- What is added holds nothing that begins an extension. -/
theorem dot_not_mem_suffixAt : '.' ∉ (suffixAt time n).toList := fun hmem =>
  absurd (isStampChar_suffixAt time n _ hmem) (by decide)

theorem mark_mem_suffixAt : '_' ∈ (suffixAt time n).toList := by simp [suffixAt]

theorem suffixAt_inj : suffixAt time m = suffixAt time n ↔ m = n := by
  refine ⟨fun h => ?_, fun h => h ▸ rfl⟩
  have hnumber : (if m = 0 then "" else "_" ++ toString m) =
      if n = 0 then "" else "_" ++ toString n := by
    simpa only [suffixAt, ← String.toList_inj, String.toList_append, List.append_cancel_left_eq]
      using h
  by_cases hm : m = 0
  · by_cases hn : n = 0
    · rw [hm, hn]
    · simp [hm, hn, ← String.toList_inj] at hnumber
  · by_cases hn : n = 0
    · simp [hm, hn, ← String.toList_inj] at hnumber
    · rw [if_neg hm, if_neg hn, ← String.toList_inj, String.toList_append, String.toList_append,
        List.append_cancel_left_eq, toList_toString, toList_toString] at hnumber
      rw [← @Nat.ofDigitChars_ten_toDigits m, hnumber, Nat.ofDigitChars_ten_toDigits]

/-- Digits are one byte each. -/
theorem lengthOfText_digits {cs : List Char} (h : ∀ c ∈ cs, c.isDigit = true) :
    Bytes.lengthOfText (String.ofList cs) = cs.length := by
  induction cs with
  | nil => rfl
  | cons c cs ih =>
    have hdigit := h c List.mem_cons_self
    rw [Char.isDigit, Bool.and_eq_true, decide_eq_true_iff, decide_eq_true_iff] at hdigit
    have hsize : c.utf8Size = 1 :=
      Char.utf8Size_eq_one_iff.2 (UInt32.le_trans hdigit.2 (by decide))
    have htail := ih fun d hd => h d (List.mem_cons_of_mem c hd)
    rw [Bytes.lengthOfText] at htail ⊢
    rw [String.ofList_cons, String.utf8ByteSize_append, String.utf8ByteSize_singleton, hsize, htail,
      List.length_cons, Nat.add_comm]

/-- No stand-in is much longer than the first. -/
theorem length_suffixAt_le (h : n ≤ numberLimit) :
    Bytes.lengthOfText (suffixAt time n) ≤ Bytes.lengthOfText ("_" ++ stamp time) + 4 := by
  rw [suffixAt, Bytes.lengthOfText, Bytes.lengthOfText, String.utf8ByteSize_append]
  refine Nat.add_le_add_left ?_ _
  split
  · decide
  · have hdigits : Bytes.lengthOfText (toString n) = (Nat.toDigits 10 n).length := by
      rw [← @String.ofList_toList (toString n), toList_toString]
      exact lengthOfText_digits fun c hc => Nat.isDigit_of_mem_toDigits (by decide) (by decide) hc
    have hlimit : n < 10 ^ 3 := Nat.lt_succ_of_le h
    have hshort := Nat.toDigits_length 10 n 3 (by decide) hlimit
    rw [Bytes.lengthOfText] at hdigits
    rw [String.utf8ByteSize_append, hdigits]
    exact Nat.add_le_add_left hshort 1

end Suffix

/-! ### The candidates -/

section Candidates

variable {path directory name p : String} {time : Instant.Fields}

theorem isFileName_suffixAt (h : IsFileName name) (time : Instant.Fields) (n : Nat) :
    IsFileName (Path.suffixed name (suffixAt time n)) :=
  Path.isFileName_suffixed h slash_not_mem_suffixAt mark_mem_suffixAt

/-- The name of each stand-in is that of the path with one thing added to its stem, though the
number is added to a name that was put together before. -/
theorem candidates_eq (hsplit : Path.splitName? path = some (directory, name))
    (time : Instant.Fields) :
    candidates path time = (List.range (numberLimit + 1)).map fun n =>
      Path.join directory (Path.suffixed name (suffixAt time n)) := by
  have hname := (Path.isEntry_of_splitName? hsplit).1
  have hfirst : suffixAt time 0 = "_" ++ stamp time := by simp [suffixAt]
  have hbase : stamped path time = Path.join directory (Path.suffixed name (suffixAt time 0)) := by
    rw [hfirst]
    exact Path.withStemSuffix_eq_join hsplit _
  rw [candidates, List.range_succ_eq_map, List.map_cons, List.map_map, hbase]
  refine congrArg (_ :: ·) (List.map_congr_left fun n _ => ?_)
  -- The name of the first stand-in is cut again, where it was put together.
  have hcut := Path.splitName?_join hsplit (isFileName_suffixAt hname time 0)
  have hsuffix : suffixAt time 0 ++ ("_" ++ toString (n + 1)) = suffixAt time (n + 1) := by
    rw [hfirst, suffixAt, if_neg (Nat.succ_ne_zero n)]
  rw [Path.withStemSuffix_eq_join hcut, Path.suffixed_suffixed name _ dot_not_mem_suffixAt, hsuffix]
  rfl

/-- What may stand in for a path is in the same directory under a name of its own, which is not much
longer. -/
theorem entry_of_mem_candidates (hsplit : Path.splitName? path = some (directory, name))
    (hp : p ∈ candidates path time) :
    IsFileName (lastPart p) ∧ IsEntry directory (lastPart p) p ∧
      Bytes.lengthOfText (lastPart p) ≤
        Bytes.lengthOfText name + Bytes.lengthOfText ("_" ++ stamp time) + 4 := by
  rw [candidates_eq hsplit, List.mem_map] at hp
  obtain ⟨n, hn, rfl⟩ := hp
  have hother := isFileName_suffixAt (Path.isEntry_of_splitName? hsplit).1 time n
  have hlength := @length_suffixAt_le time n (Nat.lt_succ_iff.1 (List.mem_range.1 hn))
  rw [Path.lastPart_join hother, Path.lengthOfText_suffixed]
  exact ⟨hother, Path.isEntry_join hother, by omega⟩

/-- Different things added to its stem give a name different siblings. -/
theorem suffixed_suffixAt_inj {m n : Nat} :
    Path.suffixed name (suffixAt time m) = Path.suffixed name (suffixAt time n) ↔ m = n := by
  refine ⟨fun h => ?_, fun h => h ▸ rfl⟩
  have hparts := congrArg Path.splitExtension h
  rw [Path.splitExtension_suffixed name dot_not_mem_suffixAt,
    Path.splitExtension_suffixed name dot_not_mem_suffixAt] at hparts
  have hstem := congrArg String.toList (Prod.mk.inj hparts).1
  rw [String.toList_append, String.toList_append, List.append_cancel_left_eq,
    String.toList_inj] at hstem
  exact suffixAt_inj.1 hstem

theorem suffixed_suffixAt_ne (n : Nat) : Path.suffixed name (suffixAt time n) ≠ name := by
  intro h
  have hparts := congrArg Path.splitExtension h
  rw [Path.splitExtension_suffixed name dot_not_mem_suffixAt] at hparts
  have hstem := congrArg String.toList (congrArg Prod.fst hparts)
  rw [String.toList_append, List.append_right_eq_self] at hstem
  have hmark := @mark_mem_suffixAt time n
  rw [hstem] at hmark
  cases hmark

/-- For a path that ends in a name there are a thousand stand-ins. They and the path lead to
different places. Each has the directory and the extension of the path, and the stem of the path
with the time behind it and, except for the first, the number of its place. -/
theorem candidates_stand_apart (hsplit : Path.splitName? path = some (directory, name))
    (time : Instant.Fields) :
    (candidates path time).length = 1000 ∧
    (path :: candidates path time).Pairwise (fun p q => Path.names p ≠ Path.names q) ∧
    ∀ n p, (candidates path time)[n]? = some p →
      ∃ other, Path.splitName? p = some (directory, other) ∧
        Path.splitExtension other =
          ((Path.splitExtension name).1 ++ "_" ++ stamp time ++
            (if n = 0 then "" else "_" ++ toString n), (Path.splitExtension name).2) := by
  obtain ⟨hname, hentry⟩ := Path.isEntry_of_splitName? hsplit
  have hnames : ∀ n, Path.names (Path.join directory (Path.suffixed name (suffixAt time n))) =
      Path.names directory ++ [Path.suffixed name (suffixAt time n)] :=
    fun n => (Path.isEntry_join (isFileName_suffixAt hname time n)).names
  rw [candidates_eq hsplit]
  refine ⟨by simp [numberLimit], ?_, ?_⟩
  · rw [List.pairwise_cons, List.pairwise_map]
    constructor
    · intro p hp hsame
      obtain ⟨n, -, rfl⟩ := List.mem_map.1 hp
      rw [hnames, hentry.names, List.append_cancel_left_eq, List.singleton_inj] at hsame
      exact suffixed_suffixAt_ne n hsame.symm
    · refine List.nodup_range.imp fun hne hsame => ?_
      rw [hnames, hnames, List.append_cancel_left_eq, List.singleton_inj] at hsame
      exact hne (suffixed_suffixAt_inj.1 hsame)
  · intro n p hp
    obtain ⟨k, hk, rfl⟩ := Option.map_eq_some_iff.1 (List.getElem?_map.symm.trans hp)
    obtain rfl : n = k := by simpa using (List.getElem?_eq_some_iff.1 hk).2
    refine ⟨_, Path.splitName?_join hsplit (isFileName_suffixAt hname time n), ?_⟩
    rw [Path.splitExtension_suffixed name dot_not_mem_suffixAt, suffixAt, String.append_assoc,
      String.append_assoc, String.append_assoc]

end Candidates

def evening : Instant.Fields := ⟨2024, 1, 31, 23, 59, 58, 0⟩

/-- A hidden file whose name has dots at both ends and between, behind two separators. -/
theorem candidates_stand_apart_dotted :
    Path.splitName? "logs//.a.b." = some ("logs", ".a.b.") ∧
    (candidates "logs//.a.b." evening)[7]? = some "logs/.a.b_20240131_235958_7." ∧
    (candidates "logs//.a.b." evening).length = 1000 ∧
    ("logs//.a.b." :: candidates "logs//.a.b." evening).Pairwise
      (fun p q => Path.names p ≠ Path.names q) ∧
    ∃ other, Path.splitName? "logs/.a.b_20240131_235958_7." = some ("logs", other) ∧
      Path.splitExtension other = (".a.b_20240131_235958_7", some "") := by
  have hsplit : Path.splitName? "logs//.a.b." = some ("logs", ".a.b.") := by decide +kernel
  have hseventh : (candidates "logs//.a.b." evening)[7]? =
      some "logs/.a.b_20240131_235958_7." := by decide +kernel
  obtain ⟨hlength, hapart, hparts⟩ := candidates_stand_apart hsplit evening
  obtain ⟨other, hcut, hstem⟩ := hparts 7 _ hseventh
  have hparts : ((Path.splitExtension ".a.b.").1 ++ "_" ++ stamp evening ++
      (if 7 = 0 then "" else "_" ++ toString 7), (Path.splitExtension ".a.b.").2) =
      (".a.b_20240131_235958_7", some "") := by decide +kernel
  exact ⟨hsplit, hseventh, hlength, hapart, other, hcut, hstem.trans hparts⟩

end BulkLoad.Output
