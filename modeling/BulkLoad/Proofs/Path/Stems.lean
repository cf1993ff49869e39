import BulkLoad.Bytes
import BulkLoad.Proofs.Path.Siblings

/-!
Names cut into a stem and an extension, and names with something added to their stem. What is added
holds no dot, so the new name is cut where the old one was.
-/

namespace BulkLoad.Path

/-! ### Stem and extension -/

/-- How a name is cut: not at all if no dot stands behind its first character, else at its last
dot. -/
inductive Parted : String → String → Option String → Prop
  | whole {name : String} (plain : '.' ∉ name.toList.tail) : Parted name name none
  | parted {stem extension : String} (some_stem : stem ≠ "") (plain : '.' ∉ extension.toList) :
      Parted (stem ++ "." ++ extension) stem (some extension)

theorem dropWhile_dot {cs : List Char} (h : '.' ∉ cs) (rest : List Char) :
    (cs ++ rest).takeWhile (· != '.') = cs ++ rest.takeWhile (· != '.') ∧
      (cs ++ rest).dropWhile (· != '.') = rest.dropWhile (· != '.') := by
  have hplain : ∀ c ∈ cs, (c != '.') = true := by
    intro c hc
    have hne : c ≠ '.' := fun heq => h (heq ▸ hc)
    simpa using hne
  exact ⟨List.takeWhile_append_of_pos hplain, List.dropWhile_append_of_pos hplain⟩

theorem splitExtension_whole {name : String} (h : '.' ∉ name.toList.tail) :
    splitExtension name = (name, none) := by
  cases hlist : name.toList with
  | nil =>
    rw [splitExtension, hlist]
    rfl
  | cons c rest =>
    rw [hlist, List.tail_cons] at h
    have hdrop := (dropWhile_dot (mt List.mem_reverse.1 h) [c]).2
    rw [splitExtension, hlist]
    simp only [List.reverse_cons, hdrop]
    by_cases hc : c = '.'
    · simp [hc]
    · simp [hc]

theorem splitExtension_parted {stem extension : String} (hstem : stem ≠ "")
    (h : '.' ∉ extension.toList) :
    splitExtension (stem ++ "." ++ extension) = (stem, some extension) := by
  obtain ⟨c, rest, hcons⟩ := List.exists_cons_of_ne_nil
    (mt List.reverse_eq_nil_iff.1 (mt String.toList_eq_nil_iff.1 hstem))
  have hback : stem = String.ofList (c :: rest).reverse := by
    rw [← hcons, List.reverse_reverse, String.ofList_toList]
  have hlist : (stem ++ "." ++ extension).toList.reverse =
      extension.toList.reverse ++ '.' :: c :: rest := by simp [hcons]
  obtain ⟨htake, hdrop⟩ := dropWhile_dot (mt List.mem_reverse.1 h) ('.' :: c :: rest)
  rw [splitExtension, hlist]
  simp [htake, hdrop, hback]

theorem Parted.splitExtension_eq {name stem : String} {extension : Option String}
    (h : Parted name stem extension) : splitExtension name = (stem, extension) := by
  cases h with
  | whole plain => exact splitExtension_whole plain
  | parted some_stem plain => exact splitExtension_parted some_stem plain

theorem parted_splitExtension (name : String) :
    Parted name (splitExtension name).1 (splitExtension name).2 := by
  by_cases hplain : '.' ∈ name.toList.tail
  · -- The name is cut at its last dot, which is not its first character.
    cases hlist : name.toList with
    | nil =>
      rw [hlist] at hplain
      cases hplain
    | cons c rest =>
      rw [hlist, List.tail_cons] at hplain
      obtain ⟨back, front, hcut, hback⟩ := List.eq_append_cons_of_mem (List.mem_reverse.2 hplain)
      have hrest : rest = front.reverse ++ '.' :: back.reverse := by
        rw [← List.reverse_reverse rest, hcut]
        simp
      have hname : name = String.ofList (c :: front.reverse) ++ "." ++ String.ofList back.reverse :=
        String.toList_inj.1 (by simp [hlist, hrest])
      have hstem : String.ofList (c :: front.reverse) ≠ "" := by simp
      have hextension : '.' ∉ (String.ofList back.reverse).toList := by simpa using hback
      rw [hname, splitExtension_parted hstem hextension]
      exact .parted hstem hextension
  · rw [splitExtension_whole hplain]
    exact .whole hplain

theorem Parted.withExtension_eq {name stem : String} {extension : Option String}
    (h : Parted name stem extension) : withExtension stem extension = name := by
  cases h with
  | whole => rfl
  | parted => rfl

/-! ### Names with something added to their stem -/

section Suffixed

variable {path directory name suffix : String}

/-- The name with something added to its stem. -/
def suffixed (name suffix : String) : String :=
  withExtension ((splitExtension name).1 ++ suffix) (splitExtension name).2

/-- What holds no dot is added to the stem, and the extension stays. -/
theorem splitExtension_suffixed (name : String) (hsuffix : '.' ∉ suffix.toList) :
    splitExtension (suffixed name suffix) =
      ((splitExtension name).1 ++ suffix, (splitExtension name).2) := by
  have hparted := parted_splitExtension name
  rw [suffixed]
  generalize (splitExtension name).1 = stem, (splitExtension name).2 = extension at hparted ⊢
  refine Parted.splitExtension_eq ?_
  cases hparted with
  | whole plain =>
    have hplain : '.' ∉ (name ++ suffix).toList.tail := by
      rw [String.toList_append]
      cases hlist : name.toList with
      | nil => exact fun hmem => hsuffix (List.mem_of_mem_tail hmem)
      | cons c rest =>
        rw [hlist] at plain
        simpa using ⟨plain, hsuffix⟩
    exact .whole hplain
  | parted some_stem plain =>
    exact .parted (by simp [some_stem]) plain

theorem suffixed_suffixed (name second : String) (hsuffix : '.' ∉ suffix.toList) :
    suffixed (suffixed name suffix) second = suffixed name (suffix ++ second) := by
  rw [suffixed, splitExtension_suffixed name hsuffix, suffixed, String.append_assoc]

theorem mem_suffixed {c : Char} :
    c ∈ (suffixed name suffix).toList ↔ c ∈ name.toList ∨ c ∈ suffix.toList := by
  have hname := congrArg (c ∈ ·.toList) (parted_splitExtension name).withExtension_eq
  rw [suffixed, ← hname]
  cases (splitExtension name).2 with
  | none => simp [withExtension]
  | some extension =>
    simp only [withExtension, String.toList_append, List.mem_append]
    grind

theorem lengthOfText_suffixed (name suffix : String) :
    Bytes.lengthOfText (suffixed name suffix) =
      Bytes.lengthOfText name + Bytes.lengthOfText suffix := by
  have hname := congrArg Bytes.lengthOfText (parted_splitExtension name).withExtension_eq
  rw [suffixed, ← hname]
  cases (splitExtension name).2 with
  | none => exact String.utf8ByteSize_append
  | some extension =>
    simp only [withExtension, Bytes.lengthOfText, String.utf8ByteSize_append]
    omega

theorem isFileName_of_mark (hwhole : '/' ∉ name.toList) (hmark : '_' ∈ name.toList) :
    IsFileName name := by
  refine ⟨hwhole, ?_, ?_⟩
  · rw [isName, Bool.and_eq_true, bne_iff_ne, bne_iff_ne]
    constructor
    · intro hnil
      rw [hnil] at hmark
      cases hmark
    · intro hdot
      rw [hdot] at hmark
      exact absurd hmark (by decide)
  · rintro rfl
    exact absurd hmark (by decide)

theorem isFileName_suffixed (h : IsFileName name) (hwhole : '/' ∉ suffix.toList)
    (hmark : '_' ∈ suffix.toList) : IsFileName (suffixed name suffix) := by
  refine isFileName_of_mark ?_ (mem_suffixed.2 (.inr hmark))
  rw [mem_suffixed, not_or]
  exact ⟨h.whole, hwhole⟩

/-- The path with something added to its stem is in the same directory. -/
theorem withStemSuffix_eq_join (h : splitName? path = some (directory, name)) (suffix : String) :
    withStemSuffix path suffix = join directory (suffixed name suffix) := by
  have hname : (name? path).getD "" = name := by
    rw [name?, h]
    rfl
  rw [withStemSuffix, hname]
  dsimp only
  rw [withName, h]
  rfl

end Suffixed

end BulkLoad.Path
