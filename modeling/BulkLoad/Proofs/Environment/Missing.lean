import BulkLoad.Proofs.Environment.Placeholders
import Mathlib.Data.List.Chain

/-!
Which names a failed substitution reports. A name is dropped where it repeats the one reported
before it, so each run of one name is reported once; a name is reported again if another that is
missing stands between its places.
-/

namespace BulkLoad.Environment

/-- Equal names stand together. -/
def Grouped (names : List String) : Prop :=
  ∀ front mid back a, names = front ++ a :: (mid ++ a :: back) → ∀ b ∈ mid, b = a

/-- Runs of names, each with the number of its repetitions, written out. -/
def spelledOut (runs : List (String × Nat)) : List String :=
  runs.flatMap fun r => List.replicate (r.2 + 1) r.1

section Runs

variable {a b : String} {rest names : List String}

theorem exists_withoutRepeats_cons (a : String) (rest : List String) :
    ∃ kept, withoutRepeats (a :: rest) = a :: kept := by
  rw [withoutRepeats]
  split
  · exact ⟨[], rfl⟩
  · rename_i b kept _
    by_cases hab : a = b
    · exact ⟨kept, by rw [if_pos hab, hab]⟩
    · exact ⟨b :: kept, by rw [if_neg hab]⟩

theorem withoutRepeats_same (a : String) (rest : List String) :
    withoutRepeats (a :: a :: rest) = withoutRepeats (a :: rest) := by
  obtain ⟨kept, hkept⟩ := exists_withoutRepeats_cons a rest
  rw [withoutRepeats, hkept]
  simp

theorem withoutRepeats_other (h : a ≠ b) (rest : List String) :
    withoutRepeats (a :: b :: rest) = a :: withoutRepeats (b :: rest) := by
  obtain ⟨kept, hkept⟩ := exists_withoutRepeats_cons b rest
  rw [withoutRepeats, hkept]
  simp [h]

/-- What is left of names without their repeats is one name for each run. -/
theorem exists_runs (names : List String) :
    ∃ runs, names = spelledOut runs ∧ withoutRepeats names = runs.map (·.1) ∧
      (withoutRepeats names).IsChain (· ≠ ·) := by
  induction names with
  | nil => exact ⟨[], rfl, rfl, .nil⟩
  | cons a rest ih =>
    cases rest with
    | nil => exact ⟨[(a, 0)], rfl, rfl, .singleton a⟩
    | cons b rest =>
      obtain ⟨runs, hout, hmap, hchain⟩ := ih
      by_cases hab : a = b
      · subst hab
        rw [withoutRepeats_same]
        -- The first run is of this name, and becomes longer by one.
        cases runs with
        | nil => cases hout
        | cons r runs =>
          obtain ⟨c, n⟩ := r
          have hhead : a = c := (List.cons.inj hout).1
          subst hhead
          exact ⟨(a, n + 1) :: runs, congrArg (a :: ·) hout, hmap, hchain⟩
      · rw [withoutRepeats_other hab]
        refine ⟨(a, 0) :: runs, congrArg (a :: ·) hout, congrArg (a :: ·) hmap, ?_⟩
        obtain ⟨kept, hkept⟩ := exists_withoutRepeats_cons b rest
        rw [hkept] at hchain ⊢
        exact .cons_cons hab hchain

theorem mem_withoutRepeats_iff : a ∈ withoutRepeats names ↔ a ∈ names := by
  obtain ⟨runs, hout, hmap, -⟩ := exists_runs names
  rw [hmap, hout, spelledOut, List.mem_map, List.mem_flatMap]
  simp [List.mem_replicate, eq_comm]

theorem Grouped.tail (h : Grouped (a :: rest)) : Grouped rest := by
  intro front mid back c hrest
  exact h (a :: front) mid back c (congrArg (a :: ·) hrest)

/-- A name that is followed by another one does not come again. -/
theorem Grouped.not_mem (h : Grouped (a :: b :: rest)) (hab : a ≠ b) : a ∉ b :: rest := by
  intro hmem
  obtain ⟨mid, back, hsplit⟩ := List.append_of_mem hmem
  cases mid with
  | nil => exact hab (List.cons.inj hsplit).1.symm
  | cons c mid =>
    obtain rfl := (List.cons.inj hsplit).1
    exact hab (h [] (b :: mid) back a (congrArg (a :: ·) hsplit) b List.mem_cons_self).symm

theorem grouped_same (h : Grouped (a :: rest)) : Grouped (a :: a :: rest) := by
  intro front mid back c hsplit
  cases front with
  | cons d front => exact h front mid back c (List.cons.inj hsplit).2
  | nil =>
    obtain ⟨rfl, hrest⟩ := List.cons.inj hsplit
    cases mid with
    | nil => exact nofun
    | cons d mid =>
      obtain ⟨rfl, hmid⟩ := List.cons.inj hrest
      exact List.forall_mem_cons.2 ⟨rfl, h [] mid back a (congrArg (a :: ·) hmid)⟩

theorem grouped_other (hmem : a ∉ rest) (h : Grouped rest) : Grouped (a :: rest) := by
  intro front mid back c hsplit
  cases front with
  | cons d front => exact h front mid back c (List.cons.inj hsplit).2
  | nil =>
    obtain ⟨rfl, hrest⟩ := List.cons.inj hsplit
    exact absurd (by simp [hrest]) hmem

/-- Names that are left once each stood together. -/
theorem grouped_of_nodup (h : (withoutRepeats names).Nodup) : Grouped names := by
  induction names with
  | nil => exact fun front mid back a hsplit => by simp at hsplit
  | cons a rest ih =>
    cases rest with
    | nil => exact grouped_other List.not_mem_nil (ih .nil)
    | cons b rest =>
      by_cases hab : a = b
      · subst hab
        rw [withoutRepeats_same] at h
        exact grouped_same (ih h)
      · rw [withoutRepeats_other hab, List.nodup_cons, mem_withoutRepeats_iff] at h
        exact grouped_other h.1 (ih h.2)

theorem eraseDups_same (a : String) (rest : List String) :
    (a :: a :: rest).eraseDups = (a :: rest).eraseDups := by
  simp [List.eraseDups_cons]

theorem eraseDups_other (h : a ∉ rest) : (a :: rest).eraseDups = a :: rest.eraseDups := by
  have hfilter : rest.filter (fun b => !b == a) = rest := by
    rw [List.filter_eq_self]
    intro b hb
    have hne : b ≠ a := fun hba => h (hba ▸ hb)
    simp [hne]
  rw [List.eraseDups_cons, hfilter]

theorem nodup_eraseDups (names : List String) : names.eraseDups.Nodup := by
  induction hn : names.length using Nat.strong_induction_on generalizing names with
  | _ n ih =>
  cases names with
  | nil => exact .nil
  | cons a rest =>
    have hlength := List.length_filter_le (fun b => !b == a) rest
    rw [List.eraseDups_cons, List.nodup_cons, List.mem_eraseDups]
    refine ⟨by simp, ih _ ?_ _ rfl⟩
    rw [← hn, List.length_cons]
    omega

/-- The names that are left are each there once, in the order in which they first came, exactly if
equal names stood together. -/
theorem withoutRepeats_eq_eraseDups_iff :
    withoutRepeats names = names.eraseDups ↔ Grouped names := by
  constructor
  · intro h
    apply grouped_of_nodup
    rw [h]
    exact nodup_eraseDups names
  · intro h
    induction names with
    | nil => rfl
    | cons a rest ih =>
      have hrest := ih h.tail
      cases rest with
      | nil => rfl
      | cons b rest =>
        by_cases hab : a = b
        · subst hab
          rw [withoutRepeats_same, eraseDups_same, hrest]
        · rw [withoutRepeats_other hab, eraseDups_other (h.not_mem hab), hrest]

end Runs

/-- A failed substitution reports the names of placeholders that have no value, all of them and no
others, in their order, with each run of one name as one. So each is reported once, at the place
where it first came, exactly if no other that is missing stands between its places. -/
theorem missing_reported (env : Environment) (s : String) :
    ∃ parts tail, Cut s.toList parts tail ∧ ∀ reported, env.substitute s = .error reported →
      let missing := (parts.map (·.2)).filter fun name => (env.lookup name).isNone
      (∀ name, name ∈ reported ↔ (∃ p ∈ parts, p.2 = name) ∧ env.lookup name = none) ∧
      (∃ runs, missing = spelledOut runs ∧ reported = runs.map (·.1)) ∧
      reported.IsChain (· ≠ ·) ∧ (reported = missing.eraseDups ↔ Grouped missing) := by
  obtain ⟨parts, tail, hcut⟩ := exists_cut s.toList
  refine ⟨parts, tail, hcut, fun reported hfailed => ?_⟩
  intro missing
  have hreported : reported = withoutRepeats missing := by
    have hmissing : unset env (segments s) = missing := by rw [unset_eq, hcut.names_eq]
    rcases substitute_cases env s with ⟨-, hend⟩ | ⟨-, hend⟩
    · rw [hend] at hfailed
      cases hfailed
    · rw [hend, hmissing] at hfailed
      exact (Except.error.inj hfailed).symm
  obtain ⟨runs, hout, hmap, hchain⟩ := exists_runs missing
  rw [hreported]
  refine ⟨fun name => ?_, ⟨runs, hout, hmap⟩, hchain, withoutRepeats_eq_eraseDups_iff⟩
  rw [mem_withoutRepeats_iff, List.mem_filter, List.mem_map, Option.isNone_iff_eq_none]

/-- A name that is missing before and behind another is reported twice. -/
theorem missing_name_repeated :
    let text := "$\x7bA\x7d $\x7bB\x7d $\x7bA\x7d"
    substitute [] text = .error ["A", "B", "A"] ∧
      unsetMessage ["A", "B", "A"] = "Missing environment variable(s): A, B, A" ∧
      (names text).eraseDups = ["A", "B"] := by
  decide +kernel

end BulkLoad.Environment
