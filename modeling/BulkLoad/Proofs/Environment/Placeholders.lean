import BulkLoad.Environment
import Mathlib.Data.List.TakeWhile
import Mathlib.Data.Nat.Init

/-!
Where the placeholders of a text are: each is the first that begins in what is left of the text, and
the next is looked for behind its end. There is one way to cut a text so, and a substitution puts
values exactly at these places. It never looks at a value again.
-/

namespace BulkLoad.Environment

/-- A letter of ASCII or an underscore, and then any number of these and of digits. -/
def IsName (name : String) : Prop :=
  ∃ c rest, name.toList = c :: rest ∧ startsName c = true ∧ ∀ d ∈ rest, inName d = true

/-- A dollar sign and a name in braces. -/
def placeholder (name : String) : List Char := '$' :: '\x7b' :: (name.toList ++ ['\x7d'])

/-- The text begins with a placeholder. -/
def Opens (cs : List Char) : Prop := ∃ name, IsName name ∧ placeholder name <+: cs

/-- A text cut at its placeholders: for each the plain text before it and its name, and then the
plain text behind the last. -/
inductive Cut : List Char → List (List Char × String) → List Char → Prop
  | last {tail : List Char} (none : ∀ i, ¬Opens (tail.drop i)) : Cut tail [] tail
  | next {plain rest tail : List Char} {name : String} {parts : List (List Char × String)}
      (named : IsName name)
      (first : ∀ i < plain.length, ¬Opens ((plain ++ (placeholder name ++ rest)).drop i))
      (behind : Cut rest parts tail) :
      Cut (plain ++ (placeholder name ++ rest)) ((plain, name) :: parts) tail

/-- The text that was cut, with something in the place of each placeholder. -/
def filled (fill : String → List Char) (parts : List (List Char × String)) (tail : List Char) :
    List Char :=
  parts.flatMap (fun p => p.1 ++ fill p.2) ++ tail

/-- The value that an environment has for a name, as characters. -/
def valueOf (env : Environment) (name : String) : List Char := ((env.lookup name).getD "").toList

section Names

variable {name name' : String} {cs rest rest' : List Char}

theorem IsName.inName (h : IsName name) : ∀ c ∈ name.toList, inName c = true := by
  obtain ⟨c, rest, hname, hstarts, hrest⟩ := h
  rw [hname]
  exact List.forall_mem_cons.2 ⟨by simp [Environment.inName, hstarts], hrest⟩

/-- The name of a placeholder ends at the first character that no name has. -/
theorem IsName.takeWhile (h : IsName name) (rest : List Char) :
    (name.toList ++ '\x7d' :: rest).takeWhile Environment.inName = name.toList := by
  rw [List.takeWhile_append_of_pos h.inName]
  simp [Environment.inName, startsName]

theorem eq_of_placeholder (h : IsName name) (h' : IsName name')
    (heq : placeholder name ++ rest = placeholder name' ++ rest') :
    name = name' ∧ rest = rest' := by
  have hbodies : name.toList ++ '\x7d' :: rest = name'.toList ++ '\x7d' :: rest' := by
    simpa [placeholder] using heq
  have hnames : name.toList = name'.toList := by
    rw [← h.takeWhile rest, hbodies, h'.takeWhile]
  refine ⟨String.toList_inj.1 hnames, ?_⟩
  rw [hnames] at hbodies
  exact (List.cons.inj (List.append_cancel_left hbodies)).2

theorem nameAt?_placeholder (h : IsName name) (rest : List Char) :
    nameAt? ('\x7b' :: (name.toList ++ '\x7d' :: rest)) = some name := by
  have hinName := h.inName
  have htake := h.takeWhile rest
  obtain ⟨c, more, hname, hstarts, hmore⟩ := h
  rw [hname, List.cons_append, List.takeWhile_cons_of_pos (hinName c (by simp [hname]))] at htake
  have hdrop : (more ++ '\x7d' :: rest).dropWhile Environment.inName = '\x7d' :: rest := by
    rw [List.dropWhile_append_of_pos hmore]
    simp [Environment.inName, startsName]
  rw [hname, List.cons_append, nameAt?, if_pos hstarts, hdrop, htake, ← hname]
  simp

theorem placeholder_of_nameAt? (h : nameAt? cs = some name) :
    IsName name ∧ ∃ rest, cs = '\x7b' :: (name.toList ++ '\x7d' :: rest) := by
  unfold nameAt? at h
  split at h
  · rename_i c rest
    split at h
    · rename_i hstarts
      split at h
      · rename_i behind hdrop
        obtain rfl := Option.some.inj h
        refine ⟨⟨c, _, String.toList_ofList, hstarts, fun d hd => List.mem_takeWhile_imp hd⟩,
          behind, ?_⟩
        rw [String.toList_ofList, ← hdrop, List.cons_append, List.takeWhile_append_dropWhile]
      · cases h
    · cases h
  · cases h

theorem opens_iff : Opens cs ↔ ∃ name rest, IsName name ∧ cs = placeholder name ++ rest := by
  constructor
  · rintro ⟨name, hname, rest, rfl⟩
    exact ⟨name, rest, hname, rfl⟩
  · rintro ⟨name, rest, hname, rfl⟩
    exact ⟨name, hname, List.prefix_append _ _⟩

theorem not_opens_nil : ¬Opens [] := by
  rw [opens_iff]
  rintro ⟨name, rest, -, h⟩
  cases h

end Names

section Segments

variable {cs rest tail : List Char} {name : String} {parts : List (List Char × String)}

theorem segmentsFrom_skip (n : Nat) (cs : List Char) :
    segmentsFrom n cs = segmentsFrom 0 (cs.drop n) := by
  induction n generalizing cs with
  | zero => rfl
  | succ n ih =>
    cases cs with
    | nil => rfl
    | cons c rest => exact ih rest

theorem segmentsFrom_placeholder (h : IsName name) (rest : List Char) :
    segmentsFrom 0 (placeholder name ++ rest) = .placeholder name :: segmentsFrom 0 rest := by
  have hlist : placeholder name ++ rest = '$' :: '\x7b' :: (name.toList ++ '\x7d' :: rest) := by
    simp [placeholder]
  have hrest : ('\x7b' :: (name.toList ++ '\x7d' :: rest)).drop (name.length + 2) = rest := by
    rw [← String.length_toList, List.drop_succ_cons, ← List.drop_drop, List.drop_left]
    rfl
  rw [hlist, segmentsFrom, if_pos (by rfl), nameAt?_placeholder h rest]
  dsimp only
  rw [segmentsFrom_skip, hrest]

theorem segmentsFrom_char {c : Char} (h : ¬Opens (c :: rest)) :
    segmentsFrom 0 (c :: rest) = .char c :: segmentsFrom 0 rest := by
  rw [segmentsFrom]
  split
  · rename_i hdollar
    obtain rfl := eq_of_beq hdollar
    cases hname : nameAt? rest with
    | none => rfl
    | some name =>
      obtain ⟨hnamed, behind, rfl⟩ := placeholder_of_nameAt? hname
      refine absurd (opens_iff.2 ⟨name, behind, hnamed, ?_⟩) h
      simp [placeholder]
  · rfl

/-- Plain text in front of which nothing opens is left as it is. -/
theorem segmentsFrom_plain (plain : List Char)
    (h : ∀ i < plain.length, ¬Opens ((plain ++ rest).drop i)) :
    segmentsFrom 0 (plain ++ rest) = plain.map .char ++ segmentsFrom 0 rest := by
  induction plain with
  | nil => rfl
  | cons c plain ih =>
    have hhead : ¬Opens (c :: (plain ++ rest)) := h 0 (by simp)
    have htail := ih fun i hi => h (i + 1) (by simpa using hi)
    rw [List.cons_append, segmentsFrom_char hhead, htail]
    rfl

/-- A text is taken apart into the parts that it is cut into. -/
theorem Cut.segments_eq (h : Cut cs parts tail) : segmentsFrom 0 cs =
    parts.flatMap (fun p => p.1.map .char ++ [.placeholder p.2]) ++ tail.map .char := by
  induction h with
  | @last tail none =>
    have hnone : ∀ i < tail.length, ¬Opens ((tail ++ []).drop i) := by
      intro i _
      rw [List.append_nil]
      exact none i
    have hplain := segmentsFrom_plain tail hnone
    rw [List.append_nil] at hplain
    rw [hplain]
    simp [segmentsFrom]
  | next named first behind ih =>
    rw [segmentsFrom_plain _ first, segmentsFrom_placeholder named, ih]
    simp

theorem Cut.text_eq (h : Cut cs parts tail) : cs = filled placeholder parts tail := by
  induction h with
  | last none => rfl
  | next named first behind ih =>
    rw [ih]
    simp [filled]

end Segments

section Cutting

variable {cs plain plain' rest rest' tail tail' : List Char} {name name' : String}
  {parts parts' : List (List Char × String)}

/-- Every text can be cut at its placeholders. -/
theorem exists_cut (cs : List Char) : ∃ parts tail, Cut cs parts tail := by
  induction hn : cs.length using Nat.strong_induction_on generalizing cs with
  | _ n ih =>
  by_cases hopens : Opens cs
  · obtain ⟨name, rest, hnamed, rfl⟩ := opens_iff.1 hopens
    have hshorter : rest.length < n := by
      rw [← hn]
      simp [placeholder]
      omega
    obtain ⟨parts, tail, hcut⟩ := ih _ hshorter rest rfl
    have hwhole : Cut ([] ++ (placeholder name ++ rest)) (([], name) :: parts) tail :=
      .next hnamed nofun hcut
    exact ⟨([], name) :: parts, tail, hwhole⟩
  · cases cs with
    | nil => exact ⟨[], [], .last fun i => by rw [List.drop_nil]; exact not_opens_nil⟩
    | cons c rest =>
      obtain ⟨parts, tail, hcut⟩ := ih _ (by simp [← hn]) rest rfl
      -- The character in front opens nothing, so it belongs to the plain text that comes next.
      cases hcut with
      | last none =>
        refine ⟨[], c :: rest, .last fun i => ?_⟩
        cases i with
        | zero => exact hopens
        | succ i => exact none i
      | @next plain rest _ name parts named first behind =>
        refine ⟨(c :: plain, name) :: parts, tail, ?_⟩
        rw [← List.cons_append]
        refine .next named ?_ behind
        intro i hi
        cases i with
        | zero => exact hopens
        | succ i => exact first i (by simpa using hi)

theorem opens_behind (h : IsName name) (plain rest : List Char) :
    Opens ((plain ++ (placeholder name ++ rest)).drop plain.length) := by
  rw [List.drop_left]
  exact opens_iff.2 ⟨name, rest, h, rfl⟩

/-- There is only one way to cut a text at its placeholders. -/
theorem Cut.unique (h : Cut cs parts tail) (h' : Cut cs parts' tail') :
    parts' = parts ∧ tail' = tail := by
  induction h generalizing parts' tail' with
  | last none =>
    cases h' with
    | last _ => exact ⟨rfl, rfl⟩
    | next named' _ _ => exact absurd (opens_behind named' _ _) (none _)
  | @next plain rest tail name parts named first behind ih =>
    generalize htext : plain ++ (placeholder name ++ rest) = text at h'
    cases h' with
    | last none' =>
      rw [← htext] at none'
      exact absurd (opens_behind named _ _) (none' _)
    | @next plain' rest' _ name' parts' named' first' behind' =>
      -- Neither of the first placeholders begins before the other.
      have hle : plain'.length ≤ plain.length := by
        by_contra hlt
        rw [← htext] at first'
        exact first' _ (by omega) (opens_behind named _ _)
      have hge : plain.length ≤ plain'.length := by
        by_contra hlt
        rw [htext] at first
        exact first _ (by omega) (opens_behind named' _ _)
      obtain ⟨rfl, hbehind⟩ := List.append_inj htext (by omega)
      obtain ⟨rfl, rfl⟩ := eq_of_placeholder named named' hbehind
      obtain ⟨rfl, rfl⟩ := ih behind'
      exact ⟨rfl, rfl⟩

end Cutting

/-- The name in a segment that is a placeholder. -/
def Segment.name? : Segment → Option String
  | char _ => none
  | placeholder name => some name

section Substituting

variable {env : Environment} {tail : List Char} {parts : List (List Char × String)} {s : String}

theorem names_eq (s : String) : names s = (segments s).filterMap Segment.name? := rfl

theorem unset_eq (env : Environment) (s : String) :
    unset env (segments s) = (names s).filter fun name => (env.lookup name).isNone := by
  rw [names_eq, List.filter_filterMap, unset]
  congr 1
  funext part
  cases part with
  | char c => rfl
  | placeholder name => cases h : env.lookup name <;> simp [Segment.name?, Option.filter, h]

theorem filterMap_plain (plain : List Char) :
    (plain.map Segment.char).filterMap Segment.name? = [] := by
  rw [List.filterMap_map, List.filterMap_eq_nil_iff]
  exact fun _ _ => rfl

theorem flatMap_plain (env : Environment) (plain : List Char) :
    (plain.map Segment.char).flatMap (segmentText env) = plain := by
  rw [List.flatMap_map]
  exact List.flatMap_singleton' plain

theorem Cut.names_eq (h : Cut s.toList parts tail) : names s = parts.map (·.2) := by
  rw [Environment.names_eq, segments, h.segments_eq, List.filterMap_append, filterMap_plain,
    List.filterMap_flatMap, List.append_nil, List.map_eq_flatMap]
  congr 1
  funext p
  rw [List.filterMap_append, filterMap_plain]
  rfl

theorem Cut.values_eq (env : Environment) (h : Cut s.toList parts tail) :
    (segments s).flatMap (segmentText env) = filled (valueOf env) parts tail := by
  rw [segments, h.segments_eq, List.flatMap_append, flatMap_plain, List.flatMap_assoc, filled]
  congr 2
  funext p
  rw [List.flatMap_append, flatMap_plain, List.flatMap_singleton]
  rfl

theorem Cut.unset_eq_nil_iff (h : Cut s.toList parts tail) :
    unset env (segments s) = [] ↔ ∀ p ∈ parts, (env.lookup p.2).isSome = true := by
  rw [unset_eq, h.names_eq, List.filter_eq_nil_iff, List.forall_mem_map]
  simp only [Bool.not_eq_true, Option.isNone_eq_false_iff]

theorem substitute_cases (env : Environment) (s : String) :
    (unset env (segments s) = [] ∧
      env.substitute s = .ok (String.ofList ((segments s).flatMap (segmentText env)))) ∨
    (unset env (segments s) ≠ [] ∧
      env.substitute s = .error (withoutRepeats (unset env (segments s)))) := by
  rw [substitute]
  cases hunset : unset env (segments s) with
  | nil => exact .inl ⟨rfl, rfl⟩
  | cons name rest => exact .inr ⟨nofun, rfl⟩

theorem Cut.substitute_eq_ok_iff {t : String} (h : Cut s.toList parts tail) :
    env.substitute s = .ok t ↔ (∀ p ∈ parts, (env.lookup p.2).isSome = true) ∧
      t.toList = filled (valueOf env) parts tail := by
  rw [← h.unset_eq_nil_iff, ← h.values_eq env]
  rcases substitute_cases env s with ⟨hunset, hend⟩ | ⟨hunset, hend⟩
  · rw [hend, Except.ok.injEq, ← String.toList_inj, String.toList_ofList, eq_comm]
    simp only [hunset, true_and]
  · rw [hend]
    exact iff_of_false nofun fun h => hunset h.1

/-- Every text has one cut at its placeholders. A substitution succeeds exactly if all names in it
have values, and gives the text with these values in the places of the placeholders and all else as
it was, whatever the values are. So it leaves a text without placeholders as it is. -/
theorem substitute_fills (env : Environment) (s : String) :
    ∃ parts tail, Cut s.toList parts tail ∧ s.toList = filled placeholder parts tail ∧
      (∀ parts' tail', Cut s.toList parts' tail' → parts' = parts ∧ tail' = tail) ∧
      ((∃ t, env.substitute s = .ok t) ↔ ∀ p ∈ parts, (env.lookup p.2).isSome = true) ∧
      (∀ t, env.substitute s = .ok t → t.toList = filled (valueOf env) parts tail) ∧
      ((∀ i, ¬Opens (s.toList.drop i)) → env.substitute s = .ok s) := by
  obtain ⟨parts, tail, hcut⟩ := exists_cut s.toList
  refine ⟨parts, tail, hcut, hcut.text_eq, fun _ _ => hcut.unique, ?_, ?_, ?_⟩
  · constructor
    · rintro ⟨t, ht⟩
      exact (hcut.substitute_eq_ok_iff.1 ht).1
    · intro hset
      exact ⟨_, hcut.substitute_eq_ok_iff.2 ⟨hset, String.toList_ofList⟩⟩
  · intro t ht
    exact (hcut.substitute_eq_ok_iff.1 ht).2
  · intro hnone
    have hplain : Cut s.toList [] s.toList := .last hnone
    exact hplain.substitute_eq_ok_iff.2 ⟨nofun, rfl⟩

/-- Two values that come to stand side by side make a placeholder, which is left as it is. -/
example : Environment.substitute [("A", "$"), ("B", "\x7bA\x7d")] "$\x7bA\x7d$\x7bB\x7d$\x7b" =
    .ok "$\x7bA\x7d$\x7b" := by
  decide +kernel

end Substituting

end BulkLoad.Environment
