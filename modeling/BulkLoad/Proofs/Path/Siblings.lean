import BulkLoad.Proofs.Path.Names
import Mathlib.Data.List.TakeWhile

/-!
The last name of a path, the directory before it, and the siblings of a path: paths that lead to the
same directory, and from there by another name. A name that is joined to a directory is the last one
again.
-/

namespace BulkLoad.Path

/-- A name that something in a directory may have. -/
structure IsFileName (name : String) : Prop where
  whole : '/' ∉ name.toList
  leads : isName name.toList = true
  notUp : name ≠ ".."

/-- A path leads to a directory, and from there by a name. -/
structure IsEntry (directory name path : String) : Prop where
  begins : path.startsWith "/" = directory.startsWith "/"
  names : Path.names path = Path.names directory ++ [name]

/-! ### The names on a path -/

/-- The names on a path, as characters. -/
def steps (path : List Char) : List (List Char) := (path.splitOnP (· == '/')).filter isName

theorem names_eq (path : String) : names path = (steps path.toList).map String.ofList := rfl

theorem steps_append (front back : List Char) :
    steps (front ++ '/' :: back) = steps front ++ steps back := by
  rw [steps, List.splitOnP_append_cons front back (by rfl), List.filter_append]
  rfl

theorem steps_slash (back : List Char) : steps ('/' :: back) = steps back :=
  steps_append [] back

theorem IsFileName.steps {name : String} (h : IsFileName name) :
    Path.steps name.toList = [name.toList] := by
  rw [Path.steps, splitOnP_name h.whole, List.filter_cons_of_pos h.leads, List.filter_nil]

/-- What is dropped at the end of a path leads nowhere else. -/
theorem steps_dropIdle (b : List Char) : steps (dropIdle b).reverse = steps b.reverse := by
  fun_induction dropIdle b with
  | case1 rest ih =>
    have hnil : steps [] = [] := rfl
    rw [List.reverse_cons, steps_append, hnil, List.append_nil, ih]
  | case2 => rfl
  | case3 rest ih =>
    have hdot : steps ['.'] = [] := rfl
    rw [List.reverse_cons, List.reverse_cons, List.append_assoc, List.singleton_append,
      steps_append, hdot, List.append_nil, ih]
  | case4 => rfl

/-! ### Where the last name begins -/

/-- The end of a path, given backwards, is part of a name, and not something that is dropped. -/
def Firm (backwards : List Char) : Prop := dropIdle backwards = backwards

theorem dropIdle_suffix (b : List Char) : dropIdle b <:+ b := by
  fun_induction dropIdle b with
  | case1 rest ih => exact ih.trans (List.suffix_cons _ _)
  | case2 => exact List.nil_suffix
  | case3 rest ih => exact ih.trans ((List.suffix_cons _ _).trans (List.suffix_cons _ _))
  | case4 => exact List.suffix_rfl

theorem firm_iff {b : List Char} : Firm b ↔
    (∀ rest, b ≠ '/' :: rest) ∧ b ≠ ['.'] ∧ ∀ rest, b ≠ '.' :: '/' :: rest := by
  constructor
  · intro h
    have hshort : ∀ rest, (dropIdle rest).length ≤ rest.length :=
      fun rest => (dropIdle_suffix rest).length_le
    refine ⟨?_, ?_, ?_⟩
    · rintro rest rfl
      have hlength := congrArg List.length h
      have hrest := hshort rest
      simp only [dropIdle, List.length_cons] at hlength
      omega
    · rintro rfl
      cases h
    · rintro rest rfl
      have hlength := congrArg List.length h
      have hrest := hshort rest
      simp only [dropIdle, List.length_cons] at hlength
      omega
  · rintro ⟨hslash, hdot, hboth⟩
    rw [Firm, dropIdle]
    · exact hslash
    · exact hdot
    · exact hboth

theorem firm_dropIdle (b : List Char) : Firm (dropIdle b) := by
  fun_induction dropIdle b with
  | case1 rest ih => exact ih
  | case2 => rfl
  | case3 rest ih => exact ih
  | case4 b hslash hdot hboth => exact firm_iff.2 ⟨hslash, hdot, hboth⟩

theorem Firm.append {b : List Char} (h : Firm b) (hne : b ≠ []) (more : List Char) :
    Firm (b ++ more) := by
  obtain ⟨hslash, hdot, hboth⟩ := firm_iff.1 h
  match b with
  | [c] =>
    refine firm_iff.2 ⟨?_, ?_, ?_⟩ <;> simp_all
  | c :: d :: rest =>
    refine firm_iff.2 ⟨?_, ?_, ?_⟩ <;> simp_all

theorem IsFileName.firm {name : String} (h : IsFileName name) (before : List Char) :
    Firm (name.toList.reverse ++ before) := by
  have hleads := h.leads
  have hwhole : ∀ c ∈ name.toList.reverse, c ≠ '/' := by
    rintro c hc rfl
    exact h.whole (List.mem_reverse.1 hc)
  simp only [isName, Bool.and_eq_true, bne_iff_ne, ne_eq] at hleads
  refine Firm.append (firm_iff.2 ⟨?_, ?_, ?_⟩) (by simpa using hleads.1) before
  · rintro rest hrest
    exact hwhole '/' (by simp [hrest]) rfl
  · intro hdot
    exact hleads.2 (by simpa using congrArg List.reverse hdot)
  · rintro rest hrest
    exact hwhole '/' (by simp [hrest]) rfl

/-! ### The last name and its directory -/

/-- What no name is cut from, and what stands behind it. -/
inductive Front : List Char → List Char → Prop
  | none {body : List Char} (relative : ∀ rest, body ≠ '/' :: rest) (named : body ≠ ['.'])
      (bare : ∀ rest, body ≠ '.' :: '/' :: rest) : Front [] body
  | root (body : List Char) : Front ['/'] body
  | dot : Front ['.'] []
  | below (rest : List Char) : Front ['.'] ('/' :: rest)

/-- A separator stands in front, if anything does. -/
def Separated (part : List Char) : Prop := part = [] ∨ ∃ before, part = '/' :: before

theorem front_splitFront (path : List Char) :
    Front (splitFront path).1 (splitFront path).2 ∧
      path = (splitFront path).1 ++ (splitFront path).2 := by
  unfold splitFront
  split
  · exact ⟨.root _, rfl⟩
  · exact ⟨.dot, rfl⟩
  · exact ⟨.below _, rfl⟩
  · rename_i hslash hdot hboth
    exact ⟨.none hslash hdot hboth, rfl⟩

theorem Front.splitFront_eq {front body : List Char} (h : Front front body) :
    splitFront (front ++ body) = (front, body) := by
  cases h with
  | none relative named bare =>
    rw [List.nil_append, splitFront]
    · exact relative
    · exact named
    · exact bare
  | root => rfl
  | dot => rfl
  | below => rfl

section Cutting

variable {path directory name : String} {front body part : List Char}

theorem splitLast_name {name : List Char} (h : '/' ∉ name) (hsep : Separated part) :
    splitLast (name.reverse ++ part) = (name, part.drop 1) := by
  have hname : ∀ c ∈ name.reverse, (c != '/') = true := by
    intro c hc
    have hne : c ≠ '/' := fun h' => h (h' ▸ List.mem_reverse.1 hc)
    simp [hne]
  rw [splitLast, List.takeWhile_append_of_pos hname, List.dropWhile_append_of_pos hname]
  rcases hsep with rfl | ⟨before, rfl⟩ <;> simp

theorem splitLast_whole (b : List Char) :
    ∃ part, b = (splitLast b).1.reverse ++ part ∧ Separated part ∧ (splitLast b).2 = part.drop 1 ∧
      '/' ∉ (splitLast b).1 := by
  refine ⟨b.dropWhile (· != '/'), ?_, ?_, rfl, ?_⟩
  · rw [splitLast, List.reverse_reverse, List.takeWhile_append_dropWhile]
  · cases hpart : b.dropWhile (· != '/') with
    | nil => exact .inl rfl
    | cons c part =>
      have hc := List.head_dropWhile_not (· != '/') (l := b) (by simp [hpart])
      simp only [hpart, List.head_cons, bne_eq_false_iff_eq] at hc
      exact .inr ⟨part, by rw [hc]⟩
  · intro hmem
    have hne := List.mem_takeWhile_imp (List.mem_reverse.1 hmem)
    simp at hne

theorem steps_front (h : Front front body) (hpart : part <+: body) :
    steps (front ++ part) = steps part := by
  cases h with
  | none => rfl
  | root => exact steps_slash part
  | dot =>
    rw [List.prefix_nil.1 hpart]
    rfl
  | below rest =>
    cases part with
    | nil => rfl
    | cons c part =>
      obtain ⟨rfl, -⟩ := List.cons_prefix_cons.1 hpart
      exact (steps_append ['.'] part).trans (steps_slash part).symm

/-- What is kept of a path begins as the whole path does. -/
theorem head?_front (h : Front front body) (hpart : part <+: body) :
    (front ++ body).head? = some '/' ↔ (front ++ part).head? = some '/' := by
  cases h with
  | none relative =>
    have hbody : body.head? ≠ some '/' := by
      intro hhead
      obtain ⟨rest, hrest⟩ := List.head?_eq_some_iff.1 hhead
      exact relative rest hrest
    have hkept : part.head? ≠ some '/' := by
      intro hhead
      obtain ⟨rest, hrest⟩ := List.head?_eq_some_iff.1 hhead
      obtain ⟨more, rfl⟩ := hpart
      exact relative (rest ++ more) (by rw [hrest]; rfl)
    exact iff_of_false hbody hkept
  | root => simp
  | dot => simp
  | below => simp

/-- The last name of a path, given backwards, is one that leads somewhere. -/
theorem isFileName_of_firm {name : List Char} (hfirm : Firm (name.reverse ++ part))
    (hne : name.reverse ++ part ≠ []) (hsep : Separated part) (hwhole : '/' ∉ name)
    (hup : name ≠ ['.', '.']) : IsFileName (String.ofList name) := by
  obtain ⟨hslash, hdot, hboth⟩ := firm_iff.1 hfirm
  refine ⟨by rwa [String.toList_ofList], ?_, ?_⟩
  · rw [String.toList_ofList, isName, Bool.and_eq_true, bne_iff_ne, bne_iff_ne]
    constructor
    · rintro rfl
      rcases hsep with rfl | ⟨before, rfl⟩
      · exact hne rfl
      · exact hslash _ rfl
    · rintro rfl
      rcases hsep with rfl | ⟨before, rfl⟩
      · exact hdot rfl
      · exact hboth _ rfl
  · intro h
    exact hup (by rw [← @String.toList_ofList name, h]; rfl)

/-- How a path is cut. -/
theorem splitName?_eq_some (h : splitName? path = some (directory, name)) :
    ∃ front body part, Front front body ∧ path.toList = front ++ body ∧
      dropIdle body.reverse = name.toList.reverse ++ part ∧ Separated part ∧
      directory.toList = front ++ (dropIdle (part.drop 1)).reverse ∧ IsFileName name := by
  unfold splitName? at h
  obtain ⟨hfront, hpath⟩ := front_splitFront path.toList
  generalize splitFront path.toList = cut at h hfront hpath
  obtain ⟨front, body⟩ := cut
  have hfirm := firm_dropIdle body.reverse
  dsimp only at h hfront hpath
  generalize hends : dropIdle body.reverse = b at h hfirm
  split at h
  · cases h
  · rename_i hne
    obtain ⟨hup, heq⟩ := Option.ite_none_left_eq_some.1 h
    obtain ⟨rfl, rfl⟩ := Prod.mk.inj (Option.some.inj heq)
    obtain ⟨part, hb, hsep, hbefore, hwhole⟩ := splitLast_whole b
    refine ⟨front, body, part, hfront, hpath, ?_, hsep, ?_, ?_⟩
    · rw [hends, String.toList_ofList, ← hb]
    · rw [String.toList_ofList, hbefore]
    · rw [hb] at hfirm hne
      exact isFileName_of_firm hfirm hne hsep hwhole hup

/-- What is kept of a path before its name is the first part of it. -/
theorem kept_isPrefix {name : List Char} (h : dropIdle body.reverse = name ++ part) :
    (dropIdle (part.drop 1)).reverse <+: body := by
  have hpart : part.drop 1 <:+ name ++ part :=
    (List.drop_suffix 1 part).trans (List.suffix_append _ _)
  have hbody := ((dropIdle_suffix _).trans hpart).trans (h ▸ dropIdle_suffix body.reverse)
  rwa [← List.reverse_prefix, List.reverse_reverse] at hbody

/-- A path leads where its last name leads from its directory. -/
theorem isEntry_of_splitName? (h : splitName? path = some (directory, name)) :
    IsFileName name ∧ IsEntry directory name path := by
  obtain ⟨front, body, part, hfront, hpath, hends, hsep, hwithin, hname⟩ := splitName?_eq_some h
  have hkept := kept_isPrefix hends
  have hbody : steps body = steps (dropIdle (part.drop 1)).reverse ++ [name.toList] := by
    rw [← List.reverse_reverse body, ← steps_dropIdle, hends, List.reverse_append,
      List.reverse_reverse]
    rcases hsep with rfl | ⟨before, rfl⟩
    · exact hname.steps
    · rw [List.reverse_cons, List.append_assoc, List.singleton_append, steps_append,
        hname.steps, List.drop_succ_cons, List.drop_zero, steps_dropIdle]
  refine ⟨hname, ?_, ?_⟩
  · rw [Bool.eq_iff_iff, startsWith_slash_iff, startsWith_slash_iff, hpath, hwithin]
    exact head?_front hfront hkept
  · rw [names_eq, names_eq, hpath, hwithin, steps_front hfront List.prefix_rfl,
      steps_front hfront hkept, hbody, List.map_append, List.map_singleton, String.ofList_toList]

/-- A path that ends in a name is cut before it. -/
theorem splitName?_of_front (hfront : Front front body) (hname : IsFileName name)
    (hsep : Separated part) (hpath : path.toList = front ++ body)
    (hbody : body.reverse = name.toList.reverse ++ part) :
    splitName? path =
      some (String.ofList (front ++ (dropIdle (part.drop 1)).reverse), name) := by
  have hends : dropIdle body.reverse = name.toList.reverse ++ part := by
    rw [hbody]
    exact hname.firm part
  have hup : name.toList ≠ ['.', '.'] := fun hup => hname.notUp (String.toList_inj.1 hup)
  rw [splitName?, hpath, hfront.splitFront_eq]
  dsimp only
  rw [hends]
  split
  · rename_i hnil
    have hleads := hname.leads
    rw [List.reverse_eq_nil_iff.1 (List.append_eq_nil_iff.1 hnil).1] at hleads
    cases hleads
  · rw [splitLast_name hname.whole hsep]
    dsimp only
    rw [if_neg hup, String.ofList_toList]

/-- A name behind what is kept of a path leaves what no name is cut from. -/
theorem Front.extended {kept : List Char} (h : Front front body) (hkept : kept <+: body)
    (hfirm : Firm kept.reverse) (hne : front ++ kept ≠ []) (rest : List Char) :
    Front front (kept ++ '/' :: rest) := by
  cases h with
  | none relative named bare =>
    obtain ⟨more, rfl⟩ := hkept
    match kept with
    | [] => exact absurd rfl hne
    | [c] =>
      have hslash : c ≠ '/' := fun hc => relative more (by rw [hc]; rfl)
      have hdot : c ≠ '.' := fun hc => (firm_iff.1 hfirm).2.1 (by rw [hc]; rfl)
      exact .none (by simp [hslash]) (by simp) (by simp [hdot])
    | c :: d :: kept =>
      have hslash : c ≠ '/' := fun hc => relative _ (by rw [hc]; rfl)
      have hboth : c = '.' → d ≠ '/' := fun hc hd => bare _ (by rw [hc, hd]; rfl)
      refine .none (by simp [hslash]) (by simp) ?_
      rintro rest hcut
      simp only [List.cons_append, List.cons.injEq] at hcut
      exact hboth hcut.1 hcut.2.1
  | root => exact .root _
  | dot =>
    rw [List.prefix_nil.1 hkept]
    exact .below _
  | below before =>
    cases kept with
    | nil => exact .below _
    | cons c kept =>
      obtain ⟨rfl, -⟩ := List.cons_prefix_cons.1 hkept
      exact .below _

/-- A name that is joined to the directory of a path is cut off again. -/
theorem splitName?_join {other : String} (h : splitName? path = some (directory, name))
    (hother : IsFileName other) : splitName? (join directory other) = some (directory, other) := by
  obtain ⟨front, body, part, hfront, -, hends, -, hdirectory, -⟩ := splitName?_eq_some h
  have hkept := kept_isPrefix hends
  have hfirm : Firm (dropIdle (part.drop 1)).reverse.reverse := by
    rw [List.reverse_reverse]
    exact firm_dropIdle _
  generalize (dropIdle (part.drop 1)).reverse = kept at hkept hfirm hdirectory
  have hidle : (dropIdle kept.reverse).reverse = kept := by rw [hfirm, List.reverse_reverse]
  have hcut : directory = String.ofList (front ++ kept) := by
    rw [← hdirectory, String.ofList_toList]
  rcases join_cases directory hother.whole with
    ⟨rfl, hjoin⟩ | ⟨-, ⟨before, hbefore, hjoin⟩⟩ | ⟨hne, hjoin⟩
  · -- The name stands alone.
    obtain ⟨rfl, rfl⟩ := List.append_eq_nil_iff.1 hdirectory.symm
    have hfree : Front [] other.toList := by
      refine .none ?_ ?_ ?_
      · intro rest hrest
        exact hother.whole (by simp [hrest])
      · intro hdot
        have hleads := hother.leads
        rw [hdot] at hleads
        cases hleads
      · intro rest hrest
        exact hother.whole (by simp [hrest])
    exact splitName?_of_front hfree hother (.inl rfl : Separated []) (by rw [hjoin]; rfl) (by simp)
  · -- Only the root ends in a separator.
    obtain rfl : kept = [] := by
      rw [hdirectory] at hbefore
      rcases List.eq_nil_or_concat kept with hnil | ⟨kept, c, rfl⟩
      · exact hnil
      · rw [List.concat_eq_append, ← List.append_assoc] at hbefore
        obtain rfl : c = '/' := by simpa using (List.append_inj' hbefore rfl).2
        exact absurd (by simp) ((firm_iff.1 hfirm).1 kept.reverse)
    have hroot : front = ['/'] := by
      rw [hdirectory, List.append_nil] at hbefore
      cases hfront with
      | none => simp at hbefore
      | root => rfl
      | dot => simp [List.singleton_eq_append_iff] at hbefore
      | below => simp [List.singleton_eq_append_iff] at hbefore
    subst hroot
    rw [hcut]
    refine splitName?_of_front (.root other.toList) hother (.inl rfl : Separated []) ?_ (by simp)
    rw [← hcut, hjoin, String.toList_append, hdirectory]
    rfl
  · -- What is kept and a separator stand before the name.
    have hlist : front ++ kept ≠ [] := by
      rw [← hdirectory]
      exact fun hnil => hne (String.toList_eq_nil_iff.1 hnil)
    have hpath : (join directory other).toList = front ++ (kept ++ '/' :: other.toList) := by
      simp [hjoin, hdirectory]
    have hbody : (kept ++ '/' :: other.toList).reverse =
        other.toList.reverse ++ '/' :: kept.reverse := by simp
    have hsplit := splitName?_of_front (hfront.extended hkept hfirm hlist _) hother
      (.inr ⟨_, rfl⟩) hpath hbody
    rw [hsplit, List.drop_succ_cons, List.drop_zero, hidle, ← hcut]

end Cutting

/-! ### What stands behind the last separator -/

/-- What stands behind the last separator. -/
def lastPart (path : String) : String := String.ofList (splitLast path.toList.reverse).1

section LastPart

variable {path directory name : String}

theorem exists_lastPart (path : String) :
    ∃ part, path.toList.reverse = (lastPart path).toList.reverse ++ part ∧ Separated part ∧
      '/' ∉ (lastPart path).toList := by
  obtain ⟨part, hpath, hsep, -, hwhole⟩ := splitLast_whole path.toList.reverse
  rw [lastPart, String.toList_ofList]
  exact ⟨part, hpath, hsep, hwhole⟩

theorem lastPart_of_separated {part : List Char} (hname : '/' ∉ name.toList)
    (hsep : Separated part) (hpath : path.toList.reverse = name.toList.reverse ++ part) :
    lastPart path = name := by
  rw [lastPart, hpath, splitLast_name hname hsep, String.ofList_toList]

/-- A part that leads somewhere is the last of the names. -/
theorem names_lastPart (h : isName (lastPart path).toList = true) :
    ∃ before, names path = before ++ [lastPart path] := by
  obtain ⟨part, hpath, hsep, hwhole⟩ := exists_lastPart path
  rcases hsep with rfl | ⟨before, rfl⟩
  · have hlist : path.toList = (lastPart path).toList := by simpa using hpath
    refine ⟨[], ?_⟩
    rw [names, hlist, splitOnP_name hwhole, List.filter_cons_of_pos h]
    simp
  · have hlist : path.toList = before.reverse ++ '/' :: (lastPart path).toList := by
      rw [← List.reverse_reverse path.toList, hpath]
      simp
    exact ⟨_, names_of_append hlist hwhole h⟩

theorem lastPart_join (h : IsFileName name) : lastPart (join directory name) = name := by
  rcases join_cases directory h.whole with
    ⟨-, hjoin⟩ | ⟨-, ⟨front, hfront, hjoin⟩⟩ | ⟨-, hjoin⟩
  · exact lastPart_of_separated h.whole (.inl rfl : Separated []) (by simp [hjoin])
  · refine lastPart_of_separated h.whole (.inr ⟨front.reverse, rfl⟩) ?_
    rw [hjoin, String.toList_append, hfront]
    simp
  · refine lastPart_of_separated h.whole (.inr ⟨directory.toList.reverse, rfl⟩) ?_
    rw [hjoin]
    simp

end LastPart

theorem isEntry_join {directory name : String} (h : IsFileName name) :
    IsEntry directory name (join directory name) :=
  ⟨startsWith_join h.whole, names_join h.whole h.leads⟩

end BulkLoad.Path
