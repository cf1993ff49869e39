import BulkLoad.Proofs.Output.Candidates
import BulkLoad.Proofs.Output.FileSystem
import Mathlib.Tactic.SplitIfs

/-!
What is foretold about an output path and what a claim of it does. Both look for the first of the
same paths that is free: the one by asking what stands there, the other by trying to make a file.
-/

namespace BulkLoad.Output

open Host (Dialogue FileSystem Handle)
open Model (Place)
open BulkLoad.Path (IsEntry IsFileName lastPart)
open Step (IfExists)

/-! ### The paths that are tried -/

section Attempts

variable {path directory name p : String} {time : Instant.Fields}

/-- A path that does not end in a separator has something behind the last one. -/
theorem lastPart_ne_nil (hsplit : Path.splitName? path = some (directory, name))
    (hend : path.endsWith "/" = false) : lastPart path ≠ "" := by
  intro hnil
  obtain ⟨part, hpath, hsep, -⟩ := Path.exists_lastPart path
  rw [hnil] at hpath
  rcases hsep with rfl | ⟨before, rfl⟩
  · have hempty : path = "" := by simpa using hpath
    rw [hempty] at hsplit
    cases hsplit
  · have hslash : path.endsWith "/" = true := by
      refine Path.endsWith_slash_iff.2 ⟨before.reverse, ?_⟩
      rw [← List.reverse_reverse path.toList, hpath]
      simp
    rw [hslash] at hend
    cases hend

/-- Whatever is tried is an entry of the directory. -/
theorem entry_of_mem_attempts {policy : IfExists}
    (hsplit : Path.splitName? path = some (directory, name)) (hend : path.endsWith "/" = false)
    (hp : p ∈ attempts path policy time) :
    lastPart p ≠ "" ∧ ∃ other, IsFileName other ∧ IsEntry directory other p := by
  have hattempt : p = path ∨ p ∈ candidates path time := by
    cases policy with
    | rename => exact List.mem_cons.1 hp
    | fail => exact .inl (List.mem_singleton.1 hp)
    | skip => exact .inl (List.mem_singleton.1 hp)
  rcases hattempt with rfl | hcandidate
  · exact ⟨lastPart_ne_nil hsplit hend, name, Path.isEntry_of_splitName? hsplit⟩
  · obtain ⟨hname, hentry, -⟩ := entry_of_mem_candidates hsplit hcandidate
    refine ⟨?_, lastPart p, hname, hentry⟩
    intro hnil
    rw [hnil] at hname
    cases hname.leads

end Attempts

/-! ### What is foretold, and what is done -/

/-- The decision when every path that may be tried is taken. -/
def noneFree (path : String) : IfExists → Except Fault Decision
  | .fail => .error (takenFault path)
  | .skip => .ok (.skip path)
  | .rename => .error (exhaustedFault path)

theorem resolve_eq (isTaken : String → Bool) (path : String) (policy : IfExists)
    (time : Instant.Fields) :
    resolve isTaken path policy time =
      match (attempts path policy time).find? fun p => !isTaken p with
      | some p => .ok (.write p)
      | none => noneFree path policy := by
  unfold resolve
  cases htaken : isTaken path with
  | false => cases policy <;> simp [attempts, htaken]
  | true =>
    cases policy with
    | fail => simp [attempts, htaken, noneFree]
    | skip => simp [attempts, htaken, noneFree]
    | rename =>
      rw [attempts, List.find?_cons_of_neg (by simp [htaken])]
      rfl

variable {fs : FileSystem} {file : Handle} {path : String}

/-- What comes of the attempt to make a file at a free path. -/
inductive Tried (fs : FileSystem) (file : Handle) (path : String) :
    Except Fault Claim × FileSystem → Prop
  | made {place : Place} (vacant : fs.vacancy path = .ok (some place)) :
      Tried fs file path (.ok (.created path file), fs.put place)
  | refused {e : Host.SystemError} (barred : fs.vacancy path = .error e) :
      Tried fs file path (.error (creationFault path e.message), fs)

theorem run_claimFirst_cons {verdict : Except Fault Claim} {rest : List String}
    {creation : Host.Creation} {after : FileSystem}
    (h : fs.create file path = (creation, after)) :
    (claimFirst verdict (path :: rest)).run (FileSystem.answer file) fs =
      match creation with
      | .made file => (.ok (.created path file), after)
      | .taken => (claimFirst verdict rest).run (FileSystem.answer file) after
      | .refused message => (.error (creationFault path message), after) := by
  have hanswer : FileSystem.answer file (.createFile path) fs = (creation, after) := h
  show Dialogue.run _ (.ask _ _) _ = _
  rw [Dialogue.run, hanswer]
  cases creation <;> rfl

/-- A claim passes by the paths at which something stands, and is settled by the first other. -/
theorem run_claimFirst (fs : FileSystem) (file : Handle) (verdict : Except Fault Claim)
    {paths : List String} (hends : ∀ p ∈ paths, lastPart p ≠ "") :
    (paths.find? (fun p => !fs.has p) = none →
      (claimFirst verdict paths).run (FileSystem.answer file) fs = (verdict, fs)) ∧
    ∀ p, paths.find? (fun p => !fs.has p) = some p →
      Tried fs file p ((claimFirst verdict paths).run (FileSystem.answer file) fs) := by
  induction paths with
  | nil => exact ⟨fun _ => rfl, nofun⟩
  | cons path rest ih =>
    obtain ⟨hend, hrest⟩ := List.forall_mem_cons.1 hends
    cases hhas : fs.has path with
    | true =>
      have hcreate : fs.create file path = (.taken, fs) := by
        rw [FileSystem.create, (FileSystem.has_iff_vacancy hend).1 hhas]
      rw [run_claimFirst_cons hcreate, List.find?_cons_of_neg (by simp [hhas])]
      exact ih hrest
    | false =>
      rw [List.find?_cons_of_pos (by simp [hhas])]
      refine ⟨nofun, ?_⟩
      rintro _ ⟨⟩
      cases hvacancy : fs.vacancy path with
      | error e =>
        have hcreate : fs.create file path = (.refused e.message, fs) := by
          rw [FileSystem.create, hvacancy]
        rw [run_claimFirst_cons hcreate]
        exact .refused hvacancy
      | ok vacancy =>
        cases vacancy with
        | none =>
          rw [(FileSystem.has_iff_vacancy hend).2 hvacancy] at hhas
          cases hhas
        | some place =>
          have hcreate : fs.create file path = (.made file, fs.put place) := by
            rw [FileSystem.create, hvacancy]
          rw [run_claimFirst_cons hcreate]
          exact .made hvacancy

section Agreement

variable {directory name : String} {place : Place} {policy : IfExists} {time : Instant.Fields}

/-- Which decisions and claims go together. The directory of the path is at a place. -/
inductive Settled (fs : FileSystem) (file : Handle) (place : Place) (path : String) :
    IfExists → Except Fault Decision → Except Fault Claim × FileSystem → Prop
  | noneFree (policy : IfExists) :
      Settled fs file place path policy (noneFree path policy) (allTaken path policy, fs)
  | made {policy : IfExists} {p : String} (takes : fs.Takes p)
      (free : fs.stands (place ++ [lastPart p]) = none)
      (leads : (fs.put (place ++ [lastPart p])).find p = .ok (place ++ [lastPart p])) :
      Settled fs file place path policy (.ok (.write p))
        (.ok (.created p file), fs.put (place ++ [lastPart p]))
  | refused {policy : IfExists} {p : String} {e : Host.SystemError} (barred : ¬fs.Takes p)
      (vacancy : fs.vacancy p = .error e) :
      Settled fs file place path policy (.ok (.write p)) (.error (creationFault p e.message), fs)

theorem settled (hsplit : Path.splitName? path = some (directory, name))
    (hend : path.endsWith "/" = false)
    (hwalk : fs.walk (fs.start directory) (Path.names directory) = .ok place)
    (hwrite : fs.stands place = some (.directory .write)) :
    Settled fs file place path policy (resolve fs.has path policy time)
      ((claim path policy time).run (FileSystem.answer file) fs) := by
  obtain ⟨hnone, hsome⟩ := run_claimFirst fs file (allTaken path policy)
    fun p (hp : p ∈ attempts path policy time) => (entry_of_mem_attempts hsplit hend hp).1
  rw [resolve_eq, claim]
  cases hfind : (attempts path policy time).find? fun p => !fs.has p with
  | none =>
    rw [hnone hfind]
    exact .noneFree policy
  | some p =>
    obtain ⟨hlast, other, hother, hentry⟩ :=
      entry_of_mem_attempts hsplit hend (List.mem_of_find?_eq_some hfind)
    have hfree : fs.has p = false := by simpa using List.find?_some hfind
    have htried := hsome p hfind
    by_cases htakes : fs.Takes p
    · obtain ⟨hvacancy, hvacant⟩ :=
        FileSystem.vacancy_of_takes hentry hother hwalk hwrite hlast htakes hfree
      obtain ⟨heq, hat⟩ := FileSystem.at_of_takes hentry hother hwalk hwrite hlast htakes
      subst heq
      generalize (claimFirst _ _).run _ _ = ran at htried ⊢
      cases htried with
      | made vacant =>
        obtain rfl : _ = place ++ [lastPart p] := by simpa [hvacancy] using vacant.symm
        exact .made htakes hvacant (FileSystem.find_put hlast htakes.whole hat hvacant)
      | refused barred =>
        rw [hvacancy] at barred
        cases barred
    · generalize (claimFirst _ _).run _ _ = ran at htried ⊢
      cases htried with
      | made vacant => exact absurd (FileSystem.takes_of_vacancy vacant) htakes
      | refused barred => exact .refused htakes barred

/-- An output path is turned down only for what stands there, and at all of its stand-ins. -/
theorem resolve_eq_error_iff {isTaken : String → Bool} {fault : Fault} :
    resolve isTaken path policy time = .error fault ↔ isTaken path = true ∧
      (policy = .fail ∧ fault = takenFault path ∨
        policy = .rename ∧ (∀ p ∈ candidates path time, isTaken p = true) ∧
          fault = exhaustedFault path) := by
  unfold resolve
  generalize candidates path time = paths
  cases isTaken path with
  | false => simp
  | true =>
    cases policy with
    | fail =>
      constructor
      · rintro ⟨⟩
        exact ⟨rfl, .inl ⟨rfl, rfl⟩⟩
      · rintro ⟨-, ⟨-, rfl⟩ | ⟨⟨⟩, -⟩⟩
        rfl
    | skip => simp
    | rename =>
      cases hfind : paths.find? fun p => !isTaken p with
      | none =>
        have htaken : ∀ p ∈ paths, isTaken p = true := by simpa using hfind
        constructor
        · rintro ⟨⟩
          exact ⟨rfl, .inr ⟨rfl, htaken, rfl⟩⟩
        · rintro ⟨-, ⟨⟨⟩, -⟩ | ⟨-, -, rfl⟩⟩
          rfl
      | some p =>
        have hfree : isTaken p = false := by simpa using List.find?_some hfind
        constructor
        · nofun
        · rintro ⟨-, ⟨⟨⟩, -⟩ | ⟨-, htaken, -⟩⟩
          rw [htaken p (List.mem_of_find?_eq_some hfind)] at hfree
          cases hfree

/-- In a directory that the process may make entries in, a claim makes its file exactly where that
was foretold, if the system takes such a path; it is skipped, or fails because of what stands there,
exactly as foretold. Where the system does not take the path that was foretold, the claim fails for
that. The file system is changed by the new file and by nothing else. -/
theorem claim_agrees_with_resolve (fs : FileSystem) (file : Handle) (policy : IfExists)
    (time : Instant.Fields) (hsplit : Path.splitName? path = some (directory, name))
    (hend : path.endsWith "/" = false)
    (hwalk : fs.walk (fs.start directory) (Path.names directory) = .ok place)
    (hwrite : fs.stands place = some (.directory .write)) :
    let resolved := resolve fs.has path policy time
    let claimed := (claim path policy time).run (FileSystem.answer file) fs
    (∀ p, claimed.1 = .ok (.created p file) ↔ resolved = .ok (.write p) ∧ fs.Takes p) ∧
    (∀ p, claimed.1 = .ok (.skipped p) ↔ resolved = .ok (.skip p)) ∧
    (∀ fault, claimed.1 = .error fault ↔ resolved = .error fault ∨
      ∃ p e, resolved = .ok (.write p) ∧ ¬fs.Takes p ∧ fs.vacancy p = .error e ∧
        fault = creationFault p e.message) ∧
    (∀ fault, resolved = .error fault ↔ fs.has path = true ∧
      (policy = .fail ∧ fault = takenFault path ∨
        policy = .rename ∧ (∀ p ∈ candidates path time, fs.has p = true) ∧
          fault = exhaustedFault path)) ∧
    (∀ p, claimed.1 = .ok (.created p file) →
      fs.stands (place ++ [lastPart p]) = none ∧
      claimed.2 = fs.put (place ++ [lastPart p]) ∧
      claimed.2.find p = .ok (place ++ [lastPart p])) ∧
    ((∀ p, claimed.1 ≠ .ok (.created p file)) → claimed.2 = fs) := by
  intro resolved claimed
  have hsettled : Settled fs file place path policy resolved claimed :=
    settled hsplit hend hwalk hwrite
  have herror : ∀ fault, resolved = .error fault ↔ _ := fun fault => resolve_eq_error_iff
  clear_value resolved claimed
  cases hsettled with
  | noneFree =>
    refine ⟨?_, ?_, ?_, herror, ?_, fun _ => rfl⟩
    all_goals cases policy <;> simp [allTaken, noneFree]
  | made takes free leads =>
    refine ⟨?_, by simp, ?_, herror, ?_, ?_⟩
    · intro p
      constructor
      · rintro ⟨⟩
        exact ⟨rfl, takes⟩
      · rintro ⟨⟨⟩, -⟩
        rfl
    · intro fault
      constructor
      · intro h
        cases h
      · rintro (⟨⟨⟩⟩ | ⟨p, e, ⟨⟩, barred, -⟩)
        exact absurd takes barred
    · rintro p ⟨⟩
      exact ⟨free, rfl, leads⟩
    · intro hnone
      exact absurd rfl (hnone _)
  | refused barred vacancy =>
    refine ⟨?_, by simp, ?_, herror, by simp, fun _ => rfl⟩
    · intro p
      constructor
      · intro h
        cases h
      · rintro ⟨⟨⟩, takes⟩
        exact absurd takes barred
    · intro fault
      constructor
      · rintro ⟨⟩
        exact .inr ⟨_, _, rfl, barred, vacancy, rfl⟩
      · rintro (⟨⟨⟩⟩ | ⟨p, e, ⟨⟩, -, hvacancy, rfl⟩)
        rw [vacancy] at hvacancy
        cases hvacancy
        rfl

end Agreement

/-- A directory with a link at the path that is asked for, and a pipe at its first stand-in. -/
def dataVolume : FileSystem where
  stands place :=
    if place = [] then some (.directory .search)
    else if place = ["data"] then some (.directory .write)
    else if place = ["data", "out.txt"] then some (.link ["data", "old.txt"])
    else if place = ["data", "old.txt"] then some (.file [104, 105])
    else if place = ["data", "out_20240131_235958.txt"] then some .special
    else none
  workingDirectory := []
  nameLimit := 255
  pathLimit := 4095
  linked {place target} h := by
    have htarget : target = ["data", "old.txt"] := by
      split_ifs at h <;> simp_all
    subst htarget
    refine ⟨?_, .file [104, 105], rfl, nofun⟩
    intro d hd hne
    match d with
    | [] => exact ⟨.search, rfl, nofun⟩
    | [first] =>
      obtain ⟨rfl, -⟩ := List.cons_prefix_cons.1 hd
      exact ⟨.write, rfl, nofun⟩
    | first :: second :: rest =>
      exact absurd (hd.eq_of_length_le (by simp)) hne

/-- The claim passes by the link and the pipe and makes a file at the first number, as foretold. -/
theorem claim_agrees_with_resolve_numbered :
    Path.splitName? "/data/out.txt" = some ("/data", "out.txt") ∧
    "/data/out.txt".endsWith "/" = false ∧
    dataVolume.walk (dataVolume.start "/data") (Path.names "/data") = .ok ["data"] ∧
    dataVolume.stands ["data"] = some (.directory .write) ∧
    ((claim "/data/out.txt" .rename evening).run (FileSystem.answer ⟨3⟩) dataVolume).1 =
      .ok (.created "/data/out_20240131_235958_1.txt" ⟨3⟩) := by
  have hsplit : Path.splitName? "/data/out.txt" = some ("/data", "out.txt") := by decide +kernel
  have hend : "/data/out.txt".endsWith "/" = false := by decide +kernel
  have hwalk : dataVolume.walk (dataVolume.start "/data") (Path.names "/data") = .ok ["data"] := by
    decide +kernel
  have hwrite : dataVolume.stands ["data"] = some (.directory .write) := by decide +kernel
  have hfirst : (attempts "/data/out.txt" .rename evening).find? (fun p => !dataVolume.has p) =
      some "/data/out_20240131_235958_1.txt" := by decide +kernel
  have hresolved : resolve dataVolume.has "/data/out.txt" .rename evening =
      .ok (.write "/data/out_20240131_235958_1.txt") := by
    rw [resolve_eq, hfirst]
  have htakes : dataVolume.Takes "/data/out_20240131_235958_1.txt" :=
    ⟨by decide +kernel, by decide +kernel, by decide +kernel, by decide +kernel⟩
  have hagree := claim_agrees_with_resolve dataVolume ⟨3⟩ .rename evening hsplit hend hwalk hwrite
  exact ⟨hsplit, hend, hwalk, hwrite, (hagree.1 _).2 ⟨hresolved, htakes⟩⟩

/-- A root directory in which nothing stands. -/
def emptyVolume : FileSystem where
  stands place := if place = [] then some (.directory .write) else none
  workingDirectory := []
  nameLimit := 255
  pathLimit := 4095
  linked {place target} h := by
    split_ifs at h
    cases h

/-- A path of a name in a directory that the process may make entries in, with stand-ins within the
limit for names, that is foretold as free and at which no file can be made. -/
structure Barred (fs : FileSystem) (path directory name : String) (place : Place) : Prop where
  split : Path.splitName? path = some (directory, name)
  unended : path.endsWith "/" = false
  walked : fs.walk (fs.start directory) (Path.names directory) = .ok place
  writable : fs.stands place = some (.directory .write)
  short : ∀ p ∈ candidates path evening, Bytes.lengthOfText (lastPart p) ≤ fs.nameLimit
  foretold : resolve fs.has path .fail evening = .ok (.write path)
  refused : ∃ e : Host.SystemError,
    ((claim path .fail evening).run (FileSystem.answer ⟨3⟩) fs).1 =
      .error (creationFault path e.message)

/-- A character that ends paths bars a path, and so does a dot behind a name at which nothing
stands. -/
theorem foretold_path_refused :
    Barred emptyVolume "x\x00y" "" "x\x00y" [] ∧ Barred emptyVolume "new/." "" "new" [] := by
  have hrun {path : String} {e : Host.SystemError} (h : emptyVolume.vacancy path = .error e) :
      ((claim path .fail evening).run (FileSystem.answer ⟨3⟩) emptyVolume).1 =
        .error (creationFault path e.message) := by
    have hcreate : emptyVolume.create ⟨3⟩ path = (.refused e.message, emptyVolume) := by
      rw [FileSystem.create, h]
    rw [claim, attempts, run_claimFirst_cons hcreate]
    exact nofun
  have hresolve {path : String} (h : emptyVolume.has path = false) :
      resolve emptyVolume.has path .fail evening = .ok (.write path) := by
    rw [resolve, h]
    rfl
  have hstamp : Bytes.lengthOfText ("_" ++ stamp evening) = 16 := by decide +kernel
  have hcandidates {path name : String} (h : Path.splitName? path = some ("", name))
      (hshort : Bytes.lengthOfText name ≤ 3) (p : String) (hp : p ∈ candidates path evening) :
      Bytes.lengthOfText (lastPart p) ≤ emptyVolume.nameLimit := by
    obtain ⟨-, -, hlength⟩ := entry_of_mem_candidates h hp
    have hlimit : emptyVolume.nameLimit = 255 := rfl
    omega
  have hnul : Path.splitName? "x\x00y" = some ("", "x\x00y") := by decide +kernel
  have hdot : Path.splitName? "new/." = some ("", "new") := by decide +kernel
  have hwalk : emptyVolume.walk (emptyVolume.start "") (Path.names "") = .ok [] := by decide +kernel
  have hrefused : emptyVolume.vacancy "x\x00y" = .error .nulInPath := by decide +kernel
  have hnoEntry : emptyVolume.vacancy "new/." = .error .noEntry := by decide +kernel
  constructor
  · exact ⟨hnul, by decide +kernel, hwalk, rfl, hcandidates hnul (by decide +kernel),
      hresolve (by decide +kernel), _, hrun hrefused⟩
  · exact ⟨hdot, by decide +kernel, hwalk, rfl, hcandidates hdot (by decide +kernel),
      hresolve (by decide +kernel), _, hrun hnoEntry⟩

end BulkLoad.Output
