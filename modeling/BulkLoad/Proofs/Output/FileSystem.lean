import BulkLoad.Model.Files
import BulkLoad.Proofs.Host.Trace
import BulkLoad.Proofs.Path.Siblings
import BulkLoad.Proofs.Traversal
import Mathlib.Logic.Function.Basic

/-!
File systems with links and rights, as a process sees them that may change them alone. Something
stands at a path exactly if no file can be made there because something is in the way, and a new
file changes nothing else. What a file system has room for is not part of the picture.
-/

namespace BulkLoad.Host

open Model (Place)
open BulkLoad.Path (IsEntry IsFileName isName lastPart names)

/-- What the process may do in a directory: nothing, look names up, or also make entries. -/
inductive Access where
  | closed
  | search
  | write
  deriving DecidableEq, Repr

/-- What stands at a place. -/
inductive Standing where
  | directory (access : Access)
  | file (content : Bytes)
  /-- A pipe, a socket or a device. -/
  | special
  | link (target : Place)
  deriving DecidableEq

/-- The process gets to the place through directories that it may look names up in, and finds
something there that is no link. -/
structure Reached (stands : Place → Option Standing) (place : Place) : Prop where
  through : ∀ d, d <+: place → d ≠ place →
    ∃ access, stands d = some (.directory access) ∧ access ≠ .closed
  there : ∃ s, stands place = some s ∧ ∀ target, s ≠ .link target

/-- A file system without dangling links. -/
structure FileSystem where
  stands : Place → Option Standing
  workingDirectory : Place
  nameLimit : Nat
  pathLimit : Nat
  linked : ∀ {place target}, stands place = some (.link target) → Reached stands target

/-- Wherever something stands, it does not give way to an empty file. -/
theorem Reached.put {stands : Place → Option Standing} {place : Place} (h : Reached stands place)
    (new : Place) :
    Reached (fun q => (stands q).or (if q = new then some (.file []) else none)) place := by
  refine ⟨?_, ?_⟩
  · intro d hd hne
    obtain ⟨access, hstands, hopen⟩ := h.through d hd hne
    exact ⟨access, by rw [hstands]; rfl, hopen⟩
  · obtain ⟨s, hstands, hnone⟩ := h.there
    exact ⟨s, by rw [hstands]; rfl, hnone⟩

namespace FileSystem

variable (fs : FileSystem)

/-- The place from which a path is followed. -/
def start (path : String) : Place := if path.startsWith "/" then [] else fs.workingDirectory

/-- What may be done in the directory at a place, if that is one to look names up in. -/
def enter (place : Place) : Except SystemError Access :=
  match fs.stands place with
  | none => .error .noEntry
  | some (.directory .closed) => .error .denied
  | some (.directory access) => .ok access
  | some _ => .error .notDirectory

/-- The place that a name stands for in a directory. -/
def entry (directory : Place) (name : String) : Except SystemError Place := do
  let _ ← fs.enter directory
  if name = ".." then pure directory.dropLast
  else if fs.nameLimit < Bytes.lengthOfText name then throw .nameTooLong
  else pure (directory ++ [name])

/-- Where a link leads. Anything else is where it is. -/
def follow (place : Place) : Place :=
  match fs.stands place with
  | some (.link target) => target
  | _ => place

/-- Goes from a place along names, and along the links that it meets. -/
def walk (place : Place) : List String → Except SystemError Place
  | [] => .ok place
  | name :: rest => do
    let place ← fs.entry place name
    walk (fs.follow place) rest

/-- Whether the system looks for anything at such a path. -/
def check (path : String) : Except SystemError Unit :=
  if '\x00' ∈ path.toList then .error .nulInPath
  else if path = "" then .error .noEntry
  else if fs.pathLimit < Bytes.lengthOfText path then .error .nameTooLong
  else .ok ()

/-- What a path finds where its names lead. One that ends in a separator, or in a dot behind one,
is for a directory. -/
def arrive (path : String) (place : Place) : Except SystemError Place :=
  match fs.stands place with
  | none => .error .noEntry
  | some (.directory access) =>
    if lastPart path = "." ∧ access = .closed then .error .denied else .ok place
  | some _ => if isName (lastPart path).toList then .ok place else .error .notDirectory

/-- The place of what stands at a path. -/
def find (path : String) : Except SystemError Place := do
  fs.check path
  let place ← fs.walk (fs.start path) (names path)
  fs.arrive path place

/-- Something stands at a path. -/
def has (path : String) : Bool := (fs.find path).isOk

/-- The place at which a path makes a new file; none if something is in the way. One dot and two
dots are in every directory already. A link at the place is in the way and is not followed. -/
def vacancy (path : String) : Except SystemError (Option Place) := do
  fs.check path
  if lastPart path = "" then throw .isDirectory
  else if lastPart path = "." ∨ lastPart path = ".." then
    let _ ← fs.find path
    pure none
  else
    let directory ← fs.walk (fs.start path) (names path).dropLast
    let place ← fs.entry directory (lastPart path)
    if (fs.stands place).isSome then pure none
    else if fs.stands directory = some (.directory .write) then pure (some place)
    else throw .denied

/-- The file system with an empty file at a place, unless something stands there. -/
def put (new : Place) : FileSystem where
  stands q := (fs.stands q).or (if q = new then some (.file []) else none)
  workingDirectory := fs.workingDirectory
  nameLimit := fs.nameLimit
  pathLimit := fs.pathLimit
  linked {place target} h := by
    rcases Option.or_eq_some_iff.1 h with hold | ⟨-, hnew⟩
    · exact (fs.linked hold).put new
    · obtain ⟨-, ⟨⟩⟩ := Option.ite_none_right_eq_some.1 hnew

/-- Makes a file at a path if nothing stands there. -/
def create (file : Handle) (path : String) : Creation × FileSystem :=
  match fs.vacancy path with
  | .ok (some place) => (.made file, fs.put place)
  | .ok none => (.taken, fs)
  | .error e => (.refused e.message, fs)

/-- The host with this file system: it gives the files that it makes a handle. -/
def answer (file : Handle) : (r : Request) → FileSystem → r.Answer × FileSystem
  | .createFile path, fs => fs.create file path
  | r, fs => (someAnswer r, fs)

/-- The system makes a file at such a path, if it has a directory to make it in and nothing stands
there. -/
structure Takes (fs : FileSystem) (path : String) : Prop where
  plain : '\x00' ∉ path.toList
  short : Bytes.lengthOfText path ≤ fs.pathLimit
  named : Bytes.lengthOfText (lastPart path) ≤ fs.nameLimit
  whole : lastPart path ≠ "."

variable {fs} {path name : String} {place : Place}

/-- Behind a link stands something. -/
theorem isSome_stands_follow (place : Place) :
    (fs.stands (fs.follow place)).isSome = (fs.stands place).isSome := by
  unfold follow
  split
  · rename_i target hlink
    obtain ⟨s, hstands, -⟩ := (fs.linked hlink).there
    rw [hstands, hlink]
    rfl
  · rfl

theorem walk_concat (place : Place) (before : List String) (name : String) :
    fs.walk place (before ++ [name]) = (do
      let directory ← fs.walk place before
      let place ← fs.entry directory name
      pure (fs.follow place)) := by
  induction before generalizing place with
  | nil => rfl
  | cons first rest ih =>
    simp only [List.cons_append, walk, ih, bind_assoc]

/-- A path that ends in a name leads by that name from where the names before it lead. -/
theorem names_of_lastPart (h : lastPart path ≠ "") (hdot : lastPart path ≠ ".") :
    isName (lastPart path).toList = true ∧
      names path = (names path).dropLast ++ [lastPart path] := by
  have hleads : isName (lastPart path).toList = true := by
    rw [isName, Bool.and_eq_true, bne_iff_ne, bne_iff_ne]
    exact ⟨fun hnil => h (String.toList_inj.1 hnil), fun hdot' => hdot (String.toList_inj.1 hdot')⟩
  obtain ⟨before, hnames⟩ := Path.names_lastPart hleads
  exact ⟨hleads, by rw [hnames, List.dropLast_concat]⟩

/-- The directory that a path with a last name leads to, and the place of the name there. -/
structure At (fs : FileSystem) (path : String) (directory place : Place) : Prop where
  checked : fs.check path = .ok ()
  walked : fs.walk (fs.start path) (names path).dropLast = .ok directory
  entered : fs.entry directory (lastPart path) = .ok place

theorem arrive_eq_ok_iff {q : Place} (hleads : isName (lastPart path).toList = true)
    (hdot : lastPart path ≠ ".") :
    fs.arrive path q = .ok place ↔ q = place ∧ (fs.stands q).isSome = true := by
  unfold arrive
  split
  · rename_i hnone
    simp [hnone]
  · rename_i hsome
    simp [hsome, hdot]
  · rename_i hsome
    simp [hsome, hleads]

/-- What stands at a path with a last name, and where. -/
theorem find_eq_ok_iff (h : lastPart path ≠ "") (hdot : lastPart path ≠ ".") :
    fs.find path = .ok place ↔ ∃ directory there, fs.At path directory there ∧
      fs.follow there = place ∧ (fs.stands there).isSome = true := by
  obtain ⟨hleads, hnames⟩ := names_of_lastPart h hdot
  unfold find
  rw [hnames, walk_concat]
  simp only [bind_eq_ok_iff, arrive_eq_ok_iff hleads hdot]
  constructor
  · rintro ⟨⟨⟩, hcheck, q, ⟨directory, hwalk, there, hentry, ⟨⟩⟩, hq, hstands⟩
    rw [isSome_stands_follow] at hstands
    exact ⟨directory, there, ⟨hcheck, hwalk, hentry⟩, hq, hstands⟩
  · rintro ⟨directory, there, ⟨hcheck, hwalk, hentry⟩, hq, hstands⟩
    rw [← isSome_stands_follow] at hstands
    exact ⟨(), hcheck, _, ⟨directory, hwalk, there, hentry, rfl⟩, hq, hstands⟩

/-- Where a path with a last name makes a file, or that something is in the way. -/
theorem vacancy_eq_ok_iff {vacancy : Option Place} (h : lastPart path ≠ "")
    (hdots : ¬(lastPart path = "." ∨ lastPart path = "..")) :
    fs.vacancy path = .ok vacancy ↔ ∃ directory there, fs.At path directory there ∧
      if (fs.stands there).isSome then vacancy = none
      else fs.stands directory = some (.directory .write) ∧ vacancy = some there := by
  unfold FileSystem.vacancy
  rw [if_neg h, if_neg hdots]
  simp only [bind_eq_ok_iff]
  constructor
  · rintro ⟨⟨⟩, hcheck, directory, hwalk, there, hentry, hend⟩
    refine ⟨directory, there, ⟨hcheck, hwalk, hentry⟩, ?_⟩
    split at hend
    · rename_i hstands
      cases hend
      rw [if_pos hstands]
    · rename_i hstands
      rw [if_neg hstands]
      split at hend
      · rename_i hwrite
        cases hend
        exact ⟨hwrite, rfl⟩
      · cases hend
  · rintro ⟨directory, there, ⟨hcheck, hwalk, hentry⟩, hend⟩
    refine ⟨(), hcheck, directory, hwalk, there, hentry, ?_⟩
    split at hend
    · rename_i hstands
      rw [if_pos hstands, hend]
      rfl
    · rename_i hstands
      rw [if_neg hstands, if_pos hend.1, hend.2]
      rfl

/-- Something stands at a path exactly if it is in the way of a new file there. -/
theorem has_iff_vacancy (hend : lastPart path ≠ "") :
    fs.has path = true ↔ fs.vacancy path = .ok none := by
  have hhas : fs.has path = true ↔ ∃ place, fs.find path = .ok place := by
    rw [has]
    cases fs.find path <;> simp [Except.isOk, Except.toBool]
  rw [hhas]
  by_cases hdots : lastPart path = "." ∨ lastPart path = ".."
  · unfold vacancy
    rw [if_neg hend, if_pos hdots]
    simp only [bind_eq_ok_iff]
    constructor
    · rintro ⟨place, hfind⟩
      obtain ⟨⟨⟩, hcheck, -⟩ := bind_eq_ok_iff.1 hfind
      exact ⟨(), hcheck, place, hfind, rfl⟩
    · rintro ⟨-, -, place, hfind, -⟩
      exact ⟨place, hfind⟩
  · rw [vacancy_eq_ok_iff hend hdots]
    simp only [find_eq_ok_iff hend fun hdot => hdots (.inl hdot)]
    constructor
    · rintro ⟨-, directory, there, hat, -, hstands⟩
      exact ⟨directory, there, hat, by simp [hstands]⟩
    · rintro ⟨directory, there, hat, hstands⟩
      refine ⟨fs.follow there, directory, there, hat, rfl, ?_⟩
      split at hstands
      · assumption
      · cases hstands.2

/-! ### Where a file is made -/

theorem check_eq_ok_iff : fs.check path = .ok () ↔
    '\x00' ∉ path.toList ∧ path ≠ "" ∧ Bytes.lengthOfText path ≤ fs.pathLimit := by
  unfold check
  split <;> simp_all
  split <;> simp_all

theorem entry_eq_ok_iff {directory : Place} (hup : name ≠ "..") :
    fs.entry directory name = .ok place ↔ (∃ access, fs.enter directory = .ok access) ∧
      Bytes.lengthOfText name ≤ fs.nameLimit ∧ place = directory ++ [name] := by
  unfold entry
  rw [if_neg hup, bind_eq_ok_iff]
  constructor
  · rintro ⟨access, henter, h⟩
    split at h
    · cases h
    · rename_i hshort
      cases h
      exact ⟨⟨access, henter⟩, Nat.not_lt.1 hshort, rfl⟩
  · rintro ⟨⟨access, henter⟩, hshort, rfl⟩
    exact ⟨access, henter, by rw [if_neg (Nat.not_lt.2 hshort)]; rfl⟩

/-- A file is made at nothing but a path that the system takes. -/
theorem takes_of_vacancy (h : fs.vacancy path = .ok (some place)) : fs.Takes path := by
  have hend : lastPart path ≠ "" := by
    intro hnil
    unfold vacancy at h
    rw [if_pos hnil] at h
    obtain ⟨-, -, ⟨⟩⟩ := bind_eq_ok_iff.1 h
  have hdots : ¬(lastPart path = "." ∨ lastPart path = "..") := by
    intro hdots
    unfold vacancy at h
    rw [if_neg hend, if_pos hdots] at h
    obtain ⟨-, -, h⟩ := bind_eq_ok_iff.1 h
    obtain ⟨-, -, ⟨⟩⟩ := bind_eq_ok_iff.1 h
  obtain ⟨directory, there, hat, -⟩ := (vacancy_eq_ok_iff hend hdots).1 h
  obtain ⟨hplain, -, hshort⟩ := check_eq_ok_iff.1 hat.checked
  obtain ⟨-, hnamed, -⟩ := (entry_eq_ok_iff fun hup => hdots (.inr hup)).1 hat.entered
  exact ⟨hplain, hshort, hnamed, fun hdot => hdots (.inl hdot)⟩

section Directory

variable {directory : String}

/-- A path that the system takes leads to its name in the directory. -/
theorem at_of_takes (hentry : IsEntry directory name path) (hname : IsFileName name)
    (hwalk : fs.walk (fs.start directory) (names directory) = .ok place)
    (hwrite : fs.stands place = some (.directory .write)) (hend : lastPart path ≠ "")
    (htakes : fs.Takes path) : lastPart path = name ∧ fs.At path place (place ++ [name]) := by
  obtain ⟨-, hnames⟩ := names_of_lastPart hend htakes.whole
  rw [hentry.names] at hnames
  obtain ⟨hbefore, hlast⟩ := List.append_inj' hnames rfl
  have hlast : lastPart path = name := (List.cons.inj hlast).1.symm
  have hnamed := htakes.named
  have hnonempty : path ≠ "" := by
    rintro rfl
    exact hend rfl
  rw [hlast] at hnamed
  refine ⟨hlast, ?_, ?_, ?_⟩
  · exact check_eq_ok_iff.2 ⟨htakes.plain, hnonempty, htakes.short⟩
  · rw [hentry.names, List.dropLast_concat, start, hentry.begins]
    exact hwalk
  · rw [hlast]
    refine (entry_eq_ok_iff hname.notUp).2 ⟨⟨.write, ?_⟩, hnamed, rfl⟩
    rw [enter, hwrite]

/-- In a directory that the process may make entries in, a file is made wherever nothing stands. -/
theorem vacancy_of_takes (hentry : IsEntry directory name path) (hname : IsFileName name)
    (hwalk : fs.walk (fs.start directory) (names directory) = .ok place)
    (hwrite : fs.stands place = some (.directory .write)) (hend : lastPart path ≠ "")
    (htakes : fs.Takes path) (hfree : fs.has path = false) :
    fs.vacancy path = .ok (some (place ++ [name])) ∧ fs.stands (place ++ [name]) = none := by
  obtain ⟨hlast, hat⟩ := at_of_takes hentry hname hwalk hwrite hend htakes
  have hdots : ¬(lastPart path = "." ∨ lastPart path = "..") := by
    rintro (hdot | hup)
    · exact htakes.whole hdot
    · exact hname.notUp (hlast.symm.trans hup)
  have hnone : fs.stands (place ++ [name]) = none := by
    rw [← Option.not_isSome_iff_eq_none]
    intro hstands
    have hhas : fs.has path = true := by
      refine (has_iff_vacancy hend).2 ((vacancy_eq_ok_iff hend hdots).2 ⟨_, _, hat, ?_⟩)
      simp [hstands]
    rw [hhas] at hfree
    cases hfree
  refine ⟨(vacancy_eq_ok_iff hend hdots).2 ⟨_, _, hat, ?_⟩, hnone⟩
  simp [hnone, hwrite]

end Directory

/-! ### A new file -/

theorem stands_put_of_free (hfree : fs.stands place = none) :
    (fs.put place).stands = Function.update fs.stands place (some (.file [])) := by
  funext q
  by_cases hq : q = place
  · subst hq
    simp [put, hfree]
  · simp [put, hq]

theorem enter_put {access : Access} {directory : Place} (new : Place)
    (h : fs.enter directory = .ok access) : (fs.put new).enter directory = .ok access := by
  unfold enter at h ⊢
  cases hstands : fs.stands directory with
  | none =>
    rw [hstands] at h
    cases h
  | some s =>
    rw [hstands] at h
    simpa [put, hstands] using h

theorem follow_put (new q : Place) : (fs.put new).follow q = fs.follow q := by
  unfold follow
  cases hstands : fs.stands q with
  | none =>
    by_cases hq : q = new
    · subst hq
      simp [put, hstands]
    · simp [put, hstands, hq]
  | some s => simp [put, hstands]

theorem entry_put {directory : Place} (new : Place) (h : fs.entry directory name = .ok place) :
    (fs.put new).entry directory name = .ok place := by
  unfold entry at h ⊢
  obtain ⟨access, henter, h⟩ := bind_eq_ok_iff.1 h
  exact bind_eq_ok_iff.2 ⟨access, enter_put new henter, h⟩

/-- What could be followed can be followed still. -/
theorem walk_put {ns : List String} {q : Place} (new : Place) (h : fs.walk q ns = .ok place) :
    (fs.put new).walk q ns = .ok place := by
  induction ns generalizing q with
  | nil => exact h
  | cons n ns ih =>
    obtain ⟨there, hentry, hrest⟩ := bind_eq_ok_iff.1 h
    refine bind_eq_ok_iff.2 ⟨there, entry_put new hentry, ?_⟩
    rw [follow_put]
    exact ih hrest

/-- A path leads to the file that was made there. -/
theorem find_put {directory : Place} (hend : lastPart path ≠ "") (hdot : lastPart path ≠ ".")
    (hat : fs.At path directory place) (hfree : fs.stands place = none) :
    (fs.put place).find path = .ok place := by
  refine (find_eq_ok_iff hend hdot).2 ⟨directory, place, ⟨hat.checked, ?_, ?_⟩, ?_, ?_⟩
  · exact walk_put place hat.walked
  · exact entry_put place hat.entered
  · rw [follow_put, follow, hfree]
  · simp [stands_put_of_free hfree]

end FileSystem
end BulkLoad.Host
