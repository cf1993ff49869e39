import BulkLoad.Proofs.Output.Claims
import BulkLoad.Proofs.Sink.Pipes

/-!
Pipes of any number of sessions at once, in one file system. The names that sessions draw may meet,
at any time and in any number; yet each pipe has one session, which alone removes it, as a pipe is
made only where nothing stands and a session removes only what it has made, and that once.
-/

namespace BulkLoad

namespace Host

/-- The request is about pipes: it makes or removes one, or draws a name for one. -/
def Request.isPiping : Request → Bool
  | .makePipe _ | .remove _ | .uniqueName => true
  | _ => false

namespace FileTable

/-- What stood at a path is gone, from there and from all other spellings of the path. -/
structure Removed (d : FileTable) (path : String) (d' : FileTable) : Prop where
  stands : ∀ q, d'.stands q = if d.stands q = d.stands path then none else d.stands q
  aged : d.made ≤ d'.made

/-- Whatever else was done, it was not done at some paths. -/
structure Spares (ours : String → Prop) (d d' : FileTable) : Prop where
  stands : ∀ q, ours q → d'.stands q = d.stands q
  aged : d.made ≤ d'.made

/-- What the host answers about pipes, and the files behind it. A pipe is made at once or not at
all, and only where nothing stands. Nothing but requests for pipes touches the paths of pipes; the
name for a pipe may be any, and may have been drawn before. -/
inductive PipeAnswers (ours : String → Prop) (d : FileTable) : Exchange → FileTable → Prop
  | made {path : String} {d' : FileTable} (free : d.stands path = none) (new : d.Made path d') :
      PipeAnswers ours d ⟨.makePipe path, PipeCreation.made⟩ d'
  | taken {path : String} (standing : d.stands path ≠ none) :
      PipeAnswers ours d ⟨.makePipe path, PipeCreation.taken⟩ d
  | unmade {path : String} {answer : PipeCreation} (free : d.stands path = none)
      (nothing : answer ≠ .made) : PipeAnswers ours d ⟨.makePipe path, answer⟩ d
  | removed {path : String} {d' : FileTable} (gone : d.Removed path d') :
      PipeAnswers ours d ⟨.remove path, Except.ok ()⟩ d'
  | unremoved {path message : String} : PipeAnswers ours d ⟨.remove path, Except.error message⟩ d
  | drawn {name : UniqueName} (plain : Sink.IsPlain name) : PipeAnswers ours d ⟨.uniqueName, name⟩ d
  | other {x : Exchange} {d' : FileTable} (h : x.request.isPiping = false)
      (spares : d.Spares ours d') : PipeAnswers ours d x d'

theorem spares_self (ours : String → Prop) (d : FileTable) : d.Spares ours d :=
  ⟨fun _ _ => rfl, Nat.le_refl _⟩

variable {d d' : FileTable} {path q : String} {file : Nat}

/-- The table without what stands at a path. -/
def remove (d : FileTable) (path : String) : FileTable where
  stands q := if d.stands q = d.stands path then none else d.stands q
  content := d.content
  made := d.made
  numbered {q file} h := by
    split at h
    · cases h
    · exact d.numbered h

theorem removed_remove (d : FileTable) (path : String) : d.Removed path (d.remove path) :=
  ⟨fun _ => rfl, Nat.le_refl _⟩

/-- Other files are where they were. -/
theorem Removed.stands_of_ne (h : d.Removed path d') (hq : d.stands q = some file)
    (hne : d.stands path ≠ some file) : d'.stands q = some file := by
  rw [h.stands, if_neg (by rw [hq]; exact hne.symm), hq]

theorem Removed.stood (h : d.Removed path d') (hq : d'.stands q = some file) :
    d.stands q = some file ∧ d.stands path ≠ some file := by
  rw [h.stands] at hq
  split at hq
  · cases hq
  · rename_i hne
    exact ⟨hq, fun hpath => hne (hq.trans hpath.symm)⟩

end FileTable
end Host

namespace Sink

open Host (Dialogue Exchange FileTable Request Trace)
open Session (Act Asks Holds Leaves Pipeless Stage fresh holds_iff_of_deeds pipeFault
  pipeless_of_onDisk)

variable {τ : Trace} {path : String}

/-- Sessions, by their steps and settings. -/
structure Sessions where
  step : Nat → String
  settings : Nat → Settings

namespace Sessions

/-- The session may draw the path for its pipe. -/
def Draws (c : Sessions) (i : Nat) (path : String) : Prop :=
  ∃ directory name, (c.settings i).choice = .fifo directory ∧ IsPlain name ∧
    path = pipePath directory (c.step i) name

/-- The path is one for pipes of the sessions. -/
def Ours (c : Sessions) (path : String) : Prop := ∃ i, c.Draws i path

end Sessions

namespace Sharing

/-- The files, how far what is done with each session has come, what was exchanged for it, and the
session that made a file as its pipe. -/
structure State where
  files : FileTable
  sessions : Nat → Dialogue (Option Fault × Option Session)
  traces : Nat → Trace
  maker : Nat → Option Nat

/-- The makers of files behind an exchange of a session. -/
def State.makerBehind (s : State) (i : Nat) : Exchange → Nat → Option Nat
  | ⟨.makePipe _, answer⟩ =>
    if @Host.PipeCreation.isMade answer then Function.update s.maker s.files.made (some i)
    else s.maker
  | _ => s.maker

/-- One step, for a session or by others. -/
inductive Step (c : Sessions) (s : State) : Option Nat → State → Prop
  | begun {i : Nat} {fault : Option Fault} {session : Session} (act : Act)
      (idle : s.sessions i = .done (fault, some session)) :
      Step c s (some i) { s with sessions := Function.update s.sessions i (session.act act) }
  /-- A request is put for a session, and the host answers at once. -/
  | asked {i : Nat} {r : Request} {next : r.Answer → Dialogue (Option Fault × Option Session)}
      (waiting : s.sessions i = .ask r next) (answer : r.Answer) {files : FileTable}
      (answered : s.files.PipeAnswers c.Ours ⟨r, answer⟩ files) :
      Step c s (some i) ⟨files, Function.update s.sessions i (next answer),
        Function.update s.traces i (s.traces i ++ [⟨r, answer⟩]), s.makerBehind i ⟨r, answer⟩⟩
  /-- Other processes do what they like elsewhere. -/
  | others {files : FileTable} (spares : s.files.Spares c.Ours files) :
      Step c s none { s with files }

/-- States one after the other, from one in which all sessions have just been made. -/
structure Run (c : Sessions) where
  moment : Nat → State
  actor : Nat → Option Nat
  next : ∀ t, Step c (moment t) (actor t) (moment (t + 1))
  unused : ∀ i, (moment 0).sessions i = .done (none, some (fresh (c.step i) (c.settings i)))
  unasked : ∀ i, (moment 0).traces i = []
  unmade : ∀ file, (moment 0).maker file = none

variable {c : Sessions} {s : State} {i : Nat}

/-! ### What one exchange does -/

/-- All that an exchange of a session may do. -/
inductive Effect (c : Sessions) (s : State) (i : Nat) :
    Exchange → Dialogue (Option Fault × Option Session) → FileTable → Prop
  | quiet {x : Exchange} {d : Dialogue (Option Fault × Option Session)} {files : FileTable}
      (offDisk : x.request.isOnDisk = false) (spares : s.files.Spares c.Ours files) :
      Effect c s i x d files
  | made {path : String} {d : Dialogue (Option Fault × Option Session)} {files : FileTable}
      (draws : c.Draws i path) (before : (s.traces i).onDisk = []) (new : s.files.Made path files) :
      Effect c s i ⟨.makePipe path, Host.PipeCreation.made⟩ d files
  | unmade {path : String} {answer : Host.PipeCreation} {session : Session}
      (draws : c.Draws i path) (before : (s.traces i).onDisk = []) (nothing : answer ≠ .made)
      (failed : session.state = .failed) :
      Effect c s i ⟨.makePipe path, answer⟩ (.done (some (pipeFault path answer), some session))
        s.files
  | removed {path : String} {d : Dialogue (Option Fault × Option Session)} {files : FileTable}
      (before : Holds (s.traces i) path) (gone : s.files.Removed path files) :
      Effect c s i ⟨.remove path, Except.ok ()⟩ d files
  | unremoved {path message : String} {d : Dialogue (Option Fault × Option Session)}
      (before : Holds (s.traces i) path) :
      Effect c s i ⟨.remove path, Except.error message⟩ d s.files

theorem effect_of_asks {x : Exchange} {d : Dialogue (Option Fault × Option Session)}
    {files : FileTable} (h : Asks (c.step i) (c.settings i) (s.traces i) x d)
    (hdrawn : ∀ name, ⟨.uniqueName, name⟩ ∈ s.traces i → IsPlain name)
    (ha : s.files.PipeAnswers c.Ours x files) : Effect c s i x d files := by
  cases h with
  | quiet offDisk =>
    refine .quiet offDisk ?_
    cases ha with
    | drawn plain => exact FileTable.spares_self _ _
    | other h spares => exact spares
    | _ => cases offDisk
  | @make directory name path answer d choice drawn named before fails =>
    have hdraws : c.Draws i path := ⟨directory, name, choice, hdrawn name drawn, named⟩
    cases ha with
    | made free new => exact .made hdraws before new
    | taken standing =>
      obtain ⟨session, hfailed, rfl⟩ := fails nofun
      exact .unmade hdraws before nofun hfailed
    | unmade free nothing =>
      obtain ⟨session, hfailed, rfl⟩ := fails nothing
      exact .unmade hdraws before nothing hfailed
    | other h spares => cases h
  | remove before =>
    cases ha with
    | removed gone => exact .removed before gone
    | unremoved => exact .unremoved before
    | other h spares => cases h

/-! ### Files and their makers -/

/-- The pipes on the disk, by the traces of the sessions: what is held stands, made by the session
that holds it; what stands at a path for pipes stood there from the start, or it is held or left by
its maker. -/
structure Tidy (ours : String → Prop) (start files : FileTable) (maker : Nat → Option Nat)
    (traces : Nat → Trace) : Prop where
  held : ∀ {i path}, Holds (traces i) path → ours path ∧
    ∃ file, files.stands path = some file ∧ maker file = some i
  used : ∀ {file i}, maker file = some i → file < files.made
  first : ∀ {q file}, ours q → start.stands q = some file →
    files.stands q = some file ∧ maker file = none
  standing : ∀ {q file}, ours q → files.stands q = some file → start.stands q = some file ∨
    ∃ i path, maker file = some i ∧ ours path ∧ files.stands path = some file ∧
      (Holds (traces i) path ∨ Leaves (traces i) path)

namespace Tidy

variable {ours : String → Prop} {start files files' : FileTable} {maker maker' : Nat → Option Nat}
  {traces : Nat → Trace}

/-- What a session has made it holds or leaves, as long as it stands. -/
theorem own {q : String} {file : Nat} (h : Tidy ours start files maker traces) (hours : ours q)
    (hstands : files.stands q = some file) (hmaker : maker file = some i) :
    ∃ path, ours path ∧ files.stands path = some file ∧
      (Holds (traces i) path ∨ Leaves (traces i) path) := by
  rcases h.standing hours hstands with hstart | ⟨j, path, hmaker', hpath, hthere, hof⟩
  · rw [(h.first hours hstart).2] at hmaker
    cases hmaker
  · rw [hmaker] at hmaker'
    cases hmaker'
    exact ⟨path, hpath, hthere, hof⟩

theorem of_spares (h : Tidy ours start files maker traces) (spares : files.Spares ours files') :
    Tidy ours start files' maker traces := by
  refine ⟨?_, fun hmaker => Nat.lt_of_lt_of_le (h.used hmaker) spares.aged, ?_, ?_⟩
  · intro i path hholds
    obtain ⟨hours, file, hstands, hmaker⟩ := h.held hholds
    exact ⟨hours, file, by rw [spares.stands path hours, hstands], hmaker⟩
  · intro q file hours hstart
    rw [spares.stands q hours]
    exact h.first hours hstart
  · intro q file hours hstands
    rw [spares.stands q hours] at hstands
    rcases h.standing hours hstands with hstart | ⟨i, path, hmaker, hpath, hthere, hof⟩
    · exact .inl hstart
    · exact .inr ⟨i, path, hmaker, hpath, by rw [spares.stands path hpath, hthere], hof⟩

/-- Only what a session does on the disk counts. -/
theorem of_onDisk (h : Tidy ours start files maker traces) (hi : τ.onDisk = (traces i).onDisk) :
    Tidy ours start files maker (Function.update traces i τ) := by
  have hsame : ∀ j, (Function.update traces i τ j).onDisk = (traces j).onDisk := by
    intro j
    by_cases hji : j = i
    · rw [hji, Function.update_self, hi]
    · rw [Function.update_of_ne hji]
  have hholds : ∀ j path, Holds (Function.update traces i τ j) path ↔ Holds (traces j) path :=
    fun j path => by rw [Holds, Holds, hsame]
  have hleaves : ∀ j path, Leaves (Function.update traces i τ j) path ↔ Leaves (traces j) path :=
    fun j path => by rw [Leaves, Leaves, hsame]
  refine ⟨fun hj => h.held ((hholds _ _).1 hj), h.used, h.first, fun hours hstands => ?_⟩
  simpa only [hholds, hleaves] using h.standing hours hstands

/-- What a session does leaves all alone that it has not made. What it has made is to be accounted
for by what it holds and leaves. -/
theorem of_update (h : Tidy ours start files maker traces)
    (others : ∀ {q file}, maker file ≠ some i → files.stands q = some file →
      files'.stands q = some file ∧ maker' file = maker file)
    (used : ∀ {file j}, maker' file = some j → file < files'.made)
    (holds : ∀ {path}, Holds τ path → ours path ∧
      ∃ file, files'.stands path = some file ∧ maker' file = some i)
    (stood : ∀ {q file}, ours q → files'.stands q = some file →
      (files.stands q = some file ∧ maker file ≠ some i) ∨
      (maker' file = some i ∧ ∃ path, ours path ∧ files'.stands path = some file ∧
        (Holds τ path ∨ Leaves τ path))) :
    Tidy ours start files' maker' (Function.update traces i τ) := by
  refine ⟨?_, used, ?_, ?_⟩
  · intro j path hj
    by_cases hji : j = i
    · rw [hji, Function.update_self] at hj
      rw [hji]
      exact holds hj
    · rw [Function.update_of_ne hji] at hj
      obtain ⟨hours, file, hstands, hmaker⟩ := h.held hj
      obtain ⟨hstands', hmaker'⟩ := others (by simpa [hmaker] using hji) hstands
      exact ⟨hours, file, hstands', hmaker'.trans hmaker⟩
  · intro q file hours hstart
    obtain ⟨hstands, hmaker⟩ := h.first hours hstart
    obtain ⟨hstands', hmaker'⟩ := others (by simp [hmaker]) hstands
    exact ⟨hstands', hmaker'.trans hmaker⟩
  · intro q file hours hq
    rcases stood hours hq with ⟨hstands, hne⟩ | ⟨hmaker, path, hpath, hthere, hof⟩
    · rcases h.standing hours hstands with hstart | ⟨j, path, hmaker, hpath, hthere, hof⟩
      · exact .inl hstart
      · have hji : j ≠ i := fun hji => hne (hji ▸ hmaker)
        obtain ⟨hthere', hmaker'⟩ := others hne hthere
        refine .inr ⟨j, path, hmaker'.trans hmaker, hpath, hthere', ?_⟩
        rwa [Function.update_of_ne hji]
    · refine .inr ⟨i, path, hmaker, hpath, hthere, ?_⟩
      rwa [Function.update_self]

theorem of_unmade (h : Tidy ours start files maker traces) (hi : Pipeless (traces i))
    (hτ : Pipeless τ) : Tidy ours start files maker (Function.update traces i τ) := by
  refine h.of_update (fun _ hq => ⟨hq, rfl⟩) h.used (fun hholds => absurd hholds (hτ _).1) ?_
  intro q file hours hq
  refine .inl ⟨hq, fun hmaker => ?_⟩
  obtain ⟨path, -, -, hof⟩ := h.own hours hq hmaker
  exact hof.elim (hi path).1 (hi path).2

/-- A new pipe has a new number, so it is nobody else's. -/
theorem of_made (h : Tidy ours start files maker traces) (hi : Pipeless (traces i))
    (hpath : ours path) (new : files.Made path files') (hτ : Holds τ path) :
    Tidy ours start files' (Function.update maker files.made (some i))
      (Function.update traces i τ) := by
  have hmade : Function.update maker files.made (some i) files.made = some i :=
    Function.update_self ..
  refine h.of_update ?_ ?_ ?_ ?_
  · intro q file _ hq
    have hlt := files.numbered hq
    exact ⟨new.keeps.standing hq, Function.update_of_ne (by omega) ..⟩
  · intro file j hmaker
    rw [new.counted]
    by_cases hfile : file = files.made
    · omega
    · rw [Function.update_of_ne hfile] at hmaker
      have hlt := h.used hmaker
      omega
  · intro path' hholds
    rw [hτ.eq hholds]
    exact ⟨hpath, files.made, new.there, hmade⟩
  · intro q file hours hq
    rcases new.others q with hsame | ⟨-, hthere⟩
    · rw [hsame] at hq
      refine .inl ⟨hq, fun hmaker => ?_⟩
      obtain ⟨path', -, -, hof⟩ := h.own hours hq hmaker
      exact hof.elim (hi path').1 (hi path').2
    · rw [hthere, Option.some_inj] at hq
      subst hq
      exact .inr ⟨hmade, path, hpath, new.there, .inl hτ⟩

/-- A session that removes its pipe takes away nothing but the file that it made. -/
theorem of_removed (h : Tidy ours start files maker traces) (hi : Holds (traces i) path)
    (gone : files.Removed path files') (hτ : Pipeless τ) :
    Tidy ours start files' maker (Function.update traces i τ) := by
  -- The file at the path is the session's own, so every other maker's file is another one.
  obtain ⟨-, file, hstands, hmaker⟩ := h.held hi
  refine h.of_update ?_ (fun hmaker => Nat.lt_of_lt_of_le (h.used hmaker) gone.aged)
    (fun hholds => absurd hholds (hτ _).1) ?_
  · intro q file' hne hq
    refine ⟨gone.stands_of_ne hq ?_, rfl⟩
    rw [hstands, ne_eq, Option.some_inj]
    rintro rfl
    exact hne hmaker
  · intro q file' hours hq
    obtain ⟨hq, hne⟩ := gone.stood hq
    refine .inl ⟨hq, fun hmaker' => ?_⟩
    obtain ⟨path', -, hthere, hof | hof⟩ := h.own hours hq hmaker'
    · exact hne (hi.eq hof ▸ hthere)
    · exact hi.not_leaves hof

/-- A pipe that cannot be removed is left where it is. -/
theorem of_left (h : Tidy ours start files maker traces) (hi : Holds (traces i) path)
    (hτ : Leaves τ path) : Tidy ours start files maker (Function.update traces i τ) := by
  refine h.of_update (fun _ hq => ⟨hq, rfl⟩) h.used (fun hholds => absurd hτ hholds.not_leaves) ?_
  intro q file hours hq
  by_cases hmaker : maker file = some i
  · obtain ⟨path', hpath, hthere, hof | hof⟩ := h.own hours hq hmaker
    · exact .inr ⟨hmaker, path', hpath, hthere, .inr (hi.eq hof ▸ hτ)⟩
    · exact absurd hof hi.not_leaves
  · exact .inl ⟨hq, hmaker⟩

end Tidy

theorem makerBehind_of_offDisk {x : Exchange} (h : x.request.isOnDisk = false) :
    s.makerBehind i x = s.maker := by
  obtain ⟨r, answer⟩ := x
  cases r <;> first | rfl | cases h

theorem onDisk_append_singleton {x : Exchange} (h : x.request.isOnDisk = true) :
    Trace.onDisk (τ ++ [x]) = τ.onDisk ++ [x] := by
  rw [Trace.onDisk_append, Trace.onDisk_cons, if_pos h, Trace.onDisk_nil]

theorem Effect.draws {path : String} {answer : Host.PipeCreation} {files : FileTable}
    {d : Dialogue (Option Fault × Option Session)}
    (h : Effect c s i ⟨.makePipe path, answer⟩ d files) : c.Draws i path := by
  cases h with
  | quiet offDisk spares => cases offDisk
  | made draws before new => exact draws
  | unmade draws before nothing failed => exact draws

/-- A session whose pipe is not made fails. -/
theorem Effect.fails {path : String} {answer : Host.PipeCreation} {files : FileTable}
    {d : Dialogue (Option Fault × Option Session)}
    (h : Effect c s i ⟨.makePipe path, answer⟩ d files) (ha : answer ≠ .made) :
    ∃ session, session.state = .failed ∧
      d = .done (some (pipeFault path answer), some session) := by
  cases h with
  | quiet offDisk spares => cases offDisk
  | made draws before new => exact absurd rfl ha
  | unmade draws before nothing failed => exact ⟨_, failed, rfl⟩

theorem mem_traces_cases {x y : Exchange} {traces : Nat → Trace} {j : Nat}
    (h : y ∈ Function.update traces i (traces i ++ [x]) j) : y ∈ traces j ∨ (j = i ∧ y = x) := by
  by_cases hji : j = i
  · subst hji
    rw [Function.update_self] at h
    rcases List.mem_append.1 h with h | h
    · exact .inl h
    · exact .inr ⟨rfl, List.mem_singleton.1 h⟩
  · rw [Function.update_of_ne hji] at h
    exact .inl h

/-- Whatever a session does, the files stay in order. -/
theorem Effect.tidy {start files : FileTable} {x : Exchange}
    {d : Dialogue (Option Fault × Option Session)} (h : Effect c s i x d files)
    (htidy : Tidy c.Ours start s.files s.maker s.traces) :
    Tidy c.Ours start files (s.makerBehind i x)
      (Function.update s.traces i (s.traces i ++ [x])) := by
  cases h with
  | quiet offDisk spares =>
    rw [makerBehind_of_offDisk offDisk]
    refine (htidy.of_onDisk ?_).of_spares spares
    rw [Trace.onDisk_append, Trace.onDisk_cons, offDisk]
    simp
  | made draws before new =>
    refine htidy.of_made (pipeless_of_onDisk before) ⟨i, draws⟩ new ?_
    rw [Holds, onDisk_append_singleton rfl, before]
    rfl
  | @unmade path answer session draws before nothing failed =>
    have hmaker : s.makerBehind i ⟨.makePipe path, answer⟩ = s.maker := by
      cases answer <;> first | rfl | exact absurd rfl nothing
    rw [hmaker]
    refine htidy.of_unmade (pipeless_of_onDisk before) fun path' => ⟨?_, ?_⟩
    · intro hholds
      rw [Holds, onDisk_append_singleton rfl, before] at hholds
      cases hholds
      exact nothing rfl
    · rintro ⟨message, hleaves⟩
      rw [onDisk_append_singleton rfl, before] at hleaves
      cases hleaves
  | removed before gone =>
    refine htidy.of_removed before gone fun path' => ⟨?_, ?_⟩
    · intro hholds
      rw [Holds, onDisk_append_singleton rfl, before] at hholds
      cases hholds
    · rintro ⟨message, hleaves⟩
      rw [onDisk_append_singleton rfl, before] at hleaves
      cases hleaves
  | @unremoved path message d before =>
    refine htidy.of_left before ⟨message, ?_⟩
    rw [onDisk_append_singleton rfl, before]
    rfl

/-- What a session takes away it has made. -/
theorem Effect.removes {start files : FileTable} {x : Exchange}
    {d : Dialogue (Option Fault × Option Session)} {q : String} {file : Nat}
    (h : Effect c s i x d files) (htidy : Tidy c.Ours start s.files s.maker s.traces)
    (hours : c.Ours q) (hstands : s.files.stands q = some file)
    (hgone : files.stands q ≠ some file) : s.maker file = some i := by
  cases h with
  | quiet offDisk spares => exact absurd ((spares.stands q hours).trans hstands) hgone
  | made draws before new => exact absurd (new.keeps.standing hstands) hgone
  | unmade draws before nothing failed => exact absurd hstands hgone
  | unremoved before => exact absurd hstands hgone
  | @removed path d files before gone =>
    obtain ⟨-, file', hthere, hmaker⟩ := htidy.held before
    by_cases hsame : file = file'
    · rw [hsame, hmaker]
    · have hne : s.files.stands path ≠ some file := by
        rw [hthere, ne_eq, Option.some_inj]
        exact Ne.symm hsame
      exact absurd (gone.stands_of_ne hstands hne) hgone

/-! ### Runs -/

namespace Run

variable {run : Run c} {t : Nat}

/-- What is known at each moment. -/
structure Known (run : Run c) (t : Nat) : Prop where
  stage : ∀ i, Stage (c.step i) (c.settings i) ((run.moment t).traces i) ((run.moment t).sessions i)
  drawn : ∀ i name, ⟨.uniqueName, name⟩ ∈ (run.moment t).traces i → IsPlain name
  draws : ∀ i path answer, ⟨.makePipe path, answer⟩ ∈ (run.moment t).traces i → c.Draws i path
  tidy : Tidy c.Ours (run.moment 0).files (run.moment t).files (run.moment t).maker
    (run.moment t).traces

theorem known_start (run : Run c) : run.Known 0 := by
  refine ⟨fun i => ?_, fun i name hname => ?_, fun i path answer hpath => ?_, ?_⟩
  · rw [run.unused, run.unasked]
    exact .start _ _
  · rw [run.unasked] at hname
    cases hname
  · rw [run.unasked] at hpath
    cases hpath
  · refine ⟨fun hholds => ?_, fun hmaker => ?_, fun _ hq => ⟨hq, run.unmade _⟩, fun _ hq => .inl hq⟩
    · rw [run.unasked] at hholds
      cases hholds
    · rw [run.unmade] at hmaker
      cases hmaker

/-- What is asked for a session has one of the effects that it may have. -/
theorem Known.effect {r : Request} {next : r.Answer → Dialogue (Option Fault × Option Session)}
    {files : FileTable} (h : run.Known t) (waiting : (run.moment t).sessions i = .ask r next)
    (answer : r.Answer) (ha : (run.moment t).files.PipeAnswers c.Ours ⟨r, answer⟩ files) :
    Effect c (run.moment t) i ⟨r, answer⟩ (next answer) files := by
  have hstage := h.stage i
  rw [waiting] at hstage
  exact effect_of_asks (hstage.asks answer) (h.drawn i) ha

/-- Whatever step is next, what is known stays known. -/
theorem Known.step (h : run.Known t) : run.Known (t + 1) := by
  have hstep := run.next t
  generalize run.actor t = actor at hstep
  generalize hafter : run.moment (t + 1) = after at hstep
  cases hstep with
  | @begun i fault session act idle =>
    refine ⟨fun j => ?_, ?_, ?_, ?_⟩
    · rw [hafter]
      by_cases hji : j = i
      · subst hji
        have hstage := h.stage j
        rw [idle] at hstage
        simpa using Stage.begin hstage.fits act
      · simpa [Function.update_of_ne hji] using h.stage j
    · rw [hafter]
      exact h.drawn
    · rw [hafter]
      exact h.draws
    · rw [hafter]
      exact h.tidy
  | others spares =>
    refine ⟨?_, ?_, ?_, ?_⟩
    · rw [hafter]
      exact h.stage
    · rw [hafter]
      exact h.drawn
    · rw [hafter]
      exact h.draws
    · rw [hafter]
      exact h.tidy.of_spares spares
  | @asked i r next waiting answer files answered =>
    have heffect := h.effect waiting answer answered
    refine ⟨fun j => ?_, fun j name hname => ?_, fun j path creation hpath => ?_, ?_⟩
    · rw [hafter]
      by_cases hji : j = i
      · subst hji
        have hstage := h.stage j
        rw [waiting] at hstage
        simpa using hstage.answered answer
      · simpa [Function.update_of_ne hji] using h.stage j
    · rw [hafter] at hname
      rcases mem_traces_cases hname with hold | ⟨rfl, hnew⟩
      · exact h.drawn j name hold
      · cases hnew
        cases answered with
        | drawn plain => exact plain
        | other hother spares => cases hother
    · rw [hafter] at hpath
      rcases mem_traces_cases hpath with hold | ⟨rfl, hnew⟩
      · exact h.draws j path creation hold
      · cases hnew
        exact heffect.draws
    · rw [hafter]
      exact heffect.tidy h.tidy

theorem known (run : Run c) (t : Nat) : run.Known t := by
  induction t with
  | zero => exact run.known_start
  | succ t ih => exact ih.step

end Run

/-- A pipe belongs to one session. -/
structure Exclusive (run : Run c) (t : Nat) : Prop where
  /-- A pipe is made directly in the directory of its session, whatever the step is called. -/
  children : ∀ i path answer, ⟨.makePipe path, answer⟩ ∈ (run.moment t).traces i →
    ∃ directory, (c.settings i).choice = .fifo directory ∧ Path.IsChild directory path
  /-- A session that nothing is being done with holds the pipe that is its channel. -/
  channels : ∀ i fault session path,
    (run.moment t).sessions i = .done (fault, some session) →
      (session.pipePath? = some path ↔ Holds ((run.moment t).traces i) path)
  dropped : ∀ i fault path, (run.moment t).sessions i = .done (fault, none) →
    ¬Holds ((run.moment t).traces i) path
  /-- What is held stands. -/
  held : ∀ i path, Holds ((run.moment t).traces i) path →
    ∃ file, (run.moment t).files.stands path = some file ∧ (run.moment t).maker file = some i
  /-- What stands is held, unless it stood there before all sessions or the host would not remove
  it. -/
  standing : ∀ q file, c.Ours q → (run.moment t).files.stands q = some file →
    (run.moment 0).files.stands q = some file ∨
    ∃ i path, (run.moment t).maker file = some i ∧ (run.moment t).files.stands path = some file ∧
      (Holds ((run.moment t).traces i) path ∨ Leaves ((run.moment t).traces i) path)
  /-- No two sessions hold the same pipe. -/
  apart : ∀ i j path path' file, Holds ((run.moment t).traces i) path →
    Holds ((run.moment t).traces j) path' → (run.moment t).files.stands path = some file →
    (run.moment t).files.stands path' = some file → i = j
  /-- A session that asks for a pipe where something stands fails. -/
  collides : ∀ i path next, run.actor t = some i →
    (run.moment t).sessions i = .ask (.makePipe path) next →
    (run.moment t).files.stands path ≠ none →
    (run.moment (t + 1)).files = (run.moment t).files ∧
    ∃ fault session, (run.moment (t + 1)).sessions i = .done (some fault, some session) ∧
      fault.code = "PIPE_COLLISION" ∧ session.state = .failed
  /-- A session whose name was taken never asks for anything to be removed. -/
  spares : ∀ i path, ⟨.makePipe path, Host.PipeCreation.taken⟩ ∈ (run.moment t).traces i →
    ∀ q answer, ⟨.remove q, answer⟩ ∉ (run.moment t).traces i
  /-- What a session takes away it has made. -/
  removes : ∀ i q file, run.actor t = some i → c.Ours q →
    (run.moment t).files.stands q = some file → (run.moment (t + 1)).files.stands q ≠ some file →
    (run.moment t).maker file = some i

section
variable {run : Run c} {t : Nat}

theorem Run.Known.collides
    {next : Host.PipeCreation → Dialogue (Option Fault × Option Session)} (h : run.Known t)
    (hactor : run.actor t = some i) (hasks : (run.moment t).sessions i = .ask (.makePipe path) next)
    (hstands : (run.moment t).files.stands path ≠ none) :
    (run.moment (t + 1)).files = (run.moment t).files ∧
    ∃ fault session, (run.moment (t + 1)).sessions i = .done (some fault, some session) ∧
      fault.code = "PIPE_COLLISION" ∧ session.state = .failed := by
  have hstep := run.next t
  rw [hactor] at hstep
  generalize run.moment (t + 1) = after at hstep ⊢
  cases hstep with
  | begun act idle =>
    rw [idle] at hasks
    cases hasks
  | asked waiting answer answered =>
    rw [waiting] at hasks
    cases hasks
    have heffect := h.effect waiting answer answered
    cases answered with
    | made free new => exact absurd free hstands
    | unmade free nothing => exact absurd free hstands
    | other hother spares => cases hother
    | taken standing =>
      obtain ⟨session, hfailed, hdone⟩ := heffect.fails nofun
      exact ⟨rfl, _, session, (Function.update_self ..).trans hdone, rfl, hfailed⟩

theorem Run.Known.removes {q : String} {file : Nat} (h : run.Known t)
    (hactor : run.actor t = some i) (hours : c.Ours q)
    (hstands : (run.moment t).files.stands q = some file)
    (hgone : (run.moment (t + 1)).files.stands q ≠ some file) :
    (run.moment t).maker file = some i := by
  have hstep := run.next t
  rw [hactor] at hstep
  generalize run.moment (t + 1) = after at hstep hgone
  cases hstep with
  | begun act idle => exact absurd hstands hgone
  | asked waiting answer answered =>
    exact (h.effect waiting answer answered).removes h.tidy hours hstands hgone

end

/-- However the steps of sessions and of other processes follow each other, and whatever names are
drawn, each pipe belongs to one session. -/
theorem pipes_exclusive (run : Run c) (t : Nat) : Exclusive run t := by
  have hknown := run.known t
  refine ⟨?_, ?_, ?_, ?_, ?_, ?_, ?_, ?_, ?_⟩
  · intro i path answer hpath
    obtain ⟨directory, name, hchoice, hplain, rfl⟩ := hknown.draws i path answer hpath
    exact ⟨directory, hchoice, isChild_pipePath directory (c.step i) hplain⟩
  · intro i fault session path hidle
    have hstage := hknown.stage i
    rw [hidle] at hstage
    exact holds_iff_of_deeds hstage.fits.deeds
  · intro i fault path hdropped hholds
    have hstage := hknown.stage i
    rw [hdropped] at hstage
    cases (holds_iff_of_deeds hstage.deeds_of_dropped).2 hholds
  · intro i path hholds
    exact (hknown.tidy.held hholds).2
  · intro q file hours hstands
    rcases hknown.tidy.standing hours hstands with hfirst | ⟨i, path, hmaker, -, hthere, hof⟩
    · exact .inl hfirst
    · exact .inr ⟨i, path, hmaker, hthere, hof⟩
  · intro i j path path' file hi hj hpath hpath'
    obtain ⟨-, file₁, hthere₁, hmaker₁⟩ := hknown.tidy.held hi
    obtain ⟨-, file₂, hthere₂, hmaker₂⟩ := hknown.tidy.held hj
    rw [hpath, Option.some_inj] at hthere₁
    rw [hpath', Option.some_inj] at hthere₂
    rw [← hthere₁] at hmaker₁
    rw [← hthere₂, hmaker₁, Option.some_inj] at hmaker₂
    exact hmaker₂
  · intro i path next hactor hasks hstands
    exact hknown.collides hactor hasks hstands
  · intro i path hpath q answer hq
    obtain ⟨pipe, hdeeds⟩ := (hknown.stage i).deeds
    exact hdeeds.not_mem_remove (List.mem_filter.2 ⟨hpath, rfl⟩) (List.mem_filter.2 ⟨hq, rfl⟩)
  · intro i q file hactor hours hstands hgone
    exact hknown.removes hactor hours hstands hgone

/-! ### Schedules -/

/-- A host that makes and removes pipes as it is asked to, and draws the same name for each. -/
def serve (name : Host.UniqueName) (files : FileTable) : (r : Request) → r.Answer × FileTable
  | .makePipe path =>
    match files.stands path with
    | none => (Host.PipeCreation.made, files.create path)
    | some _ => (Host.PipeCreation.taken, files)
  | .remove path => (Except.ok (), files.remove path)
  | .uniqueName => (name, files)
  | r => (Host.someAnswer r, files)

/-- What follows when an act is to begin on a session, or when the host is to answer what the
session waits for, and who moved; nobody does if the session is not ready for that. -/
def State.move (name : Host.UniqueName) (s : State) (i : Nat) : Option Act → Option Nat × State
  | some act =>
    match s.sessions i with
    | .done (_, some session) =>
      (some i, { s with sessions := Function.update s.sessions i (session.act act) })
    | _ => (none, s)
  | none =>
    match s.sessions i with
    | .ask r next =>
      let (answer, files) := serve name s.files r
      (some i, ⟨files, Function.update s.sessions i (next answer),
        Function.update s.traces i (s.traces i ++ [⟨r, answer⟩]), s.makerBehind i ⟨r, answer⟩⟩)
    | .done _ => (none, s)

theorem answers_serve (ours : String → Prop) {name : Host.UniqueName} (h : IsPlain name)
    (files : FileTable) (r : Request) :
    files.PipeAnswers ours ⟨r, (serve name files r).1⟩ (serve name files r).2 := by
  cases r with
  | makePipe path =>
    simp only [serve]
    split
    · rename_i free
      exact .made free (FileTable.made_create files path free)
    · rename_i file there
      exact .taken (by simp [there])
  | remove path => exact .removed (FileTable.removed_remove files path)
  | uniqueName => exact .drawn h
  | _ => exact .other rfl (FileTable.spares_self _ _)

theorem step_move (c : Sessions) {name : Host.UniqueName} (h : IsPlain name) (s : State) (i : Nat)
    (act : Option Act) : Step c s (s.move name i act).1 (s.move name i act).2 := by
  have hidle : Step c s none s := .others (FileTable.spares_self _ _)
  cases act with
  | some act =>
    simp only [State.move]
    split
    · rename_i idle
      exact .begun act idle
    · exact hidle
  | none =>
    simp only [State.move]
    split
    · rename_i waiting
      exact .asked waiting _ (answers_serve _ h _ _)
    · exact hidle

/-- The state after the first moves of a schedule. -/
def scheduled (c : Sessions) (name : Host.UniqueName) (moves : Nat → Nat × Option Act) : Nat → State
  | 0 => ⟨.empty, fun i => .done (none, some (fresh (c.step i) (c.settings i))), fun _ => [],
      fun _ => none⟩
  | t + 1 => ((scheduled c name moves t).move name (moves t).1 (moves t).2).2

/-- Every schedule is a run. -/
def Run.ofSchedule (c : Sessions) {name : Host.UniqueName} (h : IsPlain name)
    (moves : Nat → Nat × Option Act) : Run c where
  moment := scheduled c name moves
  actor t := ((scheduled c name moves t).move name (moves t).1 (moves t).2).1
  next t := step_move c h (scheduled c name moves t) (moves t).1 (moves t).2
  unused _ := rfl
  unasked _ := rfl
  unmade _ := rfl

/-- Sessions with their pipes in one directory. -/
def rivals : Sessions := ⟨fun _ => "a/b", fun _ => { choice := .fifo "/tmp" }⟩

/-- The name that each of them draws. -/
def rivalName : Host.UniqueName := ⟨"7", "0"⟩

theorem isPlain_rivalName : IsPlain rivalName := by
  intro c hc
  have hdigit : c = '7' ∨ c = '0' := by simpa [rivalName] using hc
  rcases hdigit with rfl | rfl <;> rfl

def rivalPath : String := pipePath "/tmp" "a/b" rivalName

/-- Two sessions draw the same name and ask for their pipes. The first one gives its pipe up, a
third one draws the name again and makes its own, and the first is dropped. -/
def rivalMoves : List (Nat × Option Act) :=
  [(0, some (.call .provision)), (0, none), (1, some (.call .provision)), (1, none), (0, none),
    (1, none), (0, some (.call .abort)), (0, none), (2, some (.call .provision)), (2, none),
    (2, none), (0, some .drop)]

def rivalry : Run rivals :=
  .ofSchedule rivals isPlain_rivalName fun t => rivalMoves.getD t (0, none)

/-- The path of the pipe that is asked for. -/
def pathAsked? : Dialogue (Option Fault × Option Session) → Option String
  | .ask (.makePipe path) _ => some path
  | _ => none

theorem asks_of_pathAsked? {d : Dialogue (Option Fault × Option Session)}
    (h : pathAsked? d = some path) : ∃ next, d = .ask (.makePipe path) next := by
  unfold pathAsked? at h
  split at h
  · cases h
    exact ⟨_, rfl⟩
  · cases h

/-- The second session fails, the first removes the pipe that it has made, and the pipe of the
third, at the same path, is there still when the first is dropped. -/
theorem pipes_exclusive_rivals :
    (∃ fault session, (rivalry.moment 6).sessions 1 = .done (some fault, some session) ∧
      fault.code = "PIPE_COLLISION" ∧ session.state = .failed) ∧
    (rivalry.moment 7).files.stands rivalPath = some 0 ∧ (rivalry.moment 7).maker 0 = some 0 ∧
    (rivalry.moment 8).files.stands rivalPath = none ∧
    (rivalry.moment 12).files.stands rivalPath = some 1 ∧
    (rivalry.moment 12).maker 1 = some 2 := by
  have hours : rivals.Ours rivalPath := ⟨0, "/tmp", rivalName, rfl, isPlain_rivalName, rfl⟩
  have hfirst : (rivalry.moment 7).files.stands rivalPath = some 0 := by decide +kernel
  have hgone : (rivalry.moment 8).files.stands rivalPath = none := by decide +kernel
  have hthird : (rivalry.moment 12).files.stands rivalPath = some 1 := by decide +kernel
  have hmaker : (rivalry.moment 12).maker 1 = some 2 := by decide +kernel
  refine ⟨?_, hfirst, ?_, hgone, hthird, hmaker⟩
  · have hpath : pathAsked? ((rivalry.moment 5).sessions 1) = some rivalPath := by decide +kernel
    obtain ⟨next, hasks⟩ := asks_of_pathAsked? hpath
    have hstands : (rivalry.moment 5).files.stands rivalPath ≠ none := by decide +kernel
    exact ((pipes_exclusive rivalry 5).collides 1 rivalPath next (by decide +kernel) hasks
      hstands).2
  · exact (pipes_exclusive rivalry 7).removes 0 rivalPath 0 (by decide +kernel) hours hfirst
      (by rw [hgone]; nofun)

end Sharing
end Sink
end BulkLoad
