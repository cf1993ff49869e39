import BulkLoad.Output
import BulkLoad.Proofs.Host.Trace
import Mathlib.Data.List.Nodup
import Mathlib.Logic.Function.Basic

/-!
Claims of output files by any number of processes at once, among others that make and remove files
as they like. A claim learns of what stands where only from its attempts to make a file, so it never
gets hold of a file that was there before, whatever happens between two attempts.
-/

namespace BulkLoad

namespace Host

/-- The handle of the file that was made. -/
def Creation.handle? : Creation → Option Handle
  | .made file => some file
  | _ => none

/-- The files of a host as its processes share them. A number is one file, whatever paths lead to it
and whatever becomes of them; those below `made` are used up. -/
structure FileTable where
  stands : String → Option Nat
  content : Nat → Bytes
  made : Nat
  numbered : ∀ {path : String} {file : Nat}, stands path = some file → file < made

namespace FileTable

def empty : FileTable := ⟨fun _ => none, fun _ => [], 0, nofun⟩

/-- A new file at a path, and at other spellings of the path at which nothing stood. -/
structure Made (d : FileTable) (path : String) (d' : FileTable) : Prop where
  there : d'.stands path = some d.made
  others : ∀ q, d'.stands q = d.stands q ∨ d.stands q = none ∧ d'.stands q = some d.made
  contents : ∀ file, file < d.made → d'.content file = d.content file
  counted : d'.made = d.made + 1

/-- What stood somewhere stands there still, and no file has changed. -/
structure Keeps (d d' : FileTable) : Prop where
  standing : ∀ {path : String} {file : Nat}, d.stands path = some file → d'.stands path = some file
  contents : ∀ file, file < d.made → d'.content file = d.content file

/-- What the host answers, and the files behind it. A file is made at once or not at all, and only
where nothing stands; of a request for anything else nothing is known. -/
inductive Answers (d : FileTable) : Exchange → FileTable → Prop
  | made {path : String} {file : Handle} {d' : FileTable} (free : d.stands path = none)
      (new : d.Made path d') : Answers d ⟨.createFile path, Creation.made file⟩ d'
  | taken {path : String} (standing : d.stands path ≠ none) :
      Answers d ⟨.createFile path, Creation.taken⟩ d
  | refused {path message : String} : Answers d ⟨.createFile path, Creation.refused message⟩ d
  | other {x : Exchange} {d' : FileTable} (h : ∀ path, x.request ≠ .createFile path)
      (aged : d.made ≤ d'.made) : Answers d x d'

variable {d d' : FileTable} {path : String}

/-- The table with a new file at a path. -/
def create (d : FileTable) (path : String) : FileTable where
  stands := Function.update d.stands path (some d.made)
  content := Function.update d.content d.made []
  made := d.made + 1
  numbered {q file} h := by
    by_cases hq : q = path
    · rw [hq, Function.update_self, Option.some_inj] at h
      omega
    · rw [Function.update_of_ne hq] at h
      have := d.numbered h
      omega

theorem made_create (d : FileTable) (path : String) (free : d.stands path = none) :
    d.Made path (d.create path) where
  there := Function.update_self ..
  others q := by
    by_cases hq : q = path
    · rw [hq]
      exact .inr ⟨free, Function.update_self ..⟩
    · exact .inl (Function.update_of_ne hq ..)
  contents file hlt := Function.update_of_ne (by omega) ..
  counted := rfl

theorem keeps_self (d : FileTable) : d.Keeps d := ⟨fun h => h, fun _ _ => rfl⟩

theorem Made.keeps (h : d.Made path d') : d.Keeps d' := by
  refine ⟨?_, h.contents⟩
  intro q file hq
  rcases h.others q with hsame | ⟨hnone, -⟩
  · rw [hsame, hq]
  · rw [hq] at hnone
    cases hnone

theorem Made.unused (_ : d.Made path d') (q : String) : d.stands q ≠ some d.made := by
  intro hq
  have hlt := d.numbered hq
  omega

end FileTable
end Host

namespace Output

open Host (Dialogue Exchange FileTable Handle Request)
open Step (IfExists)

/-- What a claim is called with. -/
structure Call where
  path : String
  policy : IfExists
  time : Instant.Fields

namespace Call

def attempts (c : Call) : List String := Output.attempts c.path c.policy c.time

def verdict (c : Call) : Except Fault Claim := allTaken c.path c.policy

def dialogue (c : Call) : Dialogue (Except Fault Claim) := claim c.path c.policy c.time

end Call

/-- A file that a call has made, where, and the handle that it got for it. -/
structure Making where
  call : Nat
  path : String
  handle : Handle
  file : Nat

/-- The file that a call makes by an exchange. -/
def makingsOf (i : Nat) (files : FileTable) : Exchange → List Making
  | ⟨.createFile path, answer⟩ =>
    (@Host.Creation.handle? answer).toList.map fun handle => ⟨i, path, handle, files.made⟩
  | _ => []

/-- The files, how far each call has come that was begun, and what calls have made. -/
structure State where
  files : FileTable
  calls : Nat → Option (Call × Dialogue (Except Fault Claim))
  makings : List Making

/-- One step, by a call or by others. -/
inductive Step (s : State) : Option Nat → State → Prop
  | begun {i : Nat} (call : Call) (idle : s.calls i = none) :
      Step s (some i) { s with calls := Function.update s.calls i (some (call, call.dialogue)) }
  /-- A call puts its request, and the host answers at once. -/
  | asked {i : Nat} {call : Call} {r : Request} {next : r.Answer → Dialogue (Except Fault Claim)}
      (waiting : s.calls i = some (call, .ask r next)) (answer : r.Answer) {files : FileTable}
      (answered : s.files.Answers ⟨r, answer⟩ files) :
      Step s (some i) ⟨files, Function.update s.calls i (some (call, next answer)),
        s.makings ++ makingsOf i s.files ⟨r, answer⟩⟩
  /-- Other processes do to the files what they like. -/
  | others {files : FileTable} (aged : s.files.made ≤ files.made) :
      Step s none { s with files }

/-- States one after the other, from one in which no call was begun. -/
structure Run where
  moment : Nat → State
  actor : Nat → Option Nat
  next : ∀ t, Step (moment t) (actor t) (moment (t + 1))
  unbegun : ∀ i, (moment 0).calls i = none
  unmade : (moment 0).makings = []

namespace Run

variable {run : Run} {t i : Nat} {path : String} {call : Call}

/-- The call is under way: it waits for an answer. -/
def During (run : Run) (i t : Nat) : Prop :=
  ∃ call r next, (run.moment t).calls i = some (call, .ask r next)

/-- At some moment of the call so far something stood at the path. -/
def Met (run : Run) (i : Nat) (path : String) (t : Nat) : Prop :=
  ∃ u < t, run.During i u ∧ (run.moment u).files.stands path ≠ none

/-- What the call has made so far. -/
def madeBy (run : Run) (i t : Nat) : List Making :=
  (run.moment t).makings.filter fun m => m.call = i

theorem Met.mono {u : Nat} (h : run.Met i path t) (hle : t ≤ u) : run.Met i path u := by
  obtain ⟨v, hv, hmet⟩ := h
  exact ⟨v, by omega, hmet⟩

/-- How far a call has come. -/
inductive Stage (run : Run) (t i : Nat) (call : Call) : Dialogue (Except Fault Claim) → Prop
  /-- Some paths have been tried in vain, and the others are left. -/
  | trying {front rest : List String} (attempts : call.attempts = front ++ rest)
      (met : ∀ p ∈ front, run.Met i p t) (unmade : run.madeBy i t = []) :
      Stage run t i call (claimFirst call.verdict rest)
  /-- A file was made at the first path that was free. -/
  | created {front back : List String} {path : String} {handle : Handle} {file : Nat}
      (attempts : call.attempts = front ++ path :: back) (met : ∀ p ∈ front, run.Met i p t)
      (made : run.madeBy i t = [⟨i, path, handle, file⟩]) :
      Stage run t i call (.done (.ok (.created path handle)))
  | failed {path message : String} (unmade : run.madeBy i t = []) :
      Stage run t i call (.done (.error (creationFault path message)))

theorem Stage.later {d : Dialogue (Except Fault Claim)} (h : run.Stage t i call d)
    (hmade : run.madeBy i (t + 1) = run.madeBy i t) : run.Stage (t + 1) i call d := by
  cases h with
  | trying attempts met unmade =>
    exact .trying attempts (fun p hp => (met p hp).mono (by omega)) (hmade.trans unmade)
  | created attempts met made =>
    exact .created attempts (fun p hp => (met p hp).mono (by omega)) (hmade.trans made)
  | failed unmade => exact .failed (hmade.trans unmade)

/-- A call that waits, waits for a file at the next of its paths. -/
theorem Stage.waits {r : Request} {next : r.Answer → Dialogue (Except Fault Claim)}
    (h : run.Stage t i call (.ask r next)) :
    ∃ front path back, call.attempts = front ++ path :: back ∧
      (∀ p ∈ front, run.Met i p t) ∧ run.madeBy i t = [] ∧
      Dialogue.ask r next = claimFirst call.verdict (path :: back) := by
  generalize hd : Dialogue.ask r next = d at h
  cases h with
  | @trying front rest attempts met unmade =>
    cases rest with
    | nil => cases hd
    | cons path back => exact ⟨front, path, back, attempts, met, unmade, rfl⟩
  | created => cases hd
  | failed => cases hd

/-- What is known at each moment. -/
structure Known (run : Run) (t : Nat) : Prop where
  stage : ∀ {i call d}, (run.moment t).calls i = some (call, d) → run.Stage t i call d
  idle : ∀ {i}, (run.moment t).calls i = none → run.madeBy i t = []
  used : ∀ m ∈ (run.moment t).makings, m.file < (run.moment t).files.made
  apart : ((run.moment t).makings.map (·.file)).Nodup

/-- Calls other than the one that moves are as far as they were. -/
theorem Known.of_update {d : Dialogue (Except Fault Claim)} (h : run.Known t)
    (hcalls : (run.moment (t + 1)).calls =
      Function.update (run.moment t).calls i (some (call, d)))
    (hothers : ∀ j, j ≠ i → run.madeBy j (t + 1) = run.madeBy j t)
    (hstage : run.Stage (t + 1) i call d)
    (hused : ∀ m ∈ (run.moment (t + 1)).makings, m.file < (run.moment (t + 1)).files.made)
    (hapart : ((run.moment (t + 1)).makings.map (·.file)).Nodup) : run.Known (t + 1) := by
  refine ⟨?_, ?_, hused, hapart⟩
  · intro j call' d' hj
    rw [hcalls] at hj
    by_cases hji : j = i
    · subst hji
      rw [Function.update_self] at hj
      cases hj
      exact hstage
    · rw [Function.update_of_ne hji] at hj
      exact (h.stage hj).later (hothers j hji)
  · intro j hj
    rw [hcalls] at hj
    by_cases hji : j = i
    · subst hji
      rw [Function.update_self] at hj
      cases hj
    · rw [Function.update_of_ne hji] at hj
      rw [hothers j hji]
      exact h.idle hj

/-- What a call makes is added to what it has made, and to nothing else. -/
theorem madeBy_of_makings {new : List Making}
    (h : (run.moment (t + 1)).makings = (run.moment t).makings ++ new) (j : Nat) :
    run.madeBy j (t + 1) = run.madeBy j t ++ new.filter fun m => m.call = j := by
  rw [madeBy, h, List.filter_append]
  rfl

theorem madeBy_of_unmade (h : (run.moment (t + 1)).makings = (run.moment t).makings) (j : Nat) :
    run.madeBy j (t + 1) = run.madeBy j t := by
  rw [madeBy, h]
  rfl

theorem Known.of_unmade {d : Dialogue (Except Fault Claim)} (h : run.Known t)
    (hcalls : (run.moment (t + 1)).calls =
      Function.update (run.moment t).calls i (some (call, d)))
    (hmakings : (run.moment (t + 1)).makings = (run.moment t).makings)
    (hfiles : (run.moment (t + 1)).files = (run.moment t).files)
    (hstage : run.Stage (t + 1) i call d) : run.Known (t + 1) := by
  refine h.of_update hcalls (fun j _ => madeBy_of_unmade hmakings j) hstage ?_ ?_
  · rw [hmakings, hfiles]
    exact h.used
  · rw [hmakings]
    exact h.apart

/-- A call that gets a file at the next of its paths is done. -/
theorem Known.of_made {front back : List String} {handle : Handle} (h : run.Known t)
    (hcalls : (run.moment (t + 1)).calls = Function.update (run.moment t).calls i
      (some (call, .done (.ok (.created path handle)))))
    (hmakings : (run.moment (t + 1)).makings = (run.moment t).makings ++
      [⟨i, path, handle, (run.moment t).files.made⟩])
    (hfiles : (run.moment (t + 1)).files.made = (run.moment t).files.made + 1)
    (hattempts : call.attempts = front ++ path :: back) (hmet : ∀ p ∈ front, run.Met i p t)
    (hunmade : run.madeBy i t = []) : run.Known (t + 1) := by
  have hmade := madeBy_of_makings hmakings
  have hmine : run.madeBy i (t + 1) = [⟨i, path, handle, (run.moment t).files.made⟩] := by
    rw [hmade i, hunmade]
    simp
  have hlater : ∀ p ∈ front, run.Met i p (t + 1) := fun p hp => (hmet p hp).mono (by omega)
  refine h.of_update hcalls ?_ (.created hattempts hlater hmine) ?_ ?_
  · intro j hji
    simp [hmade j, Ne.symm hji]
  · rw [hmakings, hfiles]
    intro m hm
    rcases List.mem_append.1 hm with hold | hnew
    · have hlt := h.used m hold
      omega
    · rw [List.mem_singleton.1 hnew]
      exact Nat.lt_succ_self _
  · rw [hmakings, List.map_append]
    refine List.nodup_append.2 ⟨h.apart, List.nodup_singleton _, ?_⟩
    -- Numbers are used up in order, so the new one is none of those before it.
    rintro k hk k' hk' rfl
    obtain ⟨m, hm, rfl⟩ := List.mem_map.1 hk
    have hlt := h.used m hm
    have heq : m.file = (run.moment t).files.made := List.mem_singleton.1 hk'
    omega

theorem Known.of_others {files : FileTable} (h : run.Known t)
    (hafter : run.moment (t + 1) = { run.moment t with files })
    (aged : (run.moment t).files.made ≤ files.made) : run.Known (t + 1) := by
  have hmade := madeBy_of_unmade (show (run.moment (t + 1)).makings = _ by rw [hafter])
  refine ⟨?_, ?_, ?_, ?_⟩
  · intro i call d hi
    rw [hafter] at hi
    exact (h.stage hi).later (hmade i)
  · intro i hi
    rw [hafter] at hi
    rw [hmade i]
    exact h.idle hi
  · rw [hafter]
    exact fun m hm => Nat.lt_of_lt_of_le (h.used m hm) aged
  · rw [hafter]
    exact h.apart

/-- Whatever step is next, what is known stays known. -/
theorem Known.step (h : run.Known t) : run.Known (t + 1) := by
  have hstep := run.next t
  generalize run.actor t = actor at hstep
  generalize hafter : run.moment (t + 1) = after at hstep
  cases hstep with
  | @begun i call idle =>
    have hmakings : (run.moment (t + 1)).makings = (run.moment t).makings := by rw [hafter]
    have hmade : run.madeBy i (t + 1) = [] := (madeBy_of_unmade hmakings i).trans (h.idle idle)
    have hstage : run.Stage (t + 1) i call call.dialogue :=
      .trying (List.nil_append _).symm nofun hmade
    exact h.of_unmade (congrArg State.calls hafter) hmakings (by rw [hafter]) hstage
  | others aged => exact h.of_others hafter aged
  | @asked i call r next waiting answer files answered =>
    -- The request is known, as a call that is under way waits for a file at its next path.
    have hduring : run.During i t := ⟨call, r, next, waiting⟩
    obtain ⟨front, path, back, hattempts, hmet, hunmade, hnext⟩ := (h.stage waiting).waits
    cases hnext
    have hlater : ∀ p ∈ front, run.Met i p (t + 1) := fun p hp => (hmet p hp).mono (by omega)
    cases answered with
    | made free new =>
      refine h.of_made (congrArg State.calls hafter) ?_ ?_ hattempts hmet hunmade
      · rw [hafter]
        rfl
      · rw [hafter]
        exact new.counted
    | taken standing =>
      have hmakings : (run.moment (t + 1)).makings = (run.moment t).makings := by
        rw [hafter]
        exact List.append_nil _
      have hmade : run.madeBy i (t + 1) = [] := (madeBy_of_unmade hmakings i).trans hunmade
      have hstage : run.Stage (t + 1) i call (claimFirst call.verdict back) := by
        refine .trying (hattempts.trans (List.append_cons _ _ _)) ?_ hmade
        intro p hp
        rcases List.mem_append.1 hp with hfront | hlast
        · exact hlater p hfront
        · rw [List.mem_singleton.1 hlast]
          exact ⟨t, by omega, hduring, standing⟩
      exact h.of_unmade (congrArg State.calls hafter) hmakings (by rw [hafter]) hstage
    | @refused path message =>
      have hmakings : (run.moment (t + 1)).makings = (run.moment t).makings := by
        rw [hafter]
        exact List.append_nil _
      have hmade : run.madeBy i (t + 1) = [] := (madeBy_of_unmade hmakings i).trans hunmade
      have hstage : run.Stage (t + 1) i call (.done (.error (creationFault path message))) :=
        .failed hmade
      exact h.of_unmade (congrArg State.calls hafter) hmakings (by rw [hafter]) hstage
    | other hother => exact absurd rfl (hother path)

theorem known (run : Run) (t : Nat) : run.Known t := by
  induction t with
  | zero =>
    refine ⟨?_, ?_, ?_, ?_⟩
    · intro i call d hi
      rw [run.unbegun i] at hi
      cases hi
    · intro i _
      rw [madeBy, run.unmade]
      rfl
    · rw [run.unmade]
      nofun
    · rw [run.unmade]
      exact List.nodup_nil
  | succ t ih => exact ih.step

/-- A step of a call leaves all files as they are, and makes at most a new one. -/
theorem keeps_of_call (run : Run) (t i : Nat) (h : run.actor t = some i) :
    (run.moment t).files.Keeps (run.moment (t + 1)).files ∧
    ∀ m ∈ (run.moment (t + 1)).makings, m ∉ (run.moment t).makings →
      (∀ q, (run.moment t).files.stands q ≠ some m.file) ∧
      (run.moment (t + 1)).files.stands m.path = some m.file := by
  have hstep := run.next t
  rw [h] at hstep
  generalize run.moment (t + 1) = after at hstep ⊢
  cases hstep with
  | begun call idle => exact ⟨FileTable.keeps_self _, fun m hm hnew => absurd hm hnew⟩
  | @asked _ call r next waiting answer files answered =>
    obtain ⟨front, path, back, -, -, -, hnext⟩ := ((run.known t).stage waiting).waits
    cases hnext
    cases answered with
    | @made path file files free new =>
      refine ⟨new.keeps, ?_⟩
      intro m hm hnew
      rcases List.mem_append.1 hm with hold | hmade
      · exact absurd hold hnew
      · rw [List.mem_singleton.1 hmade]
        exact ⟨new.unused, new.there⟩
    | taken standing =>
      refine ⟨FileTable.keeps_self _, ?_⟩
      intro m hm hnew
      rcases List.mem_append.1 hm with hold | hnone
      · exact absurd hold hnew
      · cases hnone
    | refused =>
      refine ⟨FileTable.keeps_self _, ?_⟩
      intro m hm hnew
      rcases List.mem_append.1 hm with hold | hnone
      · exact absurd hold hnew
      · cases hnone
    | other hother => exact absurd rfl (hother path)

theorem length_madeBy_le (run : Run) (i t : Nat) : (run.madeBy i t).length ≤ 1 := by
  have hknown := run.known t
  cases hi : (run.moment t).calls i with
  | none => simp [hknown.idle hi]
  | some called =>
    obtain ⟨call, d⟩ := called
    cases hknown.stage hi with
    | trying _ _ unmade => simp [unmade]
    | created _ _ made => simp [made]
    | failed unmade => simp [unmade]

theorem file_ne {j : Nat} {m m' : Making} (hm : m ∈ run.madeBy i t) (hm' : m' ∈ run.madeBy j t)
    (hij : i ≠ j) : m.file ≠ m'.file := by
  intro hfile
  obtain ⟨hmem, hcall⟩ := List.mem_filter.1 hm
  obtain ⟨hmem', hcall'⟩ := List.mem_filter.1 hm'
  have hsame : m = m' := List.inj_on_of_nodup_map (run.known t).apart hmem hmem' hfile
  rw [decide_eq_true_iff] at hcall hcall'
  rw [← hcall, ← hcall', hsame] at hij
  exact hij rfl

/-- How a call may end. -/
theorem Stage.ends {r : Except Fault Claim} (h : run.Stage t i call (.done r)) :
    (∃ front path back handle file, r = .ok (.created path handle) ∧
      call.attempts = front ++ path :: back ∧ (∀ p ∈ front, run.Met i p t) ∧
      run.madeBy i t = [⟨i, path, handle, file⟩]) ∨
    (r = call.verdict ∧ (∀ p ∈ call.attempts, run.Met i p t) ∧ run.madeBy i t = []) ∨
    ∃ path message, r = .error (creationFault path message) ∧ run.madeBy i t = [] := by
  generalize hd : Dialogue.done r = d at h
  cases h with
  | @trying front rest attempts met unmade =>
    cases rest with
    | nil =>
      cases hd
      rw [List.append_nil] at attempts
      exact .inr (.inl ⟨rfl, by rwa [attempts], unmade⟩)
    | cons path back => cases hd
  | created attempts met made =>
    cases hd
    exact .inl ⟨_, _, _, _, _, rfl, attempts, met, made⟩
  | failed unmade =>
    cases hd
    exact .inr (.inr ⟨_, _, rfl, unmade⟩)

end Run

theorem Call.path_mem_attempts (c : Call) : c.path ∈ c.attempts := by
  obtain ⟨path, policy, time⟩ := c
  cases policy <;> exact List.mem_cons_self

/-- However the steps of claims and of other processes follow each other, a claim leaves every file
that there is alone and makes at most one of its own, which no other claim has. It makes none when
it comes to an error or is skipped. The file is at the first of the paths to be tried at which
nothing was met, and a claim is only turned down or skipped for what it met at its path. -/
theorem claims_stay_apart (run : Run) (t : Nat) :
    (∀ i, run.actor t = some i → (run.moment t).files.Keeps (run.moment (t + 1)).files ∧
      ∀ m ∈ (run.moment (t + 1)).makings, m ∉ (run.moment t).makings →
        (∀ q, (run.moment t).files.stands q ≠ some m.file) ∧
        (run.moment (t + 1)).files.stands m.path = some m.file) ∧
    (∀ i, (run.madeBy i t).length ≤ 1) ∧
    (∀ i j m m', m ∈ run.madeBy i t → m' ∈ run.madeBy j t → i ≠ j → m.file ≠ m'.file) ∧
    (∀ i call r next, (run.moment t).calls i = some (call, .ask r next) →
      ∃ p ∈ call.attempts, r = .createFile p) ∧
    ∀ i call r, (run.moment t).calls i = some (call, .done r) →
      (∀ path handle, r = .ok (.created path handle) →
        (∃ m, run.madeBy i t = [m] ∧ m.path = path ∧ m.handle = handle) ∧
        ∃ front back, call.attempts = front ++ path :: back ∧ ∀ p ∈ front, run.Met i p t) ∧
      ((∀ path handle, r ≠ .ok (.created path handle)) → run.madeBy i t = []) ∧
      (∀ path, r = .ok (.skipped path) → path = call.path ∧ run.Met i call.path t) ∧
      ∀ fault, r = .error fault → fault.code = "OUTPUT_EXISTS" → run.Met i call.path t := by
  have hknown := run.known t
  refine ⟨fun i hi => run.keeps_of_call t i hi, fun i => run.length_madeBy_le i t, ?_, ?_, ?_⟩
  · intro i j m m' hm hm' hij
    exact Run.file_ne hm hm' hij
  · intro i call r next hi
    obtain ⟨front, path, back, hattempts, -, -, hnext⟩ := (hknown.stage hi).waits
    cases hnext
    exact ⟨path, by simp [hattempts], rfl⟩
  · intro i call r hi
    have hpath := call.path_mem_attempts
    rcases (hknown.stage hi).ends with
        ⟨front, path, back, handle, file, rfl, hattempts, hmet, hmade⟩ |
      ⟨hverdict, hmet, hmade⟩ | ⟨path, message, rfl, hmade⟩
    · refine ⟨?_, ?_, nofun, nofun⟩
      · rintro path' handle' ⟨⟩
        exact ⟨⟨_, hmade, rfl, rfl⟩, front, back, hattempts, hmet⟩
      · intro hcreated
        exact absurd rfl (hcreated path handle)
    · subst hverdict
      refine ⟨?_, fun _ => hmade, ?_, fun _ _ _ => hmet _ hpath⟩
      · intro path handle hcreated
        unfold Call.verdict allTaken at hcreated
        cases hpolicy : call.policy <;> simp [hpolicy] at hcreated
      · intro path hskipped
        refine ⟨?_, hmet _ hpath⟩
        unfold Call.verdict allTaken at hskipped
        cases hpolicy : call.policy <;> simp [hpolicy] at hskipped
        exact hskipped.symm
    · refine ⟨nofun, fun _ => hmade, nofun, ?_⟩
      rintro fault ⟨⟩ hcode
      have hne : (creationFault path message).code ≠ "OUTPUT_EXISTS" := by
        show "OUTPUT_CREATE" ≠ "OUTPUT_EXISTS"
        decide
      exact absurd hcode hne

/-- A call for a file that may be renamed. -/
def racer : Call := ⟨"out.csv", .rename, ⟨2024, 1, 31, 23, 59, 58, 0⟩⟩

/-- Where the call goes if its own path is taken. -/
def racerBeside : String := stamped racer.path racer.time

/-- The state after a step of one of the racing calls. -/
def State.raced (s : State) (i : Nat) (d : Dialogue (Except Fault Claim)) (files : FileTable)
    (new : List Making) : State :=
  ⟨files, Function.update s.calls i (some (racer, d)), s.makings ++ new⟩

/-- Two calls begin, the first makes its file, the second meets it and makes one beside it. -/
def raceNext (s : State) : Nat → State
  | 0 => s.raced 0 racer.dialogue s.files []
  | 1 => s.raced 1 racer.dialogue s.files []
  | 2 => s.raced 0 (.done (.ok (.created racer.path ⟨3⟩))) (s.files.create racer.path)
      [⟨0, racer.path, ⟨3⟩, s.files.made⟩]
  | 3 => s.raced 1 (claimFirst racer.verdict (candidates racer.path racer.time)) s.files []
  | 4 => s.raced 1 (.done (.ok (.created racerBeside ⟨3⟩))) (s.files.create racerBeside)
      [⟨1, racerBeside, ⟨3⟩, s.files.made⟩]
  | _ => s

def raceMoment : Nat → State
  | 0 => ⟨.empty, fun _ => none, []⟩
  | t + 1 => raceNext (raceMoment t) t

def raceActor : Nat → Option Nat
  | 0 | 2 => some 0
  | 1 | 3 | 4 => some 1
  | _ => none

def race : Run where
  moment := raceMoment
  actor := raceActor
  next t := by
    match t with
    | 0 => exact .begun racer rfl
    | 1 => exact .begun racer rfl
    | 2 =>
      have hwaiting : (raceMoment 2).calls 0 = some (racer, racer.dialogue) := rfl
      exact Step.asked hwaiting (Host.Creation.made ⟨3⟩)
        (.made rfl (FileTable.made_create _ racer.path rfl))
    | 3 =>
      have hwaiting : (raceMoment 3).calls 1 = some (racer, racer.dialogue) := rfl
      exact Step.asked hwaiting Host.Creation.taken (.taken nofun)
    | 4 =>
      have hwaiting : (raceMoment 4).calls 1 =
        some (racer, claimFirst racer.verdict (candidates racer.path racer.time)) := rfl
      have hbeside : racerBeside ≠ racer.path := by decide +kernel
      have hfree : (raceMoment 4).files.stands racerBeside = none :=
        Function.update_of_ne hbeside ..
      exact Step.asked hwaiting (Host.Creation.made ⟨3⟩)
        (.made hfree (FileTable.made_create _ racerBeside hfree))
    | t + 5 => exact .others (Nat.le_refl _)
  unbegun _ := rfl
  unmade := rfl

/-- Two calls for one path get a file each, under the same handle number, and the second has met the
file of the first. -/
theorem claims_stay_apart_race :
    (race.moment 5).calls 0 = some (racer, .done (.ok (.created racer.path ⟨3⟩))) ∧
    (race.moment 5).calls 1 = some (racer, .done (.ok (.created racerBeside ⟨3⟩))) ∧
    (∃ m m', race.madeBy 0 5 = [m] ∧ race.madeBy 1 5 = [m'] ∧ m.file ≠ m'.file) ∧
    race.Met 1 racer.path 5 := by
  have hfirst : (race.moment 5).calls 0 =
      some (racer, .done (.ok (.created racer.path ⟨3⟩))) := rfl
  have hsecond : (race.moment 5).calls 1 =
      some (racer, .done (.ok (.created racerBeside ⟨3⟩))) := rfl
  obtain ⟨-, -, hapart, -, hends⟩ := claims_stay_apart race 5
  obtain ⟨⟨m, hm, -, -⟩, -⟩ := (hends 0 racer _ hfirst).1 _ _ rfl
  obtain ⟨⟨m', hm', -, -⟩, front, back, hattempts, hmet⟩ := (hends 1 racer _ hsecond).1 _ _ rfl
  have hne : m.file ≠ m'.file :=
    hapart 0 1 m m' (by rw [hm]; exact List.mem_singleton_self m)
      (by rw [hm']; exact List.mem_singleton_self m') (by decide)
  refine ⟨hfirst, hsecond, ⟨m, m', hm, hm', hne⟩, ?_⟩
  -- The path that was asked for is tried first, so it is one of those that were met.
  have hsplit : racer.path :: candidates racer.path racer.time = front ++ racerBeside :: back :=
    hattempts
  cases front with
  | nil =>
    have hhead : racer.path = racerBeside := (List.cons.inj hsplit).1
    exact absurd hhead (by decide +kernel)
  | cons p front =>
    rw [(List.cons.inj hsplit).1]
    exact hmet p List.mem_cons_self

end Output
end BulkLoad
