import BulkLoad.Proofs.Host.Notable
import Mathlib.Logic.Function.Basic

/-!
What exchanges do to the files and pipes of the host. A request to make something succeeds only
where nothing stands, and nobody else changes anything meanwhile. What a trace may change is bounded
by what it made itself.
-/

namespace BulkLoad.Host

/-- What stands at a path. -/
inductive Entry where
  | file (content : Bytes)
  | pipe
  deriving DecidableEq

/-- Files and pipes by their paths, and the paths of open files. The content of a file is all that
was handed to it, though the host may hold some of it back until the file is closed. -/
structure Disk where
  entries : String → Option Entry
  opened : Handle → Option String

/-- A file was made. -/
def Creation.isMade : Creation → Bool
  | .made _ => true
  | _ => false

/-- A pipe was made. -/
def PipeCreation.isMade : PipeCreation → Bool
  | .made => true
  | _ => false

/-- The exchange may have changed the disk. -/
def Exchange.changesDisk : Exchange → Bool
  | ⟨.createFile _, answer⟩ => @Creation.isMade answer
  | ⟨.makePipe _, answer⟩ => @PipeCreation.isMade answer
  | ⟨.remove _, answer⟩ => @Except.toBool String Unit answer
  | ⟨.append .., _⟩ => true
  | _ => false

/-- The request is about the disk. -/
def Request.isOnDisk : Request → Bool
  | .createFile _ | .append .. | .remove _ | .makePipe _ => true
  | _ => false

namespace Trace

/-- The exchanges of a trace that are about the disk. -/
def onDisk (t : Trace) : Trace := t.filter fun x => x.request.isOnDisk

@[simp] theorem onDisk_nil : onDisk [] = [] := rfl

@[simp] theorem onDisk_append (t u : Trace) : onDisk (t ++ u) = onDisk t ++ onDisk u :=
  List.filter_append t u

theorem onDisk_cons (x : Exchange) (t : Trace) :
    onDisk (x :: t) = if x.request.isOnDisk then x :: onDisk t else onDisk t := by
  cases h : x.request.isOnDisk <;> simp [onDisk, h]

/-- What is about the disk is notable. -/
theorem onDisk_notable (t : Trace) : t.notable.onDisk = t.onDisk := by
  rw [onDisk, notable, List.filter_filter, onDisk]
  congr 1
  funext x
  obtain ⟨r, answer⟩ := x
  cases r <;> rfl

theorem isOnDisk_eq_false_of_isMeeting {r : Request} (h : r.isMeeting = true) :
    r.isOnDisk = false := by
  cases r <;> first | rfl | cases h

theorem Meets.onDisk {t : Trace} (h : t.Meets) : t.onDisk = [] :=
  List.filter_eq_nil_iff.2 fun x hx => by simp [isOnDisk_eq_false_of_isMeeting (h x hx)]

end Trace

namespace Disk

/-- The disk with something else at a path. -/
def put (d : Disk) (path : String) (entry : Option Entry) : Disk :=
  { d with entries := Function.update d.entries path entry }

/-- The disk with more in the file at a path. -/
def extend (d : Disk) (path : String) (bytes : Bytes) : Disk :=
  match d.entries path with
  | some (.file content) => d.put path (some (.file (content ++ bytes)))
  | _ => d

/-- The disk behind an exchange. -/
inductive After (d : Disk) : Exchange → Disk → Prop
  | created {path : String} {file : Handle} (free : d.entries path = none) :
      After d ⟨.createFile path, Creation.made file⟩
        { d.put path (some (.file [])) with opened := Function.update d.opened file (some path) }
  | piped {path : String} (free : d.entries path = none) :
      After d ⟨.makePipe path, PipeCreation.made⟩ (d.put path (some .pipe))
  | removed {path : String} : After d ⟨.remove path, Except.ok ()⟩ (d.put path none)
  /-- All of the bytes, or some of them, come behind the content of the file. -/
  | appended {stoppable : Bool} {file : Handle} {bytes part : Bytes} {answer : Delivery stoppable}
      {path : String} (opened : d.opened file = some path) (prefixed : part <+: bytes)
      (whole : answer = .done → part = bytes) :
      After d ⟨.append stoppable file bytes, answer⟩ (d.extend path part)
  /-- Bytes for a file that is not open go nowhere. -/
  | lost {stoppable : Bool} {file : Handle} {bytes : Bytes} {answer : Delivery stoppable}
      (unopened : d.opened file = none) : After d ⟨.append stoppable file bytes, answer⟩ d
  | unchanged {x : Exchange} (h : x.changesDisk = false) : After d x d

/-- The disk behind a trace. -/
inductive Behind : Disk → Trace → Disk → Prop
  | nil (d : Disk) : Behind d [] d
  | cons {d d' d'' : Disk} {x : Exchange} {t : Trace} (first : d.After x d')
      (rest : Behind d' t d'') : Behind d (x :: t) d''

theorem behind_nil_iff {d d' : Disk} : Behind d [] d' ↔ d' = d := by
  constructor
  · intro h
    cases h
    rfl
  · rintro rfl
    exact .nil _

theorem behind_cons_iff {d d'' : Disk} {x : Exchange} {t : Trace} :
    Behind d (x :: t) d'' ↔ ∃ d', d.After x d' ∧ Behind d' t d'' := by
  constructor
  · intro h
    cases h with
    | cons first rest => exact ⟨_, first, rest⟩
  · rintro ⟨d', first, rest⟩
    exact .cons first rest

theorem behind_append_iff {d d'' : Disk} {t u : Trace} :
    Behind d (t ++ u) d'' ↔ ∃ d', Behind d t d' ∧ Behind d' u d'' := by
  induction t generalizing d with
  | nil => simp [behind_nil_iff]
  | cons x t ih =>
    simp only [List.cons_append, behind_cons_iff, ih]
    constructor
    · rintro ⟨d₁, hx, d₂, ht, hu⟩
      exact ⟨d₂, ⟨d₁, hx, ht⟩, hu⟩
    · rintro ⟨d₂, ⟨d₁, hx, ht⟩, hu⟩
      exact ⟨d₁, hx, d₂, ht, hu⟩

theorem changesDisk_eq_false_of_isOnDisk {x : Exchange} (h : x.request.isOnDisk = false) :
    x.changesDisk = false := by
  obtain ⟨r, answer⟩ := x
  cases r <;> first | rfl | cases h

theorem after_of_changesDisk_eq_false {d d' : Disk} {x : Exchange} (h : x.changesDisk = false)
    (ha : d.After x d') : d' = d := by
  cases ha with
  | unchanged => rfl
  | lost => rfl
  | created => cases h
  | piped => cases h
  | removed => cases h
  | appended => cases h

/-- Only exchanges about the disk change it. -/
theorem behind_onDisk {d d' : Disk} {t : Trace} (h : Behind d t d') : Behind d t.onDisk d' := by
  induction h with
  | nil d => exact .nil d
  | @cons d d' d'' x t first _ ih =>
    cases hx : x.request.isOnDisk with
    | true =>
      rw [Trace.onDisk_cons, if_pos hx]
      exact .cons first ih
    | false =>
      have hd := after_of_changesDisk_eq_false (changesDisk_eq_false_of_isOnDisk hx) first
      rw [Trace.onDisk_cons, if_neg (by simp [hx])]
      rwa [hd] at ih

end Disk
end BulkLoad.Host
