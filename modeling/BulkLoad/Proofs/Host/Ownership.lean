import BulkLoad.Proofs.Host.Disk

/-!
Traces that touch nothing but their own: they remove only what they made, and write only to files
that they opened by making them. Whatever stood on the disk before stands there unchanged behind
every part of such a trace.
-/

namespace BulkLoad.Host

/-- The path at which the exchange made a file or pipe. -/
def Exchange.madePath? : Exchange → Option String
  | ⟨.createFile path, answer⟩ => if @Creation.isMade answer then some path else none
  | ⟨.makePipe path, answer⟩ => if @PipeCreation.isMade answer then some path else none
  | _ => none

/-- The file that was opened by making it. -/
def Creation.file? : Creation → Option Handle
  | .made file => some file
  | _ => none

/-- The file that the exchange opened. -/
def Exchange.openedFile? : Exchange → Option Handle
  | ⟨.createFile _, answer⟩ => @Creation.file? answer
  | _ => none

/-- The exchange touches nothing but these paths and files, except for what it makes. -/
def Exchange.StaysWithin (paths : List String) (files : List Handle) : Exchange → Prop
  | ⟨.remove path, _⟩ => path ∈ paths
  | ⟨.append _ file _, _⟩ => file ∈ files
  | _ => True

namespace Trace

/-- The files that the trace opened. -/
def openedFiles (t : Trace) : List Handle := t.filterMap Exchange.openedFile?

/-- Only exchanges about the disk open files. -/
theorem openedFiles_onDisk (t : Trace) : t.onDisk.openedFiles = t.openedFiles := by
  rw [onDisk, openedFiles, List.filterMap_filter, openedFiles]
  congr 1
  funext x
  obtain ⟨r, answer⟩ := x
  cases r <;> rfl

theorem openedFiles_append (t u : Trace) :
    (t ++ u).openedFiles = t.openedFiles ++ u.openedFiles :=
  List.filterMap_append

/-- Each exchange touches only what was there to begin with or what was made before it. -/
def StaysWithin (paths : List String) (files : List Handle) : Trace → Prop
  | [] => True
  | x :: t => x.StaysWithin paths files ∧
      StaysWithin (x.madePath?.toList ++ paths) (x.openedFile?.toList ++ files) t

variable {paths : List String} {files : List Handle}

theorem StaysWithin.of_isPrefix {p t : Trace} (h : StaysWithin paths files t) (hp : p <+: t) :
    StaysWithin paths files p := by
  induction p generalizing paths files t with
  | nil => trivial
  | cons x p ih =>
    cases t with
    | nil => simp at hp
    | cons y t =>
      obtain ⟨rfl, hrest⟩ := List.cons_prefix_cons.1 hp
      exact ⟨h.1, ih h.2 hrest⟩

/-- Only exchanges about the disk touch it. -/
theorem staysWithin_of_onDisk {t : Trace} (h : StaysWithin paths files t.onDisk) :
    StaysWithin paths files t := by
  induction t generalizing paths files with
  | nil => trivial
  | cons x t ih =>
    cases hx : x.request.isOnDisk with
    | true =>
      rw [onDisk_cons, if_pos hx] at h
      exact ⟨h.1, ih h.2⟩
    | false =>
      rw [onDisk_cons, if_neg (by simp [hx])] at h
      obtain ⟨r, answer⟩ := x
      cases r <;> first | exact ⟨trivial, ih h⟩ | cases hx

end Trace

namespace Disk

/-- The disk still has everything that stood on another, and these paths and files lead to nothing
of it. -/
structure Preserves (before d : Disk) (paths : List String) (files : List Handle) : Prop where
  same : ∀ q, before.entries q ≠ none → d.entries q = before.entries q
  free : ∀ q ∈ paths, before.entries q = none
  apart : ∀ file ∈ files, ∀ q, d.opened file = some q → before.entries q = none

theorem put_entries_of_ne {d : Disk} {path q : String} {entry : Option Entry} (h : q ≠ path) :
    (d.put path entry).entries q = d.entries q :=
  Function.update_of_ne h _ _

theorem extend_entries_of_ne {d : Disk} {path q : String} {bytes : Bytes} (h : q ≠ path) :
    (d.extend path bytes).entries q = d.entries q := by
  unfold extend
  split
  · exact put_entries_of_ne h
  · rfl

@[simp] theorem extend_opened (d : Disk) (path : String) (bytes : Bytes) :
    (d.extend path bytes).opened = d.opened := by
  unfold extend
  split <;> rfl

variable {before d d' : Disk} {paths : List String} {files : List Handle}

theorem Preserves.free_of_free (h : Preserves before d paths files) {path : String}
    (hfree : d.entries path = none) : before.entries path = none := by
  by_contra hne
  rw [h.same path hne] at hfree
  exact hne hfree

theorem Preserves.put (h : Preserves before d paths files) {path : String}
    (hfree : before.entries path = none) (entry : Option Entry) :
    Preserves before (d.put path entry) paths files := by
  refine ⟨fun q hq => ?_, h.free, h.apart⟩
  have hne : q ≠ path := fun hqp => hq (hqp ▸ hfree)
  rw [put_entries_of_ne hne]
  exact h.same q hq

/-- One exchange that stays within what is its own preserves the rest. -/
theorem Preserves.after {x : Exchange} (h : Preserves before d paths files)
    (hx : x.StaysWithin paths files) (ha : d.After x d') :
    Preserves before d' (x.madePath?.toList ++ paths) (x.openedFile?.toList ++ files) := by
  cases ha with
  | @created path file hfree =>
    have hbefore := h.free_of_free hfree
    obtain ⟨hsame, -, -⟩ := h.put hbefore (some (.file []))
    refine ⟨hsame, ?_, ?_⟩
    · intro q hq
      rcases List.mem_append.1 hq with hq | hq
      · have : q = path := by simpa [Exchange.madePath?, Creation.isMade] using hq
        rw [this, hbefore]
      · exact h.free q hq
    · intro g hg q hq
      by_cases hgf : g = file
      · subst hgf
        have : path = q := by simpa using hq
        rw [← this, hbefore]
      · have hq' : d.opened g = some q := by simpa [Function.update_of_ne hgf] using hq
        rcases List.mem_append.1 hg with hg | hg
        · exact absurd (by simpa [Exchange.openedFile?, Creation.file?] using hg) hgf
        · exact h.apart g hg q hq'
  | @piped path hfree =>
    have hbefore := h.free_of_free hfree
    obtain ⟨hsame, -, hapart⟩ := h.put hbefore (some .pipe)
    refine ⟨hsame, ?_, hapart⟩
    intro q hq
    rcases List.mem_append.1 hq with hq | hq
    · have : q = path := by simpa [Exchange.madePath?, PipeCreation.isMade] using hq
      rw [this, hbefore]
    · exact h.free q hq
  | @removed path => exact h.put (h.free path hx) none
  | @appended s file bytes part answer path hopened _ _ =>
    have hbefore : before.entries path = none := h.apart file hx path hopened
    refine ⟨fun q hq => ?_, h.free, fun g hg q hq => h.apart g hg q (by simpa using hq)⟩
    have hne : q ≠ path := fun hqp => hq (hqp ▸ hbefore)
    rw [extend_entries_of_ne hne]
    exact h.same q hq
  | lost => exact h
  | unchanged hc =>
    obtain ⟨r, answer⟩ := x
    have hmade : (Exchange.mk r answer).madePath? = none := by
      cases r <;> first | rfl | (cases answer <;> first | rfl | cases hc)
    have hopen : (Exchange.mk r answer).openedFile? = none := by
      cases r <;> first | rfl | (cases answer <;> first | rfl | cases hc)
    rw [hmade, hopen]
    exact h

/-- Whatever stood on the disk before a trace that stays within its own stands there behind it. -/
theorem Preserves.behind {t : Trace} (h : Preserves before d paths files)
    (ht : t.StaysWithin paths files) (hb : Behind d t d') :
    ∀ q, before.entries q ≠ none → d'.entries q = before.entries q := by
  induction hb generalizing paths files with
  | nil d => exact h.same
  | cons first _ ih => exact ih (h.after ht.1 first) ht.2

theorem preserves_self (d : Disk) : Preserves d d [] [] := ⟨fun _ _ => rfl, nofun, nofun⟩

end Disk
end BulkLoad.Host
