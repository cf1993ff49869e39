import BulkLoad.Proofs.Host.Ownership

/-!
Disks on which one file and one pipe were made on top of what stood there. Taking both away leaves
exactly what stood there.
-/

namespace BulkLoad.Host

/-- A file or pipe could not be removed. -/
def Exchange.removalFailed : Exchange → Bool
  | ⟨.remove _, answer⟩ => !@Except.toBool String Unit answer
  | _ => false

/-- Every removal of the trace came through. -/
def Trace.RemovalsSucceed (t : Trace) : Prop := ∀ x ∈ t, x.removalFailed = false

@[simp] theorem Trace.removalsSucceed_cons {x : Exchange} {t : Trace} :
    Trace.RemovalsSucceed (x :: t) ↔ x.removalFailed = false ∧ t.RemovalsSucceed :=
  List.forall_mem_cons

@[simp] theorem Trace.removalsSucceed_append {t u : Trace} :
    Trace.RemovalsSucceed (t ++ u) ↔ t.RemovalsSucceed ∧ u.RemovalsSucceed :=
  List.forall_mem_append

theorem Trace.RemovalsSucceed.onDisk {t : Trace} (h : t.RemovalsSucceed) :
    t.onDisk.RemovalsSucceed :=
  fun x hx => h x (List.mem_filter.1 hx).1

namespace Disk

/-- What stands where, with a file and a pipe on top of what stood there. -/
def layout (below : String → Option Entry) (file : Option (String × Bytes))
    (pipe : Option String) : String → Option Entry := fun q =>
  if pipe = some q then some .pipe
  else match file with
    | some (path, content) => if path = q then some (.file content) else below q
    | none => below q

/-- The disk holds a file and a pipe, at paths of their own, on top of what stood there. -/
structure Laid (below : String → Option Entry) (file : Option (String × Bytes))
    (pipe : Option String) (d : Disk) : Prop where
  entries : d.entries = layout below file pipe
  file_free : ∀ path content, file = some (path, content) → below path = none
  pipe_free : ∀ path, pipe = some path → layout below file none path = none

variable {below : String → Option Entry} {file : Option (String × Bytes)} {pipe : Option String}
  {d d' : Disk}

theorem laid_self (d : Disk) : Laid d.entries none none d :=
  ⟨by funext q; simp [layout], nofun, nofun⟩

theorem Laid.created {path : String} {handle : Handle} (h : Laid below none none d)
    (ha : d.After ⟨.createFile path, Creation.made handle⟩ d') :
    Laid below (some (path, [])) none d' ∧ d'.opened handle = some path := by
  cases ha with
  | unchanged hc => cases hc
  | created free =>
    have hbelow : below path = none := by simpa [h.entries, layout] using free
    refine ⟨⟨?_, ?_, nofun⟩, by simp⟩
    · funext q
      by_cases hq : path = q
      · simp [put, layout, hq]
      · simp [put, layout, hq, Function.update_of_ne (Ne.symm hq), h.entries]
    · rintro path' content' hp
      cases hp
      exact hbelow

theorem Laid.piped {path : String} (h : Laid below file none d)
    (ha : d.After ⟨.makePipe path, PipeCreation.made⟩ d') :
    Laid below file (some path) d' ∧ d'.opened = d.opened := by
  cases ha with
  | unchanged hc => cases hc
  | piped free =>
    rw [h.entries] at free
    refine ⟨⟨?_, h.file_free, ?_⟩, rfl⟩
    · funext q
      by_cases hq : path = q
      · simp [put, layout, hq]
      · simp [put, layout, hq, Function.update_of_ne (Ne.symm hq), h.entries]
    · rintro path' hp
      cases hp
      exact free

theorem after_remove {path : String} {answer : Except String Unit}
    (hs : (Exchange.mk (.remove path) answer).removalFailed = false)
    (ha : d.After ⟨.remove path, answer⟩ d') : d' = d.put path none := by
  cases ha with
  | removed => rfl
  | unchanged hc =>
    cases answer with
    | ok u => cases hc
    | error message => cases hs

theorem Laid.pipe_removed {path : String} (h : Laid below file (some path) d) :
    Laid below file none (d.put path none) := by
  refine ⟨?_, h.file_free, nofun⟩
  funext q
  by_cases hq : path = q
  · have hfree := h.pipe_free path rfl
    subst hq
    rw [hfree]
    simp [put]
  · simp [put, Function.update_of_ne (Ne.symm hq), h.entries, layout, hq]

theorem Laid.file_removed {path : String} {content : Bytes}
    (h : Laid below (some (path, content)) pipe d) : Laid below none pipe (d.put path none) := by
  have hfree := h.file_free path content rfl
  -- The pipe was made where nothing stood, so it is not where the file is.
  have hne : pipe ≠ some path := by
    intro hp
    have := h.pipe_free path hp
    simp [layout] at this
  refine ⟨?_, nofun, ?_⟩
  · funext q
    by_cases hq : path = q
    · subst hq
      simp [put, layout, hne, hfree]
    · simp [put, Function.update_of_ne (Ne.symm hq), h.entries, layout, hq]
  · intro q hq
    have hpq : path ≠ q := fun heq => hne (heq ▸ hq)
    have := h.pipe_free q hq
    simpa [layout, hpq] using this

theorem Laid.extended {path : String} {content bytes : Bytes} {stoppable : Bool} {handle : Handle}
    {answer : Delivery stoppable} (h : Laid below (some (path, content)) pipe d)
    (ho : d.opened handle = some path)
    (ha : d.After ⟨.append stoppable handle bytes, answer⟩ d') :
    ∃ part, part <+: bytes ∧ (answer = .done → part = bytes) ∧
      Laid below (some (path, content ++ part)) pipe d' ∧ d'.opened = d.opened := by
  have hne : pipe ≠ some path := by
    intro hp
    have := h.pipe_free path hp
    simp [layout] at this
  cases ha with
  | unchanged hc => cases hc
  | lost unopened =>
    rw [ho] at unopened
    cases unopened
  | @appended _ _ _ part _ path' opened prefixed whole =>
    rw [ho] at opened
    cases opened
    have hcontent : d.entries path = some (.file content) := by
      simp [h.entries, layout, hne]
    have hextend : d.extend path part = d.put path (some (.file (content ++ part))) := by
      simp [extend, hcontent]
    refine ⟨part, prefixed, whole, ?_, by simp⟩
    rw [hextend]
    refine ⟨?_, ?_, ?_⟩
    · funext q
      by_cases hq : path = q
      · subst hq
        simp [put, layout, hne]
      · simp [put, Function.update_of_ne (Ne.symm hq), h.entries, layout, hq]
    · rintro path' content' hp
      cases hp
      exact h.file_free path content rfl
    · intro q hq
      have hpq : path ≠ q := fun heq => hne (heq ▸ hq)
      have := h.pipe_free q hq
      simpa [layout, hpq] using this

theorem Laid.entries_eq (h : Laid below none none d) : d.entries = below := by
  rw [h.entries]
  funext q
  simp [layout]

end Disk
end BulkLoad.Host
