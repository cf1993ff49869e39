import BulkLoad.Proofs.Step.Upkeep

/-!
What stands in the output file while a run goes on. This holds whether or not pipes can be removed:
a pipe is made where nothing stands, so it is never where the file is, and neither what is written
to the pipe nor its removal touches the file.
-/

namespace BulkLoad.Step

open Host (Disk Entry Handle Runs Trace)
open Sink (Channel Session)
open Sink.Session (Removal)

/-- Removing a channel leaves what stands at any other path. -/
theorem entries_of_removal {channel : Option Channel} {ρ : Trace} {d d' : Disk} {path : String}
    (h : Removal channel ρ) (hp : channel.bind Channel.path? ≠ some path) (hb : d.Behind ρ d') :
    d'.entries path = d.entries path ∧ d'.opened = d.opened := by
  cases h with
  | pipe q answer =>
    have hne : path ≠ q := fun heq => hp (by simp [Channel.path?, heq])
    obtain ⟨d₁, ha, hb⟩ := Disk.behind_cons_iff.1 hb
    rw [Disk.behind_nil_iff.1 hb]
    cases ha with
    | removed => exact ⟨Disk.put_entries_of_ne hne, rfl⟩
    | unchanged hc => exact ⟨rfl, rfl⟩
  | stdin capacity =>
    rw [Disk.behind_nil_iff.1 hb]
    exact ⟨rfl, rfl⟩
  | none =>
    rw [Disk.behind_nil_iff.1 hb]
    exact ⟨rfl, rfl⟩

/-- Making a channel leaves what stands anywhere, and its pipe is not there. -/
theorem entries_of_provided {c : Channel} {μ : Trace} {d d' : Disk} {path : String}
    (h : Provided μ c) (hp : d.entries path ≠ none) (hb : d.Behind μ d') :
    d'.entries path = d.entries path ∧ d'.opened = d.opened ∧ c.path? ≠ some path := by
  cases h with
  | pipe q =>
    obtain ⟨d₁, ha, hb⟩ := Disk.behind_cons_iff.1 hb
    rw [Disk.behind_nil_iff.1 hb]
    cases ha with
    | unchanged hc => cases hc
    | piped free =>
      have hne : path ≠ q := fun heq => hp (heq ▸ free)
      exact ⟨Disk.put_entries_of_ne hne, rfl, fun hq => hne (Option.some.inj hq).symm⟩
  | stdin capacity =>
    rw [Disk.behind_nil_iff.1 hb]
    exact ⟨rfl, rfl, nofun⟩

namespace Targets

/-- The file of the targets holds such a content, and the pipe is elsewhere. -/
structure Holds (content : Bytes) (t : Targets) (d : Disk) : Prop where
  held : ∀ f, t.file = some f → d.entries f.path = some (.file content)
  opened : ∀ f handle, t.file = some f → f.file = some handle → d.opened handle = some f.path
  apart : ∀ f, t.file = some f → t.pipe? ≠ some f.path

variable {content bytes : Bytes} {t : Targets} {d d' : Disk}

theorem Holds.none (hf : t.file = none) : t.Holds content d :=
  ⟨fun _ h => by simp [hf] at h, fun _ _ h => by simp [hf] at h, fun _ h => by simp [hf] at h⟩

/-- Bytes for the file go behind what it holds. -/
theorem Holds.extended {f : FileTarget} {handle : Handle} {stoppable : Bool}
    {answer : Host.Delivery stoppable} (h : t.Holds content d) (hf : t.file = some f)
    (hh : f.file = some handle) (ha : d.After ⟨.append stoppable handle bytes, answer⟩ d') :
    ∃ part, (answer = .done → part = bytes) ∧ t.Holds (content ++ part) d' := by
  have hopened := h.opened f handle hf hh
  cases ha with
  | unchanged hc => cases hc
  | lost unopened =>
    rw [hopened] at unopened
    cases unopened
  | @appended _ _ _ part _ path opened prefixed whole =>
    rw [hopened] at opened
    cases opened
    refine ⟨part, whole, ?_, ?_, h.apart⟩
    · intro g hg
      rw [hf] at hg
      cases hg
      simp [Disk.extend, h.held f hf, Disk.put]
    · intro g handle' hg hh'
      rw [Disk.extend_opened]
      exact h.opened g handle' hg hh'

/-- Whatever leaves the file, and keeps the pipe away from it, lets it hold what it held. -/
theorem Holds.frame {t' : Targets} (h : t.Holds content d) (hfile : t'.file = t.file)
    (hentries : ∀ f, t.file = some f → d'.entries f.path = d.entries f.path)
    (hopened : ∀ f, t.file = some f → d'.opened = d.opened)
    (hpipe : ∀ f, t.file = some f → t'.pipe? ≠ some f.path) : t'.Holds content d' := by
  refine ⟨fun f hf => ?_, fun f handle hf hh => ?_, fun f hf => ?_⟩
  · rw [hfile] at hf
    rw [hentries f hf]
    exact h.held f hf
  · rw [hfile] at hf
    rw [hopened f hf]
    exact h.opened f handle hf hh
  · rw [hfile] at hf
    exact hpipe f hf

end Targets

/-- While a run goes on its file holds what was handed to it, so long as it is there. -/
theorem Tends.holds {t t' : Targets} {δ : Trace} {content : Bytes} {d d' : Disk}
    (h : Tends t δ t') (hd : t.Holds content d) (hb : d.Behind δ d') :
    ∃ grown, Grown content δ grown ∧ t'.Holds grown d' := by
  -- As in `Tends.standing`, the content runs along with the steps.
  induction h generalizing content d with
  | nil t =>
    rw [Disk.behind_nil_iff.1 hb]
    exact ⟨content, .nil content, hd⟩
  | refused nothing _ ih =>
    obtain ⟨d₁, ha, hb⟩ := Disk.behind_cons_iff.1 hb
    rw [Disk.after_of_changesDisk_eq_false nothing.changesDisk ha] at hb
    obtain ⟨grown, hgrown, hholds⟩ := ih hd hb
    exact ⟨grown, hgrown.cons nothing.parcel?, hholds⟩
  | append answer file opened _ ih =>
    obtain ⟨d₁, ha, hb⟩ := Disk.behind_cons_iff.1 hb
    obtain ⟨part, hpart, hnext⟩ := hd.extended file opened ha
    obtain ⟨grown, hgrown, hholds⟩ := ih hnext hb
    exact ⟨grown, hgrown.append answer hpart, hholds⟩
  | @provide t t' l c μ δ vacant made channel alive _ ih =>
    obtain ⟨d₁, hμ, hδ⟩ := Disk.behind_append_iff.1 hb
    have hmade : ∀ f, t.file = some f →
        d₁.entries f.path = d.entries f.path ∧ d₁.opened = d.opened ∧ c.path? ≠ some f.path :=
      fun f hf => entries_of_provided made (by simp [hd.held f hf]) hμ
    have hnext : ({ t with loader := some l } : Targets).Holds content d₁ := by
      refine hd.frame rfl (fun f hf => (hmade f hf).1) (fun f hf => (hmade f hf).2.1) ?_
      intro f hf
      simpa [Targets.pipe?, Session.pipePath?, channel] using (hmade f hf).2.2
    obtain ⟨grown, hgrown, hholds⟩ := ih hnext hδ
    exact ⟨grown, hgrown.behind made.parcels, hholds⟩
  | @session t t' l s δ loader channel alive _ ih =>
    refine ih (hd.frame rfl (fun _ _ => rfl) (fun _ _ => rfl) fun f hf => ?_) hb
    have hpipe : (t.withSession l s).pipe? = t.pipe? := by
      simp [Targets.pipe?, Targets.withSession, loader, Session.pipePath?, channel]
    rw [hpipe]
    exact hd.apart f hf
  | @removal t t' l s ρ δ loader removed gone _ ih =>
    obtain ⟨d₁, hρ, hδ⟩ := Disk.behind_append_iff.1 hb
    have hkept : ∀ f, t.file = some f →
        d₁.entries f.path = d.entries f.path ∧ d₁.opened = d.opened := by
      intro f hf
      refine entries_of_removal removed ?_ hρ
      have hapart := hd.apart f hf
      simpa [Targets.pipe?, loader, Session.pipePath?] using hapart
    have hnext : (t.withSession l s).Holds content d₁ := by
      refine hd.frame rfl (fun f hf => (hkept f hf).1) (fun f hf => (hkept f hf).2) fun f hf => ?_
      simp [Targets.pipe?, Targets.withSession, Session.pipePath?, gone]
    obtain ⟨grown, hgrown, hholds⟩ := ih hnext hδ
    exact ⟨grown, hgrown.behind removed.parcels, hholds⟩
  | unstarted s _ ih => exact ih ⟨hd.held, hd.opened, hd.apart⟩ hb
  | retire loader gone _ ih =>
    refine ih (hd.frame rfl (fun _ _ => rfl) (fun _ _ => rfl) fun f _ hpipe => ?_) hb
    cases hpipe
  | @close t t' f δ file _ ih =>
    refine ih ⟨fun g hg => ?_, fun g handle hg hh => ?_, fun g hg => ?_⟩ hb
    · cases hg
      exact hd.held f file
    · cases hg
      cases hh
    · cases hg
      exact hd.apart f file
  | unlink answer file _ ih =>
    obtain ⟨d₁, -, hb⟩ := Disk.behind_cons_iff.1 hb
    obtain ⟨grown, hgrown, hholds⟩ := ih (.none rfl) hb
    exact ⟨grown, hgrown.cons rfl, hholds⟩

end BulkLoad.Step
