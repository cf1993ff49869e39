import BulkLoad.Proofs.Step.Targets

/-!
What a run may do to the disk once its output file is made. All of it is a few steps of one
relation: a loader comes with its pipe, bytes go to the file, and targets go when what they made is
given up. So long as that is all, the disk holds what the targets have, on top of what stood there.
-/

namespace BulkLoad.Step

open Host (Delivery Disk Entry Exchange Handle Runs Trace asked bytesFor bytesFor_cons)
open Sink (Session)
open Sink.Session (Handed Removal)

/-- A request to make something that did not make it. -/
inductive Refused : Exchange → Prop
  | file (path : String) (answer : Host.Creation) (h : answer.isMade = false) :
      Refused ⟨.createFile path, answer⟩
  | pipe (path : String) (answer : Host.PipeCreation) (h : answer.isMade = false) :
      Refused ⟨.makePipe path, answer⟩

/-- What is made with a channel. -/
inductive Provided : Trace → Sink.Channel → Prop
  | pipe (path : String) : Provided [⟨.makePipe path, Host.PipeCreation.made⟩] (.fifo path)
  | stdin (capacity : Nat) : Provided [] (.stdin capacity)

/-- Steps that a run takes, from targets to targets, with the exchanges that are about the disk. -/
inductive Tends : Targets → Trace → Targets → Prop
  | nil (t : Targets) : Tends t [] t
  /-- Something was not made. -/
  | refused {t t' : Targets} {x : Exchange} {δ : Trace} (nothing : Refused x)
      (rest : Tends t δ t') : Tends t (x :: δ) t'
  /-- Bytes go to the open file. -/
  | append {t t' : Targets} {f : FileTarget} {handle : Handle} {stoppable : Bool} {bytes : Bytes}
      {δ : Trace} (d : Delivery stoppable) (file : t.file = some f)
      (opened : f.file = some handle) (rest : Tends t δ t') :
      Tends t (⟨.append stoppable handle bytes, d⟩ :: δ) t'
  /-- A loader comes with its channel. -/
  | provide {t t' : Targets} {l : LoaderTarget} {c : Sink.Channel} {μ δ : Trace}
      (vacant : t.loader = none) (made : Provided μ c) (channel : l.session.channel = some c)
      (alive : l.session.state.isOver = false)
      (rest : Tends { t with loader := some l } δ t') : Tends t (μ ++ δ) t'
  /-- The session goes on with its channel. -/
  | session {t t' : Targets} {l : LoaderTarget} {s : Session} {δ : Trace}
      (loader : t.loader = some l) (channel : s.channel = l.session.channel)
      (alive : s.state.isOver = true → s.channel = none) (rest : Tends (t.withSession l s) δ t') :
      Tends t δ t'
  /-- The session gives its channel up. -/
  | removal {t t' : Targets} {l : LoaderTarget} {s : Session} {ρ δ : Trace}
      (loader : t.loader = some l) (removed : Removal l.session.channel ρ)
      (gone : s.channel = none) (rest : Tends (t.withSession l s) δ t') : Tends t (ρ ++ δ) t'
  /-- A loader without a channel is no target any more. -/
  | retire {t t' : Targets} {l : LoaderTarget} {δ : Trace} (loader : t.loader = some l)
      (gone : l.session.channel = none) (rest : Tends { t with loader := none } δ t') : Tends t δ t'
  /-- The session of a loader that did not start is kept, as no target. -/
  | unstarted {t t' : Targets} {δ : Trace} (s : Option Session)
      (rest : Tends { t with unstarted := s } δ t') : Tends t δ t'
  /-- The file is closed. -/
  | close {t t' : Targets} {f : FileTarget} {δ : Trace} (file : t.file = some f)
      (rest : Tends { t with file := some { f with file := none } } δ t') : Tends t δ t'
  /-- The file is removed. -/
  | unlink {t t' : Targets} {f : FileTarget} {δ : Trace} (answer : Except String Unit)
      (file : t.file = some f) (rest : Tends { t with file := none } δ t') :
      Tends t (⟨.remove f.path, answer⟩ :: δ) t'

namespace Tends

variable {t t' t'' : Targets} {δ ε : Trace}

theorem trans (h : Tends t δ t') (g : Tends t' ε t'') : Tends t (δ ++ ε) t'' := by
  induction h with
  | nil t => exact g
  | refused nothing _ ih => exact .refused nothing (ih g)
  | append d file opened _ ih => exact .append d file opened (ih g)
  | provide vacant made channel alive _ ih =>
    rw [List.append_assoc]
    exact .provide vacant made channel alive (ih g)
  | session loader channel alive _ ih => exact .session loader channel alive (ih g)
  | removal loader removed gone _ ih =>
    rw [List.append_assoc]
    exact .removal loader removed gone (ih g)
  | retire loader gone _ ih => exact .retire loader gone (ih g)
  | unstarted s _ ih => exact .unstarted s (ih g)
  | close file _ ih => exact .close file (ih g)
  | unlink answer file _ ih => exact .unlink answer file (ih g)

theorem to_session {l : LoaderTarget} {s : Session} (loader : t.loader = some l)
    (channel : s.channel = l.session.channel) (alive : s.state.isOver = true → s.channel = none) :
    Tends t [] (t.withSession l s) :=
  .session loader channel alive (.nil _)

theorem to_emptied {l : LoaderTarget} {state : Sink.State} {ρ : Trace} (loader : t.loader = some l)
    (removed : Removal l.session.channel ρ) :
    Tends t ρ (t.withSession l (l.session.emptied state)) := by
  have h := Tends.removal loader removed (s := l.session.emptied state) rfl (.nil _)
  rwa [List.append_nil] at h

end Tends

/-- The session is over and has no channel. -/
def Finished (s : Session) : Prop := s.state.isOver = true ∧ s.channel = none

namespace Targets

/-- The path of the pipe that the loader has. -/
def pipe? (t : Targets) : Option String := t.loader.bind fun l => l.session.pipePath?

/-- The disk holds what the targets have, on top of what stood there, with such a content in the
file. -/
structure Standing (below : String → Option Entry) (content : Bytes) (t : Targets) (d : Disk) :
    Prop where
  laid : Disk.Laid below (t.file.map fun f => (f.path, content)) t.pipe? d
  opened : ∀ f handle, t.file = some f → f.file = some handle → d.opened handle = some f.path

/-- A session that is over has given its channel up. -/
def Tidy (t : Targets) : Prop :=
  ∀ l, t.loader = some l → l.session.state.isOver = true → l.session.channel = none

/-- The targets differ at most in the session of their loader. -/
structure Alike (t t' : Targets) : Prop where
  file : t'.file = t.file
  encoder : t'.loader.map (·.encoder) = t.loader.map (·.encoder)
  unstarted : t'.unstarted = t.unstarted

theorem Alike.refl (t : Targets) : t.Alike t := ⟨rfl, rfl, rfl⟩

theorem Alike.trans {t t' t'' : Targets} (h : t.Alike t') (g : t'.Alike t'') : t.Alike t'' :=
  ⟨g.file.trans h.file, g.encoder.trans h.encoder, g.unstarted.trans h.unstarted⟩

/-- What the targets have is among these paths and files. -/
structure Within (paths : List String) (files : List Handle) (t : Targets) : Prop where
  path : ∀ f, t.file = some f → f.path ∈ paths
  file : ∀ f handle, t.file = some f → f.file = some handle → handle ∈ files
  pipe : ∀ path, t.pipe? = some path → path ∈ paths

end Targets

/-- A channel that is made leaves the disk with its pipe. -/
theorem laid_of_provided {below : String → Option Entry} {file : Option (String × Bytes)}
    {c : Sink.Channel} {μ : Trace} {d d' : Disk} (h : Disk.Laid below file none d)
    (hm : Provided μ c) (hb : Disk.Behind d μ d') :
    Disk.Laid below file c.path? d' ∧ d'.opened = d.opened := by
  cases hm with
  | pipe path =>
    obtain ⟨d₁, ha, hb⟩ := Disk.behind_cons_iff.1 hb
    rw [Disk.behind_nil_iff.1 hb]
    exact h.piped ha
  | stdin capacity =>
    rw [Disk.behind_nil_iff.1 hb]
    exact ⟨h, rfl⟩

theorem Refused.changesDisk {x : Exchange} (h : Refused x) : x.changesDisk = false := by
  cases h <;> assumption

theorem Refused.parcel? {x : Exchange} (h : Refused x) : x.parcel? = none := by
  cases h <;> rfl

theorem Provided.parcels {c : Sink.Channel} {μ : Trace} (h : Provided μ c) : μ.parcels = [] := by
  cases h <;> rfl

/-- The content of a file has grown by what was handed to it, if all of that came through as a
whole. -/
def Grown (content : Bytes) (δ : Trace) (grown : Bytes) : Prop :=
  (∀ q ∈ δ.parcels, q.whole = true) → grown = content ++ bytesFor .file δ.parcels

namespace Grown

variable {content grown : Bytes} {δ : Trace}

theorem nil (content : Bytes) : Grown content [] content :=
  fun _ => (List.append_nil content).symm

/-- What hands on nothing lets nothing grow. -/
theorem behind {μ : Trace} (h : Grown content δ grown) (hμ : μ.parcels = []) :
    Grown content (μ ++ δ) grown := by
  unfold Grown
  rw [Trace.parcels_append, hμ, List.nil_append]
  exact h

theorem cons {x : Exchange} (h : Grown content δ grown) (hx : x.parcel? = none) :
    Grown content (x :: δ) grown :=
  h.behind (μ := [x]) (by simp [Trace.parcels, hx])

theorem append {stoppable : Bool} {handle : Handle} {bytes part : Bytes} (d : Delivery stoppable)
    (h : Grown (content ++ part) δ grown) (hpart : d = .done → part = bytes) :
    Grown content (⟨.append stoppable handle bytes, d⟩ :: δ) grown := by
  have hparcels : Trace.parcels (⟨.append stoppable handle bytes, d⟩ :: δ) =
      ⟨.file, bytes, stoppable, d.isDone⟩ :: δ.parcels := rfl
  unfold Grown
  rw [hparcels, bytesFor_cons]
  intro hwhole
  obtain ⟨hdone, hrest⟩ := List.forall_mem_cons.1 hwhole
  have hd : d = .done := by
    cases d with
    | done => rfl
    | refused message => cases hdone
    | stopped allowed => cases hdone
  rw [h hrest, hpart hd]
  simp

end Grown

/-- Requests that made nothing touch nothing. -/
theorem staysWithin_cons_refused {x : Exchange} {δ : Trace} {paths : List String}
    {files : List Handle} (hx : Refused x) (h : δ.StaysWithin paths files) :
    Trace.StaysWithin paths files (x :: δ) := by
  have hnothing : x.madePath? = none ∧ x.openedFile? = none ∧ x.StaysWithin paths files := by
    rcases hx with ⟨path, _ | _ | _, h⟩ | ⟨path, _ | _ | _ | _ | _, h⟩ <;>
      first | exact ⟨rfl, rfl, trivial⟩ | cases h
  obtain ⟨hm, hf, hstays⟩ := hnothing
  refine ⟨hstays, ?_⟩
  rw [hm, hf]
  exact h

namespace Tends

variable {t t' : Targets} {δ : Trace}

/-- The disk goes on to hold what the targets have. -/
theorem standing {below : String → Option Entry} {content : Bytes} {d d' : Disk} (h : Tends t δ t')
    (hd : t.Standing below content d) (hs : δ.RemovalsSucceed) (hb : Disk.Behind d δ d') :
    ∃ grown, Grown content δ grown ∧ t'.Standing below grown d' := by
  -- The content runs along: at each step the file holds what it held, and what was appended.
  induction h generalizing content d with
  | nil t =>
    rw [Disk.behind_nil_iff.1 hb]
    exact ⟨content, .nil content, hd⟩
  | refused nothing _ ih =>
    obtain ⟨d₁, ha, hb⟩ := Disk.behind_cons_iff.1 hb
    rw [Disk.after_of_changesDisk_eq_false nothing.changesDisk ha] at hb
    obtain ⟨grown, hgrown, hstanding⟩ := ih hd (Trace.removalsSucceed_cons.1 hs).2 hb
    exact ⟨grown, hgrown.cons nothing.parcel?, hstanding⟩
  | @append t t' f handle stoppable bytes δ answer file opened _ ih =>
    obtain ⟨hlaid, hopened⟩ := hd
    obtain ⟨d₁, ha, hb⟩ := Disk.behind_cons_iff.1 hb
    rw [file] at hlaid
    obtain ⟨part, -, hpart, hlaid', hsame⟩ := hlaid.extended (hopened f handle file opened) ha
    have hnext : t.Standing below (content ++ part) d₁ := by
      refine ⟨?_, ?_⟩
      · rw [file]
        exact hlaid'
      · rw [hsame]
        exact hopened
    obtain ⟨grown, hgrown, hstanding⟩ := ih hnext (Trace.removalsSucceed_cons.1 hs).2 hb
    exact ⟨grown, hgrown.append answer hpart, hstanding⟩
  | @provide t t' l c μ δ vacant made channel alive _ ih =>
    obtain ⟨hlaid, hopened⟩ := hd
    obtain ⟨d₁, hμ, hδ⟩ := Disk.behind_append_iff.1 hb
    have hpipe : t.pipe? = none := by simp [Targets.pipe?, vacant]
    rw [hpipe] at hlaid
    obtain ⟨hlaid', hsame⟩ := laid_of_provided hlaid made hμ
    have hnext : ({ t with loader := some l } : Targets).Standing below content d₁ := by
      refine ⟨?_, ?_⟩
      · simpa [Targets.pipe?, Session.pipePath?, channel] using hlaid'
      · rw [hsame]
        exact hopened
    obtain ⟨grown, hgrown, hstanding⟩ := ih hnext (Trace.removalsSucceed_append.1 hs).2 hδ
    exact ⟨grown, hgrown.behind made.parcels, hstanding⟩
  | @session t t' l s δ loader channel alive _ ih =>
    refine ih ⟨?_, hd.opened⟩ hs hb
    have hpipe : (t.withSession l s).pipe? = t.pipe? := by
      simp [Targets.pipe?, Targets.withSession, loader, Session.pipePath?, channel]
    rw [hpipe]
    exact hd.laid
  | @removal t t' l s ρ δ loader removed gone _ ih =>
    obtain ⟨hlaid, hopened⟩ := hd
    obtain ⟨hsρ, hsδ⟩ := Trace.removalsSucceed_append.1 hs
    obtain ⟨d₁, hρ, hδ⟩ := Disk.behind_append_iff.1 hb
    have hpipe : t.pipe? = l.session.channel.bind Sink.Channel.path? := by
      simp [Targets.pipe?, loader, Session.pipePath?]
    rw [hpipe] at hlaid
    obtain ⟨hlaid', hsame⟩ := removed.laid hlaid hsρ hρ
    have hnext : (t.withSession l s).Standing below content d₁ := by
      refine ⟨?_, ?_⟩
      · simpa [Targets.pipe?, Targets.withSession, Session.pipePath?, gone] using hlaid'
      · rw [hsame]
        exact hopened
    obtain ⟨grown, hgrown, hstanding⟩ := ih hnext hsδ hδ
    exact ⟨grown, hgrown.behind removed.parcels, hstanding⟩
  | unstarted s _ ih => exact ih ⟨hd.laid, hd.opened⟩ hs hb
  | @retire t t' l δ loader gone _ ih =>
    refine ih ⟨?_, hd.opened⟩ hs hb
    have hpipe : t.pipe? = none := by
      simp [Targets.pipe?, loader, Session.pipePath?, gone]
    have hlaid := hd.laid
    rwa [hpipe] at hlaid
  | @close t t' f δ file _ ih =>
    refine ih ⟨?_, ?_⟩ hs hb
    · have hlaid := hd.laid
      rw [file] at hlaid
      exact hlaid
    · rintro f' handle hf' hh
      cases hf'
      cases hh
  | @unlink t t' f δ answer file _ ih =>
    have hlaid := hd.laid
    obtain ⟨hs₁, hs₂⟩ := Trace.removalsSucceed_cons.1 hs
    obtain ⟨d₁, ha, hb⟩ := Disk.behind_cons_iff.1 hb
    rw [Disk.after_remove hs₁ ha] at hb
    rw [file] at hlaid
    have hnext : ({ t with file := none } : Targets).Standing below content
        (d.put f.path none) := by
      refine ⟨hlaid.file_removed, ?_⟩
      rintro f' handle hf'
      cases hf'
    obtain ⟨grown, hgrown, hstanding⟩ := ih hnext hs₂ hb
    exact ⟨grown, hgrown.cons rfl, hstanding⟩

theorem tidy (h : Tends t δ t') (ht : t.Tidy) : t'.Tidy := by
  induction h with
  | nil t => exact ht
  | refused nothing _ ih => exact ih ht
  | append d file opened _ ih => exact ih ht
  | provide vacant made channel alive _ ih =>
    refine ih ?_
    rintro l hl hover
    cases hl
    rw [alive] at hover
    cases hover
  | session loader channel alive _ ih =>
    refine ih ?_
    rintro l hl
    cases hl
    exact alive
  | removal loader removed gone _ ih =>
    refine ih ?_
    rintro l hl -
    cases hl
    exact gone
  | retire loader gone _ ih =>
    refine ih ?_
    rintro l hl
    cases hl
  | unstarted s _ ih => exact ih ht
  | close file _ ih => exact ih ht
  | unlink answer file _ ih => exact ih ht

/-- The steps touch only what the targets have and what was made on the way. -/
theorem staysWithin {paths : List String} {files : List Handle} (h : Tends t δ t')
    (hw : t.Within paths files) : δ.StaysWithin paths files := by
  -- What was made on the way is the run's own from there on, so both lists grow.
  induction h generalizing paths files with
  | nil t => trivial
  | refused nothing _ ih => exact staysWithin_cons_refused nothing (ih hw)
  | append d file opened _ ih => exact ⟨hw.file _ _ file opened, ih hw⟩
  | @provide t t' l c μ δ vacant made channel alive _ ih =>
    cases made with
    | pipe path =>
      refine ⟨trivial, ih ⟨?_, hw.file, ?_⟩⟩
      · intro f hf
        exact List.mem_append_right _ (hw.path f hf)
      · intro q hq
        have : path = q := by
          simpa [Targets.pipe?, Session.pipePath?, channel, Sink.Channel.path?] using hq
        exact List.mem_append_left _ (List.mem_singleton.2 this.symm)
    | stdin capacity =>
      refine ih ⟨hw.path, hw.file, ?_⟩
      intro q hq
      simp [Targets.pipe?, Session.pipePath?, channel, Sink.Channel.path?] at hq
  | @session t t' l s δ loader channel alive _ ih =>
    refine ih ⟨hw.path, hw.file, fun path hp => hw.pipe path ?_⟩
    simpa [Targets.pipe?, Targets.withSession, loader, Session.pipePath?, channel] using hp
  | @removal t t' l s ρ δ loader removed gone _ ih =>
    have hnext : (t.withSession l s).Within paths files := by
      refine ⟨hw.path, hw.file, fun path hp => ?_⟩
      simp [Targets.pipe?, Targets.withSession, Session.pipePath?, gone] at hp
    cases hc : l.session.channel with
    | none =>
      rw [hc] at removed
      cases removed
      exact ih hnext
    | some channel =>
      rw [hc] at removed
      cases removed with
      | stdin capacity => exact ih hnext
      | pipe path answer =>
        refine ⟨hw.pipe path ?_, ih hnext⟩
        simp [Targets.pipe?, loader, Session.pipePath?, hc, Sink.Channel.path?]
  | retire loader gone _ ih =>
    refine ih ⟨hw.path, hw.file, ?_⟩
    intro path hp
    cases hp
  | unstarted s _ ih => exact ih ⟨hw.path, hw.file, hw.pipe⟩
  | @close t t' f δ file _ ih =>
    refine ih ⟨?_, ?_, hw.pipe⟩
    · rintro f' hf'
      cases hf'
      exact hw.path f file
    · rintro f' handle hf' hh
      cases hf'
      cases hh
  | @unlink t t' f δ answer file _ ih =>
    refine ⟨hw.path f file, ih ⟨?_, ?_, hw.pipe⟩⟩
    · intro f' hf'
      cases hf'
    · intro f' handle hf'
      cases hf'

end Tends

namespace Targets

variable {t t' : Targets} {record : Bytes} {τ : Trace} {r : Except (Interruption true) Unit}

theorem onDisk_eq_nil_of_notable (h : τ.notable = []) : τ.onDisk = [] := by
  rw [← Trace.onDisk_notable, h]
  rfl

theorem writeFile_tends (h : Runs (t.writeFile record) τ r) (ho : t.Open) :
    Tends t τ.onDisk t := by
  rcases writeFile_cases h ho with ⟨-, rfl, -⟩ | ⟨f, handle, hf, hh, ⟨rfl, -⟩ | ⟨d, rfl, -⟩⟩
  · exact .nil t
  · exact .nil t
  · exact .append d hf hh (.nil t)

theorem Handed.onDisk {stoppable : Bool} {x : Exchange} {d : Delivery stoppable}
    (h : Handed stoppable record x d) (rest : Trace) :
    Trace.onDisk (x :: rest) = Trace.onDisk rest := by
  cases h <;> rfl

theorem writeLoader_tends (h : Runs (t.writeLoader record) τ (r, t')) (ho : t.Open) :
    Tends t τ.onDisk t' := by
  rcases writeLoader_cases h ho with ⟨-, rfl, -, rfl⟩ | ⟨l, hl, ⟨rfl, -, rfl⟩ |
    ⟨x, d, rest, rfl, hx, hw⟩⟩
  · exact .nil _
  · exact .nil _
  · have hdisk : Trace.onDisk (asked false :: x :: rest) = Trace.onDisk rest :=
      Handed.onDisk hx rest
    have hstate := ho.draining l hl
    rw [hdisk]
    cases hw with
    | done => exact Tends.to_session hl rfl (by simp [hstate, Sink.State.isOver])
    | failed message f rest removed calm => exact Tends.to_emptied hl removed.onDisk
    | stopped d incomplete rest mild consumer writer =>
      rw [onDisk_eq_nil_of_notable mild]
      exact Tends.to_session hl rfl (by simp [hstate, Sink.State.isOver])

/-- Writing a row takes nothing but such steps. -/
theorem write_tends {b : Buffers} (h : Runs (t.write b) τ (r, t')) (ho : t.Open) :
    Tends t τ.onDisk t' := by
  obtain ⟨τ₁, τ₂, w, rfl, h₁, h₂⟩ := Host.runs_bind_iff.1 h
  have hfile := writeFile_tends h₁ ho
  rw [Trace.onDisk_append]
  cases w with
  | error i =>
    obtain ⟨rfl, hv⟩ := Host.runs_pure_iff.1 h₂
    cases hv
    exact hfile.trans (.nil _)
  | ok u => exact hfile.trans (writeLoader_tends h₂ ho)

/-- Writing a row changes at most the session of the loader. -/
theorem write_alike {b : Buffers} (h : Runs (t.write b) τ (r, t')) : t.Alike t' := by
  obtain ⟨τ₁, τ₂, w, rfl, h₁, h₂⟩ := Host.runs_bind_iff.1 h
  cases w with
  | error i =>
    obtain ⟨-, hv⟩ := Host.runs_pure_iff.1 h₂
    cases hv
    exact .refl t
  | ok u =>
    have h₃ : Runs (t.writeLoader b.loader) τ₂ (r, t') := h₂
    unfold writeLoader at h₃
    cases hl : t.loader with
    | none =>
      rw [hl] at h₃
      obtain ⟨-, hv⟩ := Host.runs_pure_iff.1 h₃
      cases hv
      exact .refl t
    | some l =>
      rw [hl] at h₃
      obtain ⟨τ₃, τ₄, ⟨written, s⟩, -, -, h₄⟩ := Host.runs_bind_iff.1 h₃
      obtain ⟨-, hv⟩ := Host.runs_pure_iff.1 h₄
      cases hv
      exact ⟨rfl, by rw [hl]; rfl, rfl⟩

/-- Targets that took a row are open for the next. -/
theorem write_open {b : Buffers} (h : Runs (t.write b) τ (.ok (), t')) (ho : t.Open) : t'.Open := by
  obtain ⟨τ₁, τ₂, w, rfl, h₁, h₂⟩ := Host.runs_bind_iff.1 h
  cases w with
  | error i =>
    obtain ⟨-, hv⟩ := Host.runs_pure_iff.1 h₂
    cases hv
  | ok u =>
    rcases writeLoader_cases h₂ ho with ⟨-, -, -, rfl⟩ | ⟨l, hl, ⟨-, hr, -⟩ |
      ⟨x, d, rest, -, -, hw⟩⟩
    · exact ho
    · cases hr
    · cases hw with
      | done =>
        refine ⟨ho.file, ?_, ?_⟩
        · rintro l' hl'
          cases hl'
          exact ho.draining l hl
        · rintro l' hl'
          cases hl'
          exact ho.writer l hl

end Targets
end BulkLoad.Step
