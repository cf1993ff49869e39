import BulkLoad.Proofs.Step.Claim
import BulkLoad.Proofs.Step.Progress

/-!
How a run opens its targets: the header goes to the file, the loader is started, and the channel to
it is opened. At each point where this may fail, what was made up to there is among the targets or
has been given up.
-/

namespace BulkLoad.Step

open Host (Delivery Exchange Follows Handle Parcel Runs Trace asked)
open Sink (Session)
open Sink.Session (Removal)

variable {c : Config} {p : Projection} {file : Option FileTarget} {τ : Trace}

theorem Tends.of_refused {t t' : Targets} {δ ε : Trace} (h : ∀ x ∈ δ, Refused x)
    (rest : Tends t ε t') : Tends t (δ ++ ε) t' := by
  induction δ with
  | nil => exact rest
  | cons x δ ih =>
    obtain ⟨hx, hδ⟩ := List.forall_mem_cons.1 h
    exact .refused hx (ih hδ)

/-- A loader whose channel is made and then given up is no target. -/
theorem Tends.provide_removal {s : Session} {channel : Sink.Channel} {μ ρ : Trace}
    (made : Provided μ channel) (has : s.channel = some channel) (alive : s.state.isOver = false)
    (removed : Removal s.channel ρ) (encoder : Encoder) :
    Tends { file } (μ ++ ρ) { file } := by
  have hremoval : Tends { file, loader := some ⟨s, encoder⟩ } (ρ ++ []) { file } :=
    .removal (s := s.emptied .failed) rfl removed rfl (.retire rfl rfl (.nil _))
  rw [List.append_nil] at hremoval
  exact .provide rfl made has alive hremoval

/-- Making a channel either makes it or makes nothing. -/
theorem provision_provided {s s' : Session} {r : Except Fault Unit}
    (h : Runs s.provision τ (r, s')) (hs : s.state = .created) :
    τ.Calm ∧ τ.Still ∧
    ((r = .ok () ∧ ∃ channel, Provided τ.onDisk channel ∧
        s' = { s with channel := some channel, state := .pipeReady }) ∨
      (∃ f, r = .error f ∧ s' = { s with state := .failed } ∧ ∀ x ∈ τ.onDisk, Refused x)) := by
  obtain ⟨hcalm, hcases⟩ := Session.provision_cases h hs
  refine ⟨hcalm, ?_⟩
  rw [← Trace.onDisk_notable]
  rcases hcases with ⟨capacity, rfl, hn, rfl⟩ | ⟨path, rfl, hn, rfl⟩ | ⟨f, rfl, rfl, hn⟩
  · exact ⟨Trace.still_of_notable_eq_nil hn, .inl ⟨rfl, _, by rw [hn]; exact .stdin capacity, rfl⟩⟩
  · refine ⟨Trace.still_of_notable ?_, .inl ⟨rfl, _, by rw [hn]; exact .pipe path, rfl⟩⟩
    rw [hn]
    exact Trace.still_cons.2 ⟨⟨rfl, rfl, rfl⟩, Trace.still_nil⟩
  · rcases hn with hn | ⟨path, answer, ha, hn⟩
    · exact ⟨Trace.still_of_notable_eq_nil hn, .inr ⟨f, rfl, rfl, by rw [hn]; nofun⟩⟩
    · have hrefused : Refused ⟨.makePipe path, answer⟩ := by
        refine .pipe path answer ?_
        cases answer <;> first | exact absurd rfl ha | rfl
      refine ⟨Trace.still_of_notable ?_, .inr ⟨f, rfl, rfl, ?_⟩⟩
      · rw [hn]
        exact Trace.still_cons.2 ⟨hrefused.quiet.2, Trace.still_nil⟩
      · rw [hn]
        intro x hx
        rw [List.mem_singleton.1 hx]
        exact hrefused

/-- How starting the loader may end: it runs and has its channel, or its session is over and has
nothing. -/
inductive Started (file : Option FileTarget) (l : LoaderTarget) :
    Trace → Except Fault Unit → Prop
  | running {τ : Trace} {channel : Sink.Channel} (made : Provided τ.onDisk channel)
      (has : l.session.channel = some channel) (state : l.session.state = .consumerRunning)
      (running : Session.Running l.session.consumer)
      (unused : l.session.records = 0 ∧ l.session.bytes = 0) : Started file l τ (.ok ())
  | failed {τ : Trace} (f : Fault) (ended : l.session.state = .failed)
      (gone : l.session.channel = none) (tends : Tends { file } τ.onDisk { file }) :
      Started file l τ (.error f)

theorem startLoader_cases {r : Except Fault Unit} {l : LoaderTarget}
    (h : Runs (startLoader c p) τ (r, l)) (file : Option FileTarget) :
    τ.Calm ∧ τ.Still ∧ l.encoder = Encoder.ofFormat c.loaderFormat p ∧ Started file l τ r := by
  obtain ⟨τ₁, τ₂, ⟨made, s⟩, rfl, h₁, h₂⟩ := Host.runs_bind_iff.1 h
  obtain ⟨hcalm₁, hstill₁, hmade⟩ := provision_provided h₁ rfl
  rcases hmade with ⟨rfl, channel, hprovided, rfl⟩ | ⟨f, rfl, rfl, hrefused⟩
  · cases hcommand : c.loadCommand (Session.inputPath
        { step := c.identity.step, settings := c.loader.settings, channel := some channel,
          state := .pipeReady : Session }) with
    | error fault =>
      simp only [hcommand] at h₂
      obtain ⟨τ₃, τ₄, s, rfl, h₃, h₄⟩ := Host.runs_bind_iff.1 h₂
      obtain ⟨rfl, hv⟩ := Host.runs_pure_iff.1 h₄
      cases hv
      rcases Session.abort_cases h₃ with ⟨hover, -, -⟩ | ⟨-, rfl, hr, hc⟩
      · cases hover
      · rw [List.append_nil]
        refine ⟨Trace.calm_append.2 ⟨hcalm₁, hc⟩, Trace.still_append.2 ⟨hstill₁, hr.still⟩, rfl,
          .failed fault rfl rfl ?_⟩
        rw [Trace.onDisk_append]
        exact .provide_removal hprovided rfl rfl hr.onDisk
          (Encoder.ofFormat c.loaderFormat p)
    | ok command =>
      simp only [hcommand] at h₂
      obtain ⟨τ₃, τ₄, ⟨started, s⟩, rfl, h₃, h₄⟩ := Host.runs_bind_iff.1 h₂
      obtain ⟨rfl, hv⟩ := Host.runs_pure_iff.1 h₄
      cases hv
      rw [List.append_nil]
      obtain ⟨hc, ⟨process, rfl, rfl, rfl⟩ | ⟨f, rfl, rfl, hr⟩⟩ :=
        Session.startConsumer_cases h₃ rfl
      · refine ⟨Trace.calm_append.2 ⟨hcalm₁, hc⟩, Trace.still_append.2 ⟨hstill₁, ?_⟩, rfl, ?_⟩
        · exact Trace.still_cons.2 ⟨⟨rfl, rfl, rfl⟩, Trace.still_nil⟩
        · have hrunning : Session.Running (some { process }) := by
            rintro consumer hconsumer
            cases hconsumer
            rfl
          refine .running ?_ rfl rfl hrunning ⟨rfl, rfl⟩
          rw [Trace.onDisk_append]
          have hstart : ∀ x : Exchange, x.request.isOnDisk = false → Trace.onDisk [x] = [] :=
            fun x hx => by rw [Trace.onDisk_cons, if_neg (by simp [hx]), Trace.onDisk_nil]
          rwa [hstart _ rfl, List.append_nil]
      · refine ⟨Trace.calm_append.2 ⟨hcalm₁, hc⟩, Trace.still_append.2 ⟨hstill₁, hr.still⟩, rfl,
          .failed f rfl rfl ?_⟩
        rw [Trace.onDisk_append]
        exact .provide_removal hprovided rfl rfl hr.onDisk
          (Encoder.ofFormat c.loaderFormat p)
  · obtain ⟨rfl, hv⟩ := Host.runs_pure_iff.1 h₂
    cases hv
    rw [List.append_nil]
    refine ⟨hcalm₁, hstill₁, rfl, .failed f rfl rfl ?_⟩
    rw [← List.append_nil τ₁.onDisk]
    exact .of_refused hrefused (.nil _)

/-- The session is open for its first record. -/
structure Ready (s : Session) : Prop where
  draining : s.state = .draining
  writer : s.writer.isSome = true
  running : Session.Running s.consumer
  records : s.records = 0
  bytes : s.bytes = 0

/-- How opening the channel to a loader may end; nobody takes up a channel that is not opened. -/
inductive Connected (l : LoaderTarget) :
    Trace → Except (Interruption true) Unit → LoaderTarget → Prop
  | open {τ : Trace} {consumer : Option Sink.Consumer} {writer : Sink.Writer}
      (meets : τ.Meets) (calm : τ.Calm) (running : Session.Running consumer) :
      Connected l (asked false :: τ) (.ok ()) { l with session := { l.session with
        consumer, writer := some writer, state := .draining } }
  | failed {τ : Trace} (f : Fault) (still : τ.Still) (removed : Removal l.session.channel τ.onDisk)
      (calm : τ.Calm) :
      Connected l (asked false :: τ) (.error (.failed f))
        { l with session := l.session.emptied .failed }
  | stopped {τ : Trace} {consumer : Option Sink.Consumer} {writer : Option Sink.Writer}
      (still : τ.Still) (untouched : τ.onDisk = []) :
      Connected l (asked false :: τ) (.error (.stopped rfl))
        { l with session := { l.session with consumer, writer } }
  | unasked : Connected l [asked true] (.error (.stopped rfl)) l

theorem connect_cases {l l' : LoaderTarget} {r : Except (Interruption true) Unit}
    (h : Runs l.connect τ (r, l')) (hs : l.session.state = .consumerRunning)
    (hrunning : Session.Running l.session.consumer) : Connected l τ r l' := by
  obtain ⟨τ₁, τ₂, ⟨opened, s⟩, rfl, h₁, h₂⟩ := Host.runs_bind_iff.1 h
  obtain ⟨rfl, hv⟩ := Host.runs_pure_iff.1 h₂
  cases hv
  rw [List.append_nil]
  rcases runs_unlessStopping h₁ with ⟨rfl, hv⟩ | ⟨rest, rfl, h₃⟩
  · cases hv
    exact .unasked
  · rcases Session.openWriter_cases h₃ (.inr hs) hrunning with
      ⟨writer, rfl, hmeets, hc, rfl⟩ |
      ⟨f, μ, ρ, rfl, rfl, rfl, hmeets, hunmet, hr, hc⟩ |
      ⟨allowed, consumer, writer, rfl, hmeets, hunmet, rfl⟩
    · exact .open hmeets hc hrunning
    · refine .failed f (Trace.still_append.2 ⟨hmeets.still hunmet, hr.still⟩) ?_ hc
      rw [Trace.onDisk_append, hmeets.onDisk, List.nil_append]
      exact hr.onDisk
    · exact .stopped (hmeets.still hunmet) hmeets.onDisk

namespace Connected

variable {l l' : LoaderTarget} {r : Except (Interruption true) Unit}

theorem encoder (h : Connected l τ r l') : l'.encoder = l.encoder := by cases h <;> rfl

theorem parcels (h : Connected l τ r l') : τ.parcels = [] := by
  cases h with
  | «open» meets calm running => rw [Trace.parcels_asked, meets.parcels]
  | failed f still removed calm => rw [Trace.parcels_asked, still.parcels]
  | stopped still untouched => rw [Trace.parcels_asked, still.parcels]
  | unasked => rfl

theorem rowless (h : Connected l τ r l') : τ.Rowless := by
  cases h with
  | «open» meets calm running => exact Trace.rowless_cons.2 ⟨rfl, meets.rowless⟩
  | failed f still removed calm => exact Trace.rowless_cons.2 ⟨rfl, still.rowless⟩
  | stopped still untouched => exact Trace.rowless_cons.2 ⟨rfl, still.rowless⟩
  | unasked => exact Trace.rowless_singleton.2 rfl

theorem heeded (h : Connected l τ r l') : τ.Heeded (r = .error (.stopped rfl)) := by
  have hcalm : Trace.Calm [asked false] := Trace.calm_singleton.2 rfl
  have hguarded : Trace.Guarded [asked false] := .free rfl .nil
  cases h with
  | «open» meets calm running =>
    exact hcalm.heeded_append hguarded (calm.heeded meets.rowless.guarded)
  | failed f still removed calm =>
    exact hcalm.heeded_append hguarded (calm.heeded still.rowless.guarded)
  | stopped still untouched => exact hcalm.heeded_append hguarded (still.heeded fun _ => rfl)
  | unasked => exact ⟨.free rfl .nil, List.pairwise_singleton _ _, fun _ => rfl⟩

theorem tends {t : Targets} (h : Connected l τ r l') (hl : t.loader = some l)
    (hs : l.session.state.isOver = false) :
    Tends t τ.onDisk { t with loader := some l' } := by
  have hasked : ∀ (stop : Bool) (u : Trace), Trace.onDisk (asked stop :: u) = u.onDisk :=
    fun _ _ => rfl
  cases h with
  | «open» meets calm running =>
    rw [hasked, meets.onDisk]
    exact .to_session hl rfl (by simp [Sink.State.isOver])
  | failed f still removed calm =>
    rw [hasked]
    exact .to_emptied hl removed
  | stopped still untouched =>
    rw [hasked, untouched]
    exact .to_session hl rfl (by simp [hs])
  | unasked =>
    rw [hasked, Trace.onDisk_nil]
    exact .to_session hl rfl (by simp [hs])

theorem ready (h : Connected l τ (.ok ()) l')
    (hunused : l.session.records = 0 ∧ l.session.bytes = 0) : τ.Calm ∧ Ready l'.session := by
  cases h with
  | «open» meets calm running =>
    exact ⟨Trace.calm_cons.2 ⟨rfl, calm⟩, rfl, rfl, running, hunused.1, hunused.2⟩

/-- Nobody takes up a channel that is not opened. -/
theorem unmet {i : Interruption true} (h : Connected l τ (.error i) l') : τ.Unmet := by
  cases h with
  | failed f still removed calm => exact Trace.unmet_cons.2 ⟨rfl, still.unmet⟩
  | stopped still untouched => exact Trace.unmet_cons.2 ⟨rfl, still.unmet⟩
  | unasked => exact Trace.unmet_singleton.2 rfl

end Connected

/-- Targets as a run comes by them, whether or not all of them could be opened. -/
structure Acquired (c : Config) (p : Projection) (file : Option FileTarget) (script : List Parcel)
    (τ : Trace) (r : Except (Interruption true) Unit) (t : Targets) : Prop where
  sameFile : t.file = file
  tends : Tends { file } τ.onDisk t
  follows : Follows script τ.parcels
  rowless : τ.Rowless
  heeded : τ.Heeded (r = .error (.stopped rfl))
  encoder : ∀ l, t.loader = some l → l.encoder = Encoder.ofFormat c.loaderFormat p
  unstarted : ∀ s, t.unstarted = some s → Finished s
  /-- The rows may come. -/
  ready : r = .ok () → τ.Calm ∧ τ.parcels = script ∧ t.loader.isSome = c.hasLoader ∧
    t.unstarted = none ∧ ∀ l, t.loader = some l → Ready l.session

theorem Acquired.open {script : List Parcel} {r : Except (Interruption true) Unit} {t : Targets}
    (h : Acquired c p file script τ r t) (hr : r = .ok ())
    (hf : ∀ f, file = some f → f.file.isSome = true) : t.Open := by
  obtain ⟨-, -, -, -, hready⟩ := h.ready hr
  refine ⟨?_, fun l hl => (hready l hl).draining, fun l hl => (hready l hl).writer⟩
  rw [h.sameFile]
  exact hf

theorem Acquired.tidy {script : List Parcel} {r : Except (Interruption true) Unit} {t : Targets}
    (h : Acquired c p file script τ r t) : t.Tidy := by
  refine h.tends.tidy ?_
  rintro l hl
  cases hl

theorem acquireLoader_acquired {r : Except (Interruption true) Unit} {t : Targets}
    (h : Runs (acquireLoader c p file) τ (r, t)) : Acquired c p file [] τ r t := by
  unfold acquireLoader at h
  by_cases hl : c.hasLoader = true
  · rw [if_pos hl] at h
    obtain ⟨τ₁, τ₂, ⟨started, l⟩, rfl, h₁, h₂⟩ := Host.runs_bind_iff.1 h
    obtain ⟨hcalm₁, hstill₁, hencoder, hstarted⟩ := startLoader_cases h₁ file
    cases hstarted with
    | failed f ended gone tends =>
      obtain ⟨rfl, hv⟩ := Host.runs_pure_iff.1 h₂
      cases hv
      rw [List.append_nil]
      -- The loader did not start: its session is over, and it is kept as no target.
      refine ⟨rfl, ?_, ?_, hstill₁.rowless, hstill₁.heeded fun hn => absurd hcalm₁ hn, ?_, ?_,
        nofun⟩
      · rw [← List.append_nil τ₁.onDisk]
        exact tends.trans (.unstarted (some l.session) (.nil _))
      · rw [hstill₁.parcels]
        exact .nil []
      · rintro l' hl'
        cases hl'
      · rintro s hs
        cases hs
        exact ⟨by rw [ended]; rfl, gone⟩
    | @running channel made has state running unused =>
      obtain ⟨τ₃, τ₄, ⟨opened, l'⟩, rfl, h₃, h₄⟩ := Host.runs_bind_iff.1 h₂
      obtain ⟨rfl, hv⟩ := Host.runs_pure_iff.1 h₄
      cases hv
      rw [List.append_nil]
      -- The loader runs: it is a target from here on, whether its channel opens or not.
      have hprovide : Tends { file } τ₁.onDisk { file, loader := some l } := by
        rw [← List.append_nil τ₁.onDisk]
        exact .provide rfl made has (by rw [state]; rfl) (.nil _)
      have hconnected := connect_cases h₃ state running
      refine ⟨rfl, ?_, ?_, Trace.rowless_append.2 ⟨hstill₁.rowless, hconnected.rowless⟩, ?_, ?_, ?_,
        ?_⟩
      · rw [Trace.onDisk_append]
        exact hprovide.trans (hconnected.tends rfl (by rw [state]; rfl))
      · rw [Trace.parcels_append, hstill₁.parcels, hconnected.parcels]
        exact .nil []
      · exact hcalm₁.heeded_append hstill₁.rowless.guarded hconnected.heeded
      · rintro l'' hl''
        cases hl''
        rw [hconnected.encoder, hencoder]
      · rintro s hs
        cases hs
      · rintro rfl
        obtain ⟨hcalm, hready⟩ := hconnected.ready unused
        refine ⟨Trace.calm_append.2 ⟨hcalm₁, hcalm⟩, ?_, hl.symm, rfl, ?_⟩
        · rw [Trace.parcels_append, hstill₁.parcels, hconnected.parcels]
          rfl
        · rintro l'' hl''
          cases hl''
          exact hready
  · rw [if_neg hl] at h
    obtain ⟨rfl, hv⟩ := Host.runs_pure_iff.1 h
    cases hv
    refine ⟨rfl, .nil _, .nil _, Trace.rowless_nil,
      Trace.still_nil.heeded fun hn => absurd Trace.calm_nil hn, ?_, ?_,
      fun _ => ⟨Trace.calm_nil, rfl, ?_, rfl, ?_⟩⟩
    · rintro l hl'
      cases hl'
    · rintro s hs
      cases hs
    · simpa using hl
    · rintro l hl'
      cases hl'

/-- A file is handed its header as a whole, or the run ends there. -/
theorem writeHeader_cases {f : FileTarget} {handle : Handle} {r : Except (Interruption false) Unit}
    (h : Runs f.writeHeader τ r) (hf : f.file = some handle) (t : Targets)
    (ht : t.file = some f) :
    τ.Calm ∧ τ.Rowless ∧ Tends t τ.onDisk t ∧ Follows f.encoder.headerParcels τ.parcels ∧
      (r = .ok () → τ.parcels = f.encoder.headerParcels) := by
  rcases FileTarget.runs_writeHeader h hf with ⟨hempty, rfl, rfl⟩ | ⟨hwritten, d, rfl, rfl⟩
  · have hnone : f.encoder.headerParcels = [] := by simp [Encoder.headerParcels, hempty]
    rw [hnone]
    exact ⟨Trace.calm_nil, Trace.rowless_nil, .nil t, .nil [], fun _ => rfl⟩
  · have htends : Tends t (Trace.onDisk [⟨.append false handle f.encoder.header, d⟩]) t :=
      .append d ht hf (.nil t)
    by_cases hempty : f.encoder.header.isEmpty = true
    · exact absurd hempty (by simpa using hwritten)
    have hscript : f.encoder.headerParcels = [⟨.file, f.encoder.header, false, true⟩] :=
      if_neg hempty
    have hrowless : Trace.Rowless [⟨.append false handle f.encoder.header, d⟩] :=
      Trace.rowless_singleton.2 rfl
    rw [hscript]
    cases d with
    | done =>
      exact ⟨Trace.calm_singleton.2 rfl, hrowless, htends, .refl _, fun _ => rfl⟩
    | refused message =>
      exact ⟨Trace.calm_singleton.2 rfl, hrowless, htends, .cut _ [], nofun⟩
    | stopped allowed => cases allowed

/-- The targets of a run with an output file, or without one. -/
theorem acquire_acquired {r : Except (Interruption true) Unit} {t : Targets}
    (h : Runs (acquire c p file) τ (r, t)) (hf : ∀ f, file = some f → f.file.isSome = true) :
    Acquired c p file (file.elim [] fun f => f.encoder.headerParcels) τ r t := by
  cases file with
  | none => exact acquireLoader_acquired h
  | some f =>
    obtain ⟨handle, hh⟩ := Option.isSome_iff_exists.1 (hf f rfl)
    obtain ⟨τ₁, τ₂, w, rfl, h₁, h₂⟩ := Host.runs_bind_iff.1 h
    obtain ⟨hcalm, hrowless, htends, hfollows, hwhole⟩ :=
      writeHeader_cases h₁ hh { file := some f } rfl
    match w with
    | .error (.failed fault) =>
      obtain ⟨rfl, hv⟩ := Host.runs_pure_iff.1 h₂
      cases hv
      rw [List.append_nil]
      refine ⟨rfl, htends, hfollows, hrowless, hcalm.heeded hrowless.guarded, ?_, ?_, nofun⟩
      · rintro l hl
        cases hl
      · rintro s hs
        cases hs
    | .ok () =>
      have hrest := acquireLoader_acquired h₂
      refine ⟨hrest.sameFile, ?_, ?_, Trace.rowless_append.2 ⟨hrowless, hrest.rowless⟩,
        hcalm.heeded_append hrowless.guarded hrest.heeded, hrest.encoder, hrest.unstarted,
        fun hr => ?_⟩
      · rw [Trace.onDisk_append]
        exact htends.trans hrest.tends
      · rw [Trace.parcels_append, hwhole rfl]
        have := hrest.follows.append_left f.encoder.headerParcels
        rwa [List.append_nil] at this
      · obtain ⟨hcalm₂, hparcels, hready⟩ := hrest.ready hr
        refine ⟨Trace.calm_append.2 ⟨hcalm, hcalm₂⟩, ?_, hready⟩
        rw [Trace.parcels_append, hwhole rfl, hparcels, List.append_nil]
        rfl

end BulkLoad.Step
