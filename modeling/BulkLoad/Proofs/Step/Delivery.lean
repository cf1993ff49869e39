import BulkLoad.Proofs.Step.Acquire
import BulkLoad.Proofs.Step.Conclude
import BulkLoad.Proofs.Step.Course
import BulkLoad.Proofs.Step.Rows

/-!
What has been handed to the targets of a run at any moment: a first part of the header and the
records of the accepted rows, in the order of the rows. Once a run is told to stop it hands on
nothing more, and it reports how many rows came through to every target.
-/

namespace BulkLoad.Step

open Host (Arrived Follows Parcel Port Reaches Runs Trace bytesFor bytesFor_append)

/-- What is handed on by a run with such encoders, and how many rows came through. -/
inductive Delivers (e : Encoders) (rows : List Row) : List Parcel → Nat → Prop
  | header {parcels : List Parcel} (follows : Follows e.header parcels) :
      Delivers e rows parcels 0
  | rows {parcels : List Parcel} {n : Nat} (progress : Progress e rows parcels n) :
      Delivers e rows (e.header ++ parcels) n

namespace Delivers

variable {e : Encoders} {rows : List Row} {parcels part : List Parcel} {n : Nat}

theorem follows (h : Delivers e rows parcels n) :
    Follows (e.header ++ rows.flatMap e.parcels) parcels := by
  cases h with
  | header follows => exact follows.append_right _
  | rows progress => exact progress.follows.append_left _

theorem of_isPrefix (h : Delivers e rows parcels n) (hp : part <+: parcels) :
    ∃ m, Delivers e rows part m := by
  cases h with
  | header follows => exact ⟨0, .header (follows.of_isPrefix hp)⟩
  | @rows parcels n progress =>
    rcases List.prefix_or_prefix_of_prefix hp (List.prefix_append e.header parcels) with
      hheader | ⟨rest, rfl⟩
    · exact ⟨0, .header ((Follows.refl _).of_isPrefix hheader)⟩
    · obtain ⟨m, hm⟩ := progress.of_isPrefix ((List.prefix_append_right_inj _).1 hp)
      exact ⟨m, .rows hm⟩

/-- A header counts for no record. -/
theorem recordsAt_header (port : Port) (h : Follows e.header parcels) :
    recordsAt port parcels = 0 := by
  have hofRow : ∀ q ∈ parcels, q.ofRow = false :=
    h.ofRow fun q hq => (Encoders.mem_header hq).2.1
  refine List.countP_eq_zero.2 fun q hq => ?_
  simp [hofRow q hq]

theorem records (h : Delivers e rows parcels n) (ht : ∀ row ∈ rows, e.Takes row) :
    (e.loader.isSome = true → recordsAt .channel parcels = n) ∧
      (e.file.isSome = true → n ≤ recordsAt .file parcels ∧ recordsAt .file parcels ≤ n + 1) ∧
      (e.file.isSome = true → e.loader = none → recordsAt .file parcels = n) := by
  cases h with
  | header follows => simp [recordsAt_header _ follows]
  | rows progress =>
    have hheader : ∀ port, recordsAt port e.header = 0 :=
      fun port => recordsAt_header port (Follows.refl e.header)
    rw [recordsAt_append, recordsAt_append, hheader, hheader, Nat.zero_add, Nat.zero_add]
    exact progress.records ht

end Delivers

/-- The bytes that a run has for a port, once rows are accepted. -/
def Plan.stream (plan : Plan) (a : Agreement) (rows : List Row) :
    Port → Except EncodeError Bytes
  | .file =>
    match plan.config.output with
    | some o =>
      let e := plan.config.fileEncoder o a.projection
      (rows.mapM e.record).map fun records => e.header ++ records.flatten
    | none => .ok []
  | .channel =>
    if plan.config.hasLoader then
      let e := Encoder.ofFormat plan.config.loaderFormat a.projection
      (rows.mapM e.record).map fun records => records.flatten
    else .ok []

/-- The encoders are those of the plan, for the targets that there are. -/
structure Encoders.Fits (plan : Plan) (a : Agreement) (e : Encoders) : Prop where
  file : ∀ x, e.file = some x →
    ∃ o, plan.config.output = some o ∧ x = plan.config.fileEncoder o a.projection
  loader : e.loader = if plan.config.hasLoader then
    some (Encoder.ofFormat plan.config.loaderFormat a.projection) else none

variable {plan : Plan} {a : Agreement} {e : Encoders}

theorem Encoders.Fits.takes (h : e.Fits plan a) (ha : a.projection.Aligned a.input) {row : Row}
    (hrow : a.input.check row = .ok ()) : e.Takes row := by
  refine ⟨fun x hx => ?_, fun x hx => ?_⟩
  · obtain ⟨o, -, rfl⟩ := h.file x hx
    exact (plan.config.fileEncoder_encodes o a).record_ok ha hrow
  · rw [h.loader] at hx
    split at hx
    · cases hx
      exact (Agreement.Encodes.text _).record_ok ha hrow
    · cases hx

/-- What a run hands to a port is what the plan has for it, unless the run goes without a file that
the plan has. -/
theorem Encoders.Fits.stream (h : e.Fits plan a) {rows : List Row} (port : Port)
    (ht : ∀ row ∈ rows, ∀ x, a.Encodes x → ∃ record, x.record row = .ok record) :
    ∃ stream, plan.stream a rows port = .ok stream ∧
      (bytesFor port (e.header ++ rows.flatMap e.parcels) = stream ∨
        bytesFor port (e.header ++ rows.flatMap e.parcels) = [] ∧
          plan.config.output.isSome = true ∧ e.file = none) := by
  have hmade : ∀ x, a.Encodes x → ∃ records, rows.mapM x.record = .ok records :=
    fun x hx => exists_mapM_ok fun row hrow => ht row hrow x hx
  rw [bytesFor_append]
  cases port with
  | file =>
    cases hf : e.file with
    | none =>
      have hnothing : bytesFor .file e.header ++ bytesFor .file (rows.flatMap e.parcels) = [] := by
        rw [Encoders.bytesFor_rows_none .file hf, Encoders.header, hf]
        rfl
      rw [hnothing]
      unfold Plan.stream
      cases ho : plan.config.output with
      | none => exact ⟨[], rfl, .inl rfl⟩
      | some o =>
        obtain ⟨records, hrecords⟩ := hmade _ (plan.config.fileEncoder_encodes o a)
        exact ⟨_, by simp only [hrecords]; rfl, .inr ⟨rfl, rfl, rfl⟩⟩
    | some x =>
      obtain ⟨o, ho, rfl⟩ := h.file x hf
      obtain ⟨records, hrecords⟩ := hmade _ (plan.config.fileEncoder_encodes o a)
      rw [Encoders.bytesFor_header_file hf, Encoders.bytesFor_rows .file hf hrecords]
      exact ⟨_, by simp only [Plan.stream, ho, hrecords]; rfl, .inl rfl⟩
  | channel =>
    rw [Encoders.bytesFor_header_channel, List.nil_append]
    have hloader := h.loader
    by_cases hl : plan.config.hasLoader = true
    · rw [if_pos hl] at hloader
      obtain ⟨records, hrecords⟩ := hmade _ (.text plan.config.loaderFormat)
      rw [Encoders.bytesFor_rows .channel hloader hrecords]
      exact ⟨records.flatten, by simp only [Plan.stream, if_pos hl, hrecords]; rfl, .inl rfl⟩
    · rw [if_neg hl] at hloader
      rw [Encoders.bytesFor_rows_none .channel hloader]
      exact ⟨[], by simp only [Plan.stream, if_neg hl], .inl rfl⟩

/-- The report of a run that was told to stop, with the count of the rows that came through. -/
def ReportsStop (report : Except Fault Result) (n : Nat) : Prop :=
  ∃ result, report = .ok result ∧ result.cancelled = true ∧ result.succeeded = false ∧
    result.fault.map (·.code) = some "CANCELLED" ∧ result.rowsWritten = UInt64.ofNat n

theorem reportsStop_interruptedResult (counts : Counts) :
    ReportsStop (.ok (interruptedResult counts (.stopped rfl))) counts.written :=
  ⟨_, rfl, rfl, rfl, rfl, rfl⟩

/-- What is known of the delivery of a whole run. -/
structure Delivered (plan : Plan) (a : Agreement) (rows : List Row) (τ : Trace)
    (report : Except Fault Result) (e : Encoders) (n : Nat) : Prop where
  fits : e.Fits plan a
  delivers : Delivers e rows τ.parcels n
  opened : τ.openedFiles = [] ↔ e.file = none
  heeded : τ.Heeded (ReportsStop report n)
  target : ¬τ.Calm → e.file = none → plan.config.hasLoader = true

/-- The encoders of a run that has a file or not. -/
def Plan.encodersWith (plan : Plan) (a : Agreement) (file : Option FileTarget) : Encoders :=
  ⟨file.map (·.encoder), if plan.config.hasLoader then
    some (Encoder.ofFormat plan.config.loaderFormat a.projection) else none⟩

theorem OutputClaimed.fits {δ : Trace} {file : Option FileTarget}
    (h : OutputClaimed plan.config a.projection δ (.ok file)) :
    (plan.encodersWith a file).Fits plan a := by
  refine ⟨fun x hx => ?_, rfl⟩
  cases h with
  | nothing missing refused =>
    cases file with
    | none => cases hx
    | some f => exact absurd rfl (missing f)
  | @made _ o _ _ configured refused =>
    cases hx
    exact ⟨o, configured, rfl⟩

theorem openedFiles_of_refused {δ : Trace} (h : ∀ x ∈ δ, Refused x) : δ.openedFiles = [] := by
  refine List.filterMap_eq_nil_iff.2 fun x hx => ?_
  rcases h x hx with ⟨path, _ | _ | _, h⟩ | ⟨path, _, h⟩ <;> first | rfl | cases h

/-- Behind its claim a run opens no more files. -/
theorem Tends.openedFiles {t t' : Targets} {δ : Trace} (h : Tends t δ t') :
    δ.openedFiles = [] := by
  induction h with
  | nil t => rfl
  | @refused t t' x δ nothing _ ih =>
    have hx : Trace.openedFiles [x] = [] := openedFiles_of_refused (by simpa using nothing)
    rw [← List.singleton_append, Trace.openedFiles_append, hx, ih, List.append_nil]
  | append d file opened _ ih => exact ih
  | provide vacant made channel alive _ ih =>
    rw [Trace.openedFiles_append, ih, List.append_nil]
    cases made <;> rfl
  | session loader channel alive _ ih => exact ih
  | @removal t t' l s ρ δ loader removed gone _ ih =>
    rw [Trace.openedFiles_append, ih, List.append_nil]
    generalize l.session.channel = channel at removed
    cases removed <;> rfl
  | retire loader gone _ ih => exact ih
  | unstarted s _ ih => exact ih
  | close file _ ih => exact ih
  | unlink answer file _ ih => exact ih

theorem OutputClaimed.openedFiles {c : Config} {p : Projection} {δ : Trace}
    {r : Except Fault (Option FileTarget)} (h : OutputClaimed c p δ r) :
    δ.openedFiles = [] ↔ ∀ f, r ≠ .ok (some f) := by
  cases h with
  | nothing missing refused => exact iff_of_true (openedFiles_of_refused refused) missing
  | made configured refused =>
    refine iff_of_false ?_ fun h => h _ rfl
    simp [Trace.openedFiles, Host.Exchange.openedFile?, Host.Creation.file?]

theorem Plan.encodersWith_header (file : Option FileTarget) :
    (plan.encodersWith a file).header = file.elim [] fun f => f.encoder.headerParcels := by
  cases file <;> rfl

/-- The targets of a run that has come by all of them. -/
theorem Acquired.encoders {file : Option FileTarget} {script : List Parcel} {τ : Trace}
    {t : Targets} (h : Acquired plan.config a.projection file script τ (.ok ()) t) :
    t.encoders = plan.encodersWith a file := by
  obtain ⟨-, -, hloader, -, -⟩ := h.ready rfl
  unfold Targets.encoders Plan.encodersWith
  rw [h.sameFile]
  cases hl : t.loader with
  | none =>
    rw [hl] at hloader
    rw [if_neg (by simp [← hloader])]
    rfl
  | some l =>
    rw [hl] at hloader
    have hl' : plan.config.hasLoader = true := hloader.symm
    rw [if_pos hl', ← h.encoder l hl]
    rfl

/-- Every row that the schema takes has its records for all the targets. -/
theorem Acquired.takes {file : Option FileTarget} {script : List Parcel} {τ : Trace} {t : Targets}
    (h : Acquired plan.config a.projection file script τ (.ok ()) t)
    (fits : (plan.encodersWith a file).Fits plan a) (ha : a.projection.Aligned a.input) {row : Row}
    (hrow : a.input.check row = .ok ()) : t.encoders.Takes row := by
  rw [h.encoders]
  exact fits.takes ha hrow

variable {input : Schema} {items : List (Except Fault Row)} {τ : Trace}
  {report : Except Fault Result} {t : Targets}

/-- A run that comes to nothing before it has targets. -/
theorem delivered_nothing {r : Except Fault (Option FileTarget)} (rows : List Row)
    (claim : Runs (claimOutput plan.config a.projection) τ r) (hr : ∀ f, r ≠ .ok (some f)) :
    Delivered plan a rows τ report (plan.encodersWith a none) 0 := by
  obtain ⟨hcalm, hstill, hclaimed⟩ := claimOutput_cases claim
  refine ⟨⟨nofun, rfl⟩, ?_, ?_, hcalm.heeded hstill.rowless.guarded,
    fun h => absurd hcalm h⟩
  · rw [hstill.parcels]
    exact .header (.nil _)
  · rw [← Trace.openedFiles_onDisk]
    exact iff_of_true (hclaimed.openedFiles.2 hr) rfl

/-- What was handed on and opened by the time the targets are there. -/
theorem openedFiles_run {file : Option FileTarget} {τ₁ τ₂ : Trace} {left : Targets}
    (hclaimed : OutputClaimed plan.config a.projection τ₁.onDisk (.ok file))
    (htends : Tends { file } τ₂.onDisk left) :
    (τ₁ ++ τ₂).openedFiles = [] ↔ (plan.encodersWith a file).file = none := by
  have htail : τ₂.openedFiles = [] := by rw [← Trace.openedFiles_onDisk, htends.openedFiles]
  rw [Trace.openedFiles_append, htail, List.append_nil, ← Trace.openedFiles_onDisk,
    hclaimed.openedFiles]
  cases file with
  | none => exact iff_of_true nofun rfl
  | some f => exact iff_of_false (fun h => h f rfl) nofun

/-- Every course delivers the records of the accepted rows, up to where it ends. -/
theorem Course.delivered (h : Course plan input items τ report t) :
    (τ = [] ∧ ∃ fault, plan.negotiate input = .error fault) ∨
    ∃ a e n, plan.negotiate input = .ok a ∧ a.input = input ∧ a.projection.Aligned input ∧
      Delivered plan a (accepted input (arrivals items)) τ report e n := by
  cases h with
  | disagreed refused => exact .inl ⟨rfl, _, refused⟩
  | @unclaimed a fault τ agreed claim =>
    obtain ⟨hinput, haligned⟩ := Plan.aligned_of_negotiate agreed
    exact .inr ⟨a, _, 0, agreed, hinput, haligned, delivered_nothing _ claim nofun⟩
  | @idle a τ agreed claim alone =>
    obtain ⟨hinput, haligned⟩ := Plan.aligned_of_negotiate agreed
    exact .inr ⟨a, _, 0, agreed, hinput, haligned, delivered_nothing _ claim nofun⟩
  | @unacquired a file i t t' τ₁ τ₂ τ₃ agreed claim target acquire teardown =>
    obtain ⟨hinput, haligned⟩ := Plan.aligned_of_negotiate agreed
    obtain ⟨hcalm₁, hstill₁, hclaimed⟩ := claimOutput_cases claim
    have hacquired := acquire_acquired acquire hclaimed.open
    have hfinished := hacquired.unstarted
    obtain ⟨hcalm₃, hstill₃, -, bare, -, htends⟩ :=
      Targets.teardown_cases teardown hacquired.tidy hfinished
    refine .inr ⟨a, plan.encodersWith a file, 0, agreed, hinput, haligned, hclaimed.fits, ?_, ?_,
      ?_, fun _ hfile => target (Option.map_eq_none_iff.1 hfile)⟩
    · rw [Trace.parcels_append, Trace.parcels_append, hstill₁.parcels, hstill₃.parcels,
        List.nil_append, List.append_nil]
      refine .header ?_
      rw [Plan.encodersWith_header]
      exact hacquired.follows
    · refine openedFiles_run hclaimed (?_ : Tends _ _ bare)
      rw [Trace.onDisk_append]
      exact hacquired.tends.trans htends
    · refine hcalm₁.heeded_append hstill₁.rowless.guarded
        ((hacquired.heeded.append_still hstill₃ hcalm₃).imp fun hi => ?_)
      cases hi
      exact reportsStop_interruptedResult {}
  | @ran a file t t' p result τ₁ τ₂ τ₃ τ₄ agreed claim target acquire pump conclude =>
    obtain ⟨hinput, haligned⟩ := Plan.aligned_of_negotiate agreed
    obtain ⟨hcalm₁, hstill₁, hclaimed⟩ := claimOutput_cases claim
    have hacquired := acquire_acquired acquire hclaimed.open
    obtain ⟨hcalm₂, hparcels₂, -⟩ := hacquired.ready rfl
    have hopen := hacquired.open rfl hclaimed.open
    have hpumps := pumps_of_runs pump
    have hfinished := hacquired.unstarted
    rw [← hpumps.alike.unstarted] at hfinished
    have htends := hpumps.tends hopen
    obtain ⟨hcalm₄, hstill₄, -, hended⟩ :=
      conclude_cases conclude (hpumps.open hopen) (htends.tidy hacquired.tidy) hfinished
    have htakes : ∀ row, a.input.check row = .ok () → t.encoders.Takes row := by
      intro row hrow
      exact hacquired.takes hclaimed.fits (by rwa [hinput]) hrow
    -- Claim, teardown and end hand nothing on: all is the header and what the loop wrote.
    obtain ⟨n, hprogress, hwritten⟩ := hpumps.progress hopen htakes
    rw [hacquired.encoders, hinput] at hprogress
    refine .inr ⟨a, plan.encodersWith a file, n, agreed, hinput, haligned, hclaimed.fits, ?_, ?_,
      ?_, fun _ hfile => target (Option.map_eq_none_iff.1 hfile)⟩
    · rw [Trace.parcels_append, Trace.parcels_append, Trace.parcels_append, hstill₁.parcels,
        hparcels₂, hstill₄.parcels, List.nil_append, List.append_nil, ← Plan.encodersWith_header]
      exact .rows hprogress
    · obtain ⟨left, hleft⟩ := hended.tends
      refine openedFiles_run hclaimed (?_ : Tends _ _ left)
      rw [Trace.onDisk_append, Trace.onDisk_append]
      exact hacquired.tends.trans (htends.trans hleft)
    · refine hcalm₁.heeded_append hstill₁.rowless.guarded
        (hcalm₂.heeded_append hacquired.rowless.guarded
          (((hpumps.heeded hopen).append_still hstill₄ hcalm₄).imp fun hi => ?_))
      rw [hended.result_of_stopped hi]
      have hstop := reportsStop_interruptedResult p.counts
      rwa [show p.counts.written = n by simpa using hwritten] at hstop

/-- The rows of which every target of the run took the whole record. -/
def Plan.rowsThrough (plan : Plan) (τ : Trace) : Nat :=
  if τ.openedFiles.isEmpty then recordsAt .channel τ.parcels
  else if plan.config.hasLoader then
    min (recordsAt .file τ.parcels) (recordsAt .channel τ.parcels)
  else recordsAt .file τ.parcels

theorem check_of_mem_accepted {rows : List Row} {row : Row} (h : row ∈ accepted input rows) :
    input.check row = .ok () := by
  have hrow := (List.mem_filter.1 h).2
  rcases input.check_cases row with hok | ⟨e, he⟩
  · exact hok
  · rw [he] at hrow
    cases hrow

namespace Delivered

variable {rows : List Row} {n : Nat}

theorem rowsThrough (h : Delivered plan a rows τ report e n) (ht : ∀ row ∈ rows, e.Takes row)
    (hn : ¬τ.Calm) : plan.rowsThrough τ = n := by
  obtain ⟨hchannel, hfile, halone⟩ := h.delivers.records ht
  have hloader := h.fits.loader
  unfold Plan.rowsThrough
  -- Without a file the loader's records count, without a loader the file's, else the fewer.
  by_cases hopened : τ.openedFiles = []
  · have hl := h.target hn (h.opened.1 hopened)
    rw [if_pos hl] at hloader
    rw [if_pos (by rw [hopened]; rfl), hchannel (by rw [hloader]; rfl)]
  · have hsome : e.file.isSome = true :=
      Option.isSome_iff_ne_none.2 fun hnone => hopened (h.opened.2 hnone)
    rw [if_neg (by simpa using hopened)]
    by_cases hl : plan.config.hasLoader = true
    · rw [if_pos hl] at hloader
      have hle := hfile hsome
      rw [if_pos hl, hchannel (by rw [hloader]; rfl)]
      omega
    · rw [if_neg hl] at hloader
      rw [if_neg hl, halone hsome hloader]

/-- Of what was handed on at any moment, a first part of what the plan has has arrived. -/
theorem arrived {part : Trace} (h : Delivered plan a rows τ report e n)
    (ht : ∀ row ∈ rows, ∀ x, a.Encodes x → ∃ record, x.record row = .ok record)
    (hpart : part <+: τ) (port : Port) :
    ∃ stream, plan.stream a rows port = .ok stream ∧
      ∀ bytes, Arrived port part.parcels bytes → bytes <+: stream := by
  obtain ⟨stream, hstream, hhanded⟩ := h.fits.stream port ht
  have hprefix : bytesFor port (e.header ++ rows.flatMap e.parcels) <+: stream := by
    rcases hhanded with rfl | ⟨hnothing, -⟩
    · exact List.prefix_rfl
    · rw [hnothing]
      exact List.nil_prefix
  obtain ⟨m, hdelivers⟩ := h.delivers.of_isPrefix (hpart.filterMap Host.Exchange.parcel?)
  refine ⟨stream, hstream, fun bytes harrived => ?_⟩
  exact (hdelivers.follows.arrived (fun q hq => Encoders.whole_of_mem rows hq) harrived).trans
    hprefix

/-- At any moment, the loader has as many whole records as the file, or one fewer. -/
theorem balanced {part : Trace} (h : Delivered plan a rows τ report e n)
    (ht : ∀ row ∈ rows, e.Takes row) (hpart : part <+: τ) (hopened : part.openedFiles ≠ [])
    (hl : plan.config.hasLoader = true) :
    recordsAt .channel part.parcels ≤ recordsAt .file part.parcels ∧
      recordsAt .file part.parcels ≤ recordsAt .channel part.parcels + 1 := by
  obtain ⟨m, hdelivers⟩ := h.delivers.of_isPrefix (hpart.filterMap Host.Exchange.parcel?)
  obtain ⟨hchannel, hfile, -⟩ := hdelivers.records ht
  have hsome : e.file.isSome = true := by
    refine Option.isSome_iff_ne_none.2 fun hnone => hopened ?_
    have hprefix := hpart.filterMap Host.Exchange.openedFile?
    have hnone := h.opened.2 hnone
    unfold Trace.openedFiles at hnone
    rw [hnone] at hprefix
    exact List.prefix_nil.1 hprefix
  have hloader := h.fits.loader
  rw [if_pos hl] at hloader
  have hm : recordsAt .channel part.parcels = m := hchannel (by rw [hloader]; rfl)
  have hbounds : m ≤ recordsAt .file part.parcels ∧ recordsAt .file part.parcels ≤ m + 1 :=
    hfile hsome
  omega

end Delivered

theorem Encoders.Fits.takes_accepted {rows : List Row} (h : e.Fits plan a)
    (hinput : a.input = input) (ha : a.projection.Aligned input) :
    ∀ row ∈ accepted input rows, e.Takes row := by
  subst hinput
  exact fun row hrow => h.takes ha (check_of_mem_accepted hrow)

theorem Agreement.records_accepted {rows : List Row} (hinput : a.input = input)
    (ha : a.projection.Aligned input) :
    ∀ row ∈ accepted input rows, ∀ x, a.Encodes x → ∃ record, x.record row = .ok record := by
  subst hinput
  exact fun row hrow x hx => hx.record_ok ha (check_of_mem_accepted hrow)

/-- At every moment of every run, what has arrived at a target is a first part of what the plan has
for it: the header, and the records of the accepted rows in the order in which they came. The loader
never has more whole records than the file, and at most one fewer. What is done for a row is done
directly behind an answer that says to go on. Once the run is told to stop, it does nothing more for
any row, and it reports that it was cancelled and how many rows every target has as a whole. -/
theorem Plan.carryOut_delivers {part : Trace} (h : Reaches (plan.carryOut input items) part) :
    (∀ a port, plan.negotiate input = .ok a →
      ∃ stream, plan.stream a (accepted input (arrivals items)) port = .ok stream ∧
        ∀ bytes, Arrived port part.parcels bytes → bytes <+: stream) ∧
    (part.openedFiles ≠ [] → plan.config.hasLoader = true →
      recordsAt .channel part.parcels ≤ recordsAt .file part.parcels ∧
        recordsAt .file part.parcels ≤ recordsAt .channel part.parcels + 1) ∧
    part.Guarded ∧ part.Heeds ∧
    (∀ τ report t, part <+: τ → Runs (plan.carryOut input items) τ (report, t) →
      (∃ x ∈ part, x.tellsStop = true) → ReportsStop report (plan.rowsThrough τ)) := by
  -- Every reachable state lies on a whole run, and what is known of that holds of its parts.
  obtain ⟨τ, ⟨report, t⟩, hpart, hruns⟩ := h.extends
  have hcourse := (course_of_runs hruns).delivered
  refine ⟨?_, ?_, ?_, ?_, ?_⟩
  · intro a port ha
    rcases hcourse with ⟨-, fault, hf⟩ | ⟨a', e, n, ha', hinput, haligned, hdelivered⟩
    · rw [hf] at ha
      cases ha
    · rw [ha'] at ha
      cases ha
      exact hdelivered.arrived (Agreement.records_accepted hinput haligned) hpart port
  · intro hopened hl
    rcases hcourse with ⟨rfl, -⟩ | ⟨a, e, n, ha, hinput, haligned, hdelivered⟩
    · rw [List.prefix_nil.1 hpart] at hopened
      exact absurd rfl hopened
    · exact hdelivered.balanced (hdelivered.fits.takes_accepted hinput haligned) hpart hopened hl
  · rcases hcourse with ⟨rfl, -⟩ | ⟨a, e, n, -, -, -, hdelivered⟩
    · rw [List.prefix_nil.1 hpart]
      exact .nil
    · exact hdelivered.heeded.guarded.of_isPrefix hpart
  · rcases hcourse with ⟨rfl, -⟩ | ⟨a, e, n, -, -, -, hdelivered⟩
    · rw [List.prefix_nil.1 hpart]
      exact List.Pairwise.nil
    · exact hdelivered.heeded.heeds.of_isPrefix hpart
  -- The run that is reported need not be the one that was taken above.
  · rintro τ' report' t' hpart' hruns' ⟨x, hx, htells⟩
    have hn : ¬Trace.Calm τ' := by
      intro hcalm
      rw [hcalm x (hpart'.subset hx)] at htells
      cases htells
    rcases (course_of_runs hruns').delivered with
      ⟨rfl, -⟩ | ⟨a, e, n, -, hinput, haligned, hdelivered⟩
    · exact absurd Trace.calm_nil hn
    · rw [hdelivered.rowsThrough (hdelivered.fits.takes_accepted hinput haligned) hn]
      exact hdelivered.heeded.told hn

/-- One row is written, and then the program is told to stop. -/
def oneRowTrace (record : Bytes) : Trace :=
  [⟨.localTime, (⟨1970, 1, 1, 0, 0, 0, 0⟩ : Instant.Fields)⟩,
    ⟨.createFile "out.txt", Host.Creation.made ⟨3⟩⟩, Host.asked false, pulled, Host.asked false,
    ⟨.append true ⟨3⟩ record, Host.Delivery.done⟩, Host.asked true]

theorem carryOut_delivers_stopped :
    ∃ record, Reaches (copyPlan.carryOut copyInput [.ok [.integer 7], .ok [.integer 8]])
        (oneRowTrace record) ∧
      (oneRowTrace record).Guarded ∧ (oneRowTrace record).Heeds ∧
      ∀ τ report t, oneRowTrace record <+: τ →
        Runs (copyPlan.carryOut copyInput [.ok [.integer 7], .ok [.integer 8]]) τ (report, t) →
        ReportsStop report (copyPlan.rowsThrough τ) := by
  have hreaches : ∃ record, Reaches (copyPlan.carryOut copyInput
      [.ok [.integer 7], .ok [.integer 8]]) (oneRowTrace record) :=
    ⟨_, .ask _ (.ask _ (.ask _ (.ask _ (.ask _ (.ask _ (.ask _ (.here _)))))))⟩
  obtain ⟨record, hreaches⟩ := hreaches
  obtain ⟨-, -, hguarded, hheeds, hstops⟩ := Plan.carryOut_delivers hreaches
  refine ⟨record, hreaches, hguarded, hheeds, fun τ report t hpart hruns => ?_⟩
  refine hstops τ report t hpart hruns ⟨Host.asked true, ?_, rfl⟩
  simp [oneRowTrace]

end BulkLoad.Step
