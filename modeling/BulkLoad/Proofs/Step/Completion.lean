import BulkLoad.Proofs.Step.Delivery
import BulkLoad.Proofs.Step.Remains
import BulkLoad.Proofs.Step.Through

/-!
What a run comes to that nothing stands in the way of. Every target gets all that the plan has for
it, and nothing of a row that was not accepted; the report counts every row once.
-/

namespace BulkLoad.Step

open Host (Arrived Disk Port Runs Trace bytesFor bytesFor_append)
open Sink (Session)

/-- A configuration without problems has a target. -/
theorem Config.target_of_validate {c : Config} (h : c.validate = .ok ()) :
    c.hasLoader = true ∨ c.output.isSome = true := by
  have hdestination : problemIf (!c.hasLoader && c.output.isNone) .noDestination = [] := by
    have hnone := Config.problems_of_validate h
    simp only [Config.problems, List.append_eq_nil_iff] at hnone
    exact hnone.1.1.2
  by_cases hl : c.hasLoader = true
  · exact .inl hl
  · cases ho : c.output with
    | some o => exact .inr rfl
    | none => simp [problemIf, hl, ho] at hdestination

/-- Nothing stands in the way of the run: it is not told to stop, nothing fails, its file is made if
it is to have one, and somebody takes up the channel if there is one. -/
structure Plan.Unhindered (plan : Plan) (τ : Trace) : Prop where
  calm : τ.Calm
  unfailing : τ.Unfailing
  claimed : plan.config.output.isSome = true → τ.openedFiles ≠ []
  taken : plan.config.hasLoader = true → ∃ x ∈ τ, x.takesUp = true

theorem Plan.Unhindered.not_unmet {plan : Plan} {τ : Trace} (h : plan.Unhindered τ)
    (hl : plan.config.hasLoader = true) : ¬τ.Unmet := by
  intro hunmet
  obtain ⟨x, hx, htakes⟩ := h.taken hl
  rw [hunmet x hx] at htakes
  cases htakes

variable {plan : Plan} {a : Agreement} {input : Schema} {rows : List Row} {τ : Trace}
  {report : Except Fault Result} {t : Targets}

/-- The targets of a run that came through, before and behind its rows, and what it reports. -/
structure Completed (plan : Plan) (a : Agreement) (input : Schema) (rows : List Row) (τ : Trace)
    (report : Except Fault Result) (file : Option FileTarget) (t : Targets)
    (sink : Option SinkReport) : Prop where
  claimed : plan.config.output.isSome = true → file.isSome = true
  fits : (plan.encodersWith a file).Fits plan a
  sameFile : t.file = file
  encoders : t.encoders = plan.encodersWith a file
  parcels : τ.parcels = (plan.encodersWith a file).header ++
    (accepted input rows).flatMap (plan.encodersWith a file).parcels
  records : ∀ l, t.loader = some l → l.session.records = (accepted input rows).length
  bytes : ∀ l, t.loader = some l → l.session.bytes = (bytesFor .channel τ.parcels).length
  report : report = .ok (finishedResult plan.config.policy
    ⟨rows.length, (accepted input rows).length, (rejected input rows).length⟩
    ⟨t.resultFiles plan.config.name, sink⟩)
  reports : t.Reports sink

theorem error_notMem_map_ok (rows : List Row) (fault : Fault) :
    Except.error fault ∉ rows.map (Except.ok : Row → Except Fault Row) := by
  intro h
  obtain ⟨row, -, hrow⟩ := List.mem_map.1 h
  cases hrow

/-- A run that is to make a file has made it, unless it is not to make one. -/
theorem Plan.Unhindered.claims {r : Except Fault (Option FileTarget)} (hu : plan.Unhindered τ)
    (claim : Runs (claimOutput plan.config a.projection) τ r) (hr : ∀ f, r ≠ .ok (some f)) :
    plan.config.output = none ∧ r = .ok none := by
  obtain ⟨-, -, hclaimed⟩ := claimOutput_cases claim
  have hopened := hclaimed.openedFiles.2 hr
  rw [Trace.openedFiles_onDisk] at hopened
  cases ho : plan.config.output with
  | some o => exact absurd hopened (hu.claimed (by rw [ho]; rfl))
  | none =>
    unfold claimOutput at claim
    rw [ho] at claim
    exact ⟨rfl, (Host.runs_pure_iff.1 claim).2⟩

/-- Once its targets are there, a run that nothing stands in the way of completes. -/
theorem completed_of_acquired {file : Option FileTarget} {t' : Targets} {p : Pumped}
    {result : Result} {τ₁ τ₂ τ₃ τ₄ : Trace} (agreed : plan.negotiate input = .ok a)
    (claim : Runs (claimOutput plan.config a.projection) τ₁ (.ok file))
    (acquire : Runs (acquire plan.config a.projection file) τ₂ (.ok (), t))
    (pump : Runs (pump plan.config.policy a.input (rows.map .ok) {} {} t) τ₃ p)
    (conclude : Runs (conclude plan.config p) τ₄ (result, t'))
    (hskip : plan.config.policy.onRowError = .skip)
    (hu : plan.Unhindered (τ₁ ++ (τ₂ ++ (τ₃ ++ τ₄)))) :
    ∃ sink, Completed plan a input rows (τ₁ ++ (τ₂ ++ (τ₃ ++ τ₄))) (.ok result) file p.targets
      sink := by
  obtain ⟨hinput, haligned⟩ := Plan.aligned_of_negotiate agreed
  obtain ⟨-, hstill₁, hclaimed⟩ := claimOutput_cases claim
  have hacquired := acquire_acquired acquire hclaimed.open
  obtain ⟨-, hparcels₂, -, -, hready⟩ := hacquired.ready rfl
  have hopen := hacquired.open rfl hclaimed.open
  have hencoders := hacquired.encoders
  have htakes : ∀ row, a.input.check row = .ok () → t.encoders.Takes row := by
    intro row hrow
    exact hacquired.takes hclaimed.fits (by rwa [hinput]) hrow
  obtain ⟨-, hcalm⟩ := Trace.calm_append.1 hu.calm
  obtain ⟨hcalm₃, -⟩ := Trace.calm_append.1 (Trace.calm_append.1 hcalm).2
  obtain ⟨-, hs⟩ := Trace.unfailing_append.1 hu.unfailing
  obtain ⟨hs₃, hs₄⟩ := Trace.unfailing_append.1 (Trace.unfailing_append.1 hs).2
  have hpumps := pumps_of_runs pump
  have hthrough := hpumps.through hopen htakes hskip (error_notMem_map_ok rows) hcalm₃ hs₃
  rw [arrivals_map_ok, hinput] at hthrough
  have hopen' := hpumps.open hopen hthrough.outcome
  -- the loader is the one that was acquired, with what was written to it
  have hsession : ∀ l', p.targets.loader = some l' → ∃ l, t.loader = some l ∧
      l'.session = l.session.tallied (accepted input rows).length
        (bytesFor .channel τ₃.parcels).length := by
    intro l' hl'
    rw [hthrough.targets] at hl'
    obtain ⟨l, hl, rfl⟩ := Option.map_eq_some_iff.1 hl'
    exact ⟨l, hl, rfl⟩
  have hrunning : ∀ l, p.targets.loader = some l → Session.Running l.session.consumer := by
    intro l' hl'
    obtain ⟨l, hl, hl''⟩ := hsession l' hl'
    rw [hl'']
    exact (hready l hl).running
  obtain ⟨sink, hresult, hreports⟩ :=
    conclude_through conclude hthrough.outcome hopen' hrunning hs₄
  have hfinished := hacquired.unstarted
  rw [← hpumps.alike.unstarted] at hfinished
  have htends := hpumps.tends hopen
  obtain ⟨-, hstill₄, -, hended⟩ :=
    conclude_cases conclude (fun _ => hopen') (htends.tidy hacquired.tidy) hfinished
  have hparcels : Trace.parcels (τ₁ ++ (τ₂ ++ (τ₃ ++ τ₄))) = (plan.encodersWith a file).header ++
      (accepted input rows).flatMap (plan.encodersWith a file).parcels := by
    rw [Trace.parcels_append, Trace.parcels_append, Trace.parcels_append, hstill₁.parcels,
      hparcels₂, hstill₄.parcels, List.nil_append, List.append_nil, ← Plan.encodersWith_header,
      hthrough.parcels, hencoders]
  have hchannel : bytesFor .channel (Trace.parcels (τ₁ ++ (τ₂ ++ (τ₃ ++ τ₄)))) =
      bytesFor .channel τ₃.parcels := by
    rw [hparcels, hthrough.parcels, hencoders, bytesFor_append, Encoders.bytesFor_header_channel,
      List.nil_append]
  have hcounts : p.counts =
      ⟨rows.length, (accepted input rows).length, (rejected input rows).length⟩ := by
    rw [show p.counts = ⟨p.counts.read, p.counts.written, p.counts.skipped⟩ from rfl,
      hthrough.read, hthrough.written, hthrough.skipped]
    simp
  refine ⟨sink, ?_, hclaimed.fits, hpumps.alike.file.trans hacquired.sameFile,
    hpumps.alike.encoders.trans hencoders, hparcels, ?_, ?_, ?_, hreports⟩
  · intro ho
    obtain ⟨left, hleft⟩ := hended.tends
    have hall : Tends { file } (Trace.onDisk (τ₂ ++ (τ₃ ++ τ₄))) left := by
      rw [Trace.onDisk_append, Trace.onDisk_append]
      exact hacquired.tends.trans (htends.trans hleft)
    cases file with
    | some f => rfl
    | none => exact absurd ((openedFiles_run hclaimed hall).2 rfl) (hu.claimed ho)
  · intro l' hl'
    obtain ⟨l, hl, hl''⟩ := hsession l' hl'
    rw [hl'', Session.tallied, (hready l hl).records, Nat.zero_add]
  · intro l' hl'
    obtain ⟨l, hl, hl''⟩ := hsession l' hl'
    rw [hl'', hchannel, Session.tallied, (hready l hl).bytes, Nat.zero_add]
  · rw [hresult, hcounts]

/-- A run that nothing stands in the way of completes. -/
theorem Course.completed (h : Course plan input (rows.map .ok) τ report t)
    (hv : plan.config.validate = .ok ()) (ha : plan.negotiate input = .ok a)
    (hskip : plan.config.policy.onRowError = .skip) (hu : plan.Unhindered τ) :
    ∃ file left sink, Completed plan a input rows τ report file left sink := by
  cases h with
  | disagreed refused =>
    rw [refused] at ha
    cases ha
  | unclaimed agreed claim =>
    obtain ⟨-, hr⟩ := hu.claims claim nofun
    cases hr
  | idle agreed claim alone =>
    obtain ⟨hnone, -⟩ := hu.claims claim nofun
    rcases Config.target_of_validate hv with hl | ho
    · rw [alone] at hl
      cases hl
    · rw [hnone] at ho
      cases ho
  -- The loader was met by nobody, or something failed; both are ruled out.
  | unacquired agreed claim target acquire teardown =>
    obtain ⟨-, hstill₁, hclaimed⟩ := claimOutput_cases claim
    have hacquired := acquire_acquired acquire hclaimed.open
    obtain ⟨-, hstill₃, -⟩ := Targets.teardown_cases teardown hacquired.tidy hacquired.unstarted
    obtain ⟨-, hs⟩ := Trace.unfailing_append.1 hu.unfailing
    have hr := acquire_through acquire hclaimed.open (Trace.unfailing_append.1 hs).1
      fun hl hunmet => hu.not_unmet hl (Trace.unmet_append.2
        ⟨hstill₁.unmet, Trace.unmet_append.2 ⟨hunmet, hstill₃.unmet⟩⟩)
    cases hr
  | ran agreed claim target acquire pump conclude =>
    rw [agreed] at ha
    cases ha
    exact ⟨_, _, completed_of_acquired agreed claim acquire pump conclude hskip hu⟩

/-- What a run reports that has come through with all of its rows. -/
structure Plan.ReportsAll (plan : Plan) (a : Agreement) (input : Schema) (rows : List Row)
    (result : Result) : Prop where
  rowsRead : result.rowsRead = UInt64.ofNat rows.length
  rowsWritten : result.rowsWritten = UInt64.ofNat (accepted input rows).length
  errors : result.errors = UInt64.ofNat (rejected input rows).length
  fault : result.fault = none
  cancelled : result.cancelled = false
  succeeded : result.succeeded = true ↔
    rejected input rows = [] ∨ plan.config.policy.ignoreErrors = true
  alone : plan.config.hasLoader = false → result.sink = none
  /-- The consumer ended well, and all that the plan has for it is counted. -/
  sink : plan.config.hasLoader = true → ∃ sink stream, result.sink = some sink ∧
    sink.exitCode = 0 ∧ sink.records = result.rowsWritten ∧
    plan.stream a (accepted input rows) .channel = .ok stream ∧
    sink.bytes = UInt64.ofNat stream.length
  fileless : plan.config.output = none → result.files = []
  file : plan.config.output.isSome = true →
    ∃ path, result.files = [⟨.general, path, plan.config.name⟩]

namespace Completed

variable {file : Option FileTarget} {sink : Option SinkReport}

/-- What was handed to each target is what the plan has for it. -/
theorem stream (h : Completed plan a input rows τ report file t sink)
    (ha : plan.negotiate input = .ok a) (port : Port) :
    plan.stream a (accepted input rows) port = .ok (bytesFor port τ.parcels) := by
  obtain ⟨hinput, haligned⟩ := Plan.aligned_of_negotiate ha
  obtain ⟨stream, hstream, hhanded⟩ :=
    h.fits.stream port (Agreement.records_accepted hinput haligned)
  rw [h.parcels, hstream]
  rcases hhanded with hsame | ⟨-, ho, hnone⟩
  · rw [hsame]
  · have hfile := h.claimed ho
    rw [Option.map_eq_none_iff.1 hnone] at hfile
    cases hfile

theorem loader (h : Completed plan a input rows τ report file t sink) :
    t.loader.isSome = plan.config.hasLoader := by
  have hencoder := congrArg Encoders.loader h.encoders
  have hloader : t.loader.map (·.encoder) = if plan.config.hasLoader then
      some (Encoder.ofFormat plan.config.loaderFormat a.projection) else none := hencoder
  rw [← Option.isSome_map, hloader]
  cases plan.config.hasLoader <;> rfl

theorem files (h : Completed plan a input rows τ report file t sink) :
    (plan.config.output = none → t.resultFiles plan.config.name = []) ∧
      (plan.config.output.isSome = true → ∃ path,
        t.resultFiles plan.config.name = [⟨.general, path, plan.config.name⟩]) := by
  unfold Targets.resultFiles
  rw [h.sameFile]
  cases hf : file with
  | none =>
    refine ⟨fun _ => rfl, fun ho => ?_⟩
    have hfile := h.claimed ho
    rw [hf] at hfile
    cases hfile
  | some f =>
    refine ⟨fun hnone => ?_, fun _ => ⟨f.path, rfl⟩⟩
    obtain ⟨o, ho, -⟩ := h.fits.file f.encoder (by rw [hf]; rfl)
    rw [hnone] at ho
    cases ho

theorem reportsAll (h : Completed plan a input rows τ report file t sink)
    (ha : plan.negotiate input = .ok a) :
    ∃ result, report = .ok result ∧ result.files = t.resultFiles plan.config.name ∧
      plan.ReportsAll a input rows result := by
  obtain ⟨hfileless, hfile⟩ := h.files
  have hloader := h.loader
  refine ⟨_, h.report, rfl, rfl, rfl, rfl, rfl, rfl, ?_, ?_, ?_, hfileless, hfile⟩
  · simp [finishedResult]
  · intro hl
    rw [hl] at hloader
    cases h.reports with
    | nothing alone => rfl
    | report loader stdout stderr =>
      rw [loader] at hloader
      cases hloader
  · intro hl
    rw [hl] at hloader
    cases h.reports with
    | nothing alone =>
      rw [alone] at hloader
      cases hloader
    | @report l loader stdout stderr =>
      refine ⟨_, _, rfl, rfl, ?_, h.stream ha .channel, ?_⟩
      · show UInt64.ofNat l.session.records = UInt64.ofNat _
        rw [h.records l loader]
      · show UInt64.ofNat l.session.bytes = UInt64.ofNat _
        rw [h.bytes l loader]

end Completed

/-- The file that a completed run reports stands on the disk, with all that was handed to it. -/
theorem Course.file_behind (h : Course plan input (rows.map .ok) τ report t) {result : Result}
    {path : String} {d d' : Disk} (hreport : report = .ok result) (hfault : result.fault = none)
    (hcancelled : result.cancelled = false)
    (hfiles : result.files = [⟨.general, path, plan.config.name⟩]) (hs : τ.Unfailing)
    (hb : d.Behind τ d') : d'.entries path = some (.file (bytesFor .file τ.parcels)) := by
  obtain ⟨-, -, left, hleaves, hreported⟩ := h.leaves
  obtain ⟨content, hgrown, hstanding⟩ :=
    hleaves.standing hs.removalsSucceed.onDisk (Disk.behind_onDisk hb)
  have hcontent : content = bytesFor .file τ.parcels := by
    rw [hgrown fun q hq => hs.onDisk.whole q hq, List.nil_append, Trace.bytesFor_file_onDisk]
  rw [hreport] at hreported
  cases hreported with
  | failed bad files nothing => simp [hfault, hcancelled] at bad
  | through fault cancelled files pipe =>
    rw [hfiles] at files
    have hlaid := hstanding.laid
    cases hf : left.file with
    | none => simp [Targets.resultFiles, hf] at files
    | some f =>
      have hpath : path = f.path := by simpa [Targets.resultFiles, hf] using files
      rw [hf, pipe] at hlaid
      rw [hlaid.entries, hpath, ← hcontent]
      simp [Disk.layout]

/-- When nothing stands in the way of a run over rows of which it skips those that are not
accepted, each target gets exactly what the plan has for it: the header, and the records of the
accepted rows in the order in which they came. The report counts every row, and it tells of no
fault; the file that it names stands on the disk with these bytes. A run over the accepted rows
alone comes to the same. -/
theorem Plan.carryOut_completes (h : Runs (plan.carryOut input (rows.map .ok)) τ (report, t))
    (hv : plan.config.validate = .ok ()) (ha : plan.negotiate input = .ok a)
    (hskip : plan.config.policy.onRowError = .skip) (hu : plan.Unhindered τ) :
    (∀ port, ∃ stream, plan.stream a (accepted input rows) port = .ok stream ∧
      ∀ bytes, Arrived port τ.parcels bytes ↔ bytes = stream) ∧
    (∃ result, report = .ok result ∧ plan.ReportsAll a input rows result ∧
      ∀ path, result.files = [⟨.general, path, plan.config.name⟩] → ∀ d d' : Disk, d.Behind τ d' →
        ∃ stream, plan.stream a (accepted input rows) .file = .ok stream ∧
          d'.entries path = some (.file stream)) ∧
    (∀ τ' report' t',
      Runs (plan.carryOut input ((accepted input rows).map .ok)) τ' (report', t') →
      plan.Unhindered τ' → ∀ port bytes,
        Arrived port τ'.parcels bytes ↔ Arrived port τ.parcels bytes) := by
  have hcourse := course_of_runs h
  obtain ⟨file, left, sink, hcompleted⟩ := hcourse.completed hv ha hskip hu
  have hstream := hcompleted.stream ha
  refine ⟨fun port => ⟨_, hstream port, fun bytes => Host.arrived_iff hu.unfailing.whole⟩, ?_, ?_⟩
  · obtain ⟨result, hreport, -, hall⟩ := hcompleted.reportsAll ha
    exact ⟨result, hreport, hall, fun path hfiles d d' hb => ⟨_, hstream .file,
      hcourse.file_behind hreport hall.fault hall.cancelled hfiles hu.unfailing hb⟩⟩
  · intro τ' report' t' h' hu' port bytes
    obtain ⟨file', left', sink', hcompleted'⟩ :=
      (course_of_runs h').completed hv ha hskip hu'
    have hstream' := hcompleted'.stream ha port
    -- The accepted rows are all accepted, so both runs have the same plan.
    have hidem : accepted input (accepted input rows) = accepted input rows := by
      simp [accepted, List.filter_filter]
    rw [hidem, hstream port] at hstream'
    rw [Host.arrived_iff hu'.unfailing.whole, Host.arrived_iff hu.unfailing.whole,
      Except.ok.inj hstream']

/-- A step that writes one column of whole numbers to a file and to a loader, and skips other
rows. -/
def loadPlan : Plan :=
  ⟨{ copyPlan.config with
     loader := { channel := some .stdin, command := some { program := "load" } }
     policy := { onRowError := .skip } }⟩

/-- One row is written to both targets and another is skipped; then the consumer ends well. -/
def loadTrace (record text : Bytes) : Trace :=
  [⟨.localTime, (⟨1970, 1, 1, 0, 0, 0, 0⟩ : Instant.Fields)⟩,
    ⟨.createFile "out.txt", Host.Creation.made ⟨3⟩⟩, ⟨.start { program := "load" } true, .ok ⟨4⟩⟩,
    Host.asked false, ⟨.openQueue ⟨4⟩ 64, (⟨5⟩ : Host.Handle)⟩, Host.asked false, pulled,
    Host.asked false, ⟨.append true ⟨3⟩ record, Host.Delivery.done⟩, Host.asked false,
    ⟨.enqueue true ⟨5⟩ text, Host.Handover.taken⟩, Host.asked false, pulled, Host.asked false,
    pulled, ⟨.closeFile ⟨3⟩, .ok ()⟩, ⟨.closeQueue ⟨5⟩, .ok ()⟩,
    ⟨.awaitExit false ⟨4⟩ 60000, .over (.exited (.code 0))⟩,
    ⟨.collect false ⟨4⟩ 60000, .over ⟨none, none⟩⟩, ⟨.dropProcess ⟨4⟩, ()⟩]

theorem loadTrace_unhindered (record text : Bytes) :
    loadPlan.Unhindered (loadTrace record text) where
  calm := by
    simp [loadTrace, Host.asked, pulled, Host.Exchange.tellsStop, Host.Pause.isStopped,
      Host.Delivery.isStopped, Host.Handover.isStopped, Host.Waiting.isStopped]
  unfailing := by
    simp [loadTrace, Host.asked, pulled, Host.Exchange.fails, Host.Delivery.isDone,
      Host.Handover.isTaken, Except.toBool, Host.Waiting.endsWell, Host.ExitStatus.succeeded]
  claimed _ := nofun
  taken _ := ⟨⟨.openQueue ⟨4⟩ 64, (⟨5⟩ : Host.Handle)⟩, by simp [loadTrace], rfl⟩

theorem carryOut_completes_load :
    ∃ a record text report t,
      Runs (loadPlan.carryOut copyInput ([[.integer 7], []].map .ok)) (loadTrace record text)
        (report, t) ∧
      (∀ port, ∃ stream,
        loadPlan.stream a (accepted copyInput [[.integer 7], []]) port = .ok stream ∧
        ∀ bytes, Arrived port (loadTrace record text).parcels bytes ↔ bytes = stream) ∧
      ∃ result, report = .ok result ∧
        loadPlan.ReportsAll a copyInput [[.integer 7], []] result := by
  have hruns : ∃ record text report t,
      Runs (loadPlan.carryOut copyInput ([[.integer 7], []].map .ok)) (loadTrace record text)
        (report, t) :=
    ⟨_, _, _, _, .ask _ (.ask _ (.ask _ (.ask _ (.ask _ (.ask _ (.ask _ (.ask _ (.ask _ (.ask _
      (.ask _ (.ask _ (.ask _ (.ask _ (.ask _ (.ask _ (.ask _ (.ask _ (.ask _ (.ask _
        (.done _))))))))))))))))))))⟩
  have hagreed : ∃ a, loadPlan.negotiate copyInput = .ok a := ⟨_, rfl⟩
  obtain ⟨record, text, report, t, hruns⟩ := hruns
  obtain ⟨a, hagreed⟩ := hagreed
  obtain ⟨harrived, ⟨result, hreport, hall, -⟩, -⟩ :=
    Plan.carryOut_completes hruns rfl hagreed rfl (loadTrace_unhindered record text)
  exact ⟨a, record, text, report, t, hruns, harrived, result, hreport, hall⟩

end BulkLoad.Step
