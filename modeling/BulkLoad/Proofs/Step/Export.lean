import BulkLoad.Proofs.Cube.Projection
import BulkLoad.Proofs.Host.Unfailing
import BulkLoad.Proofs.Step.Agreement
import BulkLoad.Proofs.Step.Delivery
import BulkLoad.Proofs.Step.Holding
import BulkLoad.Proofs.Step.Remains
import BulkLoad.Step.Source

/-!
A run that comes through with a cube as its output file leaves a cube that reads back as what was
agreed: the schema of the target, and the accepted rows under the projection.
-/

namespace BulkLoad.Step

open Host (Disk Handle Runs Trace bytesFor bytesFor_append)

variable {c : Config} {p : Projection} {policy : Policy} {input : Schema}
  {items : List (Except Fault Row)} {counts : Counts} {b : Buffers} {t t' left : Targets}
  {τ δ ε : Trace} {d d' : Disk} {path : String} {handle : Handle}

/-- A loop that comes through has met no fault of the source, and has handed on the records of
every accepted row. -/
theorem Pumps.handed {pumped : Pumped} (h : Pumps policy input items counts b t τ pumped)
    (ho : t.Open) (ht : ∀ row, input.check row = .ok () → t.encoders.Takes row)
    (hp : pumped.outcome = .ok ()) : ∃ rows, items = rows.map .ok ∧
      τ.parcels = (accepted input rows).flatMap t.encoders.parcels := by
  induction h with
  | stopped => cases hp
  | drained => exact ⟨[], rfl, rfl⟩
  | source => cases hp
  | rejected => cases hp
  | @skipped row rest counts b b' t fault τ pumped refused goes _ ih =>
    obtain ⟨rows, rfl, hparcels⟩ := ih ho ht hp
    obtain ⟨⟨e, he⟩, -⟩ := Targets.accept_error (ht row) refused
    refine ⟨row :: rows, rfl, ?_⟩
    rw [Trace.parcels_append, parcels_turn, List.nil_append, hparcels, accepted_cons_error _ he]
  | unwritten => cases hp
  | @written row rest counts b b' t t' τ τ' pumped taken write _ ih =>
    have halike := (Targets.write_alike write).encoders
    obtain ⟨rows, rfl, hparcels⟩ := ih (Targets.write_open write ho) (by rwa [halike]) hp
    obtain ⟨-, hwhole⟩ := Targets.write_follows write ho
    obtain ⟨hcheck, hplanned⟩ := Targets.accept_ok (ht row) taken
    refine ⟨row :: rows, rfl, ?_⟩
    rw [Trace.parcels_append, Trace.parcels_append, parcels_turn, List.nil_append, hwhole.2 rfl,
      hplanned, hparcels, halike, accepted_cons _ hcheck, List.flatMap_cons]

/-- A file that was made is the output file of the run. -/
theorem OutputClaimed.file_of_made {file : Option FileTarget} (h : OutputClaimed c p δ (.ok file))
    (ht : Tends { file } ε left)
    (hmade : ⟨.createFile path, Host.Creation.made handle⟩ ∈ δ ++ ε) :
    ∃ o claim, c.output = some o ∧ file = some ⟨path, some handle, c.fileEncoder o p⟩ ∧
      δ = claim ++ [⟨.createFile path, Host.Creation.made handle⟩] ∧ ∀ x ∈ claim, Refused x := by
  have hnot : ∀ μ : Trace, μ.openedFiles = [] →
      ⟨.createFile path, Host.Creation.made handle⟩ ∉ μ := by
    intro μ hμ hmem
    have hnone := List.filterMap_eq_nil_iff.1 hμ _ hmem
    cases hnone
  have hmem : ⟨.createFile path, Host.Creation.made handle⟩ ∈ δ :=
    (List.mem_append.1 hmade).resolve_right (hnot ε ht.openedFiles)
  cases h with
  | nothing missing refused => exact absurd hmem (hnot δ (openedFiles_of_refused refused))
  | @made claim o path' handle' configured refused =>
    have hsame := (List.mem_append.1 hmem).resolve_left
      (hnot claim (openedFiles_of_refused refused))
    cases List.mem_singleton.1 hsame
    exact ⟨o, claim, configured, rfl, rfl, refused⟩

/-- A file that was just made is empty. -/
theorem holds_of_created {encoder : Encoder}
    (ha : d.After ⟨.createFile path, Host.Creation.made handle⟩ d') :
    ({ file := some ⟨path, some handle, encoder⟩ } : Targets).Holds [] d' := by
  cases ha with
  | unchanged hc => cases hc
  | created free =>
    refine ⟨fun f hf => ?_, fun f handle' hf hh => ?_, fun f hf => nofun⟩
    · cases hf
      simp [Disk.put]
    · cases hf
      cases hh
      simp

theorem FileTarget.finish_path {f f' : FileTarget} {r : Except Fault Unit}
    (h : Runs f.finish τ (r, f')) : f'.path = f.path := by
  unfold FileTarget.finish at h
  split at h
  · obtain ⟨-, hv⟩ := Host.runs_pure_iff.1 h
    cases hv
    rfl
  · obtain ⟨answer, τ₁, rfl, h₁⟩ := Host.runs_send_bind_iff.1 h
    cases answer with
    | ok u =>
      obtain ⟨-, hv⟩ := Host.runs_pure_iff.1 h₁
      cases hv
      rfl
    | error message =>
      obtain ⟨-, hv⟩ := Host.runs_pure_iff.1 h₁
      cases hv
      rfl

theorem finishFile_path {origin : String} {r : Except Fault (List ResultFile)}
    (h : Runs (finishFile origin t) τ (r, t')) :
    t'.file.map (·.path) = t.file.map (·.path) := by
  unfold finishFile at h
  cases hf : t.file with
  | none =>
    rw [hf] at h
    obtain ⟨-, hv⟩ := Host.runs_pure_iff.1 h
    cases hv
    rw [hf]
  | some f =>
    rw [hf] at h
    obtain ⟨τ₁, τ₂, ⟨finished, f'⟩, rfl, h₁, h₂⟩ := Host.runs_bind_iff.1 h
    obtain ⟨-, hv⟩ := Host.runs_pure_iff.1 h₂
    cases hv
    exact congrArg some (FileTarget.finish_path h₁)

theorem finishLoader_file {r : Except Fault (Option SinkReport)}
    (h : Runs (finishLoader t) τ (r, t')) : t'.file = t.file := by
  unfold finishLoader at h
  split at h
  · obtain ⟨-, hv⟩ := Host.runs_pure_iff.1 h
    cases hv
    rfl
  · obtain ⟨τ₁, τ₂, ⟨finished, s⟩, rfl, h₁, h₂⟩ := Host.runs_bind_iff.1 h
    obtain ⟨-, hv⟩ := Host.runs_pure_iff.1 h₂
    cases hv
    rfl

theorem finalize_path {origin : String} {r : Except Fault Products}
    (h : Runs (finalize origin t) τ (r, t')) : t'.file.map (·.path) = t.file.map (·.path) := by
  obtain ⟨τ₁, τ₂, ⟨finished, t₁⟩, rfl, h₁, h₂⟩ := Host.runs_bind_iff.1 h
  have hpath := finishFile_path h₁
  cases finished with
  | error fault =>
    obtain ⟨-, hv⟩ := Host.runs_pure_iff.1 h₂
    cases hv
    exact hpath
  | ok files =>
    obtain ⟨τ₃, τ₄, ⟨ended, t₃⟩, rfl, h₃, h₄⟩ := Host.runs_bind_iff.1 h₂
    rw [← hpath, ← finishLoader_file h₃]
    cases ended with
    | error fault =>
      obtain ⟨-, hv⟩ := Host.runs_pure_iff.1 h₄
      cases hv
      rfl
    | ok sink =>
      obtain ⟨-, hv⟩ := Host.runs_pure_iff.1 h₄
      cases hv
      rfl

/-- A run that comes through keeps its file where it was. -/
theorem conclude_path {pumped : Pumped} {result : Result}
    (h : Runs (conclude c pumped) τ (result, t')) (hp : pumped.outcome = .ok ())
    (hf : result.fault = none) : t'.file.map (·.path) = pumped.targets.file.map (·.path) := by
  unfold conclude at h
  rw [hp] at h
  obtain ⟨τ₁, τ₂, ⟨finished, t₁⟩, rfl, h₁, h₂⟩ := Host.runs_bind_iff.1 h
  cases finished with
  | ok products =>
    obtain ⟨-, hv⟩ := Host.runs_pure_iff.1 h₂
    cases hv
    exact finalize_path h₁
  | error fault =>
    obtain ⟨τ₃, τ₄, t₃, rfl, h₃, h₄⟩ := Host.runs_bind_iff.1 h₂
    obtain ⟨-, hv⟩ := Host.runs_pure_iff.1 h₄
    cases hv
    cases hf

variable {plan : Plan} {a : Agreement} {result : Result}

theorem fault_of_unclaimedReport {fault : Fault} (h : unclaimedReport fault = .ok result) :
    result.fault = some fault := by
  unfold unclaimedReport at h
  split at h
  · cases h
  · cases h
    rfl

theorem fault_of_unacquiredReport {i : Interruption true}
    (h : unacquiredReport i = .ok result) : result.fault.isSome = true := by
  unfold unacquiredReport at h
  split at h
  · cases h
  · cases h
    cases i <;> rfl

/-- The output file of a run, behind all that was handed to it as a whole. -/
theorem entries_of_whole {f : FileTarget} (ht : Tends { file := some f } ε.onDisk t')
    (hd : ({ file := some f } : Targets).Holds [] d) (hb : d.Behind ε.onDisk d')
    (hpath : t'.file.map (·.path) = some f.path) (hwhole : ∀ q ∈ ε.parcels, q.whole = true) :
    d'.entries f.path = some (.file (bytesFor .file ε.parcels)) := by
  obtain ⟨content, hgrown, hholds⟩ := ht.holds hd hb
  have hcontent : content = bytesFor .file ε.parcels := by
    rw [hgrown ?_, List.nil_append, Trace.bytesFor_file_onDisk]
    intro q hq
    obtain ⟨x, hx, hparcel⟩ := List.mem_filterMap.1 hq
    exact hwhole q (List.mem_filterMap.2 ⟨x, (List.mem_filter.1 hx).1, hparcel⟩)
  obtain ⟨f', hf', hsame⟩ := Option.map_eq_some_iff.1 hpath
  have hheld := hholds.held f' hf'
  rwa [hsame, hcontent] at hheld

/-- What is known of a run over its rows that reports no fault: all rows came, and the parcels that
were handed on are the header and the records of those that were accepted. -/
theorem parcels_of_through {file : Option FileTarget} {pumped : Pumped} {τ₁ τ₂ τ₃ τ₄ : Trace}
    (agreed : plan.negotiate input = .ok a)
    (claim : Runs (claimOutput plan.config a.projection) τ₁ (.ok file))
    (acquire : Runs (acquire plan.config a.projection file) τ₂ (.ok (), t))
    (pump : Runs (pump plan.config.policy a.input items {} {} t) τ₃ pumped)
    (conclude : Runs (conclude plan.config pumped) τ₄ (result, t')) (hf : result.fault = none) :
    ∃ rows, items = rows.map .ok ∧ Tends { file } (τ₂ ++ (τ₃ ++ τ₄)).onDisk t' ∧
      t'.file.map (·.path) = file.map (·.path) ∧
      result.files = t'.resultFiles plan.config.name ∧
      (τ₂ ++ (τ₃ ++ τ₄)).parcels = (plan.encodersWith a file).header ++
        (accepted input rows).flatMap (plan.encodersWith a file).parcels := by
  obtain ⟨hinput, haligned⟩ := Plan.aligned_of_negotiate agreed
  obtain ⟨-, -, hclaimed⟩ := claimOutput_cases claim
  have hacquired := acquire_acquired acquire hclaimed.open
  obtain ⟨-, hparcels₂, -⟩ := hacquired.ready rfl
  have hopen := hacquired.open rfl hclaimed.open
  have hpumps := pumps_of_runs pump
  have hfinished := hacquired.unstarted
  rw [← hpumps.alike.unstarted] at hfinished
  have htends := hpumps.tends hopen
  obtain ⟨-, hstill₄, -, hended⟩ :=
    conclude_cases conclude (hpumps.open hopen) (htends.tidy hacquired.tidy) hfinished
  generalize hδ : τ₄.onDisk = δ at hended
  cases hended with
  | takenBack i reason nothing tends => cases i <;> cases hf
  | finished products through files pipe tends =>
    have htakes : ∀ row, a.input.check row = .ok () → t.encoders.Takes row := fun row hrow =>
      hacquired.takes hclaimed.fits (by rwa [hinput]) hrow
    obtain ⟨rows, hrows, hparcels₃⟩ := hpumps.handed hopen htakes through
    refine ⟨rows, hrows, ?_, ?_, files, ?_⟩
    · rw [Trace.onDisk_append, Trace.onDisk_append, hδ]
      exact hacquired.tends.trans (htends.trans tends)
    · rw [conclude_path conclude through hf, hpumps.alike.file, hacquired.sameFile]
    · rw [Trace.parcels_append, Trace.parcels_append, hstill₄.parcels, List.append_nil, hparcels₂,
        hparcels₃, hacquired.encoders, hinput, Plan.encodersWith_header]

/-- What a run that comes through leaves in its output file: the header, and the records of the
accepted rows. -/
theorem Course.file_of_through {report : Except Fault Result}
    (h : Course plan input items τ report t) (hr : report = .ok result)
    (ha : plan.negotiate input = .ok a) (hf : result.fault = none)
    (hmade : ⟨.createFile path, Host.Creation.made handle⟩ ∈ τ) (hb : d.Behind τ d') :
    ∃ o rows records, plan.config.output = some o ∧ items = rows.map .ok ∧
      result.files = [⟨.general, path, plan.config.name⟩] ∧
      (accepted input rows).mapM (plan.config.fileEncoder o a.projection).record = .ok records ∧
      d'.entries path = some (.file
        ((plan.config.fileEncoder o a.projection).header ++ records.flatten)) := by
  replace hb := Disk.behind_onDisk hb
  have hmade : ⟨.createFile path, Host.Creation.made handle⟩ ∈ τ.onDisk :=
    List.mem_filter.2 ⟨hmade, rfl⟩
  cases h with
  | disagreed refused => cases hr
  | unclaimed agreed claim =>
    rw [fault_of_unclaimedReport hr] at hf
    cases hf
  | unacquired agreed claim target acquire teardown =>
    have hfault := fault_of_unacquiredReport hr
    rw [hf] at hfault
    cases hfault
  | idle agreed claim alone =>
    obtain ⟨-, -, hclaimed⟩ := claimOutput_cases claim
    obtain ⟨o, -, -, hfile, -⟩ := hclaimed.file_of_made (.nil _) (by simpa using hmade)
    cases hfile
  | @ran a' file t t' pumped result τ₁ τ₂ τ₃ τ₄ agreed claim target acquire pump conclude =>
    rw [agreed] at ha
    cases ha
    cases hr
    obtain ⟨rows, hrows, htends, hpath, hfiles, hparcels⟩ :=
      parcels_of_through agreed claim acquire pump conclude hf
    obtain ⟨-, -, hclaimed⟩ := claimOutput_cases claim
    rw [Trace.onDisk_append] at hmade hb
    obtain ⟨o, attempts, ho, rfl, hclaim, hrefused⟩ := hclaimed.file_of_made htends hmade
    obtain ⟨hinput, haligned⟩ := Plan.aligned_of_negotiate agreed
    obtain ⟨records, hrecords⟩ := exists_mapM_ok fun row hrow =>
      Agreement.records_accepted hinput haligned row hrow _ (plan.config.fileEncoder_encodes o a)
    -- Up to where the file is made nothing changes; from there on it holds what is handed to it.
    obtain ⟨d₁, hb₁, hb₂⟩ := Disk.behind_append_iff.1 hb
    rw [hclaim] at hb₁
    obtain ⟨d₂, hb₃, hb₄⟩ := Disk.behind_append_iff.1 hb₁
    rw [behind_of_refused hrefused hb₃] at hb₄
    obtain ⟨d₃, hcreated, hb₅⟩ := Disk.behind_cons_iff.1 hb₄
    rw [Disk.behind_nil_iff.1 hb₅] at hb₂
    have hentries := entries_of_whole htends (holds_of_created hcreated) hb₂ hpath fun q hq =>
      Encoders.whole_of_mem (accepted input rows) (hparcels ▸ hq)
    rw [hparcels, bytesFor_append, Encoders.bytesFor_header_file rfl,
      Encoders.bytesFor_rows .file rfl hrecords] at hentries
    refine ⟨o, rows, records, ho, hrows, ?_, hrecords, hentries⟩
    obtain ⟨f, hf', hsame⟩ := Option.map_eq_some_iff.1 hpath
    rw [hfiles, Targets.resultFiles, hf']
    simp [hsame]

/-- A run that comes through with a cube as its output file leaves a cube that reads back as the
agreed target and the accepted rows, with the cell of each column taken from the position that its
entry is bound to; all rows of the source came, and there is nothing else in the cube. -/
theorem Plan.export_reads_back {o : Output} (h : Runs (plan.carryOut input items) τ (.ok result, t))
    (ha : plan.negotiate input = .ok a) (ho : plan.config.output = some o)
    (hcube : o.format = .cube) (hf : result.fault = none)
    (hmade : ⟨.createFile path, Host.Creation.made handle⟩ ∈ τ) (hb : d.Behind τ d')
    (hs : Cube.Fits a.output)
    (hbody : ∀ row ∈ accepted input (arrivals items),
      (Cube.bodyOf (a.projection.cells row)).length < 2 ^ 32) :
    plan.Agrees input a ∧ result.files = [⟨.general, path, plan.config.name⟩] ∧
    ∃ bytes rows back, items = rows.map .ok ∧ d'.entries path = some (.file bytes) ∧
      Runs (readCube path 0) [⟨.readFile path, (.ok bytes : Except String Bytes)⟩]
        (.ok ⟨a.output, back.map .ok⟩) ∧
      (∀ row ∈ accepted input rows,
        (a.projection.cells row).map some = a.projection.sources.map (row[·]?)) ∧
      List.Forall₂ (List.Forall₂ Cell.Same) ((accepted input rows).map a.projection.cells)
        back := by
  obtain ⟨hinput, haligned⟩ := Plan.aligned_of_negotiate ha
  obtain ⟨o', rows, records, ho', rfl, hfiles, hrecords, hentries⟩ :=
    (course_of_runs h).file_of_through rfl ha hf hmade hb
  rw [ho] at ho'
  cases ho'
  have hencoder : plan.config.fileEncoder o a.projection = .ofProjection a.projection := by
    rw [Config.fileEncoder, hcube]
  have hcells : records = (accepted input rows).map fun row =>
      Cube.recordOf (a.projection.cells row) := by
    have hencoded : (accepted input rows).mapM (Encoder.ofProjection a.projection).record =
        .ok ((accepted input rows).map fun row => Cube.recordOf (a.projection.cells row)) := by
      rw [mapM_eq_ok_iff, List.forall₂_map_right_iff, List.forall₂_same]
      exact fun row hrow => haligned.record_cube (check_of_mem_accepted hrow)
    rw [hencoder, hencoded] at hrecords
    exact (Except.ok.inj hrecords).symm
  rw [arrivals_map_ok] at hbody
  obtain ⟨back, hread, hsame⟩ := Cube.read_projected haligned hs
    (fun row hrow => check_of_mem_accepted hrow) hbody
  rw [hencoder, hcells] at hentries
  refine ⟨Plan.agrees_of_negotiate ha, hfiles, _, rows, back, rfl, hentries, ?_,
    fun row hrow => haligned.map_some_cells (check_of_mem_accepted hrow), hsame⟩
  exact Host.runs_send_bind_iff.2 ⟨_, [], rfl, Host.runs_pure_iff.2 ⟨rfl, hread.symm⟩⟩

/-- One row goes to the cube and another is skipped. -/
def spreadTrace (header record : Bytes) : Trace :=
  [⟨.localTime, (⟨1970, 1, 1, 0, 0, 0, 0⟩ : Instant.Fields)⟩,
    ⟨.createFile "out.cube", Host.Creation.made ⟨3⟩⟩,
    ⟨.append false ⟨3⟩ header, Host.Delivery.done⟩, Host.asked false, pulled, Host.asked false,
    ⟨.append true ⟨3⟩ record, Host.Delivery.done⟩, Host.asked false, pulled, Host.asked false,
    pulled, ⟨.closeFile ⟨3⟩, .ok ()⟩]

theorem export_reads_back_spread : ∃ header record result t d' bytes back,
    Runs (spreadPlan.carryOut spreadInput [.ok [.integer 7, .null, .text "x"], .ok []])
      (spreadTrace header record) (.ok result, t) ∧ result.fault = none ∧
    emptyDisk.Behind (spreadTrace header record) d' ∧
    d'.entries "out.cube" = some (.file bytes) ∧
    Runs (readCube "out.cube" 0) [⟨.readFile "out.cube", (.ok bytes : Except String Bytes)⟩]
      (.ok ⟨spreadAgreement.output, [.ok back]⟩) ∧
    List.Forall₂ Cell.Same [.text "x", .integer 7, .text "x"] back := by
  have hruns : ∃ header record result t,
      Runs (spreadPlan.carryOut spreadInput [.ok [.integer 7, .null, .text "x"], .ok []])
        (spreadTrace header record) (.ok result, t) ∧ result.fault = none :=
    ⟨_, _, _, _, .ask _ (.ask _ (.ask _ (.ask _ (.ask _ (.ask _ (.ask _ (.ask _ (.ask _ (.ask _
      (.ask _ (.ask _ (.done _)))))))))))), rfl⟩
  obtain ⟨header, record, result, t, hruns, hfault⟩ := hruns
  have happended : ∀ {d : Disk} {stoppable : Bool} {bytes : Bytes},
      d.opened ⟨3⟩ = some "out.cube" → d.After
        ⟨.append stoppable ⟨3⟩ bytes, Host.Delivery.done⟩ (d.extend "out.cube" bytes) :=
    fun hopened => .appended hopened List.prefix_rfl fun _ => rfl
  have hbehind : ∃ d', emptyDisk.Behind (spreadTrace header record) d' :=
    ⟨_, .cons (.unchanged rfl) (.cons (.created rfl)
      (.cons (happended (by simp))
      (.cons (.unchanged rfl) (.cons (.unchanged rfl) (.cons (.unchanged rfl)
      (.cons (happended (by simp))
      (.cons (.unchanged rfl) (.cons (.unchanged rfl) (.cons (.unchanged rfl)
      (.cons (.unchanged rfl) (.cons (.unchanged rfl) (.nil _))))))))))))⟩
  obtain ⟨d', hbehind⟩ := hbehind
  have hmade : ⟨.createFile "out.cube", Host.Creation.made ⟨3⟩⟩ ∈ spreadTrace header record := by
    simp [spreadTrace]
  have hfits : Cube.Fits spreadAgreement.output := ⟨by decide, by decide, by decide⟩
  have haccepted : accepted spreadInput [[.integer 7, .null, .text "x"], []] =
      [[.integer 7, .null, .text "x"]] := rfl
  have hcells : spreadAgreement.projection.cells [.integer 7, .null, .text "x"] =
      [.text "x", .integer 7, .text "x"] := rfl
  obtain ⟨-, -, bytes, rows, back, hrows, hentries, hread, -, hsame⟩ :=
    Plan.export_reads_back hruns spread_agreed rfl rfl hfault hmade hbehind hfits
      (by decide +kernel)
  obtain rfl : rows = [[.integer 7, .null, .text "x"], []] := by
    rw [← arrivals_map_ok rows, ← hrows]
    rfl
  rw [haccepted, List.map_singleton, hcells] at hsame
  cases hsame with
  | @cons _ row _ rest hrow hnil =>
    cases hnil
    exact ⟨header, record, result, t, d', bytes, row, hruns, hfault, hbehind, hentries, hread, hrow⟩

end BulkLoad.Step
