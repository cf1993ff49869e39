import BulkLoad.Proofs.Host.Unfailing
import BulkLoad.Proofs.Sink.History

/-!
The accounts of a session. It counts the records of the writes that were done, and what arrives at
its channel is those records in the order of the calls, with at most a first part of the one record
whose write failed. Whether it is closed in the end, and what its outcome tells, is decided by what
the host answers.
-/

namespace BulkLoad.Host

theorem arrived_append {port : Port} {ps qs : List Parcel} {bytes : Bytes}
    (h : Arrived port (ps ++ qs) bytes) :
    ∃ front back, bytes = front ++ back ∧ Arrived port ps front ∧ Arrived port qs back := by
  induction ps generalizing bytes with
  | nil => exact ⟨[], bytes, rfl, .nil, h⟩
  | cons q ps ih =>
    cases h with
    | elsewhere other rest =>
      obtain ⟨front, back, rfl, hfront, hback⟩ := ih rest
      exact ⟨front, back, rfl, .elsewhere other hfront, hback⟩
    | @here _ _ part _ same prefixed whole rest =>
      obtain ⟨front, back, rfl, hfront, hback⟩ := ih rest
      exact ⟨part ++ front, back, (List.append_assoc ..).symm, .here same prefixed whole hfront,
        hback⟩

end BulkLoad.Host

namespace BulkLoad.Sink.Session

open Host (Arrived ExitStatus Parcel Port Runs Said Trace bytesFor)

/-- The record of a write that was done. -/
def Call.written? : Call → Option Bytes
  | ⟨.write record, .ok _⟩ => some record
  | _ => none

/-- The records of the writes that were done, in the order of the calls. -/
def written (calls : List Call) : List Bytes := calls.filterMap Call.written?

theorem written_append (calls more : List Call) :
    written (calls ++ more) = written calls ++ written more :=
  List.filterMap_append

/-- A record that went to the channel as a whole. -/
def parcelOf (record : Bytes) : Parcel := ⟨.channel, record, false, true⟩

/-- The calls hand on the records of the writes that were done, and no more; or one write failed,
and after it none was done. -/
inductive HandedOn (calls : List Call) : State → List Parcel → Prop
  | whole (state : State) : HandedOn calls state ((written calls).map parcelOf)
  | part {before after : List Call} {record : Bytes} {fault : Fault}
      (order : calls = before ++ ⟨.write record, .error fault⟩ :: after)
      (code : fault.code = "PIPE_WRITE") (last : written after = []) :
      HandedOn calls .failed
        ((written before).map parcelOf ++ [⟨.channel, record, false, false⟩])

/-- The bytes are the records of the writes that were done, and behind them at most a first part of
one whose write failed; after that one none was done. -/
inductive Carried (calls : List Call) : State → Bytes → Prop
  | whole (state : State) : Carried calls state (written calls).flatten
  | part {before after : List Call} {record part : Bytes} {fault : Fault}
      (order : calls = before ++ ⟨.write record, .error fault⟩ :: after)
      (code : fault.code = "PIPE_WRITE") (last : written after = []) (first : part <+: record) :
      Carried calls .failed ((written calls).flatten ++ part)

/-- The fault carries what the consumer said, if it said anything and the fault had no details of
its own. -/
inductive Annotated (fault : Fault) : Option String → Fault → Prop
  | attached {text : String} (nonempty : text ≠ "") (room : fault.details = none) :
      Annotated fault (some text) (fault.withDetails (.object [("stderr", .text text)]))
  | kept {said : Option String}
      (reason : ∀ text, said = some text → text = "" ∨ fault.details.isSome = true) :
      Annotated fault said fault

/-- The code that is told of a process's end: its exit code, or -1 where a signal ended it. -/
inductive ToldAs : ExitStatus → Int → Prop
  | code (n : Nat) : ToldAs (.code n) (Int32.ofNat n).toInt
  | signal (n : Nat) : ToldAs (.signal n) (-1)

theorem toldAs_exitCode (status : ExitStatus) : ToldAs status (exitCode status).toInt := by
  cases status with
  | code n => exact .code n
  | signal n => exact .signal n

/-- What the accounts of a session say of the calls on it. -/
structure Tallied (calls : List Call) (τ : Trace) (s : Session) : Prop where
  records : s.records = (written calls).length
  bytes : s.bytes = (written calls).flatten.length
  handedOn : HandedOn calls s.state τ.parcels

variable {s s' start : Session} {op : Operation} {τ ρ : Trace} {r : Outcome} {calls : List Call}
  {step : String} {settings : Settings}

/-- A call that writes nothing and hands on nothing leaves the accounts as they are. -/
theorem Tallied.idle (h : Tallied calls τ s) (hwritten : Call.written? ⟨op, r⟩ = none)
    (hρ : ρ.parcels = []) (hrecords : s'.records = s.records) (hbytes : s'.bytes = s.bytes)
    (hstate : s.state = .failed → s'.state = .failed) :
    Tallied (calls ++ [⟨op, r⟩]) (τ ++ ρ) s' := by
  have hsame : written (calls ++ [⟨op, r⟩]) = written calls := by
    rw [written_append, written, written, List.filterMap_cons_none hwritten]
    simp
  have hparcels : (τ ++ ρ).parcels = τ.parcels := by
    rw [Trace.parcels_append, hρ, List.append_nil]
  refine ⟨by rw [hrecords, hsame, h.records], by rw [hbytes, hsame, h.bytes], ?_⟩
  -- A record that was cut short stays the last: the session failed with it, and is failed still.
  have hhanded := h.handedOn
  rw [hparcels]
  generalize hps : τ.parcels = ps at hhanded
  generalize hst : s.state = state at hhanded hstate
  cases hhanded with
  | whole =>
    rw [← hsame]
    exact .whole _
  | @part before after record fault order code last =>
    rw [hstate rfl]
    have hmore : calls ++ [⟨op, r⟩] =
        before ++ ⟨.write record, .error fault⟩ :: (after ++ [⟨op, r⟩]) := by
      rw [order, List.append_assoc, List.cons_append]
    refine .part hmore code ?_
    rw [written_append, last, written, List.filterMap_cons_none hwritten]
    rfl

theorem HandedOn.eq_of_ne {state : State} {ps : List Parcel} (h : HandedOn calls state ps)
    (hne : state ≠ .failed) : ps = (written calls).map parcelOf := by
  cases h with
  | whole => rfl
  | part order code last => exact absurd rfl hne

theorem parcels_of_handed {record : Bytes} {x : Host.Exchange}
    (h : Handed false record x .done) : Trace.parcels [x] = [parcelOf record] := by
  cases h <;> rfl

/-- A write that is done is counted and handed on behind the others. -/
theorem Tallied.written {record : Bytes} {x : Host.Exchange} (h : Tallied calls τ s)
    (hstate : s.state = .draining) (handed : Handed false record x .done) :
    Tallied (calls ++ [⟨.write record, .ok none⟩]) (τ ++ [x]) (s.tallied 1 record.length) := by
  have hmore : Session.written (calls ++ [⟨.write record, .ok none⟩]) =
      Session.written calls ++ [record] :=
    written_append calls _
  refine ⟨?_, ?_, ?_⟩
  · rw [hmore, List.length_append, ← h.records]
    rfl
  · rw [hmore, List.flatten_append, List.length_append, ← h.bytes, List.flatten_singleton]
    rfl
  · have hwhole := h.handedOn.eq_of_ne (by simp [hstate])
    rw [Trace.parcels_append, hwhole, parcels_of_handed handed]
    rw [show [parcelOf record] = [record].map parcelOf from rfl, ← List.map_append, ← hmore]
    exact .whole s.state

/-- A write that fails hands on a part, and is the last that hands on anything. -/
theorem Tallied.cut {record : Bytes} {fault : Fault} (h : Tallied calls τ s)
    (hstate : s.state = .draining) (hcode : fault.code = "PIPE_WRITE")
    (hρ : ρ.parcels = [⟨.channel, record, false, false⟩]) :
    Tallied (calls ++ [⟨.write record, .error fault⟩]) (τ ++ ρ) (s.emptied .failed) := by
  have hsame :
      Session.written (calls ++ [⟨.write record, .error fault⟩]) = Session.written calls := by
    rw [written_append]
    exact List.append_nil _
  refine ⟨by rw [hsame, ← h.records]; rfl, by rw [hsame, ← h.bytes]; rfl, ?_⟩
  -- A session that drains has not failed, so all that came before was handed on as a whole.
  have hwhole := h.handedOn.eq_of_ne (by simp [hstate])
  rw [Trace.parcels_append, hwhole, hρ]
  exact .part rfl hcode rfl

theorem Transition.tallied (h : Transition s op ρ r s') (ht : Tallied calls τ s) :
    Tallied (calls ++ [⟨op, r⟩]) (τ ++ ρ) s' := by
  cases h with
  | refused unfit => cases op <;> exact ht.idle rfl rfl rfl rfl id
  | spared ended => exact ht.idle rfl rfl rfl rfl id
  | provisioned state suits turns handed => exact ht.idle rfl handed rfl rfl (by simp [state])
  | started process state => exact ht.idle rfl rfl rfl rfl (by simp [state])
  | opened writer state seeks =>
    refine ht.idle rfl seeks.meets.parcels rfl rfl ?_
    rcases state with state | state <;> simp [state]
  | written state handed => exact ht.written state handed
  | finished report fits released turns handed =>
    refine ht.idle rfl handed rfl rfl fun hfailed => ?_
    rw [hfailed] at fits
    cases fits
  | aborted alive released turns handed => exact ht.idle rfl handed rfl rfl fun _ => rfl
  | @failed op ρ fault fits code released turns handed =>
    cases op with
    | write record =>
      have hcode : fault.code = "PIPE_WRITE" := List.mem_singleton.1 code
      exact ht.cut ((Operation.fits_write record).1 fits) hcode handed
    | _ => exact ht.idle rfl handed rfl rfl fun _ => rfl

theorem History.tallied (h : History (fresh step settings) calls τ s) : Tallied calls τ s := by
  induction h with
  | start => exact ⟨rfl, rfl, .whole _⟩
  | call before runs ih =>
    exact (transition_of_runs (before.sound (sound_fresh step settings)) runs).tallied ih

theorem arrived_map_parcelOf {records : List Bytes} {bytes : Bytes}
    (h : Arrived .channel (records.map parcelOf) bytes) : bytes = records.flatten := by
  have hwhole : ∀ q ∈ records.map parcelOf, q.whole = true := by
    intro q hq
    obtain ⟨record, -, rfl⟩ := List.mem_map.1 hq
    rfl
  rw [(Host.arrived_iff hwhole).1 h, bytesFor, List.flatMap_map]
  simp [parcelOf]

theorem arrived_part {record bytes : Bytes}
    (h : Arrived .channel [⟨.channel, record, false, false⟩] bytes) : bytes <+: record := by
  cases h with
  | elsewhere other rest => exact absurd rfl other
  | here same prefixed whole rest =>
    cases rest
    rwa [List.append_nil]

/-- What arrives at the channel is what was handed on, but for the rest of a record that was cut. -/
theorem HandedOn.arrived {state : State} {ps : List Parcel} {bytes : Bytes}
    (h : HandedOn calls state ps) (ha : Arrived .channel ps bytes) :
    Carried calls state bytes := by
  cases h with
  | whole =>
    rw [arrived_map_parcelOf ha]
    exact .whole state
  | @part before after record fault order code last =>
    obtain ⟨front, part, rfl, hfront, hpart⟩ := Host.arrived_append ha
    have hsame : written calls = written before := by
      rw [order, ← List.singleton_append, written_append, written_append, last]
      exact List.append_nil _
    rw [arrived_map_parcelOf hfront, ← hsame]
    exact .part order code last (arrived_part hpart)

theorem annotated_withStderr (fault : Fault) (said : Option String) :
    Annotated fault said (withStderr fault said) := by
  cases said with
  | none => exact .kept nofun
  | some text =>
    by_cases hroom : fault.details = none
    · by_cases htext : text = ""
      · have hsame : withStderr fault (some text) = fault := by
          simp [withStderr, htext, hroom]
        rw [hsame]
        refine .kept fun text' ht => .inl ?_
        cases ht
        exact htext
      · have hmore : withStderr fault (some text) =
            fault.withDetails (.object [("stderr", .text text)]) := by
          simp [withStderr, htext, hroom]
        rw [hmore]
        exact .attached htext hroom
    · have hfull : fault.details.isSome = true := Option.isSome_iff_ne_none.2 hroom
      have hsame : withStderr fault (some text) = fault := by simp [withStderr, hroom]
      rw [hsame]
      exact .kept fun _ _ => .inr hfull

/-- Over every history of a session: its counts are those of the writes that were done, and what
arrives at its channel is their records in order, and behind them at most a first part of one record
whose write failed, behind which none was done. Finishing it comes through exactly if the write end
closes without error, be it opened only then, and the consumer, if there is one, ends well and in
time; the report then has those counts. A consumer that ends otherwise than with the code 0 behind
the end of its input makes a fault with its exit code and what is kept of both of its streams. And
whatever fails, what is kept of its standard error is attached to the fault only if it said anything
and the fault had no details of its own. -/
theorem History.accounts (h : History (fresh step settings) calls τ s) :
    s.records = (written calls).length ∧ s.bytes = (written calls).flatten.length ∧
    (∀ bytes, Arrived .channel τ.parcels bytes → Carried calls s.state bytes) ∧
    (∀ ρ r s', Operation.finish.fits s.state = true → Runs s.finish ρ (r, s') →
      ((∃ report, r = .ok report) ↔ s.EndsInput ρ ∧ s.ExitsWell ρ) ∧
      (∀ report, r = .ok report → s'.state = .closed ∧ report.exitCode = 0 ∧
        report.records = UInt64.ofNat s.records ∧ report.bytes = UInt64.ofNat s.bytes) ∧
      (s.EndsInput ρ → ∀ c status, s.consumer = some c → s.ExitsWith ρ c status →
        status ≠ .code 0 → ∃ f, ∃ said : Said, ∃ code stdout stderr,
          r = .error f ∧ f.code = "CONSUMER_EXIT" ∧ s'.state = .failed ∧
          ⟨.collect false c.process s.settings.finishTimeout, .over said⟩ ∈ ρ ∧
          ToldAs status code ∧ Tail.Kept said.stdout stdout ∧ Tail.Kept said.stderr stderr ∧
          f.details = some (.object [("exit_code", .int code), ("stderr", .text stderr),
            ("stdout", .text stdout)]))) ∧
    (∀ (s₁ s' : Session) (fault : Fault) ρ i, s₁.consumer = s.consumer →
      Runs (s₁.fail false fault) ρ (i, s') →
      ∃ f said, i = .failed f ∧ s'.state = .failed ∧ Captured s.consumer ρ said ∧
        Annotated fault said f) := by
  have hs := h.sound (sound_fresh step settings)
  have htallied := h.tallied
  refine ⟨htallied.records, htallied.bytes, fun bytes => htallied.handedOn.arrived,
    fun ρ r s' hfits hruns => ?_, fun s₁ s' fault ρ i hsame hfail => ?_⟩
  · have hstate := Operation.fits_finish.1 hfits
    obtain ⟨hdecided, -⟩ := hs.decided (finishing_of_runs hruns hstate hs.running)
    rcases hdecided with ⟨hends, hjudged⟩ | ⟨hill, f, rfl, -, rfl⟩
    · refine ⟨?_, fun report hr => ?_, fun _ c status hc hexit hbad => ?_⟩
      · rw [hjudged.ok]
        exact (and_iff_right hends).symm
      · obtain ⟨rfl, stdout, stderr, rfl⟩ := hjudged.closed report hr
        exact ⟨rfl, rfl, rfl, rfl⟩
      · obtain ⟨said, hsaid, rfl⟩ := hjudged.unsuccessful c status hc hexit hbad
        obtain ⟨-, rfl⟩ := hjudged.failed _ rfl
        exact ⟨_, said, _, _, _, rfl, rfl, rfl, hsaid, toldAs_exitCode status,
          kept_heard said.stdout, kept_heard said.stderr, rfl⟩
    · have hnot : ¬s.EndsInput ρ := by
        rintro ⟨w, x, -, hx, hwell⟩
        exact hill x hx w hwell
      refine ⟨⟨fun ⟨report, hr⟩ => (by cases hr), fun hboth => absurd hboth.1 hnot⟩, nofun,
        fun hends => absurd hends hnot⟩
  · obtain ⟨said, rfl, hsaid, rfl, -⟩ := released_of_fail hfail (hsame ▸ hs.running)
    exact ⟨_, said, rfl, rfl, hsame ▸ hsaid, annotated_withStderr fault said⟩

/-- A session whose consumer reads from its standard input, with the channel made. -/
def queued : Session :=
  { fresh "load" { choice := .stdin 4 } with channel := some (.stdin 4), state := .pipeReady }

/-- The session with its consumer running. -/
def started : Session :=
  { queued with consumer := some { process := ⟨4⟩ }, state := .consumerRunning }

/-- The session with its write end open. -/
def connected : Session := { started with writer := some (.queue ⟨5⟩), state := .draining }

def fedCalls : List Call :=
  [⟨.provision, .ok none⟩, ⟨.startConsumer { program := "load" }, .ok none⟩,
    ⟨.openWriter, .ok none⟩, ⟨.write [65], .ok none⟩]

def fedTrace : Trace :=
  [⟨.start { program := "load" } true, .ok ⟨4⟩⟩, ⟨.openQueue ⟨4⟩ 4, (⟨5⟩ : Host.Handle)⟩,
    ⟨.enqueue false ⟨5⟩ [65], Host.Handover.taken⟩]

theorem history_fed :
    History (fresh "load" { choice := .stdin 4 }) fedCalls fedTrace (connected.tallied 1 1) := by
  have hprovision : Runs ((fresh "load" { choice := .stdin 4 }).perform .provision) []
      (.ok none, queued) := .done _
  have hstart : Runs (queued.perform (.startConsumer { program := "load" }))
      [⟨.start { program := "load" } true, .ok ⟨4⟩⟩] (.ok none, started) := .ask _ (.done _)
  have hopen : Runs (started.perform .openWriter) [⟨.openQueue ⟨4⟩ 4, (⟨5⟩ : Host.Handle)⟩]
      (.ok none, connected) := .ask _ (.done _)
  have hwrite : Runs (connected.perform (.write [65]))
      [⟨.enqueue false ⟨5⟩ [65], Host.Handover.taken⟩] (.ok none, connected.tallied 1 1) :=
    .ask _ (.done _)
  exact .call (.call (.call (.call .start hprovision) hstart) hopen) hwrite

/-- The consumer reads to the end and ends well. -/
def endTrace : Trace :=
  [⟨.closeQueue ⟨5⟩, .ok ()⟩, ⟨.awaitExit false ⟨4⟩ 60000, .over (.exited (.code 0))⟩,
    ⟨.collect false ⟨4⟩ 60000, .over ⟨none, none⟩⟩, ⟨.dropProcess ⟨4⟩, ()⟩]

theorem accounts_fed :
    History (fresh "load" { choice := .stdin 4 }) fedCalls fedTrace (connected.tallied 1 1) ∧
    written fedCalls = [[65]] ∧ (connected.tallied 1 1).records = (written fedCalls).length ∧
    ∃ s' report, Runs (connected.tallied 1 1).finish endTrace (.ok report, s') ∧
      report.records = 1 ∧ report.bytes = 1 ∧ (connected.tallied 1 1).EndsInput endTrace ∧
      (connected.tallied 1 1).ExitsWell endTrace := by
  have hfinish : ∃ s' report, Runs (connected.tallied 1 1).finish endTrace (.ok report, s') :=
    ⟨_, _, .ask _ (.ask _ (.ask _ (.ask _ (.done _))))⟩
  obtain ⟨s', report, hfinish⟩ := hfinish
  obtain ⟨hrecords, -, -, hfinished, -⟩ := History.accounts history_fed
  obtain ⟨hiff, hreport, -⟩ := hfinished endTrace _ s' rfl hfinish
  obtain ⟨-, hcounts⟩ := hreport report rfl
  obtain ⟨hends, hexits⟩ := hiff.1 ⟨report, rfl⟩
  exact ⟨history_fed, rfl, hrecords, s', report, hfinish, hcounts.2.1, hcounts.2.2, hends, hexits⟩

end BulkLoad.Sink.Session
