import BulkLoad.Proofs.Path.Names
import BulkLoad.Proofs.Sink.History

/-!
Pipes of single sessions. A pipe is made directly in the directory of its session, and in all that
is ever called on a session at most one is made and at most one is removed, the one that was made.
-/

namespace BulkLoad

namespace Sink

/-- A name that is drawn for a pipe has only characters that may stand in any file name. -/
def IsPlain (unique : Host.UniqueName) : Prop :=
  ∀ c ∈ unique.process.toList ++ unique.serial.toList, isSafe c = true

theorem slash_not_mem_safeName (step : String) : '/' ∉ (safeName step).toList := by
  rw [safeName, String.toList_map, List.mem_map]
  rintro ⟨c, -, hc⟩
  split at hc
  · rename_i hsafe
    subst hc
    revert hsafe
    decide
  · revert hc
    decide

theorem toList_pipeName (step : String) (unique : Host.UniqueName) :
    (pipeName step unique).toList = "bulkbyte-".toList ++ ((safeName step).toList ++
      ('-' :: unique.process.toList ++ ('-' :: unique.serial.toList ++ ".fifo".toList))) := by
  simp [pipeName]

/-- A pipe is made directly in its directory, whatever the step is called. -/
theorem isChild_pipePath (directory step : String) {unique : Host.UniqueName}
    (h : IsPlain unique) : Path.IsChild directory (pipePath directory step unique) := by
  have hplain : ∀ c ∈ unique.process.toList ++ unique.serial.toList, c ≠ '/' := by
    rintro c hc rfl
    exact absurd (h _ hc) (by decide)
  have hlist := toList_pipeName step unique
  refine Path.isChild_join ?_ ?_ ?_
  · have hsafe := slash_not_mem_safeName step
    have hprocess : '/' ∉ unique.process.toList :=
      fun h => hplain _ (List.mem_append_left _ h) rfl
    have hserial : '/' ∉ unique.serial.toList :=
      fun h => hplain _ (List.mem_append_right _ h) rfl
    rw [hlist]
    simp [hsafe, hprocess, hserial]
  · simp [Path.isName, hlist]
  · intro hup
    rw [hup] at hlist
    simp at hlist

namespace Session

open Host (Dialogue Exchange Runs Trace)

/-! ### What an operation does about the pipe -/

/-- The session is still the same one, and has not been made anew. -/
structure Same (s s' : Session) : Prop where
  step : s'.step = s.step
  settings : s'.settings = s.settings
  begun : s'.state = .created → s.state = .created

theorem Same.refl (s : Session) : Same s s := ⟨rfl, rfl, id⟩

/-- An operation other than making the channel: it leaves the channel alone, or removes it. -/
inductive Handled (s : Session) (τ : Trace) (s' : Session) : Prop
  | kept (quiet : τ.onDisk = []) (same : Same s s') (channel : s'.channel = s.channel)
  | emptied (removal : Removal s.channel τ.onDisk) (same : Same s s') (channel : s'.channel = none)
      (ended : s'.state ≠ .created)

variable {s s₁ s' : Session} {μ τ : Trace}

theorem Same.trans (h : Same s s₁) (g : Same s₁ s') : Same s s' :=
  ⟨g.step.trans h.step, g.settings.trans h.settings, fun hc => h.begun (g.begun hc)⟩

theorem removal_none_iff : Removal none τ ↔ τ = [] := by
  constructor
  · intro h
    cases h
    rfl
  · rintro rfl
    exact .none

/-- Of two operations at most one removes the channel. -/
theorem Handled.append (h : Handled s μ s₁) (g : Handled s₁ τ s') : Handled s (μ ++ τ) s' := by
  cases h with
  | kept quiet same channel =>
    cases g with
    | kept quiet' same' channel' =>
      exact .kept (by simp [quiet, quiet']) (same.trans same') (channel'.trans channel)
    | emptied removal same' channel' ended =>
      rw [channel] at removal
      exact .emptied (by simpa [quiet] using removal) (same.trans same') channel' ended
  | emptied removal same channel ended =>
    cases g with
    | kept quiet same' channel' =>
      exact .emptied (by simpa [quiet] using removal) (same.trans same') (channel'.trans channel)
        fun hc => ended (same'.begun hc)
    | emptied removal' same' channel' ended' =>
      -- The channel was taken out of the session, so there is none to be removed again.
      rw [channel, removal_none_iff] at removal'
      exact .emptied (by simpa [removal'] using removal) (same.trans same') channel' ended'

theorem handled_refl (s : Session) : Handled s [] s := .kept rfl (Same.refl s) rfl

theorem handled_of_pure {α : Type} {a r : α} (h : Runs (pure (a, s)) τ (r, s')) :
    Handled s τ s' := by
  obtain ⟨rfl, hv⟩ := Host.runs_pure_iff.1 h
  cases hv
  exact handled_refl s

theorem onDisk_eq_nil (h : τ.notable = []) : τ.onDisk = [] := by
  rw [← Trace.onDisk_notable, h]
  rfl

theorem handled_emptied {state : State} (h : Removal s.channel τ.notable)
    (hstate : state ≠ .created) : Handled s τ (s.emptied state) :=
  .emptied h.onDisk ⟨rfl, rfl, fun hc => absurd hc hstate⟩ rfl hstate

section
variable {stoppable : Bool}

theorem handled_of_fail {fault : Fault} {i : Interruption stoppable}
    (h : Runs (s.fail stoppable fault) τ (i, s')) : Handled s τ s' := by
  rcases fail_cases h with ⟨f, -, rfl, hr, -⟩ | ⟨allowed, -, rfl, hn⟩
  · exact handled_emptied hr nofun
  · exact .kept (onDisk_eq_nil hn) ⟨rfl, rfl, id⟩ rfl

theorem handled_of_openWriter {r : Except (Interruption stoppable) Unit}
    (h : Runs (s.openWriter stoppable) τ (r, s')) : Handled s τ s' := by
  rw [openWriter] at h
  split at h
  · obtain ⟨t₁, t₂, ⟨opened, consumer⟩, rfl, h₁, h₂⟩ := Host.runs_bind_iff.1 h
    have hquiet : t₁.onDisk = [] := ((seeking_openChannel s).seeks h₁).meets.onDisk
    have hsought : Handled s t₁ { s with consumer } := .kept hquiet ⟨rfl, rfl, id⟩ rfl
    rcases opened with (fault | allowed) | writer
    · obtain ⟨t₃, t₄, ⟨i, s₁⟩, rfl, h₃, h₄⟩ := Host.runs_bind_iff.1 h₂
      exact hsought.append ((handled_of_fail h₃).append (handled_of_pure h₄))
    · exact hsought.append (handled_of_pure h₂)
    · obtain ⟨rfl, hv⟩ := Host.runs_pure_iff.1 h₂
      cases hv
      exact .kept (by simpa using hquiet) ⟨rfl, rfl, by simp⟩ rfl
  · exact handled_of_pure h

theorem Handed.quiet {record : Bytes} {x : Exchange} {d : Host.Delivery stoppable}
    (h : Handed stoppable record x d) : Trace.onDisk [x] = [] := by
  cases h <;> rfl

theorem handled_of_write {record : Bytes} {r : Except (Interruption stoppable) Unit}
    (h : Runs (s.write stoppable record) τ (r, s')) : Handled s τ s' := by
  rw [write] at h
  split at h
  · split at h
    · exact handled_of_pure h
    · obtain ⟨t₁, t₂, d, rfl, h₁, h₂⟩ := Host.runs_bind_iff.1 h
      obtain ⟨x, rfl, hx⟩ := runs_deliver h₁
      have hwritten : Handled s [x] s := .kept hx.quiet (Same.refl s) rfl
      cases d with
      | done =>
        obtain ⟨rfl, hv⟩ := Host.runs_pure_iff.1 h₂
        cases hv
        exact .kept hx.quiet ⟨rfl, rfl, id⟩ rfl
      | refused message =>
        obtain ⟨t₃, t₄, ⟨i, s₁⟩, rfl, h₃, h₄⟩ := Host.runs_bind_iff.1 h₂
        exact hwritten.append ((handled_of_fail h₃).append (handled_of_pure h₄))
      | stopped allowed => exact hwritten.append (handled_of_pure h₂)
  · exact handled_of_pure h

end

theorem handled_of_startConsumer {command : Command} {r : Except Fault Unit}
    (h : Runs (s.startConsumer command) τ (r, s')) : Handled s τ s' := by
  by_cases hstate : s.state = .pipeReady
  · rcases (startConsumer_cases h hstate).2 with ⟨process, -, rfl, rfl⟩ | ⟨f, -, rfl, hr⟩
    · exact .kept rfl ⟨rfl, rfl, by simp⟩ rfl
    · exact handled_emptied hr nofun
  · rw [startConsumer, if_neg hstate] at h
    exact handled_of_pure h

theorem handled_of_drain {r : Except Fault Step.SinkReport} (h : Runs s.drain τ (r, s')) :
    Handled s τ s' := by
  by_cases hstate : s.state = .draining
  · obtain ⟨hr, -, hend⟩ := (drained_of_runs h hstate).concluded
    cases hend with
    | closed stdout stderr => exact handled_emptied hr nofun
    | failed fault => exact handled_emptied hr nofun
  · rw [drain, if_neg hstate] at h
    exact handled_of_pure h

theorem handled_of_finish {r : Except Fault Step.SinkReport} (h : Runs s.finish τ (r, s')) :
    Handled s τ s' := by
  rw [finish] at h
  split at h
  · obtain ⟨t₁, t₂, ⟨opened, s₁⟩, rfl, h₁, h₂⟩ := Host.runs_bind_iff.1 h
    have hopened := handled_of_openWriter h₁
    rcases opened with (fault | ⟨⟨⟩⟩) | u
    · exact hopened.append (handled_of_pure h₂)
    · exact hopened.append (handled_of_drain h₂)
  · exact handled_of_drain h

theorem handled_of_abort (h : Runs s.abort τ s') : Handled s τ s' := by
  rcases abort_cases h with ⟨-, rfl, rfl⟩ | ⟨-, rfl, hr, -⟩
  · exact handled_refl s'
  · exact handled_emptied hr nofun

theorem removal_of_drop {u : Unit} (h : Runs s.drop τ u) : Removal s.channel τ.onDisk := by
  obtain ⟨t₁, t₂, u, rfl, h₁, h₂⟩ := Host.runs_bind_iff.1 h
  rw [dropChannel_eq] at h₁
  have hquiet : t₂.onDisk = [] := by
    refine onDisk_eq_nil ?_
    cases hc : s.consumer with
    | none =>
      simp only [hc] at h₂
      exact (mild_dropWriter _).notable_eq_nil h₂
    | some c =>
      simp only [hc] at h₂
      obtain ⟨u, t₃, rfl, h₃⟩ := Host.runs_send_bind_iff.1 h₂
      have hnil : Trace.notable t₃ = [] := (mild_dropWriter _).notable_eq_nil h₃
      exact hnil
  simpa [hquiet] using (runs_removeChannel h₁).1.onDisk

/-! ### What is done with a session -/

/-- What may be done with a session: an operation is called on it, also one that is cut short when
the program is to stop, or it is dropped. -/
inductive Act where
  | call (operation : Operation)
  | openUnlessStopped
  | writeUnlessStopped (record : Bytes)
  | drop

/-- The fault of a call that failed. -/
def failing : Outcome → Option Fault
  | .error fault => some fault
  | .ok _ => none

/-- The fault of an operation that failed and was not cut short. -/
def failingUnlessStopped {stoppable : Bool} :
    Except (Interruption stoppable) Unit → Option Fault
  | .error (.failed fault) => some fault
  | _ => none

/-- Does something with a session. What it comes to is a fault, if any, and the session unless it is
dropped. -/
def act (s : Session) : Act → Dialogue (Option Fault × Option Session)
  | .call operation => do
    let (r, s) ← s.perform operation
    pure (failing r, some s)
  | .openUnlessStopped => do
    let (r, s) ← s.openWriter true
    pure (failingUnlessStopped r, some s)
  | .writeUnlessStopped record => do
    let (r, s) ← s.write true record
    pure (failingUnlessStopped r, some s)
  | .drop => do
    s.drop
    pure (none, none)

/-- How anything that is done with a session may go about its pipe. -/
inductive Course (s : Session) : Trace → Option Fault × Option Session → Prop
  | handled {τ : Trace} {fault : Option Fault} {s' : Session} (handled : Handled s τ s') :
      Course s τ (fault, some s')
  | dropped {τ : Trace} (removal : Removal s.channel τ.onDisk) : Course s τ (none, none)
  | queued {capacity : Nat} (state : s.state = .created) :
      Course s [] (none, some { s with channel := some (.stdin capacity), state := .pipeReady })
  | made {directory : String} (name : Host.UniqueName) {path : String} (state : s.state = .created)
      (choice : s.settings.choice = .fifo directory)
      (named : path = pipePath directory s.step name) :
      Course s [⟨.uniqueName, name⟩, ⟨.makePipe path, Host.PipeCreation.made⟩]
        (none, some { s with channel := some (.fifo path), state := .pipeReady })
  | unmade {directory : String} (name : Host.UniqueName) {path : String}
      (answer : Host.PipeCreation) (state : s.state = .created)
      (choice : s.settings.choice = .fifo directory) (named : path = pipePath directory s.step name)
      (nothing : answer ≠ .made) :
      Course s [⟨.uniqueName, name⟩, ⟨.makePipe path, answer⟩]
        (some (pipeFault path answer), some { s with state := .failed })

theorem course_of_provision {r : Except Fault Unit} (h : Runs s.provision τ (r, s')) :
    Course s τ (failing (r.map fun _ => none), some s') := by
  by_cases hstate : s.state = .created
  · cases provisioned_of_runs h hstate with
    | stdin choice => exact .queued hstate
    | made name choice named => exact .made name hstate choice named
    | unmade name answer choice named nothing asked =>
      rcases asked with rfl | rfl
      · exact .handled (.kept rfl ⟨rfl, rfl, by simp⟩ rfl)
      · exact .unmade name answer hstate choice named nothing
  · rw [provision, if_neg hstate] at h
    exact .handled (handled_of_pure h)

theorem course_of_perform {operation : Operation} {r : Outcome}
    (h : Runs (s.perform operation) τ (r, s')) : Course s τ (failing r, some s') := by
  cases operation with
  | provision =>
    obtain ⟨a, h₁, rfl⟩ := runs_told_iff.1 h
    exact course_of_provision h₁
  | startConsumer command =>
    obtain ⟨a, h₁, rfl⟩ := runs_told_iff.1 h
    exact .handled (handled_of_startConsumer h₁)
  | openWriter =>
    obtain ⟨a, h₁, rfl⟩ := runs_told_iff.1 h
    exact .handled (handled_of_openWriter h₁)
  | write record =>
    obtain ⟨a, h₁, rfl⟩ := runs_told_iff.1 h
    exact .handled (handled_of_write h₁)
  | finish =>
    obtain ⟨a, h₁, rfl⟩ := runs_told_iff.1 h
    exact .handled (handled_of_finish h₁)
  | abort =>
    obtain ⟨t₁, t₂, s₁, rfl, h₁, h₂⟩ := Host.runs_bind_iff.1 h
    obtain ⟨rfl, hv⟩ := Host.runs_pure_iff.1 h₂
    cases hv
    rw [List.append_nil]
    exact .handled (handled_of_abort h₁)

theorem course_of_act {a : Act} {v : Option Fault × Option Session} (h : Runs (s.act a) τ v) :
    Course s τ v := by
  cases a with
  | call operation =>
    obtain ⟨t₁, t₂, ⟨r, s₁⟩, rfl, h₁, h₂⟩ := Host.runs_bind_iff.1 h
    obtain ⟨rfl, rfl⟩ := Host.runs_pure_iff.1 h₂
    rw [List.append_nil]
    exact course_of_perform h₁
  | openUnlessStopped =>
    obtain ⟨t₁, t₂, ⟨r, s₁⟩, rfl, h₁, h₂⟩ := Host.runs_bind_iff.1 h
    obtain ⟨rfl, rfl⟩ := Host.runs_pure_iff.1 h₂
    rw [List.append_nil]
    exact .handled (handled_of_openWriter h₁)
  | writeUnlessStopped record =>
    obtain ⟨t₁, t₂, ⟨r, s₁⟩, rfl, h₁, h₂⟩ := Host.runs_bind_iff.1 h
    obtain ⟨rfl, rfl⟩ := Host.runs_pure_iff.1 h₂
    rw [List.append_nil]
    exact .handled (handled_of_write h₁)
  | drop =>
    obtain ⟨t₁, t₂, u, rfl, h₁, h₂⟩ := Host.runs_bind_iff.1 h
    obtain ⟨rfl, rfl⟩ := Host.runs_pure_iff.1 h₂
    rw [List.append_nil]
    exact .dropped (removal_of_drop h₁)

/-! ### What a session does about its pipe in all its life -/

/-- What a session has done on the disk, and the pipe that it has for it. -/
inductive Deeds : Trace → Option String → Prop
  | nothing : Deeds [] none
  | unmade (path : String) {answer : Host.PipeCreation} (nothing : answer ≠ .made) :
      Deeds [⟨.makePipe path, answer⟩] none
  | made (path : String) : Deeds [⟨.makePipe path, Host.PipeCreation.made⟩] (some path)
  | removed (path : String) (answer : Except String Unit) :
      Deeds [⟨.makePipe path, Host.PipeCreation.made⟩, ⟨.remove path, answer⟩] none

namespace Deeds

variable {δ ρ : Trace} {pipe : Option String} {path : String}

theorem eq_none (h : Deeds [] pipe) : pipe = none := by
  cases h
  rfl

theorem eq_made (h : Deeds δ (some path)) : δ = [⟨.makePipe path, Host.PipeCreation.made⟩] := by
  cases h
  rfl

theorem removal {channel : Option Channel} (h : Deeds δ (channel.bind Channel.path?))
    (hr : Removal channel ρ) : Deeds (δ ++ ρ) none := by
  cases hr with
  | pipe path answer =>
    rw [eq_made h]
    exact .removed path answer
  | stdin capacity =>
    rw [List.append_nil]
    exact h
  | none =>
    rw [List.append_nil]
    exact h

theorem of_isPrefix {part : Trace} (h : Deeds δ pipe) (hp : part <+: δ) :
    ∃ pipe', Deeds part pipe' := by
  cases h with
  | nothing =>
    rw [List.prefix_nil.1 hp]
    exact ⟨none, .nothing⟩
  | unmade path nothing =>
    rcases List.prefix_cons_iff.1 hp with rfl | ⟨rest, rfl, hrest⟩
    · exact ⟨none, .nothing⟩
    · rw [List.prefix_nil.1 hrest]
      exact ⟨none, .unmade path nothing⟩
  | made path =>
    rcases List.prefix_cons_iff.1 hp with rfl | ⟨rest, rfl, hrest⟩
    · exact ⟨none, .nothing⟩
    · rw [List.prefix_nil.1 hrest]
      exact ⟨some path, .made path⟩
  | removed path answer =>
    rcases List.prefix_cons_iff.1 hp with rfl | ⟨rest, rfl, hrest⟩
    · exact ⟨none, .nothing⟩
    · rcases List.prefix_cons_iff.1 hrest with rfl | ⟨rest', rfl, hrest'⟩
      · exact ⟨some path, .made path⟩
      · rw [List.prefix_nil.1 hrest']
        exact ⟨none, .removed path answer⟩

theorem not_mem_remove {q : String} {answer : Except String Unit} (h : Deeds δ pipe)
    (hmem : ⟨.makePipe path, Host.PipeCreation.taken⟩ ∈ δ) : ⟨.remove q, answer⟩ ∉ δ := by
  cases h with
  | nothing => cases hmem
  | unmade path' nothing => simp
  | made path' => simp
  | removed path' answer' => simp at hmem

end Deeds

/-- All that was done on the disk is that the pipe was made. -/
def Holds (τ : Trace) (path : String) : Prop :=
  τ.onDisk = [⟨.makePipe path, Host.PipeCreation.made⟩]

/-- The pipe was made, and the host would not remove it. -/
def Leaves (τ : Trace) (path : String) : Prop :=
  ∃ message, τ.onDisk =
    [⟨.makePipe path, Host.PipeCreation.made⟩, ⟨.remove path, Except.error message⟩]

/-- No pipe is held, and none is left. -/
def Pipeless (τ : Trace) : Prop := ∀ path, ¬Holds τ path ∧ ¬Leaves τ path

section
variable {path path' : String}

theorem holds_iff_of_deeds {pipe : Option String} (h : Deeds τ.onDisk pipe) :
    pipe = some path ↔ Holds τ path := by
  constructor
  · rintro rfl
    exact h.eq_made
  · intro hholds
    rw [Holds] at hholds
    rw [hholds] at h
    cases h with
    | unmade path nothing => exact absurd rfl nothing
    | made path => rfl

theorem Holds.eq (h : Holds τ path) (h' : Holds τ path') : path' = path := by
  rw [Holds] at h h'
  rw [h] at h'
  cases h'
  rfl

theorem Holds.not_leaves (h : Holds τ path) : ¬Leaves τ path' := by
  rintro ⟨message, hleaves⟩
  rw [h] at hleaves
  cases hleaves

theorem pipeless_of_onDisk (h : τ.onDisk = []) : Pipeless τ := by
  intro path
  constructor
  · intro hholds
    rw [Holds, h] at hholds
    cases hholds
  · rintro ⟨message, hleaves⟩
    rw [h] at hleaves
    cases hleaves

end

/-- A session for a step and with settings, behind all that was exchanged for it. -/
structure Fits (step : String) (settings : Settings) (τ : Trace) (s : Session) : Prop where
  step_eq : s.step = step
  settings_eq : s.settings = settings
  deeds : Deeds τ.onDisk s.pipePath?
  idle : s.state = .created → τ.onDisk = []

variable {step : String} {settings : Settings} {ρ : Trace}

theorem fits_fresh (step : String) (settings : Settings) :
    Fits step settings [] (fresh step settings) :=
  ⟨rfl, rfl, .nothing, fun _ => rfl⟩

theorem Fits.onDisk_drawn (h : Fits step settings τ s) (hs : s.state = .created)
    (name : Host.UniqueName) : Trace.onDisk (τ ++ [⟨.uniqueName, name⟩]) = [] := by
  rw [Trace.onDisk_append, h.idle hs]
  rfl

theorem Course.fits {fault : Option Fault} (h : Course s ρ (fault, some s'))
    (hs : Fits step settings τ s) : Fits step settings (τ ++ ρ) s' := by
  obtain ⟨hstep, hsettings, hdeeds, hidle⟩ := hs
  cases h with
  | handled handled =>
    cases handled with
    | kept quiet same channel =>
      refine ⟨same.step.trans hstep, same.settings.trans hsettings, ?_, fun hc => ?_⟩
      · simpa [quiet, pipePath?, channel] using hdeeds
      · simpa [quiet] using hidle (same.begun hc)
    | emptied removal same channel ended =>
      refine ⟨same.step.trans hstep, same.settings.trans hsettings, ?_, fun hc => absurd hc ended⟩
      rw [Trace.onDisk_append, pipePath?, channel]
      exact hdeeds.removal removal
  | queued state =>
    refine ⟨hstep, hsettings, ?_, by simp⟩
    rw [List.append_nil, hidle state]
    exact .nothing
  | made name state choice named =>
    refine ⟨hstep, hsettings, ?_, by simp⟩
    rw [Trace.onDisk_append, hidle state]
    exact .made _
  | unmade name answer state choice named nothing =>
    refine ⟨hstep, hsettings, ?_, by simp⟩
    rw [hidle state] at hdeeds
    show Deeds _ s.pipePath?
    rw [Trace.onDisk_append, hidle state, hdeeds.eq_none]
    exact .unmade _ nothing

theorem Course.deeds_of_dropped {fault : Option Fault} (h : Course s ρ (fault, none))
    (hs : Fits step settings τ s) : Deeds (τ ++ ρ).onDisk none := by
  cases h with
  | dropped removal =>
    rw [Trace.onDisk_append]
    exact hs.deeds.removal removal

/-- How far a session has come: something is done with one that fits what was exchanged before, and
in the end it will have been done in one of the ways in which it may be. -/
inductive Stage (step : String) (settings : Settings) :
    Trace → Dialogue (Option Fault × Option Session) → Prop
  | acting {τ ρ : Trace} {s : Session} {d : Dialogue (Option Fault × Option Session)}
      (fits : Fits step settings τ s) (course : ∀ σ v, Runs d σ v → Course s (ρ ++ σ) v) :
      Stage step settings (τ ++ ρ) d

/-- What a session may ask for next, behind a trace, and how it goes on. A pipe is removed only if
it was made before, and that is all that was done until then. -/
inductive Asks (step : String) (settings : Settings) (τ : Trace) :
    Exchange → Dialogue (Option Fault × Option Session) → Prop
  | quiet {x : Exchange} {d : Dialogue (Option Fault × Option Session)}
      (offDisk : x.request.isOnDisk = false) : Asks step settings τ x d
  | make {directory : String} {name : Host.UniqueName} {path : String}
      {answer : Host.PipeCreation} {d : Dialogue (Option Fault × Option Session)}
      (choice : settings.choice = .fifo directory) (drawn : ⟨.uniqueName, name⟩ ∈ τ)
      (named : path = pipePath directory step name) (before : τ.onDisk = [])
      (fails : answer ≠ .made → ∃ s', s'.state = .failed ∧
        d = .done (some (pipeFault path answer), some s')) :
      Asks step settings τ ⟨.makePipe path, answer⟩ d
  | remove {path : String} {answer : Except String Unit}
      {d : Dialogue (Option Fault × Option Session)}
      (before : τ.onDisk = [⟨.makePipe path, Host.PipeCreation.made⟩]) :
      Asks step settings τ ⟨.remove path, answer⟩ d

namespace Stage

variable {d : Dialogue (Option Fault × Option Session)} {fault : Option Fault}
  {r : Host.Request} {next : r.Answer → Dialogue (Option Fault × Option Session)}

theorem start (step : String) (settings : Settings) :
    Stage step settings [] (.done (none, some (fresh step settings))) := by
  refine .acting (ρ := []) (fits_fresh step settings) fun σ v h => ?_
  obtain ⟨rfl, rfl⟩ := Host.runs_done_iff.1 h
  exact .handled (handled_refl _)

theorem begin (h : Fits step settings τ s) (a : Act) : Stage step settings τ (s.act a) := by
  rw [← List.append_nil τ]
  exact .acting h fun σ v hσ => course_of_act hσ

theorem fits (h : Stage step settings τ (.done (fault, some s))) : Fits step settings τ s := by
  cases h with
  | @acting τ ρ s₀ d fits course =>
    have hcourse := course [] _ (.done _)
    rw [List.append_nil] at hcourse
    exact hcourse.fits fits

theorem answered (h : Stage step settings τ (.ask r next)) (answer : r.Answer) :
    Stage step settings (τ ++ [⟨r, answer⟩]) (next answer) := by
  cases h with
  | @acting τ ρ s₀ d fits course =>
    rw [List.append_assoc]
    refine .acting fits fun σ v hσ => ?_
    rw [List.append_assoc]
    exact course _ v (.ask answer hσ)

theorem deeds (h : Stage step settings τ d) : ∃ pipe, Deeds τ.onDisk pipe := by
  cases h with
  | @acting τ ρ s₀ d fits course =>
    -- What was done so far is a first part of what will have been done.
    obtain ⟨σ, ⟨fault, s'⟩, hσ⟩ := Host.exists_runs d
    have hcourse := course σ _ hσ
    have hdeeds : ∃ pipe, Deeds (τ ++ (ρ ++ σ)).onDisk pipe := by
      cases s' with
      | none => exact ⟨none, hcourse.deeds_of_dropped fits⟩
      | some s' => exact ⟨_, (hcourse.fits fits).deeds⟩
    obtain ⟨pipe, hdeeds⟩ := hdeeds
    rw [← List.append_assoc, Trace.onDisk_append] at hdeeds
    exact hdeeds.of_isPrefix (List.prefix_append _ _)

theorem deeds_of_dropped (h : Stage step settings τ (.done (fault, none))) :
    Deeds τ.onDisk none := by
  cases h with
  | @acting τ ρ s₀ d fits course =>
    have hcourse := course [] _ (.done _)
    rw [List.append_nil] at hcourse
    exact hcourse.deeds_of_dropped fits

/-- A trace that does one thing on the disk does it at the exchange at hand, or not there. -/
theorem onDisk_singleton {ρ σ : Trace} {x e : Exchange} (h : (ρ ++ x :: σ).onDisk = [e]) :
    x.request.isOnDisk = false ∨ (x = e ∧ ρ.onDisk = []) := by
  rw [Trace.onDisk_append, Trace.onDisk_cons] at h
  cases hx : x.request.isOnDisk with
  | false => exact .inl rfl
  | true =>
    rw [hx, if_pos rfl] at h
    obtain ⟨hρ, hrest⟩ := List.append_eq_singleton_iff.1 h |>.resolve_right (by simp)
    exact .inr ⟨(List.cons.inj hrest).1, hρ⟩

theorem asks_of_removal {channel : Option Channel} {ρ σ : Trace} {x : Exchange}
    (hr : Removal channel (ρ ++ x :: σ).onDisk) (h : Deeds τ.onDisk (channel.bind Channel.path?)) :
    Asks step settings (τ ++ ρ) x d := by
  generalize hδ : (ρ ++ x :: σ).onDisk = δ at hr
  cases hr with
  | pipe path answer =>
    rcases onDisk_singleton hδ with hquiet | ⟨rfl, hρ⟩
    · exact .quiet hquiet
    · refine .remove ?_
      rw [Trace.onDisk_append, hρ, List.append_nil]
      exact h.eq_made
  | stdin capacity =>
    rw [Trace.onDisk, List.filter_eq_nil_iff] at hδ
    exact .quiet (by simpa using hδ x (by simp))
  | none =>
    rw [Trace.onDisk, List.filter_eq_nil_iff] at hδ
    exact .quiet (by simpa using hδ x (by simp))

theorem eq_done_of_runs {v : Option Fault × Option Session} (h : Runs d [] v) : d = .done v := by
  cases h
  rfl

theorem pair_cases {ρ σ : Trace} {x y z : Exchange} (h : ρ ++ x :: σ = [y, z]) :
    x = y ∨ (x = z ∧ ρ = [y] ∧ σ = []) := by
  cases ρ with
  | nil => exact .inl (List.cons.inj h).1
  | cons y' ρ =>
    obtain ⟨rfl, hrest⟩ := List.cons.inj h
    obtain ⟨rfl, hlast⟩ := List.append_eq_singleton_iff.1 hrest |>.resolve_right (by simp)
    obtain ⟨rfl, rfl⟩ := List.cons.inj hlast
    exact .inr ⟨rfl, rfl, rfl⟩

theorem asks (h : Stage step settings τ (.ask r next)) (answer : r.Answer) :
    Asks step settings τ ⟨r, answer⟩ (next answer) := by
  cases h with
  | @acting τ ρ s₀ d fits course =>
    -- Some run goes on from this answer, and the whole of it is one of the courses.
    obtain ⟨σ, v, hσ⟩ := Host.exists_runs (next answer)
    have hcourse := course _ v (.ask answer hσ)
    generalize next answer = d at hσ
    generalize hx : Exchange.mk r answer = x at hcourse
    generalize hθ : ρ ++ x :: σ = θ at hcourse
    cases hcourse with
    | handled handled =>
      subst hθ
      cases handled with
      | kept quiet same channel =>
        rw [Trace.onDisk, List.filter_eq_nil_iff] at quiet
        exact .quiet (by simpa using quiet x (by simp))
      | emptied removal same channel ended => exact asks_of_removal removal fits.deeds
    | dropped removal =>
      subst hθ
      exact asks_of_removal removal fits.deeds
    | queued state => simp at hθ
    | made name state choice named =>
      rcases pair_cases hθ with rfl | ⟨rfl, rfl, rfl⟩
      · exact .quiet rfl
      · rw [fits.settings_eq] at choice
        rw [fits.step_eq] at named
        have hbefore := fits.onDisk_drawn state name
        exact .make choice (by simp) named hbefore fun hmade => absurd rfl hmade
    | unmade name answer' state choice named nothing =>
      rcases pair_cases hθ with rfl | ⟨rfl, rfl, rfl⟩
      · exact .quiet rfl
      · rw [fits.settings_eq] at choice
        rw [fits.step_eq] at named
        have hbefore := fits.onDisk_drawn state name
        exact .make choice (by simp) named hbefore fun _ => ⟨_, rfl, eq_done_of_runs hσ⟩

end Stage

end Session
end Sink
end BulkLoad
