import BulkLoad.Host.Dialogue

/-!
Traces of dialogues: the requests of a run with their answers, in order. A run of two dialogues one
after the other has a trace in two parts, so what a trace may hold is found one function at a time.
Every reachable state of a dialogue lies on the way of a whole run.
-/

namespace BulkLoad.Host

/-- A request with its answer. -/
structure Exchange where
  request : Request
  answer : request.Answer

/-- The exchanges of a run, in order. -/
abbrev Trace := List Exchange

variable {α β σ : Type}

/-- The dialogue comes to its end with a value, after the exchanges of a trace. -/
inductive Runs : Dialogue α → Trace → α → Prop
  | done (a : α) : Runs (.done a) [] a
  | ask {r : Request} {next : r.Answer → Dialogue α} (answer : r.Answer) {t : Trace} {a : α}
      (rest : Runs (next answer) t a) : Runs (.ask r next) (⟨r, answer⟩ :: t) a

/-- The dialogue gets as far as the exchanges of a trace. -/
inductive Reaches : Dialogue α → Trace → Prop
  | here (d : Dialogue α) : Reaches d []
  | ask {r : Request} {next : r.Answer → Dialogue α} (answer : r.Answer) {t : Trace}
      (rest : Reaches (next answer) t) : Reaches (.ask r next) (⟨r, answer⟩ :: t)

theorem runs_done_iff {a b : α} {t : Trace} : Runs (.done a) t b ↔ t = [] ∧ b = a := by
  constructor
  · intro h
    cases h
    exact ⟨rfl, rfl⟩
  · rintro ⟨rfl, rfl⟩
    exact .done _

theorem runs_pure_iff {a b : α} {t : Trace} :
    Runs (pure a : Dialogue α) t b ↔ t = [] ∧ b = a :=
  runs_done_iff

theorem runs_ask_iff {r : Request} {next : r.Answer → Dialogue α} {t : Trace} {a : α} :
    Runs (.ask r next) t a ↔
      ∃ answer rest, t = ⟨r, answer⟩ :: rest ∧ Runs (next answer) rest a := by
  constructor
  · intro h
    cases h with
    | ask answer rest => exact ⟨answer, _, rfl, rest⟩
  · rintro ⟨answer, rest, rfl, h⟩
    exact .ask answer h

theorem runs_send_iff {r : Request} {t : Trace} {a : r.Answer} :
    Runs r.send t a ↔ t = [⟨r, a⟩] := by
  rw [Request.send, runs_ask_iff]
  constructor
  · rintro ⟨answer, rest, rfl, h⟩
    obtain ⟨rfl, rfl⟩ := runs_done_iff.1 h
    rfl
  · rintro rfl
    exact ⟨a, [], rfl, .done a⟩

/-- A run of two dialogues is a run of the first and then a run of the second. -/
theorem runs_bind_iff {d : Dialogue α} {f : α → Dialogue β} {t : Trace} {b : β} :
    Runs (d >>= f) t b ↔ ∃ t₁ t₂ a, t = t₁ ++ t₂ ∧ Runs d t₁ a ∧ Runs (f a) t₂ b := by
  induction d generalizing t with
  | done a =>
    constructor
    · intro h
      exact ⟨[], t, a, rfl, .done a, h⟩
    · rintro ⟨t₁, t₂, a', rfl, h₁, h₂⟩
      obtain ⟨rfl, rfl⟩ := runs_done_iff.1 h₁
      exact h₂
  | ask r next ih =>
    show Runs (.ask r fun answer => next answer >>= f) t b ↔ _
    rw [runs_ask_iff]
    constructor
    · rintro ⟨answer, rest, rfl, h⟩
      obtain ⟨t₁, t₂, a, rfl, h₁, h₂⟩ := (ih answer).1 h
      exact ⟨⟨r, answer⟩ :: t₁, t₂, a, rfl, .ask answer h₁, h₂⟩
    · rintro ⟨t₁, t₂, a, rfl, h₁, h₂⟩
      obtain ⟨answer, rest, rfl, h⟩ := runs_ask_iff.1 h₁
      exact ⟨answer, rest ++ t₂, rfl, (ih answer).2 ⟨rest, t₂, a, rfl, h, h₂⟩⟩

theorem runs_send_bind_iff {r : Request} {f : r.Answer → Dialogue β} {t : Trace} {b : β} :
    Runs (r.send >>= f) t b ↔ ∃ answer rest, t = ⟨r, answer⟩ :: rest ∧ Runs (f answer) rest b :=
  runs_ask_iff

/-- Running against a host is a run. -/
theorem runs_run (host : (r : Request) → σ → r.Answer × σ) (d : Dialogue α) (state : σ) :
    ∃ t, Runs d t (d.run host state).1 := by
  induction d generalizing state with
  | done a => exact ⟨[], .done a⟩
  | ask r next ih =>
    obtain ⟨t, h⟩ := ih (host r state).1 (host r state).2
    exact ⟨⟨r, (host r state).1⟩ :: t, .ask _ h⟩

/-- An answer that the host may give. -/
def someAnswer : (r : Request) → r.Answer
  | .environment _ => ([] : List (String × String))
  | .localTime => (⟨1970, 1, 1, 0, 0, 0, 0⟩ : Instant.Fields)
  | .clock => (0 : Nat)
  | .readFile _ => Except.error ""
  | .createFile _ => Creation.taken
  | .append .. => Delivery.done
  | .closeFile _ => Except.ok ()
  | .dropFile _ => ()
  | .remove _ => Except.ok ()
  | .uniqueName => (default : UniqueName)
  | .makePipe _ => PipeCreation.made
  | .openPipe _ => Opening.noReader
  | .writePipe .. => Delivery.done
  | .closePipe _ => ()
  | .start .. => Except.error ""
  | .openQueue .. => (default : Handle)
  | .enqueue .. => Handover.taken
  | .closeQueue _ => Except.ok ()
  | .dropQueue _ => ()
  | .exitStatus _ => Except.ok none
  | .awaitExit .. => Waiting.over Ending.running
  | .terminate _ => ()
  | .kill .. => Waiting.over none
  | .collect .. => Waiting.over (default : Said)
  | .dropProcess _ => ()
  | .pause .. => Pause.elapsed
  | .stopRequested => false
  | .pull => Pause.elapsed

/-- Every dialogue has a run. -/
theorem exists_runs (d : Dialogue α) : ∃ t a, Runs d t a := by
  induction d with
  | done a => exact ⟨[], a, .done a⟩
  | ask r next ih =>
    obtain ⟨t, a, h⟩ := ih (someAnswer r)
    exact ⟨_, a, .ask _ h⟩

/-- However far a dialogue gets, it is on the way of a whole run. -/
theorem Reaches.extends {d : Dialogue α} {p : Trace} (h : Reaches d p) :
    ∃ t a, p <+: t ∧ Runs d t a := by
  induction h with
  | here d =>
    obtain ⟨t, a, h⟩ := exists_runs d
    exact ⟨t, a, List.nil_prefix, h⟩
  | ask answer _ ih =>
    obtain ⟨t, a, hp, h⟩ := ih
    exact ⟨_, a, List.cons_prefix_cons.2 ⟨rfl, hp⟩, .ask answer h⟩

end BulkLoad.Host
