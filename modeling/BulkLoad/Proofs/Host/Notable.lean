import BulkLoad.Proofs.Host.Trace

/-!
The exchanges of a trace that matter to others: they change files, hand on bytes, open channels,
take rows, or ask whether to stop. All others concern processes, ends of channels and time. Told to
stop, a dialogue may still do the latter, but nothing that belongs to the rows.
-/

namespace BulkLoad.Host

/-- The request changes no files, hands on no bytes, opens no channel, takes no row and does not
ask whether to stop. -/
def Request.isMild : Request → Bool
  | .createFile _ | .append .. | .remove _ | .makePipe _ | .openPipe _ | .writePipe ..
  | .openQueue .. | .enqueue .. | .stopRequested | .pull => false
  | _ => true

/-- The request opens a channel to a consumer. -/
def Request.isOpening : Request → Bool
  | .openPipe _ | .openQueue .. => true
  | _ => false

/-- The request is mild or opens a channel. -/
def Request.isMeeting (r : Request) : Bool := r.isMild || r.isOpening

/-- The request looks after a process that was started. -/
def Request.isTending : Request → Bool
  | .exitStatus _ | .awaitExit .. | .terminate _ | .kill .. | .collect .. | .dropProcess _ => true
  | _ => false

/-- The request is part of the search for somebody who takes up a channel. -/
def Request.isSeeking : Request → Bool
  | .openPipe _ | .openQueue .. | .exitStatus _ | .pause .. => true
  | _ => false

theorem isMild_of_isTending {r : Request} (h : r.isTending = true) : r.isMild = true := by
  cases r <;> first | rfl | cases h

theorem isMeeting_of_isSeeking {r : Request} (h : r.isSeeking = true) : r.isMeeting = true := by
  cases r <;> first | rfl | cases h

/-- The request belongs to the rows: it is one that a request to stop forbids. -/
def Request.isActive : Request → Bool
  | .append true .. | .writePipe true .. | .enqueue true .. | .stopRequested | .pull => true
  | _ => false

/-- The wait was cut short. -/
def Waiting.isStopped {stoppable : Bool} {α : Type} : Waiting stoppable α → Bool
  | .over _ => false
  | .stopped _ => true

/-- The pause was cut short. -/
def Pause.isStopped {stoppable : Bool} : Pause stoppable → Bool
  | .elapsed => false
  | .stopped _ => true

/-- The write was cut short. -/
def Delivery.isStopped {stoppable : Bool} : Delivery stoppable → Bool
  | .stopped _ => true
  | _ => false

/-- The wait for space was cut short. -/
def Handover.isStopped {stoppable : Bool} : Handover stoppable → Bool
  | .stopped _ => true
  | _ => false

/-- The answer tells the program that it is to stop. -/
def Exchange.tellsStop : Exchange → Bool
  | ⟨.stopRequested, answer⟩ => (answer : Bool)
  | ⟨.pull, answer⟩ => @Pause.isStopped true answer
  | ⟨.append s _ _, answer⟩ => @Delivery.isStopped s answer
  | ⟨.writePipe s _ _, answer⟩ => @Delivery.isStopped s answer
  | ⟨.enqueue s _ _, answer⟩ => @Handover.isStopped s answer
  | ⟨.awaitExit s _ _, answer⟩ => @Waiting.isStopped s Ending answer
  | ⟨.kill s _, answer⟩ => @Waiting.isStopped s (Option ExitStatus) answer
  | ⟨.collect s _ _, answer⟩ => @Waiting.isStopped s Said answer
  | ⟨.pause s _, answer⟩ => @Pause.isStopped s answer
  | _ => false

/-- A pipe was opened. -/
def Opening.isOpened : Opening → Bool
  | .opened _ => true
  | _ => false

/-- A consumer has taken up the channel. -/
def Exchange.takesUp : Exchange → Bool
  | ⟨.openPipe _, answer⟩ => @Opening.isOpened answer
  | ⟨.openQueue .., _⟩ => true
  | _ => false

/-- Where bytes are handed to. -/
inductive Port where
  | file
  | channel
  deriving DecidableEq, Repr

/-- Bytes handed on by one exchange. -/
structure Parcel where
  port : Port
  bytes : Bytes
  /-- The bytes are a record of a row, and not what stands before the rows. -/
  ofRow : Bool
  /-- The host took all of the bytes. -/
  whole : Bool
  deriving DecidableEq

/-- All of the bytes were written. -/
def Delivery.isDone {stoppable : Bool} : Delivery stoppable → Bool
  | .done => true
  | _ => false

/-- The record is in the queue. -/
def Handover.isTaken {stoppable : Bool} : Handover stoppable → Bool
  | .taken => true
  | _ => false

/-- The bytes that an exchange hands on; only records are handed on by requests that may be
stopped. -/
def Exchange.parcel? : Exchange → Option Parcel
  | ⟨.append s _ bytes, answer⟩ => some ⟨.file, bytes, s, @Delivery.isDone s answer⟩
  | ⟨.writePipe s _ bytes, answer⟩ => some ⟨.channel, bytes, s, @Delivery.isDone s answer⟩
  | ⟨.enqueue s _ bytes, answer⟩ => some ⟨.channel, bytes, s, @Handover.isTaken s answer⟩
  | _ => none

/-- What a trace hands on, in order. -/
def Trace.parcels (t : Trace) : List Parcel := t.filterMap Exchange.parcel?

/-- The exchanges of a trace that matter to others. -/
def Trace.notable (t : Trace) : Trace := t.filter fun x => !x.request.isMild

namespace Trace

@[simp] theorem notable_append (t u : Trace) : notable (t ++ u) = notable t ++ notable u :=
  List.filter_append t u

theorem notable_eq_nil_iff {t : Trace} : notable t = [] ↔ ∀ x ∈ t, x.request.isMild = true := by
  simp [notable]

@[simp] theorem parcels_nil : parcels [] = [] := rfl

@[simp] theorem parcels_append (t u : Trace) : parcels (t ++ u) = parcels t ++ parcels u :=
  List.filterMap_append

/-- The trace hands on no bytes, does nothing that belongs to the rows, and finds no consumer that
takes up a channel. -/
def Still (t : Trace) : Prop :=
  ∀ x ∈ t, x.parcel? = none ∧ x.request.isActive = false ∧ x.takesUp = false

@[simp] theorem still_nil : Still [] := nofun

@[simp] theorem still_cons {x : Exchange} {t : Trace} :
    Still (x :: t) ↔
      (x.parcel? = none ∧ x.request.isActive = false ∧ x.takesUp = false) ∧ Still t :=
  List.forall_mem_cons

@[simp] theorem still_append {t u : Trace} : Still (t ++ u) ↔ Still t ∧ Still u :=
  List.forall_mem_append

theorem still_of_isMild {x : Exchange} (h : x.request.isMild = true) :
    x.parcel? = none ∧ x.request.isActive = false ∧ x.takesUp = false := by
  obtain ⟨r, answer⟩ := x
  cases r <;> first | exact ⟨rfl, rfl, rfl⟩ | cases h

/-- Only notable exchanges hand on bytes, belong to the rows or open a channel. -/
theorem still_of_notable {t : Trace} (h : t.notable.Still) : t.Still := by
  intro x hx
  cases hm : x.request.isMild with
  | true => exact still_of_isMild hm
  | false => exact h x (List.mem_filter.2 ⟨hx, by simp [hm]⟩)

theorem still_of_notable_eq_nil {t : Trace} (h : t.notable = []) : t.Still :=
  still_of_notable (h ▸ still_nil)

theorem Still.parcels {t : Trace} (h : t.Still) : t.parcels = [] := by
  rw [Trace.parcels, List.filterMap_eq_nil_iff]
  exact fun x hx => (h x hx).1

/-- No consumer takes up a channel. -/
def Unmet (t : Trace) : Prop := ∀ x ∈ t, x.takesUp = false

theorem Still.unmet {t : Trace} (h : t.Still) : t.Unmet := fun x hx => (h x hx).2.2

@[simp] theorem unmet_nil : Unmet [] := nofun

@[simp] theorem unmet_cons {x : Exchange} {t : Trace} :
    Unmet (x :: t) ↔ x.takesUp = false ∧ Unmet t :=
  List.forall_mem_cons

theorem unmet_singleton {x : Exchange} : Unmet [x] ↔ x.takesUp = false :=
  List.forall_mem_singleton

@[simp] theorem unmet_append {t u : Trace} : Unmet (t ++ u) ↔ Unmet t ∧ Unmet u :=
  List.forall_mem_append

/-- The trace does nothing notable but try to open a channel. -/
def Meets (t : Trace) : Prop := ∀ x ∈ t, x.request.isMeeting = true

@[simp] theorem meets_append {t u : Trace} : Meets (t ++ u) ↔ Meets t ∧ Meets u :=
  List.forall_mem_append

theorem meets_of_notable_eq_nil {t : Trace} (h : t.notable = []) : t.Meets := by
  intro x hx
  rw [Request.isMeeting, notable_eq_nil_iff.1 h x hx]
  rfl

theorem idle_of_isMeeting {x : Exchange} (h : x.request.isMeeting = true) :
    x.parcel? = none ∧ x.request.isActive = false := by
  obtain ⟨r, answer⟩ := x
  cases r <;> first | exact ⟨rfl, rfl⟩ | cases h

theorem Meets.parcels {t : Trace} (h : t.Meets) : t.parcels = [] := by
  rw [Trace.parcels, List.filterMap_eq_nil_iff]
  exact fun x hx => (idle_of_isMeeting (h x hx)).1

theorem Meets.still {t : Trace} (h : t.Meets) (hu : t.Unmet) : t.Still := by
  intro x hx
  obtain ⟨hparcel, hactive⟩ := idle_of_isMeeting (h x hx)
  exact ⟨hparcel, hactive, hu x hx⟩

/-- The trace does nothing but look after processes. -/
def Tends (t : Trace) : Prop := ∀ x ∈ t, x.request.isTending = true

/-- The trace does nothing but seek somebody who takes up a channel. -/
def Seeks (t : Trace) : Prop := ∀ x ∈ t, x.request.isSeeking = true

theorem Seeks.meets {t : Trace} (h : t.Seeks) : t.Meets :=
  fun x hx => isMeeting_of_isSeeking (h x hx)

/-- Nothing in the trace tells the program to stop. -/
def Calm (t : Trace) : Prop := ∀ x ∈ t, x.tellsStop = false

@[simp] theorem calm_nil : Calm [] := nofun

@[simp] theorem calm_cons {x : Exchange} {t : Trace} :
    Calm (x :: t) ↔ x.tellsStop = false ∧ Calm t :=
  List.forall_mem_cons

theorem calm_singleton {x : Exchange} : Calm [x] ↔ x.tellsStop = false :=
  List.forall_mem_singleton

@[simp] theorem calm_append {t u : Trace} : Calm (t ++ u) ↔ Calm t ∧ Calm u :=
  List.forall_mem_append

end Trace

variable {α β : Type}

/-- Every run of the dialogue ends with such a value. -/
def Always (p : α → Prop) (d : Dialogue α) : Prop := ∀ t a, Runs d t a → p a

theorem always_pure {p : α → Prop} {a : α} (h : p a) : Always p (pure a) := by
  intro t b hb
  obtain ⟨-, rfl⟩ := runs_pure_iff.1 hb
  exact h

theorem always_bind {p : β → Prop} {d : Dialogue α} {f : α → Dialogue β}
    (h : ∀ a, Always p (f a)) : Always p (d >>= f) := by
  intro t b hb
  obtain ⟨t₁, t₂, a, -, -, h₂⟩ := runs_bind_iff.1 hb
  exact h a t₂ b h₂

/-- The dialogue puts only such requests; told to stop, it ends with such a value. -/
def Keeps (p : Request → Bool) (stops : α → Prop) (d : Dialogue α) : Prop :=
  ∀ t a, Runs d t a →
    (∀ x ∈ t, p x.request = true) ∧ ((∃ x ∈ t, x.tellsStop = true) → stops a)

/-- The dialogue does nothing notable. -/
abbrev Mild (stops : α → Prop) (d : Dialogue α) : Prop := Keeps Request.isMild stops d

/-- The dialogue does nothing but look after processes. -/
abbrev Tending (stops : α → Prop) (d : Dialogue α) : Prop := Keeps Request.isTending stops d

/-- The dialogue does nothing but seek somebody who takes up a channel. -/
abbrev Seeking (stops : α → Prop) (d : Dialogue α) : Prop := Keeps Request.isSeeking stops d

namespace Keeps

variable {p : Request → Bool}

theorem pure {stops : α → Prop} (a : α) : Keeps p stops (Pure.pure a) := by
  intro t b h
  obtain ⟨rfl, rfl⟩ := runs_pure_iff.1 h
  simp

theorem send {r : Request} {stops : r.Answer → Prop} (h : p r = true)
    (hs : ∀ a, (Exchange.mk r a).tellsStop = true → stops a) : Keeps p stops r.send := by
  intro t a ht
  rw [runs_send_iff.1 ht]
  simpa using ⟨h, hs a⟩

theorem bind {s : α → Prop} {q : β → Prop} {d : Dialogue α} {f : α → Dialogue β}
    (hd : Keeps p s d) (hf : ∀ a, Keeps p q (f a)) (hs : ∀ a, s a → Always q (f a)) :
    Keeps p q (d >>= f) := by
  intro t b h
  obtain ⟨t₁, t₂, a, rfl, h₁, h₂⟩ := runs_bind_iff.1 h
  obtain ⟨hm₁, ht₁⟩ := hd t₁ a h₁
  obtain ⟨hm₂, ht₂⟩ := hf a t₂ b h₂
  constructor
  · intro x hx
    rcases List.mem_append.1 hx with hx | hx
    · exact hm₁ x hx
    · exact hm₂ x hx
  · rintro ⟨x, hx, htell⟩
    rcases List.mem_append.1 hx with hx | hx
    · exact hs a (ht₁ ⟨x, hx, htell⟩) t₂ b h₂
    · exact ht₂ ⟨x, hx, htell⟩

/-- A request that cannot tell to stop. -/
theorem send_bind {r : Request} {q : β → Prop} {f : r.Answer → Dialogue β} (h : p r = true)
    (hs : ∀ a, (Exchange.mk r a).tellsStop = false) (hf : ∀ a, Keeps p q (f a)) :
    Keeps p q (r.send >>= f) := by
  refine bind (s := fun _ => False) (send h fun a ha => ?_) hf fun _ h => h.elim
  rw [hs a] at ha
  cases ha

theorem imp {q : Request → Bool} {stops : α → Prop} {d : Dialogue α} (hd : Keeps p stops d)
    (hq : ∀ r, p r = true → q r = true) : Keeps q stops d := by
  intro t a h
  obtain ⟨hp, htold⟩ := hd t a h
  exact ⟨fun x hx => hq _ (hp x hx), htold⟩

theorem mild {stops : α → Prop} {d : Dialogue α} (hd : Tending stops d) : Mild stops d :=
  hd.imp fun _ => isMild_of_isTending

theorem tends {stops : α → Prop} {d : Dialogue α} {t : Trace} {a : α} (hd : Tending stops d)
    (h : Runs d t a) : t.Tends :=
  (hd t a h).1

theorem notable_eq_nil {stops : α → Prop} {d : Dialogue α} {t : Trace} {a : α} (hd : Mild stops d)
    (h : Runs d t a) : t.notable = [] :=
  Trace.notable_eq_nil_iff.2 (hd t a h).1

theorem still {stops : α → Prop} {d : Dialogue α} {t : Trace} {a : α} (hd : Mild stops d)
    (h : Runs d t a) : t.Still :=
  Trace.still_of_notable_eq_nil (hd.notable_eq_nil h)

theorem seeks {stops : α → Prop} {d : Dialogue α} {t : Trace} {a : α} (hd : Seeking stops d)
    (h : Runs d t a) : t.Seeks :=
  (hd t a h).1

theorem calm {stops : α → Prop} {d : Dialogue α} {t : Trace} {a : α} (hd : Keeps p stops d)
    (h : Runs d t a) (hn : ¬stops a) : t.Calm := by
  intro x hx
  cases htell : x.tellsStop with
  | false => rfl
  | true => exact absurd ((hd t a h).2 ⟨x, hx, htell⟩) hn

end Keeps

end BulkLoad.Host
