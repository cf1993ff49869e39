import BulkLoad.Proofs.Sink.Operations
import BulkLoad.Sink.Queue

/-!
Records on their way through a queue to the standard input of a process. Whoever hands them in only
learns that there is room; that all of them arrive, in order and once, follows from what the queue
and its pump hold between them, and the end of the pump tells whether they did.
-/

namespace BulkLoad.Sink

open Host (Exchange Handle Request Runs)

namespace Queue

variable {q q' : Queue} {record : Bytes}

theorem offer_eq_taken (h : q.offer record = .taken q') : q.outcome = none ∧
    q.waiting.length < q.capacity ∧ q' = { q with waiting := q.waiting ++ [record] } := by
  unfold offer at h
  split at h
  · cases h
  · rename_i houtcome
    split at h
    · rename_i hroom
      cases h
      exact ⟨by simpa using houtcome, hroom, rfl⟩
    · cases h

theorem offer_eq_closed_iff : q.offer record = .closed ↔ q.outcome.isSome = true := by
  unfold offer
  split
  · rename_i houtcome
    exact iff_of_true rfl houtcome
  · rename_i houtcome
    refine iff_of_false ?_ houtcome
    split <;> nofun

/-- What the pump has before it, by what it does next. -/
inductive Works (q : Queue) : Work → Prop
  | rest (running : q.outcome = none) : Works q .rest
  | take {record : Bytes} {waiting : List Bytes} (running : q.outcome = none)
      (current : q.current = []) (next : q.waiting = record :: waiting) :
      Works q (.take record waiting)
  | write (running : q.outcome = none) : Works q (.write q.current)
  | close (running : q.outcome = none) (current : q.current = []) (waiting : q.waiting = [])
      (ended : q.ended = true) : Works q .close
  | stopped : Works q .stopped

theorem works (q : Queue) : q.Works q.work := by
  unfold work
  split
  · exact .stopped
  · rename_i houtcome
    have hrunning : q.outcome = none := by simpa using houtcome
    split
    · rename_i hcurrent
      have hempty : q.current = [] := by simpa using hcurrent
      split
      · rename_i record waiting hwaiting
        exact .take hrunning hempty hwaiting
      · rename_i hwaiting
        split
        · rename_i hended
          exact .close hrunning hempty hwaiting hended
        · exact .rest hrunning
    · exact .write hrunning

theorem work_eq_take {waiting : List Bytes} (h : q.work = .take record waiting) :
    q.outcome = none ∧ q.current = [] ∧ q.waiting = record :: waiting := by
  have hworks := q.works
  rw [h] at hworks
  cases hworks with
  | take running current next => exact ⟨running, current, next⟩

theorem work_eq_write {bytes : Bytes} (h : q.work = .write bytes) :
    q.outcome = none ∧ bytes = q.current := by
  have hworks := q.works
  rw [h] at hworks
  cases hworks with
  | write running => exact ⟨running, rfl⟩

theorem work_eq_close (h : q.work = .close) :
    q.outcome = none ∧ q.current = [] ∧ q.waiting = [] ∧ q.ended = true := by
  have hworks := q.works
  rw [h] at hworks
  cases hworks with
  | close running current waiting ended => exact ⟨running, current, waiting, ended⟩

/-- What is answered to a request about the queue, and the queue behind it. A record for which there
is no room gets no answer yet, and neither does a request to close while the pump is at work. -/
inductive Answers (q : Queue) (h : Handle) : Exchange → Queue → Prop
  | taken {stoppable : Bool} {record : Bytes} {q' : Queue} (room : q.offer record = .taken q') :
      Answers q h ⟨.enqueue stoppable h record, Host.Handover.taken⟩ q'
  | closed {stoppable : Bool} {record : Bytes} (gone : q.offer record = .closed) :
      Answers q h ⟨.enqueue stoppable h record, Host.Handover.closed⟩ q
  | cut {stoppable : Bool} {record : Bytes} (allowed : stoppable = true) :
      Answers q h ⟨.enqueue stoppable h record, Host.Handover.stopped allowed⟩ q
  | drained {outcome : Except String Unit} (ended : q.outcome = some outcome) :
      Answers q h ⟨.closeQueue h, outcome⟩ q
  | dropped : Answers q h ⟨.dropQueue h, ()⟩ q.finish

end Queue

/-- What the one who hands records in is about. -/
inductive Producer where
  | open
  /-- The end is said, and how the pump stops is waited for. -/
  | closing
  | closed
  | dropped
  deriving DecidableEq

/-- A queue with both its ends. -/
structure Feed where
  queue : Queue
  producer : Producer := .open

namespace Feed

/-- What happens to a feed. -/
inductive Event where
  /-- A record was handed in, with what came of it. -/
  | wrote (stoppable : Bool) (record : Bytes) (result : Host.Delivery stoppable)
  | closing
  | closed (result : Except String Unit)
  | dropped
  /-- The pump took a record. -/
  | took
  /-- Bytes came to the standard input of the process. -/
  | arrived (part : Bytes)
  /-- Some bytes came to the standard input, and then a write failed. -/
  | broke (part : Bytes) (message : String)
  /-- The end of the input was said. -/
  | shut
  /-- The end of the input could not be said. -/
  | unshut (message : String)
  /-- The pump was ended by something else. -/
  | died (message : String)

namespace Event

/-- The record that was taken. -/
def accepted? : Event → Option Bytes
  | wrote _ record result => if result.isDone then some record else none
  | _ => none

/-- The bytes that came to the standard input. -/
def part : Event → Bytes
  | arrived part => part
  | broke part _ => part
  | _ => []

def isFailure : Event → Bool
  | broke .. | unshut _ | died _ => true
  | _ => false

end Event

/-- The records that were taken, in order. -/
def accepted (events : List Event) : List Bytes := events.filterMap Event.accepted?

/-- The bytes that came to the standard input, in order. -/
def received (events : List Event) : Bytes := events.flatMap Event.part

/-- One step, by the producer through the writer that it has, or by the pump. -/
inductive Step (h : Handle) (f : Feed) : Event → Feed → Prop
  | wrote {stoppable : Bool} {record : Bytes} {result : Host.Delivery stoppable} {x : Exchange}
      {q : Queue} (free : f.producer = .open)
      (called : Runs (Session.deliver stoppable record (.queue h)) [x] result)
      (answered : f.queue.Answers h x q) :
      Step h f (.wrote stoppable record result) { f with queue := q }
  | closing (free : f.producer = .open) : Step h f .closing ⟨f.queue.finish, .closing⟩
  | closed {result : Except String Unit} {x : Exchange} {q : Queue} (begun : f.producer = .closing)
      (called : Runs (Session.closeWriter (some (.queue h))) [x] result)
      (answered : f.queue.Answers h x q) : Step h f (.closed result) ⟨q, .closed⟩
  | dropped {x : Exchange} {q : Queue} (free : f.producer = .open)
      (called : Runs (Session.dropWriter (some (.queue h))) [x] ())
      (answered : f.queue.Answers h x q) : Step h f .dropped ⟨q, .dropped⟩
  | took {record : Bytes} {waiting : List Bytes} (work : f.queue.work = .take record waiting) :
      Step h f .took { f with queue := f.queue.took record waiting }
  | arrived {bytes : Bytes} {n : Nat} (work : f.queue.work = .write bytes) :
      Step h f (.arrived (bytes.take n)) { f with queue := f.queue.wrote n }
  | broke {bytes : Bytes} {n : Nat} (message : String) (work : f.queue.work = .write bytes) :
      Step h f (.broke (bytes.take n) message)
        { f with queue := (f.queue.wrote n).stop (.error message) }
  | shut (work : f.queue.work = .close) :
      Step h f .shut { f with queue := f.queue.stop (.ok ()) }
  | unshut (message : String) (work : f.queue.work = .close) :
      Step h f (.unshut message) { f with queue := f.queue.stop (.error message) }
  | died (message : String) (running : f.queue.outcome = none) :
      Step h f (.died message) { f with queue := f.queue.stop (.error message) }

/-- What may happen from the start of a queue for so many records, and what it leads to. -/
inductive Fed (h : Handle) (capacity : Nat) : List Event → Feed → Prop
  | start : Fed h capacity [] { queue := .start capacity }
  | step {events : List Event} {e : Event} {f f' : Feed} (before : Fed h capacity events f)
      (next : f.Step h e f') : Fed h capacity (events ++ [e]) f'

variable {h : Handle} {capacity : Nat} {events : List Event} {e : Event} {f f' : Feed}
  {q q' : Queue}

theorem deliver_answered {stoppable : Bool} {record : Bytes} {x : Exchange}
    {result : Host.Delivery stoppable}
    (called : Runs (Session.deliver stoppable record (.queue h)) [x] result)
    (answered : q.Answers h x q') :
    (result = .done ∧ q.offer record = .taken q') ∨
    (result = .refused Session.queueClosed ∧ q.offer record = .closed ∧ q' = q) ∨
    ∃ allowed, result = .stopped allowed ∧ q' = q := by
  obtain ⟨answer, rest, hx, hrest⟩ := Host.runs_send_bind_iff.1 called
  cases hx
  cases answered with
  | taken room =>
    obtain ⟨-, rfl⟩ := Host.runs_pure_iff.1 hrest
    exact .inl ⟨rfl, room⟩
  | closed gone =>
    obtain ⟨-, rfl⟩ := Host.runs_pure_iff.1 hrest
    exact .inr (.inl ⟨rfl, gone, rfl⟩)
  | cut allowed =>
    obtain ⟨-, rfl⟩ := Host.runs_pure_iff.1 hrest
    exact .inr (.inr ⟨allowed, rfl, rfl⟩)

theorem closeWriter_answered {result : Except String Unit} {x : Exchange}
    (called : Runs (Session.closeWriter (some (.queue h))) [x] result)
    (answered : q.Answers h x q') : q.outcome = some result ∧ q' = q := by
  have hx : [x] = [⟨.closeQueue h, result⟩] := Host.runs_send_iff.1 called
  cases hx
  cases answered with
  | drained ended => exact ⟨ended, rfl⟩

theorem dropWriter_answered {x : Exchange}
    (called : Runs (Session.dropWriter (some (.queue h))) [x] ())
    (answered : q.Answers h x q') : q' = q.finish := by
  have hx : [x] = [⟨.dropQueue h, ()⟩] := Host.runs_send_iff.1 called
  cases hx
  cases answered with
  | dropped => rfl

theorem accepted_append (events : List Event) (e : Event) :
    accepted (events ++ [e]) = accepted events ++ e.accepted?.toList := by
  rw [accepted, List.filterMap_append]
  cases h : e.accepted? <;> simp [accepted, h]

theorem accepted_of_none (h : e.accepted? = none) :
    accepted (events ++ [e]) = accepted events := by
  rw [accepted_append, h]
  exact List.append_nil _

theorem received_append (events events' : List Event) :
    received (events ++ events') = received events ++ received events' :=
  List.flatMap_append

theorem sound_append (h : ∀ e ∈ events, e.isFailure = false) (he : e.isFailure = false) :
    ∀ e' ∈ events ++ [e], e'.isFailure = false :=
  List.forall_mem_append.2 ⟨h, List.forall_mem_singleton.2 he⟩

/-- What has become of the records that were taken. -/
inductive Flow (events : List Event) (q : Queue) : Prop
  /-- They have come through, or are on their way in order. -/
  | running (outcome : q.outcome = none)
      (whole : received events ++ (q.current ++ q.waiting.flatten) = (accepted events).flatten)
      (sound : ∀ e ∈ events, e.isFailure = false)
  /-- They have come through, and then the end was said. -/
  | finished {before after : List Event} (outcome : q.outcome = some (.ok ()))
      (ended : q.ended = true) (last : events = before ++ .shut :: after)
      (whole : received before = (accepted events).flatten) (rest : received after = [])
      (sound : ∀ e ∈ events, e.isFailure = false)
  /-- Some of them have come through. -/
  | broken {message : String} (outcome : q.outcome = some (.error message))
      (part : received events <+: (accepted events).flatten)

namespace Flow

theorem of_running (h : Flow events q) (running : q.outcome = none) :
    received events ++ (q.current ++ q.waiting.flatten) = (accepted events).flatten ∧
    ∀ e ∈ events, e.isFailure = false := by
  cases h with
  | running _ whole sound => exact ⟨whole, sound⟩
  | finished outcome =>
    rw [running] at outcome
    cases outcome
  | broken outcome =>
    rw [running] at outcome
    cases outcome

theorem prefixed (h : Flow events q) : received events <+: (accepted events).flatten := by
  cases h with
  | running _ whole => exact ⟨_, whole⟩
  | @finished before after _ _ last whole rest =>
    have hshut : received (.shut :: after) = received after := rfl
    have hbefore : received events = received before := by
      rw [last, received_append, hshut, rest, List.append_nil]
    exact ⟨[], by rw [hbefore, whole, List.append_nil]⟩
  | broken _ part => exact part

/-- What happens to no record changes nothing, and neither does the word that no more come. -/
theorem quiet (h : Flow events q) (haccepted : e.accepted? = none) (hpart : e.part = [])
    (hsound : e.isFailure = false) (hq : q' = q ∨ q' = q.finish) : Flow (events ++ [e]) q' := by
  have hall : accepted (events ++ [e]) = accepted events := accepted_of_none haccepted
  have hbytes : received [e] = [] := by simp [received, hpart]
  have hsame : q'.outcome = q.outcome ∧ q'.current = q.current ∧ q'.waiting = q.waiting ∧
      (q.ended = true → q'.ended = true) := by
    rcases hq with rfl | rfl
    · exact ⟨rfl, rfl, rfl, id⟩
    · exact ⟨rfl, rfl, rfl, fun _ => rfl⟩
  obtain ⟨houtcome, hcurrent, hwaiting, hended⟩ := hsame
  cases h with
  | running outcome whole sound =>
    refine .running (houtcome.trans outcome) ?_ ?_
    · rw [hall, received_append, hbytes, List.append_nil, hcurrent, hwaiting, whole]
    · exact sound_append sound hsound
  | @finished before after outcome ended last whole rest sound =>
    have hlast : events ++ [e] = before ++ .shut :: (after ++ [e]) := by
      rw [last, List.append_assoc, List.cons_append]
    refine .finished (houtcome.trans outcome) (hended ended) hlast ?_ ?_ ?_
    · rw [hall, whole]
    · rw [received_append, rest, hbytes, List.append_nil]
    · exact sound_append sound hsound
  | broken outcome part =>
    refine .broken (houtcome.trans outcome) ?_
    rw [hall, received_append, hbytes, List.append_nil]
    exact part

theorem taken {stoppable : Bool} {record : Bytes} (h : Flow events q)
    (room : q.offer record = .taken q') :
    Flow (events ++ [.wrote stoppable record .done]) q' := by
  obtain ⟨hrunning, -, rfl⟩ := Queue.offer_eq_taken room
  obtain ⟨whole, sound⟩ := h.of_running hrunning
  refine .running hrunning ?_ (sound_append sound rfl)
  have haccepted : accepted (events ++ [.wrote stoppable record .done]) =
      accepted events ++ [record] := accepted_append ..
  have hreceived : received [.wrote stoppable record .done] = [] := rfl
  rw [haccepted, received_append, hreceived, List.append_nil, List.flatten_append,
    List.flatten_append, ← whole]
  simp

theorem took {record : Bytes} {waiting : List Bytes} (h : Flow events q)
    (work : q.work = .take record waiting) : Flow (events ++ [.took]) (q.took record waiting) := by
  obtain ⟨hrunning, hcurrent, hnext⟩ := Queue.work_eq_take work
  obtain ⟨whole, sound⟩ := h.of_running hrunning
  refine .running hrunning ?_ (sound_append sound rfl)
  have haccepted : accepted (events ++ [.took]) = accepted events := accepted_of_none rfl
  have hreceived : received [.took] = [] := rfl
  rw [hcurrent, hnext] at whole
  rw [haccepted, received_append, hreceived, List.append_nil, ← whole]
  rfl

/-- The pump gets rid of the first bytes of what it has. -/
theorem arrived {bytes : Bytes} (h : Flow events q) (work : q.work = .write bytes) (n : Nat) :
    Flow (events ++ [.arrived (bytes.take n)]) (q.wrote n) := by
  obtain ⟨hrunning, rfl⟩ := Queue.work_eq_write work
  obtain ⟨whole, sound⟩ := h.of_running hrunning
  refine .running hrunning ?_ (sound_append sound rfl)
  have haccepted : accepted (events ++ [.arrived (q.current.take n)]) = accepted events :=
    accepted_of_none rfl
  have hreceived : received [.arrived (q.current.take n)] = q.current.take n := by
    simp [received, Event.part]
  rw [haccepted, received_append, hreceived, ← whole, List.append_assoc,
    ← List.append_assoc (q.current.take n)]
  show _ ++ (q.current.take n ++ q.current.drop n ++ q.waiting.flatten) = _
  rw [List.take_append_drop]

/-- The pump fails, with some bytes of what it has gone through before. -/
theorem failed {message : String} {n : Nat} (h : Flow events q) (running : q.outcome = none)
    (haccepted : e.accepted? = none) (hpart : e.part = q.current.take n ∨ e.part = [])
    (houtcome : q'.outcome = some (.error message)) : Flow (events ++ [e]) q' := by
  obtain ⟨whole, -⟩ := h.of_running running
  have hall : accepted (events ++ [e]) = accepted events := accepted_of_none haccepted
  have hbytes : received [e] = e.part := by simp [received]
  refine .broken houtcome ?_
  rw [hall, received_append, hbytes, ← whole, List.prefix_append_right_inj]
  have hcurrent : e.part <+: q.current := by
    rcases hpart with hpart | hpart
    · rw [hpart]
      exact List.take_prefix _ _
    · rw [hpart]
      exact List.nil_prefix
  exact hcurrent.trans (List.prefix_append _ _)

theorem shut (h : Flow events q) (work : q.work = .close) :
    Flow (events ++ [.shut]) (q.stop (.ok ())) := by
  obtain ⟨hrunning, hcurrent, hwaiting, hended⟩ := Queue.work_eq_close work
  obtain ⟨whole, sound⟩ := h.of_running hrunning
  refine .finished rfl hended rfl ?_ rfl
    (sound_append sound rfl)
  have haccepted : accepted (events ++ [.shut]) = accepted events := accepted_of_none rfl
  rw [hcurrent, hwaiting] at whole
  rw [haccepted, ← whole]
  simp

end Flow

/-- What is known of a feed. -/
structure Known (capacity : Nat) (events : List Event) (f : Feed) : Prop where
  capacity : f.queue.capacity = max capacity 1
  room : f.queue.waiting.length ≤ f.queue.capacity
  ended : f.queue.ended = true ↔ f.producer ≠ .open
  closed : ∀ result, .closed result ∈ events → f.queue.outcome = some result
  flow : Flow events f.queue

theorem known_start (capacity : Nat) : Known capacity [] { queue := .start capacity } where
  capacity := rfl
  room := Nat.zero_le _
  ended := iff_of_false nofun fun h => h rfl
  closed := nofun
  flow := .running rfl rfl nofun

/-- Where the writer was closed, how it was stays what it is. -/
theorem Known.closed_later (hk : Known capacity events f) (he : ∀ result, e ≠ .closed result)
    (houtcome : f.queue.outcome = none ∨ q'.outcome = f.queue.outcome) :
    ∀ result, .closed result ∈ events ++ [e] → q'.outcome = some result := by
  intro result hmem
  rcases List.mem_append.1 hmem with hbefore | hlast
  · have hover := hk.closed result hbefore
    rcases houtcome with hnone | hsame
    · rw [hnone] at hover
      cases hover
    · rw [hsame, hover]
  · exact absurd (List.mem_singleton.1 hlast).symm (he result)

theorem Known.step (hk : Known capacity events f) (hs : f.Step h e f') :
    Known capacity (events ++ [e]) f' := by
  have hflow := hk.flow
  have hended := hk.ended
  cases hs with
  | wrote free called answered =>
    rcases deliver_answered called answered with ⟨rfl, htaken⟩ | ⟨rfl, -, rfl⟩ | ⟨allowed, rfl, rfl⟩
    · obtain ⟨-, hlt, rfl⟩ := Queue.offer_eq_taken htaken
      refine ⟨hk.capacity, ?_, hended, hk.closed_later nofun (.inr rfl), hflow.taken htaken⟩
      simp only [List.length_append, List.length_singleton]
      omega
    · exact ⟨hk.capacity, hk.room, hended, hk.closed_later nofun (.inr rfl),
        hflow.quiet rfl rfl rfl (.inl rfl)⟩
    · exact ⟨hk.capacity, hk.room, hended, hk.closed_later nofun (.inr rfl),
        hflow.quiet rfl rfl rfl (.inl rfl)⟩
  | closing free =>
    exact ⟨hk.capacity, hk.room, iff_of_true rfl nofun, hk.closed_later nofun (.inr rfl),
      hflow.quiet rfl rfl rfl (.inr rfl)⟩
  | @closed result x q begun called answered =>
    obtain ⟨hover, rfl⟩ := closeWriter_answered called answered
    have hend : f.queue.ended = true := hended.2 (by rw [begun]; nofun)
    refine ⟨hk.capacity, hk.room, iff_of_true hend nofun, ?_, hflow.quiet rfl rfl rfl (.inl rfl)⟩
    intro result' hmem
    rcases List.mem_append.1 hmem with hbefore | hlast
    · exact hk.closed result' hbefore
    · cases List.mem_singleton.1 hlast
      exact hover
  | dropped free called answered =>
    obtain rfl := dropWriter_answered called answered
    exact ⟨hk.capacity, hk.room, iff_of_true rfl nofun, hk.closed_later nofun (.inr rfl),
      hflow.quiet rfl rfl rfl (.inr rfl)⟩
  | @took record waiting work =>
    obtain ⟨-, -, hnext⟩ := Queue.work_eq_take work
    have hroom := hk.room
    rw [hnext, List.length_cons] at hroom
    exact ⟨hk.capacity, Nat.le_of_succ_le hroom, hended, hk.closed_later nofun (.inr rfl),
      hflow.took work⟩
  | arrived work =>
    exact ⟨hk.capacity, hk.room, hended, hk.closed_later nofun (.inr rfl), hflow.arrived work _⟩
  | broke message work =>
    obtain ⟨hrunning, rfl⟩ := Queue.work_eq_write work
    exact ⟨hk.capacity, hk.room, hended, hk.closed_later nofun (.inl hrunning),
      hflow.failed hrunning rfl (.inl rfl) rfl⟩
  | shut work =>
    obtain ⟨hrunning, -⟩ := Queue.work_eq_close work
    exact ⟨hk.capacity, hk.room, hended, hk.closed_later nofun (.inl hrunning), hflow.shut work⟩
  | unshut message work =>
    obtain ⟨hrunning, -⟩ := Queue.work_eq_close work
    exact ⟨hk.capacity, hk.room, hended, hk.closed_later nofun (.inl hrunning),
      hflow.failed (n := 0) hrunning rfl (.inr rfl) rfl⟩
  | died message running =>
    exact ⟨hk.capacity, hk.room, hended, hk.closed_later nofun (.inl running),
      hflow.failed (n := 0) running rfl (.inr rfl) rfl⟩

theorem Fed.known (run : Fed h capacity events f) : Known capacity events f := by
  induction run with
  | start => exact known_start capacity
  | step _ next ih => exact ih.step next

theorem Known.failed (hk : Known capacity events f) (he : ∃ e ∈ events, e.isFailure = true) :
    ∃ message, f.queue.outcome = some (.error message) := by
  obtain ⟨e, hmem, hfailure⟩ := he
  cases hk.flow with
  | running _ _ sound =>
    rw [sound e hmem] at hfailure
    cases hfailure
  | finished _ _ _ _ _ sound =>
    rw [sound e hmem] at hfailure
    cases hfailure
  | broken outcome => exact ⟨_, outcome⟩

/-- Whenever the producer and the pump take their steps, what has come to the standard input is the
first part of what was taken, and no more waits than there is room for. A close that comes back well
does so after all of it and the end; after a failure it comes back with an error. Once the pump has
stopped, a record is refused. -/
theorem records_arrive (run : Fed h capacity events f) :
    received events <+: (accepted events).flatten ∧
    f.queue.waiting.length ≤ max capacity 1 ∧
    (.closed (.ok ()) ∈ events → ∃ before after, events = before ++ .shut :: after ∧
      received before = (accepted events).flatten ∧ received after = []) ∧
    ((∃ e ∈ events, e.isFailure = true) →
      (∀ result, .closed result ∈ events → ∃ message, result = .error message) ∧
      (f.producer = .closing → ∃ message f', f.Step h (.closed (.error message)) f')) ∧
    (f.queue.outcome.isSome = true → ∀ (stoppable : Bool) (record : Bytes),
      (f.producer = .open →
        f.Step h (.wrote stoppable record (.refused Session.queueClosed)) f) ∧
      ∀ result f', f.Step h (.wrote stoppable record result) f' → f' = f ∧
        (result = .refused Session.queueClosed ∨ ∃ allowed, result = .stopped allowed)) := by
  have hk := run.known
  refine ⟨hk.flow.prefixed, hk.capacity ▸ hk.room, ?_, ?_, ?_⟩
  · intro hclosed
    have hover := hk.closed _ hclosed
    cases hk.flow with
    | running outcome =>
      rw [outcome] at hover
      cases hover
    | finished _ _ last whole rest => exact ⟨_, _, last, whole, rest⟩
    | broken outcome =>
      rw [outcome] at hover
      cases hover
  · intro hfailure
    obtain ⟨message, houtcome⟩ := hk.failed hfailure
    constructor
    · intro result hclosed
      have hover := hk.closed result hclosed
      rw [houtcome, Option.some_inj] at hover
      exact ⟨message, hover.symm⟩
    · intro hclosing
      have hcalled : Runs (Session.closeWriter (some (.queue h)))
          [⟨.closeQueue h, Except.error message⟩] (.error message) := Host.runs_send_iff.2 rfl
      exact ⟨message, _, .closed hclosing hcalled (.drained houtcome)⟩
  · intro hstopped stoppable record
    have hgone : f.queue.offer record = .closed := Queue.offer_eq_closed_iff.2 hstopped
    constructor
    · intro hfree
      have hcalled : Runs (Session.deliver stoppable record (.queue h))
          [⟨.enqueue stoppable h record, Host.Handover.closed⟩] (.refused Session.queueClosed) :=
        Host.runs_send_bind_iff.2 ⟨_, [], rfl, .done _⟩
      exact .wrote hfree hcalled (.closed hgone)
    · intro result f' hstep
      cases hstep with
      | wrote free called answered =>
        rcases deliver_answered called answered with ⟨-, htaken⟩ | ⟨hrefused, -, rfl⟩ |
          ⟨allowed, hcut, rfl⟩
        · rw [hgone] at htaken
          cases htaken
        · exact ⟨rfl, .inl hrefused⟩
        · exact ⟨rfl, .inr ⟨allowed, hcut⟩⟩

/-- Two records through a queue for one, the first of them in two parts. -/
def smoothEvents : List Event :=
  [.wrote false [1, 2] .done, .took, .wrote false [3] .done, .arrived [1], .arrived [2], .took,
    .closing, .arrived [3], .shut, .closed (.ok ())]

/-- A record of which the process takes only a part, and one that is refused for it. -/
def brokenEvents : List Event :=
  [.wrote false [1, 2] .done, .took, .broke [1] "broken pipe",
    .wrote false [3] (.refused Session.queueClosed), .closing, .closed (.error "broken pipe")]

theorem fed_smooth : ∃ f, Fed ⟨7⟩ 0 smoothEvents f := by
  have hwrite : ∀ record : Bytes, Runs (Session.deliver false record (.queue ⟨7⟩))
      [⟨.enqueue false ⟨7⟩ record, Host.Handover.taken⟩] .done :=
    fun record => Host.runs_send_bind_iff.2 ⟨_, [], rfl, .done _⟩
  have h₀ : Fed ⟨7⟩ 0 [] { queue := .start 0 } := .start
  have h₁ := h₀.step (.wrote rfl (hwrite [1, 2]) (.taken rfl))
  have h₂ := h₁.step (.took rfl)
  have h₃ := h₂.step (.wrote rfl (hwrite [3]) (.taken rfl))
  have h₄ := h₃.step (.arrived (n := 1) rfl)
  have h₅ := h₄.step (.arrived (n := 1) rfl)
  have h₆ := h₅.step (.took rfl)
  have h₇ := h₆.step (.closing rfl)
  have h₈ := h₇.step (.arrived (n := 1) rfl)
  have h₉ := h₈.step (.shut rfl)
  exact ⟨_, h₉.step (.closed rfl (Host.runs_send_iff.2 rfl) (.drained rfl))⟩

theorem fed_broken : ∃ f, Fed ⟨7⟩ 0 brokenEvents f := by
  have htaken : Runs (Session.deliver false [1, 2] (.queue ⟨7⟩))
      [⟨.enqueue false ⟨7⟩ [1, 2], Host.Handover.taken⟩] .done :=
    Host.runs_send_bind_iff.2 ⟨_, [], rfl, .done _⟩
  have hrefused : Runs (Session.deliver false [3] (.queue ⟨7⟩))
      [⟨.enqueue false ⟨7⟩ [3], Host.Handover.closed⟩] (.refused Session.queueClosed) :=
    Host.runs_send_bind_iff.2 ⟨_, [], rfl, .done _⟩
  have h₀ : Fed ⟨7⟩ 0 [] { queue := .start 0 } := .start
  have h₁ := h₀.step (.wrote rfl htaken (.taken rfl))
  have h₂ := h₁.step (.took rfl)
  have h₃ := h₂.step (.broke (n := 1) "broken pipe" rfl)
  have h₄ := h₃.step (.wrote rfl hrefused (.closed rfl))
  have h₅ := h₄.step (.closing rfl)
  exact ⟨_, h₅.step (.closed rfl (Host.runs_send_iff.2 rfl) (.drained rfl))⟩

/-- Three bytes arrive in three parts and the end behind them; of a record that breaks off one byte
arrives, and the close tells. -/
theorem records_arrive_in_parts :
    (∃ before after, smoothEvents = before ++ .shut :: after ∧ received before = [1, 2, 3] ∧
      received after = []) ∧
    received brokenEvents = [1] ∧ [1] <+: (accepted brokenEvents).flatten ∧
    ∀ result, .closed result ∈ brokenEvents → ∃ message, result = .error message := by
  obtain ⟨f, hsmooth⟩ := fed_smooth
  obtain ⟨f', hbroken⟩ := fed_broken
  obtain ⟨-, -, hend, -⟩ := records_arrive hsmooth
  obtain ⟨hpart, -, -, hfailed, -⟩ := records_arrive hbroken
  have hbroke : ∃ e ∈ brokenEvents, e.isFailure = true :=
    ⟨.broke [1] "broken pipe", by simp [brokenEvents], rfl⟩
  exact ⟨hend (by simp [smoothEvents]), rfl, hpart, (hfailed hbroke).1⟩

end Feed
end BulkLoad.Sink
