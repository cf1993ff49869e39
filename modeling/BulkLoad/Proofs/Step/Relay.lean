import BulkLoad.Proofs.Cube.Faults
import BulkLoad.Proofs.Cube.Header
import BulkLoad.Proofs.Cube.Limits
import BulkLoad.Step.Source

/-!
A cube file that is read while its rows are asked for. A thread reads the items one by one and hands
each to a channel that has room for some of them, and stops behind the first fault; the other side
takes them out of the channel. However the two take turns, what the other side is answered is what a
source of the file's contents has, in order, and then the end.
-/

namespace BulkLoad.Step

open BulkLoad.Cube (throughFault)

namespace Relay

inductive Thread where
  | reading (r : Cube.Reader)
  /-- It has an item for which there may be no room yet. -/
  | sending (item : Except Cube.Error Row) (r : Cube.Reader)
  | ended
  /-- There was no one left to take the item that it had. -/
  | abandoned

end Relay

/-- A thread that reads, and the channel from it to the side that asks. -/
structure Relay where
  thread : Relay.Thread
  queue : List (Except Fault Row) := []
  /-- The other side is there. -/
  pulling : Bool := true

namespace Relay

/-- An item as it goes into the channel. -/
def faulted (item : Except Cube.Error Row) : Except Fault Row := item.mapError Cube.Error.fault

/-- What happens to a relay. -/
inductive Event where
  /-- The reader gave an item. -/
  | read (item : Except Cube.Error Row)
  /-- The host could not read on. -/
  | failed (message : String)
  /-- The reader had no more to give. -/
  | ended
  /-- An item went into the channel. -/
  | sent
  | abandoned
  /-- The other side asked, and was answered with a row, with a fault, or with none for the end. -/
  | pulled (answer : Except Fault (Option Row))
  /-- The other side went away. -/
  | dropped

namespace Event

/-- What the thread got. -/
def given? : Event → Option (Except Fault Row)
  | read item => some (faulted item)
  | failed message => some (.error (Cube.Error.host message).fault)
  | _ => none

def answer? : Event → Option (Except Fault (Option Row))
  | pulled answer => some answer
  | _ => none

/-- The thread did it. -/
def isOfThread : Event → Bool
  | pulled _ | dropped => false
  | _ => true

end Event

def given (events : List Event) : List (Except Fault Row) := events.filterMap Event.given?

def answers (events : List Event) : List (Except Fault (Option Row)) :=
  events.filterMap Event.answer?

/-- The thread behind an item: a fault is its last. -/
def Thread.behind (r : Cube.Reader) : Except Cube.Error Row → Thread
  | .ok _ => .reading r
  | .error _ => .ended

/-- What a thread has that is not in the channel. -/
def Thread.inHand : Thread → List (Except Fault Row)
  | sending item _ => [faulted item]
  | _ => []

/-- One turn, of the thread or of the other side. The channel has room for so many items, and for
one at least. -/
inductive Turn (capacity : Nat) (s : Relay) : Event → Relay → Prop
  | read {r r' : Cube.Reader} {item : Except Cube.Error Row} (at' : s.thread = .reading r)
      (next : r.next = (some item, r')) :
      Turn capacity s (.read item) { s with thread := .sending item r' }
  | failed {r : Cube.Reader} (message : String) (at' : s.thread = .reading r)
      (more : r.limit.any (· ≤ r.read) = false) :
      Turn capacity s (.failed message) { s with thread := .sending (.error (.host message)) r }
  | ended {r : Cube.Reader} (at' : s.thread = .reading r) (next : r.next.1 = none) :
      Turn capacity s .ended { s with thread := .ended }
  | sent {item : Except Cube.Error Row} {r : Cube.Reader} (at' : s.thread = .sending item r)
      (pulling : s.pulling = true) (room : s.queue.length < max capacity 1) :
      Turn capacity s .sent
        { s with thread := .behind r item, queue := s.queue ++ [faulted item] }
  | abandoned {item : Except Cube.Error Row} {r : Cube.Reader} (at' : s.thread = .sending item r)
      (gone : s.pulling = false) : Turn capacity s .abandoned { s with thread := .abandoned }
  | pulled {item : Except Fault Row} {queue : List (Except Fault Row)} (pulling : s.pulling = true)
      (first : s.queue = item :: queue) :
      Turn capacity s (.pulled (item.map some)) { s with queue }
  | drained (pulling : s.pulling = true) (empty : s.queue = []) (finished : s.thread = .ended) :
      Turn capacity s (.pulled (.ok none)) s
  | dropped (pulling : s.pulling = true) :
      Turn capacity s .dropped { s with queue := [], pulling := false }

/-- What may happen from the start of a relay, and what it leads to. -/
inductive Relayed (capacity : Nat) (r : Cube.Reader) : List Event → Relay → Prop
  | start : Relayed capacity r [] { thread := .reading r }
  | step {events : List Event} {e : Event} {s s' : Relay} (before : Relayed capacity r events s)
      (next : s.Turn capacity e s') : Relayed capacity r (events ++ [e]) s'

variable {capacity : Nat} {r : Cube.Reader} {events : List Event} {e : Event} {s s' : Relay}
  {items total : List (Except Fault Row)}

theorem given_append (events : List Event) (e : Event) :
    given (events ++ [e]) = given events ++ e.given?.toList := by
  rw [given, List.filterMap_append]
  cases h : e.given? <;> simp [given, h]

theorem given_of_none (h : e.given? = none) : given (events ++ [e]) = given events := by
  rw [given_append, h]
  exact List.append_nil _

theorem answers_append (events : List Event) (e : Event) :
    answers (events ++ [e]) = answers events ++ e.answer?.toList := by
  rw [answers, List.filterMap_append]
  cases h : e.answer? <;> simp [answers, h]

theorem answers_of_none (h : e.answer? = none) : answers (events ++ [e]) = answers events := by
  rw [answers_append, h]
  exact List.append_nil _

/-- What the thread would still get if the host read on. -/
inductive Thread.Awaits : Thread → List (Except Fault Row) → Prop
  | reading (r : Cube.Reader) : Awaits (.reading r) ((throughFault r.items).map faulted)
  | row (row : Row) (r : Cube.Reader) :
      Awaits (.sending (.ok row) r) ((throughFault r.items).map faulted)
  | fault (e : Cube.Error) (r : Cube.Reader) : Awaits (.sending (.error e) r) []
  | ended : Awaits .ended []
  | abandoned (left : List (Except Fault Row)) : Awaits .abandoned left

/-- What a thread gets altogether: all items, or some rows of them and then the host's fault. -/
inductive Heard (items : List (Except Fault Row)) (events : List Event) :
    List (Except Fault Row) → Prop
  | whole (sound : ∀ message, .failed message ∉ events) : Heard items events items
  | broken {message : String} {rows : List Row} (failed : .failed message ∈ events)
      (before : rows.map .ok <+: items) :
      Heard items events (rows.map .ok ++ [.error (Cube.Error.host message).fault])

/-- A thread that may read on has got nothing but rows. -/
structure Onward (events : List Event) : Prop where
  rows : ∃ rows : List Row, given events = rows.map .ok
  sound : ∀ message, .failed message ∉ events

def Thread.goesOn : Thread → Bool
  | reading _ | sending (.ok _) _ => true
  | _ => false

/-- What is known of the thread. -/
structure Reads (items total : List (Except Fault Row)) (events : List Event) (thread : Thread) :
    Prop where
  heard : Heard items events total
  awaits : ∃ left, thread.Awaits left ∧ given events ++ left = total
  onward : thread.goesOn = true → Onward events

theorem items_of_next {r r' : Cube.Reader} {item : Except Cube.Error Row}
    (h : r.next = (some item, r')) : r.items = item :: r'.items := by
  rcases r.next_cases with ⟨-, hnone, -⟩ | ⟨item', hsome, hitems⟩
  · rw [h] at hnone
    cases hnone
  · rw [h] at hsome hitems
    cases hsome
    exact hitems

theorem items_of_next_none (h : r.next.1 = none) : r.items = [] := by
  rcases r.next_cases with ⟨hitems, -, -⟩ | ⟨item, hsome, -⟩
  · exact hitems
  · rw [h] at hsome
    cases hsome

/-- An item is the first that a thread got, and it awaits the others, if the item is no fault. -/
theorem exists_awaits (item : Except Cube.Error Row) (r : Cube.Reader) : ∃ left,
    (Thread.sending item r).Awaits left ∧
    (throughFault (item :: r.items)).map faulted = faulted item :: left := by
  cases item with
  | ok row => exact ⟨_, .row row r, rfl⟩
  | error e => exact ⟨_, .fault e r, rfl⟩

namespace Heard

theorem unfailed (h : Heard items events total) (he : ∀ message, e ≠ .failed message) :
    Heard items (events ++ [e]) total := by
  cases h with
  | whole sound =>
    refine .whole fun message hmem => ?_
    rcases List.mem_append.1 hmem with hbefore | hlast
    · exact sound message hbefore
    · exact he message (List.mem_singleton.1 hlast).symm
  | broken failed before => exact .broken (List.mem_append_left _ failed) before

theorem eq_items (h : Heard items events total) (sound : ∀ message, .failed message ∉ events) :
    total = items := by
  cases h with
  | whole => rfl
  | broken failed => exact absurd failed (sound _)

end Heard

namespace Onward

theorem quiet (h : Onward events) (hgiven : e.given? = none) : Onward (events ++ [e]) := by
  obtain ⟨rows, hrows⟩ := h.rows
  refine ⟨⟨rows, by rw [given_of_none hgiven, hrows]⟩, fun message hmem => ?_⟩
  rcases List.mem_append.1 hmem with hbefore | hlast
  · exact h.sound message hbefore
  · rw [← List.mem_singleton.1 hlast] at hgiven
    cases hgiven

theorem row (h : Onward events) (row : Row) : Onward (events ++ [.read (.ok row)]) := by
  obtain ⟨rows, hrows⟩ := h.rows
  refine ⟨⟨rows ++ [row], ?_⟩, fun message hmem => ?_⟩
  · rw [given_append, hrows, List.map_append]
    rfl
  · rcases List.mem_append.1 hmem with hbefore | hlast
    · exact h.sound message hbefore
    · cases List.mem_singleton.1 hlast

end Onward

namespace Reads

variable {thread : Thread}

/-- A thread that is where it was knows what it knew. -/
theorem quiet (h : Reads items total events thread) (hgiven : e.given? = none) :
    Reads items total (events ++ [e]) thread := by
  have he : ∀ message, e ≠ .failed message := by
    rintro message rfl
    cases hgiven
  refine ⟨h.heard.unfailed he, ?_, fun hon => (h.onward hon).quiet hgiven⟩
  rw [given_of_none hgiven]
  exact h.awaits

end Reads

/-- What is known of a thread holds behind each turn; what it gets altogether is known anew only if
the host fails. -/
theorem Reads.turn (h : Reads items total events s.thread) (turn : s.Turn capacity e s') :
    ∃ total', Reads items total' (events ++ [e]) s'.thread := by
  obtain ⟨left, hawaits, hall⟩ := h.awaits
  cases turn with
  | @read r r' item at' next =>
    rw [at'] at hawaits
    cases hawaits
    obtain ⟨left, hleft, hfirst⟩ := exists_awaits item r'
    refine ⟨total, h.heard.unfailed nofun, ⟨left, hleft, ?_⟩, fun hon => ?_⟩
    · rw [given_append, List.append_assoc, ← hall, items_of_next next, hfirst]
      rfl
    · cases item with
      | ok row => exact (h.onward (by rw [at']; rfl)).row row
      | error e => cases hon
  | @failed r message at' more =>
    have honward : Onward events := h.onward (by rw [at']; rfl)
    obtain ⟨rows, hrows⟩ := honward.rows
    have hbefore : rows.map .ok <+: items :=
      ⟨left, by rw [← hrows, hall, h.heard.eq_items honward.sound]⟩
    refine ⟨_, .broken (List.mem_append_right _ (List.mem_singleton.2 rfl)) hbefore,
      ⟨[], .fault _ r, ?_⟩, nofun⟩
    rw [given_append, hrows, List.append_nil]
    rfl
  | ended at' next =>
    rw [at'] at hawaits
    cases hawaits
    rw [items_of_next_none next] at hall
    exact ⟨total, (h.heard.unfailed nofun), ⟨[], .ended, by rw [given_of_none rfl]; exact hall⟩,
      nofun⟩
  | @sent item r at' =>
    rw [at'] at hawaits
    refine ⟨total, h.heard.unfailed nofun, ⟨left, ?_, by rw [given_of_none rfl]; exact hall⟩, ?_⟩
    · cases hawaits with
      | row row => exact .reading r
      | fault => exact .ended
    · intro hon
      refine Onward.quiet (h.onward ?_) rfl
      rw [at']
      cases item with
      | ok row => rfl
      | error e => cases hon
  | abandoned at' =>
    exact ⟨total, h.heard.unfailed nofun,
      ⟨left, .abandoned left, by rw [given_of_none rfl]; exact hall⟩, nofun⟩
  | pulled | dropped => exact ⟨total, h.quiet rfl⟩
  | drained => exact ⟨total, h.quiet rfl⟩

/-- What is known of the channel: what came out of it came first, what is in it comes next, and
then what the thread has. An end is only answered behind the last item. -/
structure Channels (events : List Event) (s : Relay) : Prop where
  flow : ∃ (front : List (Except Fault Row)) (ends : Nat),
    answers events = front.map (·.map some) ++ List.replicate ends (.ok none) ∧
    front <+: given events ∧
    (s.pulling = true → front ++ (s.queue ++ s.thread.inHand) = given events) ∧
    (0 < ends → s.thread = .ended ∧ front = given events)
  present : s.pulling = true → s.thread ≠ .abandoned

namespace Channels

/-- What the thread gets it has in hand, and the channel stays as it is. -/
theorem of_thread (h : Channels events s) {thread : Thread} (hrunning : s.thread ≠ .ended)
    (hanswer : e.answer? = none)
    (hhand : s.pulling = true → thread.inHand = s.thread.inHand ++ e.given?.toList)
    (hpresent : s.pulling = true → thread ≠ .abandoned) :
    Channels (events ++ [e]) { s with thread } := by
  obtain ⟨front, ends, hanswers, hfront, hall, hends⟩ := h.flow
  refine ⟨⟨front, ends, by rw [answers_of_none hanswer, hanswers], ?_, ?_, ?_⟩, hpresent⟩
  · rw [given_append]
    exact hfront.trans (List.prefix_append _ _)
  · intro hpulling
    rw [given_append, ← hall hpulling, hhand hpulling]
    simp only [List.append_assoc]
  · exact fun hpos => absurd (hends hpos).1 hrunning

theorem turn (h : Channels events s) (turn : s.Turn capacity e s') :
    Channels (events ++ [e]) s' := by
  cases turn with
  | read at' | failed _ at' =>
    exact h.of_thread (by rw [at']; nofun) rfl (fun _ => by rw [at']; rfl) nofun
  | ended at' =>
    exact h.of_thread (by rw [at']; nofun) rfl (fun _ => by rw [at']; rfl) nofun
  | abandoned at' gone =>
    have hgone : s.pulling ≠ true := by rw [gone]; nofun
    exact h.of_thread (by rw [at']; nofun) rfl (absurd · hgone) (absurd · hgone)
  | @sent item r at' pulling =>
    obtain ⟨front, ends, hanswers, hfront, hall, hends⟩ := h.flow
    have hgiven : given (events ++ [.sent]) = given events := given_of_none rfl
    refine ⟨⟨front, ends, by rw [answers_of_none rfl, hanswers], by rwa [hgiven], fun _ => ?_,
      fun hpos => ?_⟩, fun _ => ?_⟩
    · have hhand : (Thread.behind r item).inHand = [] := by cases item <;> rfl
      rw [hgiven, ← hall pulling, at', hhand, List.append_nil]
      rfl
    · have hover := (hends hpos).1
      rw [at'] at hover
      cases hover
    · cases item <;> nofun
  | @pulled item queue pulling first =>
    obtain ⟨front, ends, hanswers, hfront, hall, hends⟩ := h.flow
    have hgiven : given (events ++ [.pulled (item.map some)]) = given events := given_of_none rfl
    have hqueue := hall pulling
    rw [first] at hqueue
    -- There is something in the channel, so the end has not been said.
    have hnone : ends = 0 := by
      by_contra hne
      have hlength := congrArg List.length hqueue
      rw [(hends (Nat.pos_of_ne_zero hne)).2] at hlength
      simp at hlength
    refine ⟨⟨front ++ [item], 0, ?_, ?_, fun _ => ?_, nofun⟩, h.present⟩
    · rw [answers_append, hanswers, hnone, List.map_append]
      simp
      rfl
    · rw [hgiven, ← hqueue]
      exact ⟨queue ++ s.thread.inHand, by simp⟩
    · rw [hgiven, ← hqueue]
      simp
  | drained pulling empty finished =>
    obtain ⟨front, ends, hanswers, hfront, hall, hends⟩ := h.flow
    have hgiven : given (events ++ [.pulled (.ok none)]) = given events := given_of_none rfl
    have hwhole := hall pulling
    rw [empty, finished] at hwhole
    refine ⟨⟨front, ends + 1, ?_, by rwa [hgiven], fun _ => ?_, fun _ => ⟨finished, ?_⟩⟩, h.present⟩
    · rw [answers_append, hanswers, List.append_assoc, List.replicate_succ']
      rfl
    · rw [hgiven, hall pulling]
    · rw [hgiven, ← hwhole]
      exact (List.append_nil _).symm
  | dropped pulling =>
    obtain ⟨front, ends, hanswers, hfront, hall, hends⟩ := h.flow
    have hgiven : given (events ++ [.dropped]) = given events := given_of_none rfl
    refine ⟨⟨front, ends, by rw [answers_of_none rfl, hanswers], by rwa [hgiven], nofun, ?_⟩, nofun⟩
    rwa [hgiven]

end Channels

/-- The turns that a thread may still take. -/
def Thread.turnsLeft : Thread → Nat
  | reading r => 2 * (throughFault r.items).length + 2
  | sending (.ok _) r => 2 * (throughFault r.items).length + 3
  | sending (.error _) _ => 1
  | _ => 0

theorem turnsLeft_lt (turn : s.Turn capacity e s') (he : e.isOfThread = true) :
    s'.thread.turnsLeft < s.thread.turnsLeft := by
  cases turn with
  | @read r r' item at' next =>
    rw [at']
    show _ < 2 * (throughFault r.items).length + 2
    rw [items_of_next next]
    cases item with
    | ok row =>
      show 2 * (throughFault r'.items).length + 3 < 2 * ((throughFault r'.items).length + 1) + 2
      omega
    | error e => exact Nat.lt_of_sub_eq_succ rfl
  | @failed r message at' =>
    rw [at']
    show 1 < 2 * (throughFault r.items).length + 2
    omega
  | @ended r at' =>
    rw [at']
    exact Nat.succ_pos _
  | @sent item r at' =>
    rw [at']
    cases item with
    | ok row => exact Nat.lt_succ_self _
    | error e => exact Nat.zero_lt_one
  | @abandoned item r at' =>
    rw [at']
    cases item with
    | ok row => exact Nat.succ_pos _
    | error e => exact Nat.zero_lt_one
  | pulled | drained | dropped => cases he

theorem thread_eq (turn : s.Turn capacity e s') (he : e.isOfThread = false) :
    s'.thread = s.thread := by
  cases turn with
  | pulled | drained | dropped => rfl
  | _ => cases he

/-- While the other side is there, it can be answered, or the thread can take a turn. -/
theorem exists_turn (h : Channels events s) (hpulling : s.pulling = true) :
    (∃ answer s', s.Turn capacity (.pulled answer) s') ∨
    ∃ e s', e.isOfThread = true ∧ s.Turn capacity e s' := by
  cases hqueue : s.queue with
  | cons item queue => exact .inl ⟨_, _, .pulled hpulling hqueue⟩
  | nil =>
    cases hthread : s.thread with
    | reading r =>
      cases hnext : r.next.1 with
      | none => exact .inr ⟨_, _, rfl, .ended hthread hnext⟩
      | some item => exact .inr ⟨_, _, rfl, .read hthread (Prod.ext hnext rfl)⟩
    | sending item r =>
      have hroom : s.queue.length < max capacity 1 := by
        rw [hqueue, List.length_nil]
        omega
      exact .inr ⟨_, _, rfl, .sent hthread hpulling hroom⟩
    | ended => exact .inl ⟨_, _, .drained hpulling hqueue hthread⟩
    | abandoned => exact absurd hthread (h.present hpulling)

namespace Relayed

theorem reads (run : Relayed capacity r events s) :
    ∃ total, Reads ((throughFault r.items).map faulted) total events s.thread := by
  induction run with
  | start =>
    exact ⟨_, .whole fun _ => List.not_mem_nil, ⟨_, .reading r, rfl⟩, fun _ =>
      ⟨⟨[], rfl⟩, fun _ => List.not_mem_nil⟩⟩
  | step _ next ih =>
    obtain ⟨total, h⟩ := ih
    exact h.turn next

theorem channels (run : Relayed capacity r events s) : Channels events s := by
  induction run with
  | start => exact ⟨⟨[], 0, rfl, List.nil_prefix, fun _ => rfl, nofun⟩, nofun⟩
  | step _ next ih => exact ih.turn next

theorem turns_le (run : Relayed capacity r events s) :
    events.countP Event.isOfThread + s.thread.turnsLeft ≤
      2 * (throughFault r.items).length + 2 := by
  induction run with
  | start => exact Nat.le_of_eq (Nat.zero_add _)
  | @step events e s s' before next ih =>
    rw [List.countP_append, List.countP_singleton]
    cases he : e.isOfThread with
    | true =>
      have hlt := turnsLeft_lt next he
      simp only [if_true]
      omega
    | false =>
      rw [thread_eq next he]
      simpa using ih

end Relayed

/-- What is to be answered when the other side asks and so many answers were given before. -/
def answerAt (total : List (Except Fault Row)) (i : Nat) : Except Fault (Option Row) :=
  match total[i]? with
  | some item => item.map some
  | none => .ok none

/-- The other side gets what a source has. -/
structure Delivers (capacity : Nat) (source : Source) (events : List Event) (s : Relay) : Prop where
  /-- Each answer is the one for its place, so that none is left out or given twice. -/
  answered : ∃ total, Heard source.items events total ∧
    (∀ i answer, (answers events)[i]? = some answer → answer = answerAt total i) ∧
    ∀ f, .error f ∈ total → Cube.IsFormatFault f ∨ Cube.IsHostFault f
  /-- Whoever asks is answered, at once or behind turns of the thread, of which there are few. -/
  ready : s.pulling = true → (∃ answer s', s.Turn capacity (.pulled answer) s') ∨
    ∃ e s', e.isOfThread = true ∧ s.Turn capacity e s'
  turns : events.countP Event.isOfThread ≤ 2 * source.items.length + 2

/-- Answers are for their places. -/
theorem answer_eq (hreads : Reads items total events s.thread) (hchannels : Channels events s)
    {i : Nat} {answer : Except Fault (Option Row)} (h : (answers events)[i]? = some answer) :
    answer = answerAt total i := by
  obtain ⟨left, hawaits, hall⟩ := hreads.awaits
  obtain ⟨front, ends, hanswers, ⟨behind, hfront⟩, -, hends⟩ := hchannels.flow
  rw [hanswers] at h
  rcases Nat.lt_or_ge i front.length with hlt | hge
  · have hitem : total[i]? = some front[i] := by
      rw [← hall, ← hfront, List.append_assoc, List.getElem?_append_left hlt,
        List.getElem?_eq_getElem hlt]
    rw [List.getElem?_append_left (by simpa using hlt), List.getElem?_map,
      List.getElem?_eq_getElem hlt] at h
    cases h
    rw [answerAt, hitem]
  · rw [List.getElem?_append_right (by simpa using hge), List.getElem?_replicate] at h
    split at h
    · rename_i hlt
      cases h
      obtain ⟨hover, hwhole⟩ := hends (by omega)
      rw [hover] at hawaits
      cases hawaits
      rw [List.append_nil] at hall
      rw [answerAt, List.getElem?_eq_none (by rw [← hall, ← hwhole]; exact hge)]
    · cases h

theorem isFault_of_heard {source : Source} (hitems : ∀ f, .error f ∈ source.items →
      Cube.IsFormatFault f) (h : Heard source.items events total) {f : Fault}
    (hf : .error f ∈ total) : Cube.IsFormatFault f ∨ Cube.IsHostFault f := by
  cases h with
  | whole => exact .inl (hitems f hf)
  | broken failed before =>
    rcases List.mem_append.1 hf with hrow | hlast
    · obtain ⟨row, -, hrow⟩ := List.mem_map.1 hrow
      cases hrow
    · cases List.mem_singleton.1 hlast
      exact .inr ⟨rfl, rfl, rfl⟩

end Relay

theorem Source.isFormatFault {s : Schema} {limit : Option Nat} {b : Bytes} {f : Fault}
    (h : .error f ∈ (Source.ofContents ⟨s, Cube.items s limit b⟩).items) :
    Cube.IsFormatFault f := by
  obtain ⟨item, hitem, hf⟩ := List.mem_map.1 h
  cases item with
  | ok row => cases hf
  | error e =>
    cases hf
    exact Cube.isFormatFault_of_ofBytes (Cube.ofBytes_of_items
      (Cube.mem_of_mem_throughFault hitem))

/-- A stream whose header is read gives its items up to a limit of rows, and nothing behind the last
of them matters. When a relay reads it, the other side is answered with these items up to the first
fault, and then with the end, however thread and other side take turns. -/
theorem Source.relayed {b rest : Bytes} {s : Schema} (h : Cube.takeHeader b = .ok (s, rest)) :
    (∀ n, 0 < n → Cube.Limited s rest n) ∧
    ∀ limit, ∃ contents, Cube.read b limit = .ok contents ∧ contents.schema = s ∧
      (∀ k, (Cube.Reader.start s limit rest).answer k = contents.items[k]?) ∧
      ∀ capacity events relay,
        Relay.Relayed capacity (Cube.Reader.start s limit rest) events relay →
        relay.Delivers capacity (Source.ofContents contents) events := by
  refine ⟨fun n hn => Cube.limited s rest hn, fun limit => ?_⟩
  let contents : Cube.Contents := ⟨s, Cube.items s (Cube.limitOf limit) rest⟩
  let r := Cube.Reader.start s limit rest
  have hread : Cube.read b limit = .ok contents := by
    rw [Cube.read, h]
    rfl
  have hitems : r.items = contents.items := by
    show Cube.items s ((Cube.limitOf limit).map (· - 0)) rest = _
    simp [contents]
  refine ⟨contents, hread, rfl, fun k => by rw [r.answer_eq, hitems], ?_⟩
  intro capacity events relay run
  have hsource : (throughFault r.items).map Relay.faulted = (Source.ofContents contents).items := by
    rw [hitems]
    rfl
  obtain ⟨total, hreads⟩ := run.reads
  rw [hsource] at hreads
  have hturns : events.countP Relay.Event.isOfThread + relay.thread.turnsLeft ≤
      2 * (Source.ofContents contents).items.length + 2 := by
    rw [← hsource, List.length_map]
    exact run.turns_le
  refine ⟨⟨total, hreads.heard, fun i answer => Relay.answer_eq hreads run.channels, fun f =>
    Relay.isFault_of_heard (fun _ => Source.isFormatFault) hreads.heard⟩,
    Relay.exists_turn run.channels, Nat.le_of_add_right_le hturns⟩

/-- A stream of one column with a record that is damaged between two that are not. -/
def damagedSchema : Schema := ⟨[{ name := "paid", kind := .boolean }], List.pairwise_singleton _ _⟩

def damagedRecords : Bytes := [[6, 1], [9, 0, 0], [0]].flatMap Cube.putBytes

/-- The thread is ahead of the other side, which asks twice behind the fault. -/
def damagedEvents : List Relay.Event :=
  [.read (.ok [.boolean true]), .sent, .read (.error (.unknownTag "paid" 9)),
    .pulled (.ok (some [.boolean true])), .sent,
    .pulled (.error (Cube.Error.unknownTag "paid" 9).fault), .pulled (.ok none), .pulled (.ok none)]

theorem damagedEvents_relayed : ∃ relay,
    Relay.Relayed 256 (Cube.Reader.start damagedSchema 0 damagedRecords) damagedEvents relay := by
  have h₀ : Relay.Relayed 256 (Cube.Reader.start damagedSchema 0 damagedRecords) [] _ := .start
  have h₁ := h₀.step (.read rfl rfl)
  have h₂ := h₁.step (.sent rfl rfl (by decide))
  have h₃ := h₂.step (.read rfl rfl)
  have h₄ := h₃.step (.pulled rfl rfl)
  have h₅ := h₄.step (.sent rfl rfl (by decide))
  have h₆ := h₅.step (.pulled rfl rfl)
  have h₇ := h₆.step (.drained rfl rfl rfl)
  exact ⟨_, h₇.step (.drained rfl rfl rfl)⟩

theorem relayed_damaged :
    Cube.Limited damagedSchema damagedRecords 1 ∧ ∃ contents relay,
      Cube.read (Cube.putHeader damagedSchema ++ damagedRecords) 0 = .ok contents ∧
      Relay.Delivers 256 (Source.ofContents contents) damagedEvents relay := by
  have hfits : Cube.Fits damagedSchema := ⟨by decide, by decide, by decide⟩
  have hheader := Cube.takeHeader_putHeader hfits damagedRecords
  obtain ⟨hlimited, hdelivers⟩ := Source.relayed hheader
  obtain ⟨contents, hread, -, -, hcourse⟩ := hdelivers 0
  obtain ⟨relay, hrelay⟩ := damagedEvents_relayed
  exact ⟨hlimited 1 (by decide), contents, relay, hread, hcourse 256 damagedEvents relay hrelay⟩

end BulkLoad.Step
