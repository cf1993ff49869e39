import BulkLoad.Proofs.Host.Layout
import BulkLoad.Proofs.Host.Script

/-!
Traces on which the host fails at nothing that it has taken up: it takes all bytes that it is
handed, it closes and removes what it is told to, and processes end well. Whether it takes something
up is not said here.
-/

namespace BulkLoad.Host

/-- The wait was over with the end of a process that ended well. -/
def Waiting.endsWell {stoppable : Bool} : Waiting stoppable Ending → Bool
  | .over (.exited status) => status.succeeded
  | _ => false

theorem Waiting.exited_of_endsWell {stoppable : Bool} {w : Waiting stoppable Ending}
    (h : w.endsWell = true) : ∃ status, w = .over (.exited status) ∧ status.succeeded = true := by
  rcases w with (status | _ | _) | _
  · exact ⟨status, rfl, h⟩
  · cases h
  · cases h
  · cases h

/-- The host did not take all of the bytes, could not close or remove something, or waited for a
process that did not end well. -/
def Exchange.fails : Exchange → Bool
  | ⟨.append s _ _, answer⟩ => !@Delivery.isDone s answer
  | ⟨.writePipe s _ _, answer⟩ => !@Delivery.isDone s answer
  | ⟨.enqueue s _ _, answer⟩ => !@Handover.isTaken s answer
  | ⟨.closeFile _, answer⟩ => !@Except.toBool String Unit answer
  | ⟨.closeQueue _, answer⟩ => !@Except.toBool String Unit answer
  | ⟨.remove _, answer⟩ => !@Except.toBool String Unit answer
  | ⟨.awaitExit s _ _, answer⟩ => !@Waiting.endsWell s answer
  | _ => false

namespace Trace

/-- Nothing fails. -/
def Unfailing (t : Trace) : Prop := ∀ x ∈ t, x.fails = false

@[simp] theorem unfailing_nil : Unfailing [] := nofun

@[simp] theorem unfailing_cons {x : Exchange} {t : Trace} :
    Unfailing (x :: t) ↔ x.fails = false ∧ Unfailing t :=
  List.forall_mem_cons

@[simp] theorem unfailing_append {t u : Trace} : Unfailing (t ++ u) ↔ Unfailing t ∧ Unfailing u :=
  List.forall_mem_append

namespace Unfailing

variable {t : Trace}

theorem removalsSucceed (h : t.Unfailing) : t.RemovalsSucceed := by
  intro x hx
  have hfails := h x hx
  obtain ⟨r, answer⟩ := x
  cases r with
  | remove path => exact hfails
  | _ => rfl

theorem onDisk (h : t.Unfailing) : Unfailing t.onDisk :=
  fun x hx => h x (List.mem_filter.1 hx).1

/-- What is handed on comes through as a whole. -/
theorem whole (h : t.Unfailing) : ∀ q ∈ t.parcels, q.whole = true := by
  intro q hq
  obtain ⟨⟨r, answer⟩, hx, hparcel⟩ := List.mem_filterMap.1 hq
  have hfails := h _ hx
  cases r with
  | append s file bytes =>
    cases hparcel
    simpa [Exchange.fails] using hfails
  | writePipe s pipe bytes =>
    cases hparcel
    simpa [Exchange.fails] using hfails
  | enqueue s queue bytes =>
    cases hparcel
    simpa [Exchange.fails] using hfails
  | _ => cases hparcel

end Unfailing

/-- Only exchanges about the disk hand anything to a file. -/
theorem bytesFor_file_onDisk (t : Trace) :
    bytesFor .file t.onDisk.parcels = bytesFor .file t.parcels := by
  induction t with
  | nil => rfl
  | cons x t ih =>
    have hcons : ∀ u : Trace,
        bytesFor .file (parcels (x :: u)) =
          bytesFor .file (parcels [x]) ++ bytesFor .file u.parcels :=
      fun u => by rw [← bytesFor_append, ← parcels_append, List.singleton_append]
    rw [onDisk_cons, hcons t, ← ih]
    split
    · rw [hcons (onDisk t)]
    · rename_i hx
      obtain ⟨r, answer⟩ := x
      cases r with
      | append s file bytes => exact absurd rfl hx
      | _ => rfl

end Trace

/-- Of parcels that came through as a whole, all bytes arrive. -/
theorem arrived_iff {port : Port} {parcels : List Parcel} {bytes : Bytes}
    (h : ∀ q ∈ parcels, q.whole = true) :
    Arrived port parcels bytes ↔ bytes = bytesFor port parcels := by
  induction parcels generalizing bytes with
  | nil =>
    constructor
    · intro ha
      cases ha
      rfl
    · rintro rfl
      exact .nil
  | cons q parcels ih =>
    obtain ⟨hq, hrest⟩ := List.forall_mem_cons.1 h
    rw [bytesFor_cons]
    by_cases hport : q.port = port
    · rw [if_pos hport]
      constructor
      · intro ha
        cases ha with
        | elsewhere other rest => exact absurd hport other
        | here same prefixed whole rest => rw [whole hq, (ih hrest).1 rest]
      · rintro rfl
        exact .here hport List.prefix_rfl (fun _ => rfl) ((ih hrest).2 rfl)
    · rw [if_neg hport, List.nil_append]
      constructor
      · intro ha
        cases ha with
        | elsewhere other rest => exact (ih hrest).1 rest
        | here same prefixed whole rest => exact absurd same hport
      · intro hbytes
        exact .elsewhere hport ((ih hrest).2 hbytes)

end BulkLoad.Host
