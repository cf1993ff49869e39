import BulkLoad.Proofs.Host.Notable

/-!
Traces that heed a request to stop. Whatever is done for a row is done directly behind an answer
that says to go on; once an answer says to stop, nothing more is done for a row, and the dialogue
ends with what stands for that.
-/

namespace BulkLoad.Host

/-- The answer to the question whether to stop. -/
def asked (stop : Bool) : Exchange := ⟨.stopRequested, stop⟩

/-- The request takes a row or hands on a record of one. -/
def Request.isRowWork : Request → Bool
  | .append true .. | .writePipe true .. | .enqueue true .. | .pull => true
  | _ => false

namespace Trace

@[simp] theorem parcels_asked (stop : Bool) (t : Trace) : parcels (asked stop :: t) = t.parcels :=
  rfl

theorem isRowWork_eq_false_of_isActive {r : Request} (h : r.isActive = false) :
    r.isRowWork = false := by
  unfold Request.isRowWork
  split <;> first | rfl | cases h

/-- What is done for a row is done directly behind an answer that says to go on. -/
inductive Guarded : Trace → Prop
  | nil : Guarded []
  | free {x : Exchange} {t : Trace} (idle : x.request.isRowWork = false) (rest : Guarded t) :
      Guarded (x :: t)
  | guarded {x : Exchange} {t : Trace} (rest : Guarded t) : Guarded (asked false :: x :: t)

variable {t u : Trace}

theorem Guarded.append (h : Guarded t) (g : Guarded u) : Guarded (t ++ u) := by
  induction h with
  | nil => exact g
  | free idle _ ih => exact .free idle ih
  | guarded _ ih => exact .guarded ih

theorem Guarded.of_isPrefix {p : Trace} (h : Guarded t) (hp : p <+: t) : Guarded p := by
  induction h generalizing p with
  | nil =>
    rw [List.prefix_nil.1 hp]
    exact .nil
  | free idle _ ih =>
    cases p with
    | nil => exact .nil
    | cons y p =>
      obtain ⟨rfl, hrest⟩ := List.cons_prefix_cons.1 hp
      exact .free idle (ih hrest)
  | guarded _ ih =>
    match p with
    | [] => exact .nil
    | [y] =>
      obtain ⟨hy, -⟩ := List.cons_prefix_cons.1 hp
      rw [hy]
      exact .free rfl .nil
    | y :: z :: p =>
      obtain ⟨hy, hp₁⟩ := List.cons_prefix_cons.1 hp
      obtain ⟨rfl, hp₂⟩ := List.cons_prefix_cons.1 hp₁
      rw [hy]
      exact .guarded (ih hp₂)

/-- Nothing in the trace is done for a row. -/
def Rowless (t : Trace) : Prop := ∀ x ∈ t, x.request.isRowWork = false

@[simp] theorem rowless_nil : Rowless [] := nofun

@[simp] theorem rowless_cons {x : Exchange} :
    Rowless (x :: t) ↔ x.request.isRowWork = false ∧ t.Rowless :=
  List.forall_mem_cons

theorem rowless_singleton {x : Exchange} : Rowless [x] ↔ x.request.isRowWork = false :=
  List.forall_mem_singleton

@[simp] theorem rowless_append : Rowless (t ++ u) ↔ t.Rowless ∧ u.Rowless :=
  List.forall_mem_append

theorem Still.rowless (h : t.Still) : t.Rowless :=
  fun x hx => isRowWork_eq_false_of_isActive (h x hx).2.1

theorem Meets.rowless (h : t.Meets) : t.Rowless :=
  fun x hx => isRowWork_eq_false_of_isActive (idle_of_isMeeting (h x hx)).2

theorem Rowless.guarded (h : t.Rowless) : Guarded t := by
  induction t with
  | nil => exact .nil
  | cons x t ih =>
    obtain ⟨hx, ht⟩ := rowless_cons.1 h
    exact .free hx (ih ht)

/-- Behind an answer that says to stop, nothing more is done for a row. -/
def Heeds (t : Trace) : Prop :=
  t.Pairwise fun x y => x.tellsStop = true → y.request.isActive = false

theorem Calm.heeds_append (h : t.Calm) (g : u.Heeds) : Heeds (t ++ u) := by
  refine List.pairwise_append.2 ⟨?_, g, ?_⟩
  · refine List.pairwise_of_forall_mem_list fun x hx y _ htell => ?_
    rw [h x hx] at htell
    cases htell
  · intro x hx y _ htell
    rw [h x hx] at htell
    cases htell

theorem Heeds.append_still (h : t.Heeds) (g : u.Still) : Heeds (t ++ u) :=
  List.pairwise_append.2 ⟨h, List.pairwise_of_forall_mem_list fun _ _ y hy _ => (g y hy).2.1,
    fun _ _ y hy _ => (g y hy).2.1⟩

theorem Still.heeds (h : t.Still) : Heeds t :=
  List.pairwise_of_forall_mem_list fun _ _ y hy _ => (h y hy).2.1

theorem Heeds.of_isPrefix {p : Trace} (h : t.Heeds) (hp : p <+: t) : Heeds p :=
  h.sublist hp.sublist

/-- The trace heeds a request to stop, and one that was told to stop ends like this. -/
structure Heeded (t : Trace) (stops : Prop) : Prop where
  guarded : t.Guarded
  heeds : t.Heeds
  told : ¬t.Calm → stops

variable {stops : Prop}

theorem Calm.heeded (h : t.Calm) (g : t.Guarded) : Heeded t stops := by
  refine ⟨g, ?_, fun hn => absurd h hn⟩
  have := h.heeds_append (u := []) List.Pairwise.nil
  rwa [List.append_nil] at this

/-- What comes before the rows or behind them. -/
theorem Still.heeded (h : t.Still) (told : ¬t.Calm → stops) : Heeded t stops :=
  ⟨h.rowless.guarded, h.heeds, told⟩

theorem Calm.heeded_append (h : t.Calm) (g : t.Guarded) (hu : Heeded u stops) :
    Heeded (t ++ u) stops :=
  ⟨g.append hu.guarded, h.heeds_append hu.heeds,
    fun hn => hu.told fun hc => hn (calm_append.2 ⟨h, hc⟩)⟩

theorem Heeded.append_still (h : Heeded t stops) (g : u.Still) (hc : u.Calm) :
    Heeded (t ++ u) stops :=
  ⟨h.guarded.append g.rowless.guarded, h.heeds.append_still g,
    fun hn => h.told fun ht => hn (calm_append.2 ⟨ht, hc⟩)⟩

theorem Heeded.calm (h : Heeded t stops) (hn : ¬stops) : t.Calm := by
  by_cases hcalm : t.Calm
  · exact hcalm
  · exact absurd (h.told hcalm) hn

/-- One dialogue after another that was not told to stop. -/
theorem Heeded.append {stops' : Prop} (h : Heeded t stops) (hn : ¬stops) (g : Heeded u stops') :
    Heeded (t ++ u) stops' :=
  (h.calm hn).heeded_append h.guarded g

theorem Heeded.imp {stops' : Prop} (h : Heeded t stops) (himp : stops → stops') :
    Heeded t stops' :=
  ⟨h.guarded, h.heeds, fun hn => himp (h.told hn)⟩

end Trace
end BulkLoad.Host
