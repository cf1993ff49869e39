import BulkLoad.Proofs.Host.Notable

/-!
Parcels that follow a script: the first of them are those of the script, in its order, and the last
one may have come through only in part. The bytes that arrive at a port are then a prefix of the
bytes that the script has for it.
-/

namespace BulkLoad.Host

/-- The parcel as one that did not come through as a whole. -/
def Parcel.cut (q : Parcel) : Parcel := { q with whole := false }

/-- Parcels are handed on in the order of a script, and after one that did not come through as a
whole none is handed on. -/
inductive Follows : List Parcel → List Parcel → Prop
  | nil (script : List Parcel) : Follows script []
  | cut (q : Parcel) (script : List Parcel) : Follows (q :: script) [q.cut]
  | cons {script parcels : List Parcel} (q : Parcel) (rest : Follows script parcels) :
      Follows (q :: script) (q :: parcels)

namespace Follows

variable {script more parcels : List Parcel}

theorem refl (script : List Parcel) : Follows script script := by
  induction script with
  | nil => exact .nil []
  | cons q script ih => exact .cons q ih

theorem append_right (h : Follows script parcels) (more : List Parcel) :
    Follows (script ++ more) parcels := by
  induction h with
  | nil script => exact .nil _
  | cut q script => exact .cut q _
  | cons q _ ih => exact .cons q ih

theorem append_left (script : List Parcel) (h : Follows more parcels) :
    Follows (script ++ more) (script ++ parcels) := by
  induction script with
  | nil => exact h
  | cons q script ih => exact .cons q ih

theorem length_le (h : Follows script parcels) : parcels.length ≤ script.length := by
  induction h with
  | nil script => exact Nat.zero_le _
  | cut q script => simp
  | cons q _ ih =>
    rw [List.length_cons, List.length_cons]
    omega

theorem ofRow (h : Follows script parcels) (hs : ∀ q ∈ script, q.ofRow = false) :
    ∀ q ∈ parcels, q.ofRow = false := by
  induction h with
  | nil script => exact nofun
  | cut q script =>
    obtain ⟨hq, -⟩ := List.forall_mem_cons.1 hs
    intro x hx
    rw [List.mem_singleton.1 hx]
    exact hq
  | cons q _ ih =>
    obtain ⟨hq, hscript⟩ := List.forall_mem_cons.1 hs
    exact List.forall_mem_cons.2 ⟨hq, ih hscript⟩

theorem of_isPrefix {part : List Parcel} (h : Follows script parcels) (hp : part <+: parcels) :
    Follows script part := by
  induction h generalizing part with
  | nil script =>
    rw [List.prefix_nil.1 hp]
    exact .nil _
  | cut q script =>
    cases part with
    | nil => exact .nil _
    | cons x part =>
      obtain ⟨rfl, hrest⟩ := List.cons_prefix_cons.1 hp
      rw [List.prefix_nil.1 hrest]
      exact .cut q script
  | cons q _ ih =>
    cases part with
    | nil => exact .nil _
    | cons x part =>
      obtain ⟨rfl, hrest⟩ := List.cons_prefix_cons.1 hp
      exact .cons x (ih hrest)

end Follows

/-- The bytes that a script has for a port. -/
def bytesFor (port : Port) (script : List Parcel) : Bytes :=
  script.flatMap fun q => if q.port = port then q.bytes else []

@[simp] theorem bytesFor_nil (port : Port) : bytesFor port [] = [] := rfl

theorem bytesFor_append (port : Port) (ps qs : List Parcel) :
    bytesFor port (ps ++ qs) = bytesFor port ps ++ bytesFor port qs :=
  List.flatMap_append

theorem bytesFor_cons (port : Port) (q : Parcel) (ps : List Parcel) :
    bytesFor port (q :: ps) = (if q.port = port then q.bytes else []) ++ bytesFor port ps :=
  List.flatMap_cons

/-- The bytes that may have arrived at a port: all bytes of a parcel that came through as a whole,
and any first part of one that did not. -/
inductive Arrived (port : Port) : List Parcel → Bytes → Prop
  | nil : Arrived port [] []
  | elsewhere {q : Parcel} {parcels : List Parcel} {bytes : Bytes} (other : q.port ≠ port)
      (rest : Arrived port parcels bytes) : Arrived port (q :: parcels) bytes
  | here {q : Parcel} {parcels : List Parcel} {part bytes : Bytes} (same : q.port = port)
      (prefixed : part <+: q.bytes) (whole : q.whole = true → part = q.bytes)
      (rest : Arrived port parcels bytes) : Arrived port (q :: parcels) (part ++ bytes)

/-- What arrives of parcels that follow a script is a prefix of what the script has. -/
theorem Follows.arrived {port : Port} {script parcels : List Parcel} {bytes : Bytes}
    (h : Follows script parcels) (hs : ∀ q ∈ script, q.whole = true)
    (ha : Arrived port parcels bytes) : bytes <+: bytesFor port script := by
  induction h generalizing bytes with
  | nil script =>
    cases ha
    exact List.nil_prefix
  | cut q script =>
    cases ha with
    | elsewhere other rest =>
      cases rest
      exact List.nil_prefix
    | here same prefixed whole rest =>
      cases rest
      have hport : q.port = port := same
      rw [bytesFor_cons, if_pos hport, List.append_nil]
      exact List.IsPrefix.trans prefixed (List.prefix_append _ _)
  | @cons script parcels q _ ih =>
    obtain ⟨hwhole, hrest⟩ := List.forall_mem_cons.1 hs
    cases ha with
    | elsewhere other rest =>
      rw [bytesFor_cons, if_neg other, List.nil_append]
      exact ih hrest rest
    | here same prefixed whole rest =>
      rw [bytesFor_cons, if_pos same, whole hwhole]
      exact (List.prefix_append_right_inj _).2 (ih hrest rest)

end BulkLoad.Host
