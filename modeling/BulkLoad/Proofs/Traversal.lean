import Mathlib.Data.List.Forall2

/-!
Computations that may fail, one after another. A list walked by one succeeds with one result for
each item, or fails with the first failure. A list looked up by key fails where no entry has it.
-/

namespace BulkLoad

theorem lookup_eq_none_of_notMem {κ ν : Type} [BEq κ] [LawfulBEq κ] {key : κ}
    {entries : List (κ × ν)} (h : key ∉ entries.map (·.1)) : entries.lookup key = none := by
  rw [List.lookup_eq_none_iff]
  intro e he
  rw [bne_iff_ne]
  rintro rfl
  exact h (List.mem_map_of_mem he)

variable {α β ε : Type} {f : α → Except ε β}

theorem bind_eq_ok_iff {x : Except ε α} {b : β} :
    (x >>= f) = .ok b ↔ ∃ a, x = .ok a ∧ f a = .ok b := by
  cases x <;> simp [bind, Except.bind]

theorem map_eq_error_iff {γ : Type} {x : Except ε β} {g : β → γ} {e : ε} :
    x.map g = .error e ↔ x = .error e := by
  cases x <;> simp [Except.map]

theorem mapM_cons_error {a : α} {e : ε} (h : f a = .error e) (as : List α) :
    (a :: as).mapM f = .error e := by
  rw [List.mapM_cons, h]
  rfl

theorem mapM_cons_ok {a : α} {b : β} (h : f a = .ok b) (as : List α) :
    (a :: as).mapM f = (as.mapM f).map (b :: ·) := by
  rw [List.mapM_cons, h]
  cases as.mapM f <;> rfl

/-- A walk succeeds exactly with what each item gives. -/
theorem mapM_eq_ok_iff {as : List α} {bs : List β} :
    as.mapM f = .ok bs ↔ List.Forall₂ (fun a b => f a = .ok b) as bs := by
  induction as generalizing bs with
  | nil => simp [pure, Except.pure, eq_comm]
  | cons a as ih =>
    cases ha : f a with
    | error e =>
      rw [mapM_cons_error ha]
      refine ⟨nofun, fun h => ?_⟩
      cases h with
      | cons hab _ => simp [ha] at hab
    | ok b =>
      rw [mapM_cons_ok ha]
      constructor
      · intro h
        cases hs : as.mapM f with
        | error e => simp [hs, Except.map] at h
        | ok rest =>
          rw [hs] at h
          cases h
          exact .cons ha (ih.1 hs)
      · intro h
        cases h with
        | cons hab hrest =>
          rw [ih.2 hrest]
          rw [ha] at hab
          cases hab
          rfl

theorem length_of_mapM_ok {as : List α} {bs : List β} (h : as.mapM f = .ok bs) :
    bs.length = as.length :=
  (mapM_eq_ok_iff.1 h).length_eq.symm

/-- A walk fails exactly with what the first item that fails gives. -/
theorem mapM_eq_error_iff {as : List α} {e : ε} :
    as.mapM f = .error e ↔ ∃ (i : Nat) (a : α), as[i]? = some a ∧ f a = .error e ∧
      ∀ j < i, ∀ b, as[j]? = some b → ∃ c, f b = .ok c := by
  induction as with
  | nil => simp [pure, Except.pure]
  | cons a as ih =>
    cases ha : f a with
    | error e' =>
      rw [mapM_cons_error ha]
      constructor
      · rintro ⟨⟩
        exact ⟨0, a, rfl, ha, nofun⟩
      · rintro ⟨i, b, hb, he, hbefore⟩
        cases i with
        | zero =>
          cases hb
          rw [ha] at he
          cases he
          rfl
        | succ i =>
          obtain ⟨c, hc⟩ := hbefore 0 (by omega) a rfl
          rw [ha] at hc
          cases hc
    | ok c =>
      rw [mapM_cons_ok ha, map_eq_error_iff, ih]
      constructor
      · rintro ⟨i, b, hb, he, hbefore⟩
        refine ⟨i + 1, b, hb, he, ?_⟩
        intro j hj d hd
        cases j with
        | zero =>
          cases hd
          exact ⟨c, ha⟩
        | succ j => exact hbefore j (by omega) d hd
      · rintro ⟨i, b, hb, he, hbefore⟩
        cases i with
        | zero =>
          cases hb
          rw [ha] at he
          cases he
        | succ i => exact ⟨i, b, hb, he, fun j hj => hbefore (j + 1) (by omega)⟩

/-- What is made of the results does not change where a walk fails. -/
theorem mapM_map_eq_error_iff {γ δ : Type} (f : α → Except ε β) (item : γ → α)
    (make : γ → β → δ) {cs : List γ} {e : ε} :
    (cs.mapM fun c => (f (item c)).map (make c)) = .error e ↔ (cs.map item).mapM f = .error e := by
  induction cs with
  | nil => simp [pure, Except.pure]
  | cons c cs ih =>
    rw [List.map_cons]
    let made (c : γ) := (f (item c)).map (make c)
    cases hc : f (item c) with
    | error e' =>
      have hmade : made c = .error e' := congrArg (Except.map (make c)) hc
      rw [mapM_cons_error hmade, mapM_cons_error hc, Except.error.injEq, Except.error.injEq]
    | ok b =>
      have hmade : made c = .ok (make c b) := congrArg (Except.map (make c)) hc
      rw [mapM_cons_ok hmade, mapM_cons_ok hc, map_eq_error_iff, map_eq_error_iff, ih]

theorem exists_of_mapM_ok {as : List α} {bs : List β} (h : as.mapM f = .ok bs) {a : α}
    (ha : a ∈ as) : ∃ b, f a = .ok b := by
  have hall := mapM_eq_ok_iff.1 h
  obtain ⟨i, hi, rfl⟩ := List.getElem_of_mem ha
  exact ⟨_, hall.get hi (by rwa [← hall.length_eq])⟩

/-- A walk on which no item fails succeeds. -/
theorem exists_mapM_ok {as : List α} (h : ∀ a ∈ as, ∃ b, f a = .ok b) :
    ∃ bs, as.mapM f = .ok bs := by
  induction as with
  | nil => exact ⟨[], rfl⟩
  | cons a as ih =>
    obtain ⟨b, hb⟩ := h a List.mem_cons_self
    obtain ⟨bs, hbs⟩ := ih fun a ha => h a (List.mem_cons_of_mem _ ha)
    exact ⟨b :: bs, by rw [mapM_cons_ok hb, hbs]; rfl⟩

end BulkLoad
