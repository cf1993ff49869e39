import BulkLoad.Proofs.Document.Values

/-!
Records as they are written and as they are read. A record is written with at most one entry for
each of its fields. What is found in it are the values that were written, under their names, and a
field that was left out is absent.
-/

namespace BulkLoad

/-- A field of a record with its value, or without one where it is left out. -/
abbrev Slot := String × Option Json

/-- The record of the slots that have a value. -/
def Json.record (slots : List Slot) : Json := .object (slots.flatMap fun s => Json.entry? s.1 s.2)

namespace Found

/-! ### What is found -/

/-- What is found in a record of slots. -/
def ofSlots (slots : List Slot) : Found Json.Token :=
  slots.flatMap fun s => s.2.toList.map fun v => (s.1, v.tree)

theorem ofSlots_cons (s : Slot) (slots : List Slot) :
    ofSlots (s :: slots) = (s.2.toList.map fun v => (s.1, v.tree)) ++ ofSlots slots :=
  List.flatMap_cons

theorem lookup_ofSlots_of_notMem {slots : List Slot} {name : String}
    (h : name ∉ slots.map (·.1)) : (ofSlots slots).lookup name = none := by
  refine lookup_eq_none_of_notMem fun hmem => h ?_
  obtain ⟨e, he, rfl⟩ := List.mem_map.1 hmem
  obtain ⟨s, hs, hv⟩ := List.mem_flatMap.1 he
  obtain ⟨v, -, rfl⟩ := List.mem_map.1 hv
  exact List.mem_map_of_mem hs

theorem lookup_of_ne {name other : String} (h : name ≠ other) (t : Tree Json.Token)
    (rest : Found Json.Token) : ((other, t) :: rest).lookup name = rest.lookup name := by
  have hne : (name == other) = false := by simpa using h
  rw [List.lookup_cons, hne]

/-- Under the name of a slot its value is found. -/
theorem get?_ofSlots {slots : List Slot} (hnames : (slots.map (·.1)).Nodup) {s : Slot}
    (h : s ∈ slots) : (ofSlots slots).get? s.1 = s.2.map Json.tree := by
  unfold get?
  induction slots with
  | nil => cases h
  | cons t slots ih =>
    rw [List.map_cons, List.nodup_cons] at hnames
    rw [ofSlots_cons, List.lookup_append]
    rcases List.mem_cons.1 h with rfl | hrest
    · rw [lookup_ofSlots_of_notMem hnames.1]
      cases s.2 <;> simp
    · have hne : s.1 ≠ t.1 := fun heq => hnames.1 (heq ▸ List.mem_map_of_mem hrest)
      rw [ih hnames.2 hrest]
      cases t.2 with
      | none => rfl
      | some v =>
        rw [Option.toList_some, List.map_singleton, lookup_of_ne hne]
        rfl

/-! ### Walking the entries -/

/-- The slot is for the field, and its value passes the test of the field. -/
structure Fits (f : RecordField Json.Token) (s : Slot) : Prop where
  name : f.name = s.1
  passes : ∀ v, s.2 = some v → f.check v.tree = .ok ()

theorem check_eq_ok_iff {α : Type} {x : Except ReadError α} :
    (x.map fun _ => ()) = .ok () ↔ ∃ a, x = .ok a := by
  cases x <;> simp [Except.map]

section Fits

variable {α : Type} {name key : String} {r : Reader Json.Token α} {value : Option Json}

@[simp] theorem fits_required : Fits (.required name r) (key, value) ↔
    name = key ∧ ∀ v, value = some v → ∃ a, r v.tree = .ok a := by
  simp only [← check_eq_ok_iff]
  exact ⟨fun h => ⟨h.name, h.passes⟩, fun h => ⟨h.1, h.2⟩⟩

@[simp] theorem fits_defaulted : Fits (.defaulted name r) (key, value) ↔
    name = key ∧ ∀ v, value = some v → ∃ a, r v.tree = .ok a := by
  simp only [← check_eq_ok_iff]
  exact ⟨fun h => ⟨h.name, h.passes⟩, fun h => ⟨h.1, h.2⟩⟩

end Fits

theorem find?_name {fields : List (RecordField Json.Token)} (hnames : (fields.map (·.name)).Nodup)
    {f : RecordField Json.Token} (h : f ∈ fields) : fields.find? (·.name == f.name) = some f := by
  induction fields with
  | nil => cases h
  | cons g fields ih =>
    rw [List.map_cons, List.nodup_cons] at hnames
    rcases List.mem_cons.1 h with rfl | hrest
    · exact List.find?_cons_of_pos (by simp)
    · have hne : g.name ≠ f.name := fun heq => hnames.1 (heq ▸ List.mem_map_of_mem hrest)
      rw [List.find?_cons_of_neg (by simpa using hne)]
      exact ih hnames.2 hrest

/-- A known entry that passes its test and was not there before is kept. -/
theorem ofEntries_cons {fields : List (RecordField Json.Token)} {f : RecordField Json.Token}
    {found : Found Json.Token} {name : String} {v : Json}
    (hfield : fields.find? (·.name == name) = some f) (hnew : found.lookup name = none)
    (hpasses : f.check v.tree = .ok ()) (rest : List (Tree Json.Token × Tree Json.Token)) :
    ofEntries fields found ((Json.keyTree name, v.tree) :: rest) =
      ofEntries fields (found ++ [(name, v.tree)]) rest := by
  have hkey : Reader.text (Json.keyTree name) = .ok name := rfl
  rw [ofEntries, hkey]
  simp only [bind, Except.bind, hfield, hnew, hpasses]
  rfl

/-- The entries of slots are kept, one after the other. -/
theorem ofEntries_slots {fields : List (RecordField Json.Token)} {slots : List Slot}
    {found : Found Json.Token} (hnames : (slots.map (·.1)).Nodup)
    (hnew : ∀ s ∈ slots, found.lookup s.1 = none)
    (hfits : ∀ s ∈ slots, ∃ f, fields.find? (·.name == s.1) = some f ∧ Fits f s) :
    ofEntries fields found (Json.entryTrees (slots.flatMap fun s => Json.entry? s.1 s.2)) =
      .ok (found ++ ofSlots slots) := by
  induction slots generalizing found with
  | nil => simp [Json.entryTrees, ofEntries, ofSlots]
  | cons s slots ih =>
    obtain ⟨name, value⟩ := s
    rw [List.map_cons, List.nodup_cons] at hnames
    obtain ⟨hnew, hnewRest⟩ := List.forall_mem_cons.1 hnew
    obtain ⟨⟨f, hfield, hf⟩, hfitsRest⟩ := List.forall_mem_cons.1 hfits
    cases value with
    | none => exact ih hnames.2 hnewRest hfitsRest
    | some v =>
      have hstep := ofEntries_cons hfield hnew (hf.passes v rfl)
        (Json.entryTrees (slots.flatMap fun s => Json.entry? s.1 s.2))
      have hlater : ∀ s ∈ slots, (found ++ [(name, v.tree)]).lookup s.1 = none := by
        intro s hs
        have hmem : s.1 ∈ slots.map (·.1) := List.mem_map_of_mem hs
        have hne : s.1 ≠ name := by
          rintro rfl
          exact hnames.1 hmem
        rw [List.lookup_append, hnewRest s hs, lookup_of_ne hne]
        rfl
      refine hstep.trans ((ih hnames.2 hlater hfitsRest).trans ?_)
      rw [List.append_assoc]
      rfl

theorem exists_fits {fields : List (RecordField Json.Token)} {slots : List Slot}
    (h : List.Forall₂ Fits fields slots) {s : Slot} (hs : s ∈ slots) : ∃ f ∈ fields, Fits f s := by
  induction h with
  | nil => cases hs
  | cons hf _ ih =>
    rcases List.mem_cons.1 hs with rfl | hrest
    · exact ⟨_, List.mem_cons_self, hf⟩
    · obtain ⟨f, hmem, hfs⟩ := ih hrest
      exact ⟨f, List.mem_cons_of_mem _ hmem, hfs⟩

/-- A record with a slot for each field, each with a value that passes, gives what was written. -/
theorem exists_of_record {fields : List (RecordField Json.Token)} {slots : List Slot}
    (hnames : (fields.map (·.name)).Nodup) (h : List.Forall₂ Fits fields slots) :
    ∃ found, Found.ofTree fields (Json.record slots).tree = .ok found ∧
      ∀ s ∈ slots, found.get? s.1 = s.2.map Json.tree := by
  have hsame : fields.map (·.name) = slots.map (·.1) := by
    rw [← List.forall₂_eq_eq_eq, List.forall₂_map_left_iff, List.forall₂_map_right_iff]
    exact h.imp fun _ _ hf => hf.name
  have hfits : ∀ s ∈ slots, ∃ f, fields.find? (·.name == s.1) = some f ∧ Fits f s := by
    intro s hs
    obtain ⟨f, hf, hfs⟩ := exists_fits h hs
    exact ⟨f, hfs.name ▸ find?_name hnames hf, hfs⟩
  rw [hsame] at hnames
  refine ⟨ofSlots slots, ?_, fun s hs => get?_ofSlots hnames hs⟩
  have hwalk := @ofEntries_slots fields slots [] hnames (fun _ _ => rfl) hfits
  rw [Json.record, Json.tree, Found.ofTree, hwalk]
  rfl

/-- What is read under the name of a slot that is left out where there is no value. -/
theorem optional_of_get? {α β : Type} {found : Found Json.Token} {name : String}
    {r : Reader Json.Token β} {write : α → Json} {restore : α → Option β} {x : Option α}
    (hget : found.get? name = (x.map write).map Json.tree)
    (hread : ∀ a, x = some a → Reader.optional r (write a).tree = .ok (restore a)) :
    found.optional name r = .ok (x.bind restore) := by
  rw [optional, defaulted, hget]
  cases x with
  | none => rfl
  | some a => exact hread a rfl

/-! ### What was read -/

section Read

variable {α : Type} {found : Found Json.Token} {name : String} {r : Reader Json.Token α}

theorem exists_of_defaulted {default a : α} (h : found.defaulted name r default = .ok a) :
    a = default ∨ ∃ t, r t = .ok a := by
  rw [defaulted] at h
  split at h
  · exact .inr ⟨_, h⟩
  · exact .inl (Except.ok.inj h).symm

theorem exists_of_optional {a : α} (h : found.optional name r = .ok (some a)) :
    ∃ t, r t = .ok a := by
  have hmap : ∀ t, (r t).map some = .ok (some a) → r t = .ok a := by
    intro t ht
    cases hr : r t with
    | error e => simp [hr, Except.map] at ht
    | ok b => simpa [hr, Except.map] using ht
  rcases exists_of_defaulted h with habsent | ⟨t, ht⟩
  · cases habsent
  · rw [Reader.optional.eq_def] at ht
    split at ht
    · split at ht
      · cases ht
      · exact ⟨_, hmap _ ht⟩
    · exact ⟨_, hmap _ ht⟩

end Read

end Found
end BulkLoad
