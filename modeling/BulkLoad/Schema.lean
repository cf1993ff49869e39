import BulkLoad.Cell

/-!
Schemas: ordered lists of fields whose names differ even when case is ignored. They grow by work on
the schema at hand, which may fail, and then leaves what it has made so far.
-/

namespace BulkLoad

/-- Names are the same when their characters have the same small forms. -/
def sameName (a b : String) : Bool := Text.lowerEach a == Text.lowerEach b

/-- A name in lower case as a whole, the key under which a set keeps it. -/
def foldedName (name : String) : String := Text.lowerText name

theorem sameName_comm (a b : String) : sameName a b = sameName b a := by
  simp only [sameName, Bool.beq_comm]

theorem sameName_self (a : String) : sameName a a = true := by simp [sameName]

theorem sameName_trans {a b c : String} (h : sameName a b = true) (g : sameName b c = true) :
    sameName a c = true := by
  simp only [sameName, beq_iff_eq] at *
  exact h.trans g

/-- A field: its name, the kind of its values, its size, and the step that made it. -/
structure Field where
  name : String
  kind : Kind
  length : Option UInt32 := none
  precision : Option UInt32 := none
  origin : String := ""
  deriving DecidableEq

namespace Field

/-- The field has this name, ignoring case. -/
def isNamed (f : Field) (name : String) : Bool := sameName f.name name

def renamed (f : Field) (name : String) : Field := { f with name }

/-- The same field as the product of another step. -/
def withOrigin (f : Field) (origin : String) : Field := { f with origin }

/-- Two fields of one schema have different names. -/
def Distinct (f g : Field) : Prop := sameName f.name g.name = false

instance (f g : Field) : Decidable (f.Distinct g) := by unfold Distinct; infer_instance

end Field

/-- What can be wrong with fields, or with a row for them. -/
inductive SchemaError where
  | duplicateField (name : String)
  | notFound (name : String)
  | arity (expected actual : Nat)
  | cellKind (field : String) (expected actual : Kind)
  deriving DecidableEq

namespace SchemaError

def message : SchemaError → String
  | duplicateField n => "duplicate field '" ++ n ++ "'"
  | notFound n => "field '" ++ n ++ "' not found"
  | arity expected actual =>
    "row has " ++ toString actual ++ " values but metadata declares " ++ toString expected ++
      " fields"
  | cellKind f expected actual =>
    "field '" ++ f ++ "' expects " ++ expected.name ++ " but row holds " ++ actual.name

end SchemaError

/-- An ordered list of fields with different names. -/
structure Schema where
  fields : List Field
  distinct : fields.Pairwise Field.Distinct
  deriving DecidableEq

namespace Schema

def empty : Schema := ⟨[], .nil⟩

instance : Inhabited Schema := ⟨empty⟩

def size (s : Schema) : Nat := s.fields.length

def names (s : Schema) : List String := s.fields.map (·.name)

def index? (s : Schema) (name : String) : Option Nat := s.fields.findIdx? (·.isNamed name)

def find (s : Schema) (name : String) : Except SchemaError Field :=
  match s.fields.find? (·.isNamed name) with
  | some f => .ok f
  | none => .error (.notFound name)

/-- Some field has the name. -/
def hasName (fields : List Field) (name : String) : Bool := fields.any (·.isNamed name)

theorem hasName_append {fields more : List Field} {name : String} :
    hasName (fields ++ more) name = (hasName fields name || hasName more name) :=
  List.any_append

theorem isSome_index? {s : Schema} {name : String} :
    (s.index? name).isSome = hasName s.fields name :=
  List.findIdx?_isSome

theorem distinct_of_hasName_eq_false {fields : List Field} {f : Field}
    (h : hasName fields f.name = false) : ∀ g ∈ fields, g.Distinct f := by
  intro g hg
  have := List.any_eq_false.1 h g hg
  simpa [Field.Distinct, Field.isNamed] using this

theorem distinct_append {fields : List Field} {f : Field} (d : fields.Pairwise Field.Distinct)
    (h : hasName fields f.name = false) : (fields ++ [f]).Pairwise Field.Distinct := by
  refine List.pairwise_append.2 ⟨d, List.pairwise_singleton _ _, ?_⟩
  intro g hg f' hf'
  rw [List.mem_singleton.1 hf']
  exact distinct_of_hasName_eq_false h g hg

theorem hasName_eq_false {fields more : List Field} {f : Field}
    (d : (fields ++ f :: more).Pairwise Field.Distinct) : hasName fields f.name = false := by
  refine List.any_eq_false.2 fun g hg => ?_
  have hdistinct : sameName g.name f.name = false :=
    (List.pairwise_append.1 d).2.2 g hg f List.mem_cons_self
  simp [Field.isNamed, hdistinct]

/-- The first incoming field whose name is taken, by a field of the schema or by an incoming one
before it. -/
def firstClash (s : Schema) (before : List Field) : List Field → Option Field
  | [] => none
  | f :: rest =>
    if (s.index? f.name).isSome || hasName before f.name then some f
    else s.firstClash (before ++ [f]) rest

section Clash

variable {s : Schema} {before incoming : List Field} {f : Field}

theorem firstClash_taken (h : hasName (s.fields ++ before) f.name = true)
    (incoming : List Field) :
    s.firstClash before (f :: incoming) = some f := by
  rw [hasName_append] at h
  rw [firstClash, isSome_index?, h, if_pos rfl]

theorem firstClash_free (h : hasName (s.fields ++ before) f.name = false)
    (incoming : List Field) :
    s.firstClash before (f :: incoming) = s.firstClash (before ++ [f]) incoming := by
  rw [hasName_append] at h
  rw [firstClash, isSome_index?, h, if_neg Bool.false_ne_true]

theorem mem_of_firstClash (h : s.firstClash before incoming = some f) : f ∈ incoming := by
  induction incoming generalizing before with
  | nil => cases h
  | cons g rest ih =>
    unfold firstClash at h
    split at h
    · cases h
      exact List.mem_cons_self
    · exact List.mem_cons_of_mem _ (ih h)

theorem distinct_of_firstClash_eq_none (d : (s.fields ++ before).Pairwise Field.Distinct)
    (h : s.firstClash before incoming = none) :
    (s.fields ++ (before ++ incoming)).Pairwise Field.Distinct := by
  induction incoming generalizing before with
  | nil => simpa using d
  | cons f rest ih =>
    cases hname : hasName (s.fields ++ before) f.name with
    | true =>
      rw [firstClash_taken hname] at h
      cases h
    | false =>
      rw [firstClash_free hname] at h
      have hlonger := distinct_append d hname
      rw [List.append_assoc] at hlonger
      have hall := ih hlonger h
      rwa [List.append_assoc, List.singleton_append] at hall

theorem distinct_withOrigin {taken : List Field} (origin : String)
    (d : (taken ++ incoming).Pairwise Field.Distinct) :
    (taken ++ incoming.map (·.withOrigin origin)).Pairwise Field.Distinct := by
  obtain ⟨ht, hi, hti⟩ := List.pairwise_append.1 d
  refine List.pairwise_append.2 ⟨ht, ?_, ?_⟩
  · exact List.pairwise_map.2 (hi.imp fun h => h)
  · intro f hf g hg
    obtain ⟨g', hg', rfl⟩ := List.mem_map.1 hg
    exact hti f hf g' hg'

end Clash

/-- One field more at the end, of a name that no field has. -/
def push (s : Schema) (f : Field) (free : s.index? f.name = none) : Schema where
  fields := s.fields ++ [f]
  distinct := distinct_append s.distinct (by rw [← isSome_index?, free]; rfl)

/-- More fields at the end, as products of one step; no name is taken. -/
def extend (s : Schema) (incoming : List Field) (origin : String)
    (free : s.firstClash [] incoming = none) : Schema where
  fields := s.fields ++ incoming.map (·.withOrigin origin)
  distinct := by
    have hnone : (s.fields ++ []).Pairwise Field.Distinct := by
      rw [List.append_nil]
      exact s.distinct
    exact distinct_withOrigin origin (distinct_of_firstClash_eq_none hnone free)

/-- Work on the schema at hand. Where it fails, the schema is left as the work so far has made
it. -/
abbrev Work (ε : Type) := EStateM ε Schema

/-- Appends a field, unless its name is taken. -/
def addHere (f : Field) : Work SchemaError Unit := do
  let s ← get
  match free : s.index? f.name with
  | some _ => throw (.duplicateField f.name)
  | none => set (s.push f free)

/-- Appends fields one after the other, up to the first that is refused. -/
def addEach (fields : List Field) : Work SchemaError Unit := fields.forM addHere

/-- Appends a list of fields as products of one step. All of their names are looked at before the
first field is appended. -/
def mergeHere (incoming : List Field) (origin : String) : Work SchemaError Unit := do
  let s ← get
  match free : s.firstClash [] incoming with
  | some f => throw (.duplicateField f.name)
  | none => set (s.extend incoming origin free)

/-- What work makes of a schema; a schema that is left by work that fails is not looked at. -/
def made {ε : Type} (work : Work ε Unit) (s : Schema) : Except ε Schema :=
  match work.run s with
  | .ok _ s' => .ok s'
  | .error e _ => .error e

def add (s : Schema) (f : Field) : Except SchemaError Schema := made (addHere f) s

def addAll (s : Schema) (fields : List Field) : Except SchemaError Schema :=
  made (addEach fields) s

def ofFields (fields : List Field) : Except SchemaError Schema := empty.addAll fields

def merge (s : Schema) (incoming : List Field) (origin : String) : Except SchemaError Schema :=
  made (mergeHere incoming origin) s

section Work

variable {ε : Type} {s s' : Schema} {f : Field} {incoming : List Field}

theorem made_eq_ok_iff {work : Work ε Unit} : made work s = .ok s' ↔ work.run s = .ok () s' := by
  rw [made]
  cases work.run s <;> simp

theorem made_eq_error_iff {work : Work ε Unit} {e : ε} :
    made work s = .error e ↔ ∃ left, work.run s = .error e left := by
  rw [made]
  cases work.run s <;> simp

/-- A field whose name is taken is refused before anything is changed. -/
theorem run_addHere_taken (h : hasName s.fields f.name = true) :
    (addHere f).run s = .error (.duplicateField f.name) s := by
  rw [← isSome_index?] at h
  rw [addHere, EStateM.run_bind, EStateM.run_get]
  dsimp only
  split
  · rfl
  · rename_i hnone
    rw [hnone] at h
    cases h

theorem run_addHere_free (h : hasName s.fields f.name = false) :
    ∃ s', (addHere f).run s = .ok () s' ∧ s'.fields = s.fields ++ [f] := by
  rw [← isSome_index?] at h
  rw [addHere, EStateM.run_bind, EStateM.run_get]
  dsimp only
  split
  · rename_i hsome
    rw [hsome] at h
    cases h
  · exact ⟨_, rfl, rfl⟩

/-- A clash is found before anything is changed. -/
theorem run_mergeHere_clash (h : s.firstClash [] incoming = some f) (origin : String) :
    (mergeHere incoming origin).run s = .error (.duplicateField f.name) s := by
  rw [mergeHere, EStateM.run_bind, EStateM.run_get]
  dsimp only
  split
  · rename_i g hsome
    rw [hsome, Option.some.injEq] at h
    rw [h]
    rfl
  · rename_i hnone
    rw [hnone] at h
    cases h

theorem run_mergeHere_free (h : s.firstClash [] incoming = none) (origin : String) :
    ∃ s', (mergeHere incoming origin).run s = .ok () s' ∧
      s'.fields = s.fields ++ incoming.map (·.withOrigin origin) := by
  rw [mergeHere, EStateM.run_bind, EStateM.run_get]
  dsimp only
  split
  · rename_i g hsome
    rw [hsome] at h
    cases h
  · exact ⟨_, rfl, rfl⟩

theorem add_taken (h : hasName s.fields f.name = true) :
    s.add f = .error (.duplicateField f.name) :=
  made_eq_error_iff.2 ⟨s, run_addHere_taken h⟩

theorem add_free (h : hasName s.fields f.name = false) :
    ∃ s', s.add f = .ok s' ∧ s'.fields = s.fields ++ [f] := by
  obtain ⟨s', hrun, hfields⟩ := run_addHere_free h
  exact ⟨s', made_eq_ok_iff.2 hrun, hfields⟩

theorem add_cases (s : Schema) (f : Field) :
    (∃ name, s.add f = .error (.duplicateField name)) ∨
    ∃ s', s.add f = .ok s' ∧ s'.fields = s.fields ++ [f] := by
  cases h : hasName s.fields f.name with
  | true => exact .inl ⟨_, add_taken h⟩
  | false => exact .inr (add_free h)

theorem made_bind {work more : Work ε Unit} :
    made (do work; more) s = made work s >>= made more := by
  rw [made, EStateM.run_bind, made]
  cases work.run s <;> rfl

theorem addAll_cons (s : Schema) (f : Field) (fields : List Field) :
    s.addAll (f :: fields) = s.add f >>= (·.addAll fields) :=
  made_bind

theorem merge_clash (h : s.firstClash [] incoming = some f) (origin : String) :
    s.merge incoming origin = .error (.duplicateField f.name) :=
  made_eq_error_iff.2 ⟨s, run_mergeHere_clash h origin⟩

theorem merge_free (h : s.firstClash [] incoming = none) (origin : String) :
    ∃ s', s.merge incoming origin = .ok s' ∧
      s'.fields = s.fields ++ incoming.map (·.withOrigin origin) := by
  obtain ⟨s', hrun, hfields⟩ := run_mergeHere_free h origin
  exact ⟨s', made_eq_ok_iff.2 hrun, hfields⟩

end Work

/-- The first field whose cell has another kind. -/
def firstMismatch : List Field → Row → Option SchemaError
  | f :: fields, c :: row =>
    match c.kind? with
    | some k =>
      if k = f.kind then firstMismatch fields row else some (.cellKind f.name f.kind k)
    | none => firstMismatch fields row
  | _, _ => none

/-- A row has one cell for each field, null or of the field's kind. -/
def check (s : Schema) (row : Row) : Except SchemaError Unit :=
  if row.length ≠ s.size then .error (.arity s.size row.length)
  else match firstMismatch s.fields row with
    | some e => .error e
    | none => .ok ()

end Schema
end BulkLoad
