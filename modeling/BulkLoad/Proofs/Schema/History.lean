import BulkLoad.Cube.Header
import BulkLoad.Json.Reading
import BulkLoad.Schema.Document
import BulkLoad.Proofs.Mapping.Binding

/-!
Schemas through a history of operations. Each operation comes to its fields one after the other and
appends them to those it keeps, up to the first whose name is taken; one that fails leaves what was
there. So names stay apart, and a lookup by any spelling of a name finds the one field that has it.
-/

namespace BulkLoad.Schema

/-- Why an operation on a schema fails. -/
inductive Refusal where
  | schema (e : SchemaError)
  | document (e : ReadError)
  | cube (e : Cube.Error)

/-- Fields in the order in which an operation comes to them, and what stops it behind the last of
them, if anything does. -/
structure Offer where
  fields : List Field
  refusal : Option Refusal := none

namespace Offer

/-- One field more in front. -/
def cons (f : Field) (o : Offer) : Offer := ⟨f :: o.fields, o.refusal⟩

/-- The fields of the list that a text holds; nothing may follow the list. -/
def ofText (text : String) : Offer :=
  match Reader.list Field.reader (Json.readDocument text).1 with
  | .ok fields => ⟨fields, if (Json.readDocument text).2 then none else some (.document .shape)⟩
  | .error e => ⟨[], some (.document e)⟩

/-- For each entry the field that it asks for, under the name of its column. -/
def ofEntries (held : List Field) : List MappingEntry → Offer
  | [] => ⟨[], none⟩
  | e :: rest =>
    match held.find? (·.isNamed e.stream) with
    | some f => (ofEntries held rest).cons (f.renamed e.column)
    | none => ⟨[], some (.schema (.notFound e.stream))⟩

/-- A count of fields, read off bytes. -/
def ofBytes : Nat → Bytes → Offer
  | 0, _ => ⟨[], none⟩
  | n + 1, b =>
    match Cube.takeField b with
    | .ok (f, rest) => (ofBytes n rest).cons f
    | .error e => ⟨[], some (.cube e)⟩

/-- The count of fields in a header, and what stands behind it. -/
def takeCount : Cube.Taker Nat := fun b => do
  let (m, b) ← Cube.take Cube.magic.length .magic b
  if m ≠ Cube.magic then throw .badMagic
  let (v, b) ← Cube.takeNat 2 .version b
  if v ≠ Cube.version then throw (.unsupportedVersion v)
  Cube.takeNat 4 .fieldCount b

/-- The fields behind the magic bytes, the version and their count. -/
def ofHeader (b : Bytes) : Offer :=
  match takeCount b with
  | .ok (count, rest) => .ofBytes count rest
  | .error e => ⟨[], some (.cube e)⟩

/-- Puts fields one after the other behind others, up to the first whose name is taken. -/
def append (clash : String → Refusal) (refusal : Option Refusal) :
    List Field → List Field → Except Refusal (List Field)
  | kept, [] => match refusal with
    | some r => .error r
    | none => .ok kept
  | kept, f :: rest =>
    if hasName kept f.name then .error (clash f.name)
    else append clash refusal (kept ++ [f]) rest

/-- The fields that were kept, with those offered behind them. -/
def appendTo (o : Offer) (clash : String → Refusal) (kept : List Field) :
    Except Refusal (List Field) :=
  append clash o.refusal kept o.fields

/-- How it ends when fields are appended to others. -/
inductive Ends (o : Offer) (clash : String → Refusal) (kept : List Field) :
    Except Refusal (List Field) → Prop
  /-- All that is offered stands behind what was kept. -/
  | appended (whole : o.refusal = none) (apart : (kept ++ o.fields).Pairwise Field.Distinct) :
      Ends o clash kept (.ok (kept ++ o.fields))
  /-- A field has the name of one before it, and is the first that has. -/
  | collided {front back : List Field} {f g : Field} (offered : o.fields = front ++ f :: back)
      (before : g ∈ kept ++ front) (same : sameName g.name f.name = true)
      (apart : (kept ++ front).Pairwise Field.Distinct) :
      Ends o clash kept (.error (clash f.name))
  /-- The offer breaks off before any name collides. -/
  | broken {r : Refusal} (stopped : o.refusal = some r)
      (apart : (kept ++ o.fields).Pairwise Field.Distinct) : Ends o clash kept (.error r)

variable {o : Offer} {clash : String → Refusal} {kept fields : List Field} {f : Field}
  {ended : Except Refusal (List Field)}

theorem appendTo_taken (h : hasName kept f.name = true) :
    (cons f o).appendTo clash kept = .error (clash f.name) := by
  simp [appendTo, cons, append, h]

theorem appendTo_free (h : hasName kept f.name = false) :
    (cons f o).appendTo clash kept = o.appendTo clash (kept ++ [f]) := by
  simp [appendTo, cons, append, h]

theorem appendTo_ends (h : kept.Pairwise Field.Distinct) :
    o.Ends clash kept (o.appendTo clash kept) := by
  obtain ⟨fields, refusal⟩ := o
  induction fields generalizing kept with
  | nil =>
    have hkept : (kept ++ []).Pairwise Field.Distinct := by rwa [List.append_nil]
    cases refusal with
    | some r => exact .broken rfl hkept
    | none =>
      have hall : Ends ⟨[], none⟩ clash kept (.ok (kept ++ [])) := .appended rfl hkept
      rwa [List.append_nil] at hall
  | cons f rest ih =>
    show Ends _ clash kept ((cons f ⟨rest, refusal⟩).appendTo clash kept)
    cases hname : hasName kept f.name with
    | true =>
      rw [appendTo_taken hname]
      obtain ⟨g, hg, hsame⟩ := List.any_eq_true.1 hname
      have hoffered : f :: rest = [] ++ f :: rest := rfl
      exact .collided hoffered (by rwa [List.append_nil]) hsame (by rwa [List.append_nil])
    | false =>
      rw [appendTo_free hname]
      have hend := ih (distinct_append h hname)
      generalize appendTo ⟨rest, refusal⟩ clash (kept ++ [f]) = ended at hend ⊢
      -- the field that was kept last for the rest is the first one of the offer
      cases hend with
      | appended whole apart =>
        rw [List.append_assoc] at apart ⊢
        exact .appended whole apart
      | @collided front back f' g offered before same apart =>
        have hoffered : f :: rest = (f :: front) ++ f' :: back := congrArg (f :: ·) offered
        rw [List.append_assoc] at before apart
        exact .collided hoffered before same apart
      | broken stopped apart =>
        rw [List.append_assoc] at apart
        exact .broken stopped apart

/-- An offer is taken up exactly if it is whole and brings no name twice. -/
theorem Ends.ok_iff (h : o.Ends clash kept ended) :
    (∃ fields, ended = .ok fields) ↔
      o.refusal = none ∧ (kept ++ o.fields).Pairwise Field.Distinct := by
  cases h with
  | appended whole apart => exact iff_of_true ⟨_, rfl⟩ ⟨whole, apart⟩
  | @collided front back f g offered before same apart =>
    refine iff_of_false nofun fun ⟨_, hall⟩ => ?_
    rw [offered, ← List.append_assoc] at hall
    have hdistinct : sameName g.name f.name = false :=
      (List.pairwise_append.1 hall).2.2 g before f List.mem_cons_self
    rw [same] at hdistinct
    cases hdistinct
  | broken stopped apart =>
    refine iff_of_false nofun fun ⟨whole, _⟩ => ?_
    rw [stopped] at whole
    cases whole

theorem Ends.fields_eq (h : o.Ends clash kept (.ok fields)) : fields = kept ++ o.fields := by
  cases h
  rfl

end Offer

section Appending

variable {s s' : Schema} {f : Field} {refusal : Option Refusal}

theorem eq_iff_fields : s = s' ↔ s.fields = s'.fields := by
  obtain ⟨fields, _⟩ := s
  obtain ⟨fields', _⟩ := s'
  simp

/-- Fields can be added in turn exactly when a schema can have all of them. -/
theorem addAll_eq_ok_iff {fields : List Field} :
    s.addAll fields = .ok s' ↔ s'.fields = s.fields ++ fields := by
  induction fields generalizing s with
  | nil =>
    have hnil : s.addAll [] = .ok s := rfl
    rw [hnil, Except.ok.injEq, eq_comm, List.append_nil]
    exact eq_iff_fields
  | cons f rest ih =>
    cases hname : hasName s.fields f.name with
    | true =>
      rw [addAll_cons, add_taken hname]
      refine ⟨nofun, fun hfields => ?_⟩
      obtain ⟨g, hg, hsame⟩ := List.any_eq_true.1 hname
      have hapart := (List.pairwise_append.1 (hfields ▸ s'.distinct)).2.2 g hg f
        List.mem_cons_self
      rw [Field.isNamed, hapart] at hsame
      cases hsame
    | false =>
      obtain ⟨t, hadd, hfields⟩ := add_free hname
      rw [addAll_cons, hadd]
      refine ih.trans ?_
      rw [hfields, List.append_assoc, List.singleton_append]

theorem ofFields_eq_ok_iff {fields : List Field} :
    ofFields fields = .ok s ↔ s.fields = fields :=
  addAll_eq_ok_iff

theorem append_addAll (wrap : SchemaError → Refusal) (fields : List Field) :
    Offer.appendTo ⟨fields, refusal⟩ (fun name => wrap (.duplicateField name)) s.fields =
      (s.addAll fields).mapError wrap >>= fun s' => match refusal with
        | some r => .error r
        | none => .ok s'.fields := by
  induction fields generalizing s with
  | nil => rfl
  | cons f rest ih =>
    show (Offer.cons f ⟨rest, refusal⟩).appendTo _ _ = _
    rw [addAll_cons]
    cases hname : hasName s.fields f.name with
    | true =>
      rw [Offer.appendTo_taken hname, add_taken hname]
      rfl
    | false =>
      obtain ⟨s', hadd, hfields⟩ := add_free hname
      rw [Offer.appendTo_free hname, hadd, ← hfields]
      exact ih

/-- What is said of an error in fields that were read off a document. -/
def ofDocument : SchemaError → Refusal
  | .duplicateField name => .document (.duplicateName name)
  | _ => .document .shape

theorem append_read (text : String) :
    (Offer.ofText text).appendTo (fun name => .document (.duplicateName name)) [] =
      ((Json.read Schema.reader text).mapError .document).map (·.fields) := by
  rw [Offer.ofText, Json.read]
  generalize Json.readDocument text = document
  obtain ⟨tree, ended⟩ := document
  dsimp only
  rw [Schema.reader]
  cases Reader.list Field.reader tree with
  | error e => rfl
  | ok fields =>
    refine (append_addAll (s := .empty) ofDocument fields).trans ?_
    simp only [bind, Except.bind, ofFields]
    cases empty.addAll fields with
    | error e => cases e <;> rfl
    | ok s => cases ended <;> rfl

/-- Looking for a clash before anything is appended comes to the same as appending the fields in
turn, under their new origin. -/
theorem append_merge {clash : String → Refusal} {taken before : List Field} (incoming : List Field)
    (origin : String) (h : ∀ name, hasName taken name = hasName (s.fields ++ before) name) :
    Offer.appendTo ⟨incoming.map (·.withOrigin origin), none⟩ clash taken =
      match s.firstClash before incoming with
      | some f => .error (clash f.name)
      | none => .ok (taken ++ incoming.map (·.withOrigin origin)) := by
  induction incoming generalizing taken before with
  | nil =>
    rw [firstClash, List.map_nil, List.append_nil]
    rfl
  | cons f rest ih =>
    show (Offer.cons (f.withOrigin origin) ⟨rest.map (·.withOrigin origin), none⟩).appendTo _ _ = _
    have hf : hasName taken (f.withOrigin origin).name = hasName (s.fields ++ before) f.name :=
      h f.name
    cases hname : hasName (s.fields ++ before) f.name with
    | true =>
      rw [Offer.appendTo_taken (hf.trans hname), firstClash_taken hname]
      rfl
    | false =>
      have hnext : ∀ name, hasName (taken ++ [f.withOrigin origin]) name =
          hasName (s.fields ++ (before ++ [f])) name := by
        intro name
        rw [← List.append_assoc, hasName_append, hasName_append, h name]
        rfl
      rw [Offer.appendTo_free (hf.trans hname), firstClash_free hname, ih hnext, List.append_assoc]
      rfl

theorem find?_eq_some_iff {name : String} :
    s.fields.find? (·.isNamed name) = some f ↔
      ∃ i : Nat, s.fields[i]? = some f ∧ f.isNamed name = true := by
  constructor
  · intro h
    obtain ⟨i, hi⟩ := List.getElem?_of_mem (List.mem_of_find?_eq_some h)
    have hnamed := List.find?_some h
    exact ⟨i, hi, hnamed⟩
  · rintro ⟨i, hi, hnamed⟩
    cases hg : s.fields.find? (·.isNamed name) with
    | none => simp [List.find?_eq_none.1 hg f (List.mem_of_getElem? hi)] at hnamed
    | some g =>
      obtain ⟨j, hj⟩ := List.getElem?_of_mem (List.mem_of_find?_eq_some hg)
      have hgnamed := List.find?_some hg
      obtain rfl := position_unique hi hj hnamed hgnamed
      rw [← hi, ← hj]

theorem bindEntry_unfed {p : Projection} {e : MappingEntry}
    (h : s.fields.find? (·.isNamed e.stream) = none) :
    Mapping.bindEntry s p e = .error (.notFound e.stream) := by
  have hnone : s.index? e.stream = none := by
    rw [index?, List.findIdx?_eq_none_iff]
    intro f hf
    simpa using List.find?_eq_none.1 h f hf
  rw [Mapping.bindEntry, hnone]
  rfl

theorem bindEntry_fed {p : Projection} {e : MappingEntry} {f : Field}
    (h : s.fields.find? (·.isNamed e.stream) = some f) :
    ∃ i, Mapping.bindEntry s p e = (p.target.add (f.renamed e.column)).map fun target =>
      ⟨p.sources ++ [i], p.hints ++ [e.hint], target⟩ := by
  obtain ⟨i, hi, hnamed⟩ := find?_eq_some_iff.1 h
  have hon : Binding.On s ⟨e, i, f⟩ := ⟨hi, hnamed⟩
  have hentry := Mapping.bindEntry_on (p := p) hon
  exact ⟨i, hentry⟩

/-- Binding entries in turn appends the fields that they ask for. -/
theorem append_bindEntries (p : Projection) (entries : List MappingEntry) :
    (Offer.ofEntries s.fields entries).appendTo (fun name => .schema (.duplicateField name))
        p.target.fields =
      ((entries.foldlM (Mapping.bindEntry s) p).mapError .schema).map (·.target.fields) := by
  induction entries generalizing p with
  | nil => rfl
  | cons e rest ih =>
    rw [Offer.ofEntries, List.foldlM_cons]
    cases hfind : s.fields.find? (·.isNamed e.stream) with
    | none =>
      rw [bindEntry_unfed hfind]
      rfl
    | some f =>
      obtain ⟨i, hentry⟩ := bindEntry_fed (p := p) hfind
      rw [hentry]
      cases hname : hasName p.target.fields (f.renamed e.column).name with
      | true =>
        rw [Offer.appendTo_taken hname, add_taken hname]
        rfl
      | false =>
        obtain ⟨target, hadd, hfields⟩ := add_free hname
        rw [Offer.appendTo_free hname, ← hfields, hadd]
        exact ih ⟨p.sources ++ [i], p.hints ++ [e.hint], target⟩

theorem append_takeFields (n : Nat) (b : Bytes) :
    (Offer.ofBytes n b).appendTo (fun name => .cube (.schema (.duplicateField name))) s.fields =
      ((Cube.takeFields n s b).mapError .cube).map (·.1.fields) := by
  induction n generalizing s b with
  | zero => rfl
  | succ n ih =>
    rw [Offer.ofBytes, Cube.takeFields]
    cases Cube.takeField b with
    | error e => rfl
    | ok taken =>
      obtain ⟨f, rest⟩ := taken
      dsimp only [bind, Except.bind]
      cases hname : hasName s.fields f.name with
      | true =>
        rw [Offer.appendTo_taken hname, add_taken hname]
        rfl
      | false =>
        obtain ⟨s', hadd, hfields⟩ := add_free hname
        rw [Offer.appendTo_free hname, hadd, ← hfields]
        exact ih rest

theorem takeHeader_eq (b : Bytes) : Cube.takeHeader b =
    Offer.takeCount b >>= fun (count, rest) => Cube.takeFields count .empty rest := by
  unfold Cube.takeHeader Offer.takeCount
  cases Cube.take Cube.magic.length .magic b with
  | error e => rfl
  | ok taken =>
    obtain ⟨m, b₁⟩ := taken
    dsimp only [bind, Except.bind]
    by_cases hm : m ≠ Cube.magic
    · simp only [if_pos hm]
      rfl
    · simp only [if_neg hm]
      cases Cube.takeNat 2 .version b₁ with
      | error e => rfl
      | ok taken =>
        obtain ⟨v, b₂⟩ := taken
        dsimp only
        by_cases hv : v ≠ Cube.version
        · simp only [if_pos hv]
          rfl
        · simp only [if_neg hv]

theorem append_takeHeader (b : Bytes) :
    (Offer.ofHeader b).appendTo (fun name => .cube (.schema (.duplicateField name))) [] =
      ((Cube.takeHeader b).mapError .cube).map (·.1.fields) := by
  rw [takeHeader_eq, Offer.ofHeader]
  cases Offer.takeCount b with
  | error e => rfl
  | ok taken =>
    obtain ⟨count, rest⟩ := taken
    exact append_takeFields (s := .empty) count rest

end Appending

section Work

variable {ε ε' : Type} {work : Work ε Unit} {s s' : Schema}

/-- Where the work fails, the schema is the one that was there. -/
structure Atomic (work : Work ε Unit) : Prop where
  kept : ∀ {s s' : Schema} {e : ε}, work.run s = .error e s' → s' = s

/-- The schema that is there when work has ended, in whatever way. -/
def left (work : Work ε Unit) (s : Schema) : Schema :=
  match work.run s with
  | .ok _ s' => s'
  | .error _ s' => s'

/-- Puts a schema in the place of the one at hand, if it came about. -/
def replace (other : Except ε Schema) : Work ε Unit := do set (← liftExcept other)

theorem left_ok (h : work.run s = .ok () s') : left work s = s' := by
  rw [left, h]

theorem left_error {e : ε} (h : work.run s = .error e s') : left work s = s' := by
  rw [left, h]

theorem made_replace (other : Except ε Schema) : made (replace other) s = other := by
  cases other <;> rfl

theorem run_adaptExcept (wrap : ε → ε') : (work.adaptExcept wrap).run s =
    match work.run s with
    | .ok _ s' => .ok () s'
    | .error e s' => .error (wrap e) s' := by
  rw [EStateM.run, EStateM.adaptExcept, EStateM.run]
  cases work s <;> rfl

theorem made_adaptExcept (wrap : ε → ε') :
    made (work.adaptExcept wrap) s = (made work s).mapError wrap := by
  rw [made, run_adaptExcept, made]
  cases work.run s <;> rfl

namespace Atomic

theorem adaptExcept (h : Atomic work) (wrap : ε → ε') : Atomic (work.adaptExcept wrap) where
  kept {s s' e} hrun := by
    rw [run_adaptExcept] at hrun
    cases hwork : work.run s with
    | ok u s'' =>
      rw [hwork] at hrun
      cases hrun
    | error r s'' =>
      rw [hwork] at hrun
      cases hrun
      exact h.kept hwork

theorem replace (other : Except ε Schema) : Atomic (replace other) where
  kept hrun := by
    cases other with
    | ok s' => cases hrun
    | error r =>
      cases hrun
      rfl

theorem addHere (f : Field) : Atomic (addHere f) where
  kept {s s' e} hrun := by
    cases hname : hasName s.fields f.name with
    | true =>
      rw [run_addHere_taken hname] at hrun
      cases hrun
      rfl
    | false =>
      obtain ⟨longer, hadded, -⟩ := run_addHere_free hname
      rw [hadded] at hrun
      cases hrun

theorem mergeHere (incoming : List Field) (origin : String) :
    Atomic (mergeHere incoming origin) where
  kept {s s' e} hrun := by
    cases hclash : s.firstClash [] incoming with
    | some f =>
      rw [run_mergeHere_clash hclash origin] at hrun
      cases hrun
      rfl
    | none =>
      obtain ⟨longer, hmerged, -⟩ := run_mergeHere_free hclash origin
      rw [hmerged] at hrun
      cases hrun

end Atomic

end Work

/-- What may be done about the schema at hand: it may be replaced by another, or extended. -/
inductive Edit where
  /-- A new one without fields. -/
  | renew
  /-- A new one of some fields. -/
  | ofFields (fields : List Field)
  | add (field : Field)
  | merge (incoming : List Field) (origin : String)
  /-- One that is read off a JSON text. -/
  | read (text : String)
  /-- The target of a mapping that is bound to it. -/
  | bind (mapping : Mapping)
  /-- The one that opens a cube stream. -/
  | header (bytes : Bytes)

namespace Edit

/-- What an operation does about the schema at hand. A schema of its own is made apart, and put in
the place of that at hand when it is done. -/
def work : Edit → Work Refusal Unit
  | renew => set empty
  | ofFields fields => replace ((Schema.ofFields fields).mapError .schema)
  | add f => (addHere f).adaptExcept .schema
  | merge incoming origin => (mergeHere incoming origin).adaptExcept .schema
  | read text => replace ((Json.read Schema.reader text).mapError .document)
  | bind m => do replace (((m.bind (← get)).mapError .schema).map (·.target))
  | header b => replace (((Cube.takeHeader b).mapError .cube).map (·.1))

/-- The schema that comes of an operation, or why there is none. -/
def apply (s : Schema) (e : Edit) : Except Refusal Schema := made e.work s

/-- The schema that is there behind an operation, however it ended. -/
def next (s : Schema) (e : Edit) : Schema := left e.work s

/-- No operation that fails has changed anything. -/
theorem work_atomic (e : Edit) : Atomic e.work := by
  cases e with
  | renew => exact ⟨nofun⟩
  | ofFields fields => exact .replace _
  | add f => exact (Atomic.addHere f).adaptExcept Refusal.schema
  | merge incoming origin => exact (Atomic.mergeHere incoming origin).adaptExcept Refusal.schema
  | read text => exact .replace _
  | bind m => exact ⟨fun h => (Atomic.replace _).kept h⟩
  | header b => exact .replace _

/-- The fields that stay in front. -/
def kept (held : List Field) : Edit → List Field
  | add _ => held
  | merge _ _ => held
  | _ => []

/-- What is said of a field whose name is taken. -/
def clash : Edit → String → Refusal
  | read _, name => .document (.duplicateName name)
  | header _, name => .cube (.schema (.duplicateField name))
  | _, name => .schema (.duplicateField name)

/-- The fields that an operation comes to. -/
def offer (held : List Field) : Edit → Offer
  | renew => ⟨[], none⟩
  | ofFields fields => ⟨fields, none⟩
  | add f => ⟨[f], none⟩
  | merge incoming origin => ⟨incoming.map (·.withOrigin origin), none⟩
  | read text => .ofText text
  | bind m => .ofEntries held m.entries
  | header b => .ofHeader b

/-- An operation on a schema appends what it comes to. -/
theorem apply_fields (s : Schema) (e : Edit) :
    (e.apply s).map (·.fields) = (e.offer s.fields).appendTo e.clash (e.kept s.fields) := by
  cases e with
  | renew => rfl
  | ofFields fields =>
    refine Eq.trans ?_ (append_addAll (s := .empty) .schema fields).symm
    rw [apply, work, made_replace, Schema.ofFields]
    cases empty.addAll fields <;> rfl
  | add f =>
    refine Eq.trans ?_ (append_addAll .schema [f]).symm
    rw [apply, work, made_adaptExcept, addAll_cons, ← Schema.add]
    cases s.add f <;> rfl
  | merge incoming origin =>
    have hseen : ∀ name, hasName s.fields name = hasName (s.fields ++ []) name := by simp
    refine Eq.trans ?_ (append_merge incoming origin hseen).symm
    rw [apply, work, made_adaptExcept, ← Schema.merge]
    cases hclash : s.firstClash [] incoming with
    | some f =>
      rw [merge_clash hclash origin]
      rfl
    | none =>
      obtain ⟨s', hmerge, hfields⟩ := merge_free hclash origin
      rw [hmerge]
      exact congrArg Except.ok hfields
  | read text =>
    rw [apply, work, made_replace]
    exact (append_read text).symm
  | bind m =>
    refine Eq.trans ?_ (append_bindEntries ⟨[], [], .empty⟩ m.entries).symm
    have hmade : apply s (bind m) = ((m.bind s).mapError .schema).map (·.target) := made_replace _
    rw [hmade]
    show _ = ((m.bind s).mapError _).map _
    cases m.bind s <;> rfl
  | header b =>
    refine Eq.trans ?_ (append_takeHeader b).symm
    rw [apply, work, made_replace]
    cases Cube.takeHeader b <;> rfl

/-- The fields after an operation on those held. -/
def after (held : List Field) (e : Edit) : List Field :=
  match (e.offer held).appendTo e.clash (e.kept held) with
  | .ok fields => fields
  | .error _ => held

theorem next_fields (s : Schema) (e : Edit) : (e.next s).fields = e.after s.fields := by
  rw [after, ← e.apply_fields s]
  cases hrun : e.work.run s with
  | ok u s' =>
    rw [next, left_ok hrun, apply, made_eq_ok_iff.2 hrun]
    rfl
  | error r s' =>
    obtain rfl := e.work_atomic.kept hrun
    rw [next, left_error hrun, apply, made_eq_error_iff.2 ⟨_, hrun⟩]
    rfl

theorem kept_distinct (s : Schema) (e : Edit) : (e.kept s.fields).Pairwise Field.Distinct := by
  cases e with
  | add f => exact s.distinct
  | merge incoming origin => exact s.distinct
  | _ => exact .nil

/-- The ways an operation ends, in terms of the fields it keeps and those it comes to. -/
theorem apply_ends (s : Schema) (e : Edit) :
    (e.offer s.fields).Ends e.clash (e.kept s.fields) ((e.apply s).map (·.fields)) := by
  rw [apply_fields]
  exact Offer.appendTo_ends (e.kept_distinct s)

end Edit

/-- Every name leads to the field that has it, and no other names lead anywhere. -/
structure Exact (s : Schema) : Prop where
  apart : ∀ {i j : Nat} {f g : Field}, s.fields[i]? = some f → s.fields[j]? = some g →
    sameName f.name g.name = true → i = j
  found : ∀ {i : Nat} {f : Field} {name : String}, s.fields[i]? = some f →
    f.isNamed name = true → s.index? name = some i ∧ s.find name = .ok f
  absent : ∀ {name : String}, (∀ f ∈ s.fields, f.isNamed name = false) →
    s.index? name = none ∧ s.find name = .error (.notFound name)

theorem exact (s : Schema) : s.Exact where
  apart hf hg hsame := position_unique hf hg hsame (sameName_self _)
  found hf hnamed := by
    refine ⟨index?_eq_some_iff.2 ⟨_, hf, hnamed⟩, ?_⟩
    rw [find, find?_eq_some_iff.2 ⟨_, hf, hnamed⟩]
  absent {name} h := by
    have hindex : s.index? name = none := by
      rw [index?, List.findIdx?_eq_none_iff]
      exact h
    have hfind : s.fields.find? (·.isNamed name) = none := by
      rw [List.find?_eq_none]
      intro f hf
      simp [h f hf]
    exact ⟨hindex, by rw [find, hfind]⟩

/-- The schema after operations one after the other, of which the first begins with none. -/
def reached (edits : List Edit) : Schema := edits.foldl Edit.next .empty

theorem reached_fields (edits : List Edit) :
    (reached edits).fields = edits.foldl Edit.after [] := by
  have hfold : ∀ s : Schema,
      (edits.foldl Edit.next s).fields = edits.foldl Edit.after s.fields := by
    induction edits with
    | nil => exact fun s => rfl
    | cons e rest ih =>
      intro s
      rw [List.foldl_cons, List.foldl_cons, ih, e.next_fields]
  exact hfold .empty

/-- The schema that comes of an operation: what was kept stays where it is, what is new stands
behind it, and all of it is found. -/
structure Edit.Extends (e : Edit) (s s' : Schema) : Prop where
  fields : s'.fields = e.kept s.fields ++ (e.offer s.fields).fields
  earlier : ∀ {i : Nat} {f : Field} {name : String}, (e.kept s.fields)[i]? = some f →
    f.isNamed name = true → s'.index? name = some i ∧ s'.find name = .ok f
  added : ∀ {i : Nat} {f : Field} {name : String}, (e.offer s.fields).fields[i]? = some f →
    f.isNamed name = true →
      s'.index? name = some ((e.kept s.fields).length + i) ∧ s'.find name = .ok f

theorem Edit.extends_of_apply {e : Edit} {s s' : Schema} (h : e.apply s = .ok s') :
    e.Extends s s' := by
  have hends := e.apply_ends s
  rw [h] at hends
  have hfields : s'.fields = e.kept s.fields ++ (e.offer s.fields).fields := hends.fields_eq
  refine ⟨hfields, ?_, ?_⟩
  · intro i f name hf hnamed
    refine s'.exact.found ?_ hnamed
    rw [hfields, List.getElem?_append_left (List.getElem?_eq_some_iff.1 hf).1, hf]
  · intro i f name hf hnamed
    refine s'.exact.found ?_ hnamed
    rw [hfields, List.getElem?_append_right (Nat.le_add_right _ _), Nat.add_sub_cancel_left, hf]

/-- Whatever is done about a schema, its names stay apart and its lookups exact. What is there is
known from the fields that the operations came to; a further one succeeds exactly if it comes to all
its fields and none has a name that is taken, and then only adds behind what it keeps. Failing, it
leaves the schema that was there, and if that is for a name, a field before the one it tells of has
the name. -/
theorem history_exact (edits : List Edit) :
    let s := reached edits
    s.Exact ∧ s.fields = edits.foldl Edit.after [] ∧
    ∀ e : Edit,
      (e.offer s.fields).Ends e.clash (e.kept s.fields) ((e.apply s).map (·.fields)) ∧
      ((∃ s', e.work.run s = .ok () s') ↔ (e.offer s.fields).refusal = none ∧
        (e.kept s.fields ++ (e.offer s.fields).fields).Pairwise Field.Distinct) ∧
      (∀ s', e.work.run s = .ok () s' →
        e.apply s = .ok s' ∧ reached (edits ++ [e]) = s' ∧ e.Extends s s') ∧
      ∀ r s', e.work.run s = .error r s' →
        e.apply s = .error r ∧ s' = s ∧ reached (edits ++ [e]) = s := by
  intro s
  refine ⟨s.exact, reached_fields edits, fun e => ?_⟩
  have hends := e.apply_ends s
  have hnext : reached (edits ++ [e]) = e.next s := by
    rw [reached, List.foldl_append]
    rfl
  refine ⟨hends, ?_, ?_, ?_⟩
  · rw [← hends.ok_iff]
    constructor
    · rintro ⟨s', hrun⟩
      have hok : e.apply s = .ok s' := made_eq_ok_iff.2 hrun
      exact ⟨s'.fields, by rw [hok]; rfl⟩
    · rintro ⟨fields, hmap⟩
      cases hok : e.apply s with
      | ok s' => exact ⟨s', made_eq_ok_iff.1 hok⟩
      | error r =>
        rw [hok] at hmap
        cases hmap
  · intro s' hrun
    have hok : e.apply s = .ok s' := made_eq_ok_iff.2 hrun
    refine ⟨hok, ?_, Edit.extends_of_apply hok⟩
    rw [hnext, Edit.next, left_ok hrun]
  · intro r s' hrun
    have hkept := e.work_atomic.kept hrun
    refine ⟨made_eq_error_iff.2 ⟨s', hrun⟩, hkept, ?_⟩
    rw [hnext, Edit.next, left_error hrun, hkept]

/-- Operations of which the second and the third fail: one over two of its own names, the other over
a name that is there in small letters. -/
def trail : List Edit :=
  [.ofFields [{ name := "id", kind := .integer }, { name := "Maß", kind := .text }],
    .merge [{ name := "ort", kind := .text }, { name := "ORT", kind := .date }] "b",
    .add { name := "MAẞ", kind := .number },
    .merge [{ name := "ort", kind := .text }] "b"]

/-- After these operations a name is found in any spelling, and one that is there already keeps a
further field out, while one that is not lets it in behind the others. -/
theorem history_exact_trail :
    (reached trail).index? "MAẞ" = some 1 ∧
    (reached trail).find "plz" = .error (.notFound "plz") ∧
    (Edit.add { name := "Ort", kind := .boolean }).apply (reached trail) =
      .error (.schema (.duplicateField "Ort")) ∧
    reached (trail ++ [.add { name := "Ort", kind := .boolean }]) = reached trail ∧
    (reached (trail ++ [.add { name := "Plz", kind := .text }])).index? "plz" = some 3 := by
  have hfields : (reached trail).fields =
      [{ name := "id", kind := .integer }, { name := "Maß", kind := .text },
        { name := "ort", kind := .text, origin := "b" }] := by
    decide +kernel
  obtain ⟨hexact, -, hedits⟩ := history_exact trail
  have hfound : (reached trail).index? "MAẞ" = some 1 ∧
      (reached trail).find "MAẞ" = .ok { name := "Maß", kind := .text } :=
    hexact.found (by rw [hfields]; rfl) (by decide +kernel)
  have habsent : (reached trail).index? "plz" = none ∧
      (reached trail).find "plz" = .error (.notFound "plz") :=
    hexact.absent (by rw [hfields]; decide +kernel)
  have hrefused : (Edit.add { name := "Ort", kind := .boolean }).work.run (reached trail) =
      .error (.schema (.duplicateField "Ort")) (reached trail) := by
    have hname : hasName (reached trail).fields "Ort" = true := by
      rw [hfields]
      decide +kernel
    rw [Edit.work, run_adaptExcept, run_addHere_taken hname]
  obtain ⟨s', hadded⟩ : ∃ s', (Edit.add { name := "Plz", kind := .text }).work.run
      (reached trail) = .ok () s' := by
    refine (hedits _).2.1.2 ⟨rfl, ?_⟩
    show List.Pairwise Field.Distinct
      ((reached trail).fields ++ [{ name := "Plz", kind := .text }])
    rw [hfields]
    decide +kernel
  obtain ⟨hfault, -, hkept⟩ := (hedits _).2.2.2 _ _ hrefused
  obtain ⟨-, hlonger, hextends⟩ := (hedits _).2.2.1 s' hadded
  refine ⟨hfound.1, habsent.2, hfault, hkept, ?_⟩
  rw [hlonger, (hextends.added (i := 0) rfl (by decide +kernel)).1]
  show some ((reached trail).fields.length + 0) = some 3
  rw [hfields]
  rfl

end BulkLoad.Schema
