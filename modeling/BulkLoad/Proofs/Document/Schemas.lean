import BulkLoad.Mapping.Document
import BulkLoad.Proofs.Document.Records
import BulkLoad.Proofs.Schema.History

/-!
Schemas and mappings, written and read back. A list of fields is a schema exactly when no two of
its names are the same; a hint is a text that is read with leniency and written in one spelling.
-/

namespace BulkLoad

/-! ### Fields -/

@[simp] theorem Kind.word_tree (k : Kind) : Kind.reader (Json.text k.word).tree = .ok k := by
  cases k <;> rfl

namespace Field

def slots (f : Field) : List Slot :=
  [("name", some (.text f.name)), ("type", some (.text f.kind.word)),
    ("length", f.length.map fun n => .int n.toNat),
    ("precision", f.precision.map fun n => .int n.toNat), ("origin", some (.text f.origin))]

theorem json_eq (f : Field) : f.json = Json.record f.slots := by
  simp [json, Json.record, slots, Json.entry?]

theorem size_tree (n : UInt32) :
    Reader.optional Reader.word32 (Json.int n.toNat).tree = .ok (some n) := by
  simp [Except.map]

theorem slots_fit (f : Field) : List.Forall₂ Found.Fits parts f.slots := by
  simp [parts, slots, Except.map]

@[simp] theorem reader_json (f : Field) : reader f.json.tree = .ok f := by
  obtain ⟨found, hfound, hget⟩ := Found.exists_of_record (by decide) f.slots_fit
  simp only [slots, List.forall_mem_cons, Option.map_some] at hget
  obtain ⟨hname, hkind, hlength, hprecision, horigin, -⟩ := hget
  have hreadLength := Found.optional_of_get? hlength fun n _ => size_tree n
  have hreadPrecision := Found.optional_of_get? hprecision fun n _ => size_tree n
  simp [json_eq, reader, hfound, Found.required, Found.defaulted, hname, hkind, hreadLength,
    hreadPrecision, horigin, bind, Except.bind, pure, Except.pure]

end Field

/-! ### Schemas -/

namespace Schema

/-- A document is a schema when it is a list of the schema's fields. -/
theorem reader_eq_ok_iff {t : Tree Json.Token} {s : Schema} :
    reader t = .ok s ↔ Reader.list Field.reader t = .ok s.fields := by
  rw [reader]
  cases Reader.list Field.reader t with
  | error e => simp [bind, Except.bind]
  | ok fields =>
    have hfields : fields = s.fields ↔ ofFields fields = .ok s :=
      eq_comm.trans ofFields_eq_ok_iff.symm
    rw [Except.ok.injEq, hfields]
    simp only [bind, Except.bind]
    cases ofFields fields with
    | ok s' => simp [pure, Except.pure]
    | error e => cases e <;> simp [throw, throwThe, MonadExceptOf.throw]

/-- A list of fields is a schema if and only if no two of its names are the same. -/
theorem exists_reader_iff {t : Tree Json.Token} :
    (∃ s, reader t = .ok s) ↔
      ∃ fields, Reader.list Field.reader t = .ok fields ∧ fields.Pairwise Field.Distinct := by
  simp only [reader_eq_ok_iff]
  constructor
  · rintro ⟨s, hs⟩
    exact ⟨s.fields, hs, s.distinct⟩
  · rintro ⟨fields, hfields, hapart⟩
    exact ⟨⟨fields, hapart⟩, hfields⟩

theorem reader_json (s : Schema) : reader s.json.tree = .ok s :=
  reader_eq_ok_iff.2 (Reader.list_map_tree fun f _ => f.reader_json)

end Schema

/-! ### Mappings -/

namespace Hint

/-- A hint is written as a code that is read as the hint. -/
@[simp] theorem ofCode_code (h : Hint) : ofCode h.code = h := by
  cases h <;> decide +kernel

@[simp] theorem text_tree (code : String) : reader (Json.text code).tree = .ok (ofCode code) :=
  rfl

/-- Every code but those that are understood is written as that of the plain form. -/
theorem code_ofCode_eq_iff (code : String) :
    (ofCode code).code = plain.code ↔
      Text.upperAscii (Text.trim code) ∉ codes.map (·.1) := by
  rw [ofCode]
  generalize Text.upperAscii (Text.trim code) = key
  constructor
  · intro hplain hmem
    simp only [codes, List.map_cons, List.map_nil, List.mem_cons, List.not_mem_nil,
      or_false] at hmem
    rcases hmem with rfl | rfl | rfl | rfl | rfl <;> revert hplain <;> decide
  · intro hunknown
    rw [lookup_eq_none_of_notMem hunknown]
    rfl

end Hint

namespace MappingEntry

def slots (stream column code : String) : List Slot :=
  [("stream", some (.text stream)), ("column", some (.text column)), ("format", some (.text code))]

/-- Any text may stand for the format of an entry. -/
theorem reader_code (stream column code : String) :
    reader (Json.object [("stream", .text stream), ("column", .text column),
      ("format", .text code)]).tree = .ok ⟨stream, column, .ofCode code⟩ := by
  have hfits : List.Forall₂ Found.Fits parts (slots stream column code) := by simp [parts, slots]
  obtain ⟨found, hfound, hget⟩ := Found.exists_of_record (by decide) hfits
  have hjson : Json.object [("stream", .text stream), ("column", .text column),
    ("format", .text code)] = Json.record (slots stream column code) := rfl
  simp only [slots, List.forall_mem_cons, Option.map_some] at hget
  simp [hjson, reader, hfound, hget, Found.required, Found.defaulted, bind, Except.bind, pure,
    Except.pure]

@[simp] theorem reader_json (e : MappingEntry) : reader e.json.tree = .ok e :=
  (reader_code e.stream e.column e.hint.code).trans (by rw [Hint.ofCode_code])

end MappingEntry

@[simp] theorem Mapping.reader_json (m : Mapping) : reader m.json.tree = .ok m := by
  have hlist : Reader.list MappingEntry.reader m.json.tree = .ok m.entries :=
    Reader.list_map_tree fun e _ => e.reader_json
  rw [reader, hlist]
  rfl

end BulkLoad
