import BulkLoad.Proofs.Document.Records
import BulkLoad.Step.Result.Document

/-!
Faults and results of steps, written and read back. Null details are lost on the way; everything
else of a fault, and of a result that took a finite time, is kept.
-/

namespace BulkLoad

/-- The value stands for the absence of one. -/
def Json.isNull : Json → Bool
  | null => true
  | _ => false

/-! ### Faults -/

namespace Fault

@[simp] theorem Category.word_tree (c : Category) :
    Reader.word Category.words (Json.text c.word).tree = .ok c := by
  cases c <;> rfl

@[simp] theorem Scope.word_tree (s : Scope) :
    Reader.word Scope.words (Json.text s.word).tree = .ok s := by
  cases s <;> rfl

/-- The fault with null details taken away. -/
def restored (f : Fault) : Fault :=
  { f with details := f.details.bind fun d => if d.isNull then none else some d }

theorem restored_eq_iff {f : Fault} : f.restored = f ↔ f.details ≠ some .null := by
  obtain ⟨category, scope, code, message, details⟩ := f
  cases details with
  | none => simp [restored]
  | some d => cases d <;> simp [restored, Json.isNull]

def slots (f : Fault) : List Slot :=
  [("category", some (.text f.category.word)), ("scope", some (.text f.scope.word)),
    ("code", some (.text f.code)), ("message", some (.text f.message)),
    ("details", f.details.map id)]

theorem json_eq (f : Fault) : f.json = Json.record f.slots := by
  cases h : f.details <;> simp [json, Json.record, slots, Json.entry?, h]

/-- Null is no value to a field that may be absent. -/
theorem details_tree (d : Json) :
    Reader.optional Json.reader d.tree = .ok (if d.isNull then none else some d) := by
  cases d with
  | null => rfl
  | _ => simp [Json.isNull, Except.map]

theorem slots_fit (f : Fault) : List.Forall₂ Found.Fits parts f.slots := by
  simp [parts, slots, details_tree]

/-- A fault reads back without its details if they are null, and whole if they are not. -/
theorem reader_json (f : Fault) : reader f.json.tree = .ok f.restored := by
  obtain ⟨found, hfound, hget⟩ := Found.exists_of_record (by decide) f.slots_fit
  simp only [slots, List.forall_mem_cons, Option.map_some] at hget
  obtain ⟨hcategory, hscope, hcode, hmessage, hdetails, -⟩ := hget
  have hread := Found.optional_of_get? hdetails fun d _ => details_tree d
  simp [json_eq, reader, hfound, Found.required, hcategory, hscope, hcode, hmessage, hread, bind,
    Except.bind, pure, Except.pure, restored]

end Fault

namespace Step

/-! ### Files and consumers -/

@[simp] theorem FileKind.word_tree (k : FileKind) :
    Reader.word FileKind.words (Json.text k.word).tree = .ok k := by
  cases k <;> rfl

namespace ResultFile

def slots (f : ResultFile) : List Slot :=
  [("kind", some (.text f.kind.word)), ("path", some (.text f.path)),
    ("origin", some (.text f.origin))]

theorem slots_fit (f : ResultFile) : List.Forall₂ Found.Fits parts f.slots := by
  simp [parts, slots]

@[simp] theorem reader_json (f : ResultFile) : reader f.json.tree = .ok f := by
  obtain ⟨found, hfound, hget⟩ := Found.exists_of_record (by decide) f.slots_fit
  have hjson : f.json = Json.record f.slots := rfl
  simp only [slots, List.forall_mem_cons, Option.map_some] at hget
  simp [hjson, reader, hfound, hget, Found.required, bind, Except.bind, pure, Except.pure]

end ResultFile

namespace SinkReport

def slots (r : SinkReport) : List Slot :=
  [("exit_code", some (.int r.exitCode.toInt)), ("records_written", some (.int r.records.toNat)),
    ("bytes_written", some (.int r.bytes.toNat)), ("stdout", some (.text r.stdout)),
    ("stderr", some (.text r.stderr))]

theorem slots_fit (r : SinkReport) : List.Forall₂ Found.Fits parts r.slots := by
  simp [parts, slots]

@[simp] theorem reader_json (r : SinkReport) : reader r.json.tree = .ok r := by
  obtain ⟨found, hfound, hget⟩ := Found.exists_of_record (by decide) r.slots_fit
  have hjson : r.json = Json.record r.slots := rfl
  simp only [slots, List.forall_mem_cons, Option.map_some] at hget
  simp [hjson, reader, hfound, hget, Found.required, Found.defaulted, bind, Except.bind, pure,
    Except.pure]

end SinkReport

/-! ### Results -/

namespace Result

/-- The result with null details taken away from its fault. -/
def restored (r : Result) : Result := { r with fault := r.fault.map Fault.restored }

theorem restored_eq_iff {r : Result} :
    r.restored = r ↔ ∀ f, r.fault = some f → f.details ≠ some .null := by
  obtain ⟨succeeded, rowsRead, rowsWritten, errors, files, sink, fault, cancelled, seconds⟩ := r
  cases fault with
  | none => simp [restored]
  | some f => simp [restored, Fault.restored_eq_iff]

def slots (r : Result) : List Slot :=
  [("succeeded", some (.bool r.succeeded)), ("rows_read", some (.int r.rowsRead.toNat)),
    ("rows_written", some (.int r.rowsWritten.toNat)), ("error_count", some (.int r.errors.toNat)),
    ("files", if r.files.isEmpty then none else some (.list (r.files.map ResultFile.json))),
    ("sink", r.sink.map SinkReport.json), ("error", r.fault.map Fault.json),
    ("cancelled", some (.bool r.cancelled)), ("duration_secs", some (Json.ofDouble r.seconds))]

theorem json_eq (r : Result) : r.json = Json.record r.slots := by
  cases h : r.files <;> simp [json, Json.record, slots, Json.entry?, h]

theorem files_tree (r : Result) :
    Reader.list ResultFile.reader (Json.list (r.files.map ResultFile.json)).tree = .ok r.files :=
  Reader.list_map_tree fun f _ => f.reader_json

theorem sink_tree (s : SinkReport) :
    Reader.optional SinkReport.reader s.json.tree = .ok (some s) :=
  Reader.optional_of_read nofun s.reader_json

theorem fault_tree (f : Fault) :
    Reader.optional Fault.reader f.json.tree = .ok (some f.restored) :=
  Reader.optional_of_read nofun f.reader_json

theorem slots_fit (r : Result) (hfinite : r.seconds.isFinite = true) :
    List.Forall₂ Found.Fits parts r.slots := by
  simp [parts, slots, files_tree, sink_tree, fault_tree, Json.ofDouble, hfinite]

/-- Files are read back whether or not the list is left out. -/
theorem files_of_get? {found : Found Json.Token} {r : Result}
    (hget : found.get? "files" = (if r.files.isEmpty then none
      else some (Json.list (r.files.map ResultFile.json))).map Json.tree) :
    found.defaulted "files" (Reader.list ResultFile.reader) [] = .ok r.files := by
  have hread := r.files_tree
  rw [Found.defaulted, hget]
  cases hfiles : r.files with
  | nil => rfl
  | cons f rest =>
    rw [hfiles] at hread
    exact hread

/-- A result that took a finite time reads back, its fault without null details. -/
theorem reader_json (r : Result) (hfinite : r.seconds.isFinite = true) :
    reader r.json.tree = .ok r.restored := by
  obtain ⟨found, hfound, hget⟩ := Found.exists_of_record (by decide) (r.slots_fit hfinite)
  simp only [slots, List.forall_mem_cons, Option.map_some] at hget
  obtain ⟨hsucceeded, hrowsRead, hrowsWritten, herrors, hfiles, hsink, hfault, hcancelled,
    hseconds, -⟩ := hget
  have hreadFiles := files_of_get? hfiles
  have hreadSink := Found.optional_of_get? hsink fun s _ => sink_tree s
  have hreadFault : found.optional "error" Fault.reader = .ok (r.fault.map Fault.restored) := by
    rw [Option.map_eq_bind]
    exact Found.optional_of_get? hfault fun f _ => fault_tree f
  simp [json_eq, reader, hfound, Found.required, hsucceeded, hrowsRead, hrowsWritten, herrors,
    hreadFiles, hreadSink, hreadFault, hcancelled, hseconds, Json.ofDouble, hfinite, restored,
    bind, Except.bind, pure, Except.pure]

/-- Every fault, and every result that took a finite time, reads back as it was written but for null
details, which read back as none; so exactly those without null details come back equal. -/
theorem reads_back (f : Fault) (r : Result) :
    (Fault.reader f.json.tree = .ok f.restored ∧
      (Fault.reader f.json.tree = .ok f ↔ f.details ≠ some .null)) ∧
    (r.seconds.isFinite = true →
      reader r.json.tree = .ok r.restored ∧
        (reader r.json.tree = .ok r ↔ ∀ f, r.fault = some f → f.details ≠ some .null)) := by
  refine ⟨⟨f.reader_json, ?_⟩, fun hfinite => ⟨r.reader_json hfinite, ?_⟩⟩
  · rw [f.reader_json, Except.ok.injEq]
    exact Fault.restored_eq_iff
  · rw [r.reader_json hfinite, Except.ok.injEq]
    exact restored_eq_iff

/-- A fault with a null inside its details. -/
def exitFault : Fault :=
  (Fault.of .sinkProcess "CONSUMER_EXIT" "exit code 1").withDetails
    (.object [("stderr", .text "boom"), ("signal", .null)])

/-- A load that failed with it after a second and a half. -/
def failedLoad : Result :=
  { rowsRead := 3
    errors := 1
    files := [⟨.log, "/tmp/load.log", "load"⟩]
    sink := some { exitCode := -1, stderr := "boom" }
    fault := some exitFault
    seconds := ⟨0x3FF8000000000000⟩ }

theorem reads_back_failedLoad :
    Fault.reader exitFault.json.tree = .ok exitFault ∧
      failedLoad.seconds.isFinite = true ∧ reader failedLoad.json.tree = .ok failedLoad := by
  have hfinite : failedLoad.seconds.isFinite = true := by decide
  have hdetails : exitFault.details ≠ some .null := nofun
  obtain ⟨⟨-, hfault⟩, hresult⟩ := reads_back exitFault failedLoad
  refine ⟨hfault.2 hdetails, hfinite, (hresult hfinite).2.2 ?_⟩
  rintro f ⟨⟩
  exact hdetails

/-- Null details are there before the fault is written and gone when it is read. -/
theorem null_details_lost :
    let f := (Fault.of .config "X" "m").withDetails .null
    f.json.tree = (Json.object [("category", .text "config"), ("scope", .text "step"),
      ("code", .text "X"), ("message", .text "m"), ("details", .null)]).tree ∧
    Fault.reader f.json.tree = .ok { f with details := none } ∧
    Fault.reader f.json.tree ≠ .ok f := by
  refine ⟨rfl, rfl, ?_⟩
  rw [Fault.reader_json]
  nofun

end Result
end Step
end BulkLoad
