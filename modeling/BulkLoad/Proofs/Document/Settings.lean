import BulkLoad.Proofs.Document.Schemas
import BulkLoad.Step.Config.Document

/-!
Configurations of steps, written and read back. All but the variables of a command come back as they
were; those come back sorted by name.
-/

namespace BulkLoad

/-! ### Variables -/

/-- Variables stand in the order of their names, each name once. -/
abbrev SortedByName (env : List (String × String)) : Prop := env.Pairwise (·.1 < ·.1)

theorem mem_setSorted {key value : String} {env : List (String × String)} {e : String × String}
    (h : e ∈ setSorted key value env) : e = (key, value) ∨ e ∈ env := by
  induction env with
  | nil => exact .inl (List.mem_singleton.1 h)
  | cons v rest ih =>
    rw [setSorted] at h
    split at h
    · exact List.mem_cons.1 h
    · split at h
      · exact (List.mem_cons.1 h).imp id (List.mem_cons_of_mem _)
      · rcases List.mem_cons.1 h with rfl | hrest
        · exact .inr List.mem_cons_self
        · exact (ih hrest).imp id (List.mem_cons_of_mem _)

theorem setSorted_sorted {env : List (String × String)} (h : SortedByName env)
    (key value : String) : SortedByName (setSorted key value env) := by
  induction env with
  | nil => exact List.pairwise_singleton _ _
  | cons v rest ih =>
    obtain ⟨hv, hrest⟩ := List.pairwise_cons.1 h
    rw [setSorted]
    split
    · rename_i hlt
      refine List.pairwise_cons.2 ⟨?_, h⟩
      intro e he
      rcases List.mem_cons.1 he with rfl | he
      · exact hlt
      · exact String.lt_trans hlt (hv e he)
    · split
      · rename_i heq
        exact List.pairwise_cons.2 ⟨fun e he => heq ▸ hv e he, hrest⟩
      · rename_i hnot hne
        have hlt : v.1 < key := Std.lt_of_le_of_ne (String.not_lt.1 hnot) hne
        refine List.pairwise_cons.2 ⟨?_, ih hrest⟩
        intro e he
        rcases mem_setSorted he with rfl | he
        · exact hlt
        · exact hv e he

/-- A name behind all others goes to the end. -/
theorem setSorted_append {env : List (String × String)} {key : String}
    (h : ∀ e ∈ env, e.1 < key) (value : String) :
    setSorted key value env = env ++ [(key, value)] := by
  induction env with
  | nil => rfl
  | cons v rest ih =>
    obtain ⟨hv, hrest⟩ := List.forall_mem_cons.1 h
    have hne : v.1 ≠ key := by
      intro heq
      exact String.lt_irrefl key (heq ▸ hv)
    rw [setSorted, if_neg (String.lt_asymm hv), if_neg hne, ih hrest]
    rfl

/-- Variables that come in the order of their names stay as they come. -/
theorem foldl_setSorted {env more : List (String × String)} (h : SortedByName (env ++ more)) :
    more.foldl (fun env e => setSorted e.1 e.2 env) env = env ++ more := by
  induction more generalizing env with
  | nil => rw [List.foldl_nil, List.append_nil]
  | cons e rest ih =>
    have hbehind : ∀ v ∈ env, v.1 < e.1 :=
      fun v hv => (List.pairwise_append.1 h).2.2 v hv e List.mem_cons_self
    rw [List.append_cons] at h
    rw [List.foldl_cons, setSorted_append hbehind, ih h, List.append_assoc]
    rfl

theorem sortedEnv_sorted (env : List (String × String)) : SortedByName (sortedEnv env) := by
  have hfold : ∀ (more : List (String × String)) {env : List (String × String)},
      SortedByName env → SortedByName (more.foldl (fun env e => setSorted e.1 e.2 env) env) := by
    intro more
    induction more with
    | nil => exact fun h => h
    | cons e rest ih => exact fun h => ih (setSorted_sorted h e.1 e.2)
  exact hfold env .nil

/-- Sorting leaves alone exactly what is sorted. -/
theorem sortedEnv_eq_self_iff {env : List (String × String)} :
    sortedEnv env = env ↔ SortedByName env := by
  constructor
  · intro h
    have hsorted := sortedEnv_sorted env
    rwa [h] at hsorted
  · intro h
    exact foldl_setSorted h

theorem texts_tree (env : List (String × String)) :
    Reader.texts (Json.object (env.map fun e => (e.1, .text e.2))).tree = .ok env := by
  have hentries : (Json.entryTrees (env.map fun e => (e.1, .text e.2))).mapM Reader.textEntry =
      .ok env := by
    induction env with
    | nil => rfl
    | cons e rest ih =>
      have hentry : Reader.textEntry (Json.keyTree e.1, (Json.text e.2).tree) = .ok e := rfl
      rw [List.map_cons, Json.entryTrees, mapM_cons_ok hentry, ih]
      rfl
  rw [Json.tree, Reader.texts, hentries]
  rfl

/-! ### Commands and connections -/

@[simp] theorem Family.word_tree (f : Family) :
    Reader.word Family.words (Json.text f.word).tree = .ok f := by
  cases f <;> rfl

@[simp] theorem Access.word_tree (a : Access) :
    Reader.word Access.words (Json.text a.word).tree = .ok a := by
  cases a <;> rfl

namespace Command

/-- The command with its variables in the order of their names. -/
def sorted (c : Command) : Command := { c with env := sortedEnv c.env }

theorem sorted_eq_self_iff {c : Command} : c.sorted = c ↔ SortedByName c.env := by
  obtain ⟨program, args, env⟩ := c
  simp [sorted, sortedEnv_eq_self_iff]

def slots (c : Command) : List Slot :=
  [("program", some (.text c.program)), ("args", some (.list (c.args.map .text))),
    ("env", some (.object (c.env.map fun e => (e.1, .text e.2))))]

theorem args_tree (args : List String) :
    Reader.list Reader.text (Json.list (args.map .text)).tree = .ok args :=
  Reader.list_map_tree fun _ _ => rfl

theorem slots_fit (c : Command) : List.Forall₂ Found.Fits parts c.slots := by
  simp [parts, slots, args_tree, texts_tree]

theorem reader_json (c : Command) : reader c.json.tree = .ok c.sorted := by
  obtain ⟨found, hfound, hget⟩ := Found.exists_of_record (by decide) c.slots_fit
  have hjson : c.json = Json.record c.slots := rfl
  simp only [slots, List.forall_mem_cons, Option.map_some] at hget
  simp [hjson, reader, hfound, hget, Found.required, Found.defaulted, args_tree, texts_tree, sorted,
    bind, Except.bind, pure, Except.pure]

/-- Whatever order they came in, variables are sorted once they are read. -/
theorem sorted_of_reader {t : Tree Json.Token} {c : Command} (h : reader t = .ok c) :
    SortedByName c.env := by
  simp only [reader, bind_eq_ok_iff] at h
  obtain ⟨_, -, _, -, _, -, env, -, hc⟩ := h
  cases hc
  exact sortedEnv_sorted env

end Command

namespace Connection

def slots (c : Connection) : List Slot :=
  [("family", some (.text c.family.word)), ("access", some (.text c.access.word)),
    ("host", some (.text c.host)), ("port", some (Json.ofNat? (c.port.map UInt16.toNat))),
    ("database", some (.text c.database)), ("user", some (Json.ofText? c.user)),
    ("password", some (Json.ofText? c.password))]

theorem port_tree (port : Option UInt16) :
    Reader.optional Reader.word16 (Json.ofNat? (port.map UInt16.toNat)).tree = .ok port := by
  cases port <;> simp [Json.ofNat?, Except.map]

theorem slots_fit (c : Connection) : List.Forall₂ Found.Fits parts c.slots := by
  simp [parts, slots, port_tree]

@[simp] theorem reader_json (c : Connection) : reader c.json.tree = .ok c := by
  obtain ⟨found, hfound, hget⟩ := Found.exists_of_record (by decide) c.slots_fit
  have hjson : c.json = Json.record c.slots := rfl
  simp only [slots, List.forall_mem_cons, Option.map_some] at hget
  simp [hjson, reader, hfound, hget, Found.required, Found.defaulted, Found.optional, port_tree,
    bind, Except.bind, pure, Except.pure]

end Connection

/-! ### The parts of a configuration -/

namespace Step

@[simp] theorem ChannelKind.word_tree (k : ChannelKind) :
    Reader.word ChannelKind.words (Json.text k.word).tree = .ok k := by
  cases k <;> rfl

@[simp] theorem FileFormat.word_tree (f : FileFormat) :
    Reader.word FileFormat.words (Json.text f.word).tree = .ok f := by
  cases f <;> rfl

@[simp] theorem IfExists.word_tree (c : IfExists) :
    Reader.word IfExists.words (Json.text c.word).tree = .ok c := by
  cases c <;> rfl

@[simp] theorem RowPolicy.word_tree (p : RowPolicy) :
    Reader.word RowPolicy.words (Json.text p.word).tree = .ok p := by
  cases p <;> rfl

namespace Input

def slots (i : Input) : List Slot :=
  [("cube", some (Json.ofText? i.cube)), ("limit", some (.int i.limit.toNat)),
    ("fields", some (.list (i.fields.map Field.json)))]

theorem fields_tree (fields : List Field) :
    Reader.list Field.reader (Json.list (fields.map Field.json)).tree = .ok fields :=
  Reader.list_map_tree fun f _ => f.reader_json

theorem slots_fit (i : Input) : List.Forall₂ Found.Fits parts i.slots := by
  simp [parts, slots, fields_tree]

@[simp] theorem reader_json (i : Input) : reader i.json.tree = .ok i := by
  obtain ⟨found, hfound, hget⟩ := Found.exists_of_record (by decide) i.slots_fit
  have hjson : i.json = Json.record i.slots := rfl
  simp only [slots, List.forall_mem_cons, Option.map_some] at hget
  simp [hjson, reader, hfound, hget, Found.defaulted, Found.optional, fields_tree, bind,
    Except.bind, pure, Except.pure]

end Input

namespace Target

def slots (t : Target) : List Slot :=
  [("schema", some (Json.ofText? t.schema)), ("table", some (.text t.table)),
    ("technical_key", some (Json.ofText? t.technicalKey)),
    ("primary_key", some (Json.ofText? t.primaryKey))]

theorem slots_fit (t : Target) : List.Forall₂ Found.Fits parts t.slots := by
  simp [parts, slots]

@[simp] theorem reader_json (t : Target) : reader t.json.tree = .ok t := by
  obtain ⟨found, hfound, hget⟩ := Found.exists_of_record (by decide) t.slots_fit
  have hjson : t.json = Json.record t.slots := rfl
  simp only [slots, List.forall_mem_cons, Option.map_some] at hget
  simp [hjson, reader, hfound, hget, Found.defaulted, Found.optional, bind, Except.bind, pure,
    Except.pure]

end Target

namespace Output

def slots (o : Output) : List Slot :=
  [("path", some (.text o.path)), ("format", some (.text o.format.word)),
    ("if_exists", some (.text o.ifExists.word))]

theorem slots_fit (o : Output) : List.Forall₂ Found.Fits parts o.slots := by
  simp [parts, slots]

@[simp] theorem reader_json (o : Output) : reader o.json.tree = .ok o := by
  obtain ⟨found, hfound, hget⟩ := Found.exists_of_record (by decide) o.slots_fit
  have hjson : o.json = Json.record o.slots := rfl
  simp only [slots, List.forall_mem_cons, Option.map_some] at hget
  simp [hjson, reader, hfound, hget, Found.required, Found.defaulted, bind, Except.bind, pure,
    Except.pure]

end Output

namespace Policy

def slots (p : Policy) : List Slot :=
  [("on_encoding_error", some (.text p.onRowError.word)),
    ("ignore_errors", some (.bool p.ignoreErrors))]

theorem slots_fit (p : Policy) : List.Forall₂ Found.Fits parts p.slots := by
  simp [parts, slots]

@[simp] theorem reader_json (p : Policy) : reader p.json.tree = .ok p := by
  obtain ⟨found, hfound, hget⟩ := Found.exists_of_record (by decide) p.slots_fit
  have hjson : p.json = Json.record p.slots := rfl
  simp only [slots, List.forall_mem_cons, Option.map_some] at hget
  simp [hjson, reader, hfound, hget, Found.defaulted, bind, Except.bind, pure, Except.pure]

end Policy

namespace Loader

/-- The loader with the variables of its command in the order of their names. -/
def sorted (l : Loader) : Loader := { l with command := l.command.map Command.sorted }

theorem sorted_eq_self_iff {l : Loader} :
    l.sorted = l ↔ ∀ command, l.command = some command → SortedByName command.env := by
  obtain ⟨_, _, _, _, _, _, _, _, command, _, _, _⟩ := l
  cases command with
  | none => simp [sorted]
  | some c => simp [sorted, Command.sorted_eq_self_iff]

/-- The value of the command, null where there is none. -/
def commandJson (l : Loader) : Json := (l.command.map Command.json).getD .null

def slots (l : Loader) : List Slot :=
  [("delimiter", some (.text l.delimiter)), ("enclosure", some (.text l.enclosure)),
    ("escape", some (.text l.escape)), ("replace", some (.bool l.replace)),
    ("ignore_errors", some (.bool l.ignoreErrors)),
    ("null_marker", some (Json.ofText? l.nullMarker)), ("fifo_dir", some (.text l.fifoDir)),
    ("channel", some (Json.ofText? (l.channel.map ChannelKind.word))),
    ("command", some l.commandJson), ("open_timeout_ms", some (.int l.openTimeout.toNat)),
    ("finish_timeout_ms", some (.int l.finishTimeout.toNat)),
    ("terminate_grace_ms", some (.int l.terminateGrace.toNat))]

theorem json_eq (l : Loader) : l.json = Json.record l.slots := by
  cases h : l.command <;> simp [json, Json.record, slots, commandJson, Json.entry?, h]

theorem channel_tree (channel : Option ChannelKind) :
    Reader.optional (Reader.word ChannelKind.words)
      (Json.ofText? (channel.map ChannelKind.word)).tree = .ok channel := by
  cases channel <;> simp [Json.ofText?, Except.map]

theorem command_tree (l : Loader) :
    Reader.optional Command.reader l.commandJson.tree = .ok (l.command.map Command.sorted) :=
  Reader.optional_getD l.command fun c => ⟨nofun, c.reader_json⟩

theorem slots_fit (l : Loader) : List.Forall₂ Found.Fits parts l.slots := by
  simp [parts, slots, channel_tree, command_tree]

@[simp] theorem reader_json (l : Loader) : reader l.json.tree = .ok l.sorted := by
  obtain ⟨found, hfound, hget⟩ := Found.exists_of_record (by decide) l.slots_fit
  simp only [slots, List.forall_mem_cons, Option.map_some] at hget
  simp [json_eq, reader, hfound, hget, Found.defaulted, Found.optional, channel_tree, command_tree,
    sorted, bind, Except.bind, pure, Except.pure]

theorem sorted_of_reader {t : Tree Json.Token} {l : Loader} (h : reader t = .ok l) :
    l.sorted = l := by
  simp only [reader, bind_eq_ok_iff] at h
  obtain ⟨found, -, _, -, _, -, _, -, _, -, _, -, _, -, _, -, _, -, command, hcommand, _, -, _, -,
    _, -, hl⟩ := h
  cases hl
  rw [sorted_eq_self_iff]
  rintro c rfl
  obtain ⟨t, ht⟩ := Found.exists_of_optional hcommand
  exact Command.sorted_of_reader ht

end Loader

/-! ### Configurations -/

namespace Config

/-- The configuration with the variables of its loader's command in the order of their names. -/
def sorted (c : Config) : Config := { c with loader := c.loader.sorted }

theorem sorted_eq_self_iff {c : Config} :
    c.sorted = c ↔ ∀ command, c.loader.command = some command → SortedByName command.env := by
  have hloader : c.sorted = c ↔ c.loader.sorted = c.loader := by
    obtain ⟨version, name, pipeline, input, connection, target, mapping, loader, output, policy⟩ :=
      c
    simp [sorted]
  exact hloader.trans Loader.sorted_eq_self_iff

def slots (c : Config) : List Slot :=
  [("version", some (.text c.version)), ("step", some (.text c.name)),
    ("pipeline", some (.text c.pipeline)), ("input", some c.input.json),
    ("connection", some ((c.connection.map Connection.json).getD .null)),
    ("target", some c.target.json), ("mapping", some c.mapping.json),
    ("loader", some c.loader.json), ("output", some ((c.output.map Output.json).getD .null)),
    ("policy", some c.policy.json)]

theorem json_eq (c : Config) : c.json = Json.record c.slots := by
  cases h : c.connection <;> cases h' : c.output <;>
    simp [json, Json.record, slots, Json.entry?, h, h']

theorem connection_tree (connection : Option Connection) :
    Reader.optional Connection.reader ((connection.map Connection.json).getD .null).tree =
      .ok connection :=
  Eq.trans (Reader.optional_getD connection fun c => ⟨nofun, c.reader_json⟩)
    (congrArg Except.ok Option.map_id')

theorem output_tree (output : Option Output) :
    Reader.optional Output.reader ((output.map Output.json).getD .null).tree = .ok output :=
  Eq.trans (Reader.optional_getD output fun o => ⟨nofun, o.reader_json⟩)
    (congrArg Except.ok Option.map_id')

theorem slots_fit (c : Config) : List.Forall₂ Found.Fits parts c.slots := by
  simp [parts, slots, connection_tree, output_tree]

theorem reader_json (c : Config) : reader c.json.tree = .ok c.sorted := by
  obtain ⟨found, hfound, hget⟩ := Found.exists_of_record (by decide) c.slots_fit
  simp only [slots, List.forall_mem_cons, Option.map_some] at hget
  simp [json_eq, reader, hfound, hget, Found.required, Found.defaulted, Found.optional,
    connection_tree, output_tree, sorted, bind, Except.bind, pure, Except.pure]

theorem sorted_of_reader {t : Tree Json.Token} {c : Config} (h : reader t = .ok c) :
    c.sorted = c := by
  simp only [reader, bind_eq_ok_iff] at h
  obtain ⟨found, -, _, -, _, -, _, -, _, -, _, -, _, -, _, -, loader, hloader, _, -, _, -, hc⟩ := h
  cases hc
  rw [sorted_eq_self_iff, ← Loader.sorted_eq_self_iff]
  rcases Found.exists_of_defaulted hloader with rfl | ⟨t, ht⟩
  · rfl
  · exact Loader.sorted_of_reader ht

/-- A configuration comes back as it was, its variables in the order of their names; that is how
they are kept, so one that came in from any document comes back the same. Schemas come back as they
were, and a document is one if it is a list of fields whose names differ, with those fields in their
order. A mapping comes back as it came in; a code that is not understood came in as that of the
plain form and stays it. -/
theorem documents_restored :
    (∀ c : Config, reader c.json.tree = .ok c ↔
      ∀ command, c.loader.command = some command → SortedByName command.env) ∧
    (∀ t : Tree Json.Token, (reader t >>= fun c => reader c.json.tree) = reader t) ∧
    (∀ s : Schema, Schema.reader s.json.tree = .ok s) ∧
    (∀ (t : Tree Json.Token) (s : Schema),
      Schema.reader t = .ok s ↔ Reader.list Field.reader t = .ok s.fields) ∧
    (∀ t : Tree Json.Token, (∃ s, Schema.reader t = .ok s) ↔
      ∃ fields, Reader.list Field.reader t = .ok fields ∧ fields.Pairwise Field.Distinct) ∧
    (∀ t : Tree Json.Token,
      (Mapping.reader t >>= fun m => Mapping.reader m.json.tree) = Mapping.reader t) ∧
    (∀ stream column code : String,
      MappingEntry.reader (Json.object [("stream", .text stream), ("column", .text column),
        ("format", .text code)]).tree = .ok ⟨stream, column, .ofCode code⟩ ∧
      ((Hint.ofCode code).code = "OK" ↔
        Text.upperAscii (Text.trim code) ∉ Hint.codes.map (·.1)) ∧
      Hint.ofCode (Hint.ofCode code).code = Hint.ofCode code) := by
  refine ⟨fun c => ?_, fun t => ?_, Schema.reader_json, fun _ _ => Schema.reader_eq_ok_iff,
    fun _ => Schema.exists_reader_iff, fun t => ?_, fun stream column code =>
      ⟨MappingEntry.reader_code stream column code, Hint.code_ofCode_eq_iff code,
        (Hint.ofCode code).ofCode_code⟩⟩
  · rw [c.reader_json, Except.ok.injEq]
    exact sorted_eq_self_iff
  · cases hread : reader t with
    | error e => rfl
    | ok c => exact c.reader_json.trans (congrArg Except.ok (sorted_of_reader hread))
  · cases Mapping.reader t with
    | error e => rfl
    | ok m => exact m.reader_json

end Config
end Step
end BulkLoad
