import BulkLoad.Proofs.Cube.Projection
import BulkLoad.Proofs.Dialect.Alterations
import BulkLoad.Proofs.Dialect.Statements
import BulkLoad.Proofs.Step.Agreement

/-!
Where the consumers of a mapping have its columns. The load command lists names, the records have
fields, the header of a cube has descriptors, and each column has a statement that adds it. All of
these lists are made from the same bindings, so they stand in the order of the entries.
-/

namespace BulkLoad

/-- A record of text, by its fields. -/
def Delimited.Format.join (f : Format) (fields : List Bytes) : Bytes :=
  (Bytes.ofText f.delimiter).intercalate fields ++ Bytes.ofText f.terminator

/-- The field of the input that feeds an entry, and its cell in a row. -/
def MappingEntry.FedBy (e : MappingEntry) (input : Schema) (row : Row) (f : Field) (cell : Cell) :
    Prop :=
  ∃ j : Nat, input.fields[j]? = some f ∧ f.isNamed e.stream = true ∧ row[j]? = some cell

namespace Binding

variable {b : Binding} {input : Schema} {row : Row}

/-- The cell of a row that the binding is about. -/
def cell (b : Binding) (row : Row) : Cell := row.getD b.position .null

theorem On.fedBy (hb : b.On input) (hrow : input.check row = .ok ()) :
    b.entry.FedBy input row b.source (b.cell row) :=
  ⟨b.position, hb.found, hb.named, (Schema.cell_at hrow hb.found).1⟩

/-- The column of a binding finds the cell. -/
theorem On.column_cell (hb : b.On input) (hrow : input.check row = .ok ()) (origin : String) :
    Column.cell ⟨b.position, b.field.withOrigin origin⟩ row = .ok (b.cell row) := by
  obtain ⟨hcell, hadmits⟩ := Schema.cell_at hrow hb.found
  exact Column.cell_eq_ok hcell (hadmits.alike rfl)

end Binding

namespace Step

variable {plan : Plan} {input : Schema} {a : Agreement} {row : Row} {bs : List Binding}
  {origin : String}

namespace Agreement.Binds

theorem columns (h : a.Binds origin bs) :
    a.projection.columns = bs.map fun b => ⟨b.position, b.field.withOrigin origin⟩ := by
  have hfields : a.projection.target.fields = _ := h.fields
  rw [Projection.columns, h.sources, hfields, List.zip_map', List.map_map]
  rfl

theorem textColumns (h : a.Binds origin bs) : Delimited.textColumns a.projection =
    bs.map fun b => ⟨⟨b.position, b.field.withOrigin origin⟩, b.entry.hint⟩ := by
  rw [Delimited.textColumns, h.columns, h.hints, List.zip_map', List.map_map]
  rfl

/-- A record of text has a field for each binding. -/
theorem record_text (h : a.Binds origin bs) (hon : ∀ b ∈ bs, b.On input)
    (hrow : input.check row = .ok ()) (f : Delimited.Format) :
    (Encoder.ofFormat f a.projection).record row = .ok (f.join (bs.map fun b =>
      f.field b.entry.hint b.source.precision (b.cell row))) := by
  have hfields : (Delimited.textColumns a.projection).mapM (f.fieldOf row) =
      .ok (bs.map fun b => f.field b.entry.hint b.source.precision (b.cell row)) := by
    rw [mapM_eq_ok_iff, h.textColumns, List.forall₂_map_left_iff, List.forall₂_map_right_iff,
      List.forall₂_same]
    intro b hb
    rw [Delimited.Format.fieldOf, (hon b hb).column_cell hrow origin]
    rfl
  have hrecord := (f.fill_appended (Delimited.textColumns a.projection) row []).record_eq
  rw [hfields] at hrecord
  exact hrecord

/-- A record of a cube has a cell for each binding. -/
theorem record_cube (h : a.Binds origin bs) (ha : a.projection.Aligned input)
    (hrow : input.check row = .ok ()) :
    (Encoder.ofProjection a.projection).record row =
      .ok (Cube.putBytes (bs.map fun b => Cube.putCell (b.cell row)).flatten) := by
  rw [ha.record_cube hrow, Cube.recordOf, Cube.bodyOf, Projection.cells, h.sources, List.map_map,
    List.flatMap_map]
  rfl

/-- The header of a cube has a descriptor for each binding. -/
theorem header_cube (h : a.Binds origin bs) :
    (Encoder.ofProjection a.projection).header =
      Cube.magic ++ Bytes.bigEndian 2 Cube.version ++ Bytes.bigEndian 4 bs.length ++
        (bs.map fun b => Cube.putField (b.field.withOrigin origin)).flatten := by
  have hheader : (Encoder.ofProjection a.projection).header = Cube.putHeader a.output := rfl
  rw [hheader, Cube.putHeader, Schema.size, h.fields, List.length_map, List.flatMap_map]
  rfl

end Agreement.Binds

/-- What the consumers of a mapping have for one of its entries. -/
structure Place where
  /-- The name in the column list of the load command. -/
  name : String
  /-- The field in a record of the loader. -/
  loaded : Bytes
  /-- The field in a record of the file. -/
  filed : Bytes
  /-- The descriptor in the header of a cube. -/
  descriptor : Bytes
  /-- The statement that adds the column. -/
  statement : String

namespace Config

variable {c : Config} {o : Output} {connection : Connection} {path : String} {command : Command}

/-- The table, as the family names it. -/
def tableName (c : Config) (family : Family) : String :=
  family.qualified c.target.schema c.target.table

/-- A cell in the file. -/
def fileField (c : Config) (o : Output) (hint : Hint) (precision : Option UInt32) (cell : Cell) :
    Bytes :=
  match o.format with
  | .text => (c.loader.format "").field hint precision cell
  | .cube => Cube.putCell cell

/-- A record of the file, by its fields. -/
def fileRecord (c : Config) (o : Output) (fields : List Bytes) : Bytes :=
  match o.format with
  | .text => (c.loader.format "").join fields
  | .cube => Cube.putBytes fields.flatten

/-- The place of an entry that is fed from this field, with this cell. -/
def place (c : Config) (o : Output) (family : Family) (e : MappingEntry) (f : Field) (cell : Cell) :
    Place where
  name := family.quoted e.column
  loaded := c.loaderFormat.field e.hint f.precision cell
  filed := c.fileField o e.hint f.precision cell
  descriptor := Cube.putField { f with name := e.column, origin := c.name }
  statement := "ALTER TABLE " ++ c.tableName family ++ " ADD " ++
    (e.column ++ " " ++ family.columnType f (c.target.keys.holds e.column))

/-- The order that a configuration gives to the family of a connection. -/
def loadOrder (c : Config) (connection : Connection) (path : String) : LoadOrder where
  connection := connection
  schema := c.target.schema
  table := c.target.table
  columns := c.mapping.columns
  path := path
  delimiter := c.loader.delimiter
  enclosure := c.loader.enclosure?
  escape := c.loader.escape?
  replace := c.loader.replace
  ignoreErrors := c.loader.ignoreErrors

theorem loadCommand_of_connection (hc : c.connection = some connection)
    (hown : c.loader.command = none) (path : String) :
    c.loadCommand path = (c.loadOrder connection path).command := by
  unfold loadCommand
  rw [hc, hown]
  rfl

/-- The family's own load command lists the columns of the mapping. -/
theorem loadCommand_lists (hc : c.connection = some connection) (hown : c.loader.command = none)
    (h : c.loadCommand path = .ok command) : ∃ arg, command.args.getLast? = some arg ∧
      connection.family.ListsColumns (c.tableName connection.family)
        (c.mapping.entries.map fun e => connection.family.quoted e.column) arg := by
  rw [loadCommand_of_connection hc hown] at h
  obtain ⟨arg, harg, hlists⟩ := LoadOrder.command_lists h
  refine ⟨arg, harg, ?_⟩
  rw [loadOrder, Mapping.columns, List.map_map] at hlists
  exact hlists

theorem columns_of_validate (h : c.validate = .ok ()) : c.mapping.columns.isEmpty = false := by
  have hmapping : problemIf c.mapping.entries.isEmpty .noMapping = [] := by
    have hnone := problems_of_validate h
    simp only [problems, List.append_eq_nil_iff] at hnone
    exact hnone.1.1.1.1.2
  cases hempty : c.mapping.entries.isEmpty with
  | true =>
    rw [hempty] at hmapping
    cases hmapping
  | false => rwa [Mapping.columns, List.isEmpty_map]

/-- A family with a client of its own has a load command, unless an option is not one byte where it
has to be. -/
theorem loadCommand_cases (hv : c.validate = .ok ()) (hc : c.connection = some connection)
    (hfamily : connection.family ≠ .hypersonic) (hown : c.loader.command = none) (path : String) :
    (∃ command, c.loadCommand path = .ok command) ∨ connection.family = .postgres ∧
      ∃ f, c.loadCommand path = .error f ∧ f.code = "COPY_OPTION" := by
  rw [loadCommand_of_connection hc hown]
  exact LoadOrder.command_cases (o := c.loadOrder connection path) (columns_of_validate hv) hfamily

/-- A record of the file has a field for each binding. -/
theorem file_record {a : Agreement} {bs : List Binding} (c : Config) (o : Output)
    (h : a.Binds origin bs) (hon : ∀ b ∈ bs, b.On input) (ha : a.projection.Aligned input)
    (hrow : input.check row = .ok ()) :
    (c.fileEncoder o a.projection).record row = .ok (c.fileRecord o (bs.map fun b =>
      c.fileField o b.entry.hint b.source.precision (b.cell row))) := by
  unfold fileEncoder fileRecord fileField
  cases o.format with
  | text => exact h.record_text hon hrow _
  | cube => exact h.record_cube ha hrow

end Config

theorem Plan.columnStatements_eq {connection : Connection} {statements : List String}
    (hc : plan.config.connection = some connection) (ha : plan.negotiate input = .ok a)
    (h : plan.columnStatements input = .ok statements) :
    statements = a.output.fields.map (connection.family.addColumn
      (plan.config.tableName connection.family) plan.config.target.keys) := by
  unfold Plan.columnStatements at h
  simp only [hc, ha] at h
  have hadd : connection.family.addColumns (plan.config.tableName connection.family)
      plan.config.target.keys a.output.fields = .ok statements := h
  exact Family.statements_of_addColumns hadd

/-- All consumers of a mapping have its columns in one order. There is a place for each entry: its
name is read as the entry's column, its fields are made by the entry's hint of the cell that the row
has for the field of the input that the entry asks for, and its descriptor and statement are of that
field under that name. The column list of the load command, the records of loader and file, the
header of a cube and the statements are lists of these places. -/
theorem Plan.columns_correspond {connection : Connection} (o : Output)
    (hv : plan.config.validate = .ok ()) (hc : plan.config.connection = some connection)
    (hfamily : connection.family ≠ .hypersonic) (ha : plan.negotiate input = .ok a)
    (hrow : input.check row = .ok ()) : ∃ places : List Place,
    places.length = plan.config.mapping.entries.length ∧
    (∀ (i : Nat) (e : MappingEntry), plan.config.mapping.entries[i]? = some e → ∃ f cell,
      e.FedBy input row f cell ∧
      places[i]? = some (plan.config.place o connection.family e f cell)) ∧
    (∀ (foreign : Char → Bool) (i : Nat) (e : MappingEntry) (p : Place),
      plan.config.mapping.entries[i]? = some e → places[i]? = some p →
        connection.family.readName foreign p.name.toList = some (e.column.toList, [])) ∧
    (plan.config.loader.command = none → ∀ path,
      (∃ command arg, plan.config.loadCommand path = .ok command ∧
        command.args.getLast? = some arg ∧ connection.family.ListsColumns
          (plan.config.tableName connection.family) (places.map (·.name)) arg) ∨
      connection.family = .postgres ∧
        ∃ f, plan.config.loadCommand path = .error f ∧ f.code = "COPY_OPTION") ∧
    (Encoder.ofFormat plan.config.loaderFormat a.projection).record row =
      .ok (plan.config.loaderFormat.join (places.map (·.loaded))) ∧
    (plan.config.fileEncoder o a.projection).record row =
      .ok (plan.config.fileRecord o (places.map (·.filed))) ∧
    (o.format = .cube → (plan.config.fileEncoder o a.projection).header =
      Cube.magic ++ Bytes.bigEndian 2 Cube.version ++ Bytes.bigEndian 4 places.length ++
        (places.map (·.descriptor)).flatten) ∧
    ∀ statements, plan.columnStatements input = .ok statements →
      statements = places.map (·.statement) := by
  obtain ⟨bs, hbound, -, hbinds⟩ := Plan.bound_of_negotiate ha
  obtain ⟨-, haligned⟩ := Plan.aligned_of_negotiate ha
  let placed (b : Binding) := plan.config.place o connection.family b.entry b.source (b.cell row)
  refine ⟨bs.map placed, ?_, ?_, ?_, ?_, ?_, ?_, ?_, ?_⟩
  · rw [hbound.entries, List.length_map, List.length_map]
  · intro i e he
    obtain ⟨b, hb, rfl, hon⟩ := hbound.at he
    refine ⟨b.source, b.cell row, hon.fedBy hrow, ?_⟩
    rw [List.getElem?_map, hb]
    rfl
  · intro foreign i e p he hp
    obtain ⟨b, hb, rfl, -⟩ := hbound.at he
    rw [List.getElem?_map, hb] at hp
    cases hp
    exact connection.family.readName_quoted_end foreign b.entry.column
  · intro hown path
    rcases Config.loadCommand_cases hv hc hfamily hown path with ⟨command, hcommand⟩ | hoption
    · obtain ⟨arg, harg, hlists⟩ := Config.loadCommand_lists hc hown hcommand
      rw [hbound.entries, List.map_map] at hlists
      rw [List.map_map]
      exact .inl ⟨command, arg, hcommand, harg, hlists⟩
    · exact .inr hoption
  · rw [List.map_map]
    exact hbinds.record_text hbound.on hrow _
  · rw [List.map_map]
    exact plan.config.file_record o hbinds hbound.on haligned hrow
  · intro hcube
    rw [Config.fileEncoder, hcube, List.map_map, List.length_map]
    exact hbinds.header_cube
  · intro statements hstatements
    rw [Plan.columnStatements_eq hc ha hstatements, hbinds.fields, List.map_map, List.map_map]
    rfl

/-- The step that takes two of three fields, with a table to load besides. -/
def spreadLoad : Plan :=
  ⟨{ spreadPlan.config with
     connection := some { family := .mysql, database := "shop" }
     target := { table := "labels" } }⟩

theorem columns_correspond_spread : ∃ places : List Place, places.length = 3 ∧
    (∃ f cell, MappingEntry.FedBy ⟨"label", "second", .escaped⟩ spreadInput
        [.integer 7, .null, .text "x"] f cell ∧
      places[2]? =
        some (spreadLoad.config.place default .mysql ⟨"label", "second", .escaped⟩ f cell)) ∧
    (∀ p, places[2]? = some p →
      Family.mysql.readName (fun _ => false) p.name.toList = some ("second".toList, [])) ∧
    (∃ command arg, spreadLoad.config.loadCommand "/tmp/pipe" = .ok command ∧
      command.args.getLast? = some arg ∧ Family.mysql.ListsColumns
        (spreadLoad.config.tableName .mysql) (places.map (·.name)) arg) ∧
    (Encoder.ofFormat spreadLoad.config.loaderFormat spreadAgreement.projection).record
        [.integer 7, .null, .text "x"] =
      .ok (spreadLoad.config.loaderFormat.join (places.map (·.loaded))) ∧
    ∃ statements, spreadLoad.columnStatements spreadInput = .ok statements ∧
      statements = places.map (·.statement) := by
  have hvalid : spreadLoad.config.validate = .ok () := rfl
  have hrow : spreadInput.check [.integer 7, .null, .text "x"] = .ok () := rfl
  have hagreed : spreadLoad.negotiate spreadInput = .ok spreadAgreement := rfl
  obtain ⟨places, hlength, hplaces, hnames, hcommand, hrecord, -, -, hstatements⟩ :=
    Plan.columns_correspond default hvalid rfl (by decide) hagreed hrow
  refine ⟨places, hlength, hplaces 2 _ rfl, fun p => hnames _ 2 _ p rfl, ?_, hrecord, _, rfl,
    hstatements _ rfl⟩
  rcases hcommand rfl "/tmp/pipe" with hcommand | ⟨hpostgres, -⟩
  · exact hcommand
  · cases hpostgres

end Step
end BulkLoad
