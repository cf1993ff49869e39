import BulkLoad.Proofs.Step.Positions

/-!
The columns that a step's statements make, and the columns that its load fills. Both come from one
mapping, but the load has them in quotes and the statements do not. So a server that reads the load
finds every column under its name, and one that reads the statements finds those that are plain
words to it.
-/

namespace BulkLoad.Step

variable {plan : Plan} {input : Schema} {connection : Connection} {statements : List String}
  {path : String} {command : Command}

/-- The names of the table that a step fills. -/
def Target.names (t : Target) : List (List Char) := Family.tableNames t.schema t.table

/-- What the step means to do to the column of a field; the link stands before its type. -/
def Config.alteration (c : Config) (f : Family) (link : String) (field : Field) : Alteration :=
  ⟨c.target.names, field.name.toList, (link ++ f.typeWithKeys c.target.keys field).toList⟩

/-- Each of these is read as one column, by its name and without anything behind it. -/
theorem readName_listed (f : Family) (foreign : Char → Bool) (columns : List String) :
    (columns.map f.quoted).map (fun listed => f.readName foreign listed.toList) =
      columns.map fun column => some (column.toList, []) := by
  rw [List.map_map]
  exact List.map_congr_left fun column _ => f.readName_quoted_end foreign column

/-- Whatever the columns of a step are called, its load command lists each of them as one name that
is read as the column's. The statement that adds the column, and one that would change it, is read
as that exactly if the name is a plain word. -/
theorem Plan.created_iff_plain (foreign : Char → Bool)
    (hc : plan.config.connection = some connection) (hown : plan.config.loader.command = none)
    (hcommand : plan.config.loadCommand path = .ok command)
    (hstatements : plan.columnStatements input = .ok statements) :
    (∃ arg listed, command.args.getLast? = some arg ∧
      connection.family.ListsColumns (plan.config.tableName connection.family) listed arg ∧
      listed.map (fun name => connection.family.readName foreign name.toList) =
        plan.config.mapping.columns.map fun column => some (column.toList, [])) ∧
    ∃ a, plan.negotiate input = .ok a ∧
      a.output.fields.map (·.name) = plan.config.mapping.columns ∧
      List.Forall₂ (fun field statement => connection.family.readAlteration foreign " ADD "
          statement = some (plan.config.alteration connection.family " " field) ↔
        connection.family.IsPlain foreign field.name) a.output.fields statements ∧
      ∀ field ∈ a.output.fields,
        (connection.family.readAlteration foreign connection.family.changeVerb
          (connection.family.modifyColumn (plan.config.tableName connection.family)
            plan.config.target.keys field) =
          some (plan.config.alteration connection.family connection.family.changeLink field) ↔
        connection.family.IsPlain foreign field.name) := by
  constructor
  · obtain ⟨arg, harg, hlists⟩ := Config.loadCommand_lists hc hown hcommand
    have hlisted : (plan.config.mapping.entries.map fun e => connection.family.quoted e.column) =
        plan.config.mapping.columns.map connection.family.quoted := by
      rw [Mapping.columns, List.map_map]
      rfl
    rw [hlisted] at hlists
    exact ⟨arg, _, harg, hlists, readName_listed connection.family foreign _⟩
  · cases ha : plan.negotiate input with
    | error fault =>
      rw [Plan.columnStatements, hc, ha] at hstatements
      cases hstatements
    | ok a =>
      obtain ⟨bs, hbound, -, hbinds⟩ := Plan.bound_of_negotiate ha
      refine ⟨a, rfl, ?_, ?_, ?_⟩
      · rw [hbinds.fields, Mapping.columns, hbound.entries, List.map_map, List.map_map]
        rfl
      · rw [Plan.columnStatements_eq hc ha hstatements, List.forall₂_map_right_iff,
          List.forall₂_same]
        exact fun field _ => Family.readAlteration_addColumn
      · exact fun field _ => Family.readAlteration_modifyColumn

/-- A step with a column that is a plain word, one that is a word with a capital, and one that is
more than a word. -/
def orderPlan : Plan :=
  ⟨{ version := "1.0", name := "orders"
     mapping := ⟨[⟨"id", "id", .plain⟩, ⟨"label", "Label", .plain⟩,
       ⟨"count", "n INT; DROP TABLE t; --", .plain⟩]⟩
     connection := some { family := .postgres, database := "shop" }
     target := { table := "orders" } }⟩

def orderInput : Schema :=
  ⟨[{ name := "id", kind := .integer }, { name := "label", kind := .text },
    { name := "count", kind := .integer }], by decide⟩

theorem created_iff_plain_orders : ∃ command arg listed a,
    orderPlan.config.loadCommand "/tmp/pipe" = .ok command ∧
    command.args.getLast? = some arg ∧
    Family.postgres.ListsColumns (orderPlan.config.tableName .postgres) listed arg ∧
    listed.map (fun name => Family.postgres.readName (fun _ => false) name.toList) =
      orderPlan.config.mapping.columns.map (fun column => some (column.toList, [])) ∧
    orderPlan.negotiate orderInput = .ok a ∧
    a.output.fields.map (·.name) = ["id", "Label", "n INT; DROP TABLE t; --"] := by
  have hcommand : orderPlan.config.loadCommand "/tmp/pipe" = .ok _ := rfl
  have hstatements : orderPlan.columnStatements orderInput = .ok _ := rfl
  obtain ⟨⟨arg, listed, harg, hlists, hread⟩, a, ha, hnames, -, -⟩ :=
    Plan.created_iff_plain (fun _ => false) rfl rfl hcommand hstatements
  exact ⟨_, arg, listed, a, rfl, harg, hlists, hread, ha, hnames⟩

/-- The load of that step fills the columns of its mapping. Of its statements only the first is read
as it is meant: the second makes a column that the load does not find, and the third ends where the
name has a semicolon. -/
theorem created_not_loaded :
    orderPlan.config.validate = .ok () ∧
    (∃ command, orderPlan.config.loadCommand "/tmp/pipe" = .ok command) ∧
    ∃ statements, orderPlan.columnStatements orderInput = .ok statements ∧
      ∀ foreign, statements.map (Family.postgres.readAlteration foreign " ADD ") =
        [some ⟨["orders".toList], "id".toList, " DOUBLE PRECISION".toList⟩,
          some ⟨["orders".toList], "label".toList, " TEXT".toList⟩,
          some ⟨["orders".toList], "n".toList,
            " INT; DROP TABLE t; -- DOUBLE PRECISION".toList⟩] :=
  ⟨rfl, ⟨_, rfl⟩, _, rfl, fun _ => rfl⟩

end BulkLoad.Step
