import BulkLoad.Dialect.ColumnType
import BulkLoad.Dialect.Loader
import BulkLoad.Proofs.Traversal

/-!
What the statements of a family say of columns: those that a load command fills are listed in their
order, and each that is to be added has a statement. A load command that has columns fails for want
of a client, or for an option that the copy statement does not take.
-/

namespace BulkLoad

/-- The argument of a load command is a statement that fills a table, with these names as its
column list. -/
def Family.ListsColumns (f : Family) (table : String) (names : List String) (arg : String) : Prop :=
  match f with
  | .mysql => ∃ front clauses : String, arg =
      "--execute=" ++ ("LOAD DATA LOCAL INFILE " ++ front ++ "INTO TABLE " ++ table ++
        " FIELDS TERMINATED BY " ++ clauses ++ " LINES TERMINATED BY '\\n' (" ++
        ", ".intercalate names ++ ")")
  | .postgres => ∃ clauses : String, arg =
      "--command=" ++ ("\\copy " ++ table ++ " (" ++ ", ".intercalate names ++ ") FROM " ++ clauses)
  | .hypersonic => False

namespace LoadOrder

variable {o : LoadOrder} {command : Command}

theorem mysqlStatement_lists (o : LoadOrder) :
    Family.mysql.ListsColumns (Family.mysql.qualified o.schema o.table)
      (o.columns.map Family.mysql.quoted) ("--execute=" ++ o.mysqlStatement) := by
  unfold Family.ListsColumns mysqlStatement Family.columnList
  refine ⟨mysqlLiteral o.path ++ " " ++
      (if o.replace then "REPLACE " else if o.ignoreErrors then "IGNORE " else ""),
    mysqlLiteral o.delimiter ++ clause " OPTIONALLY ENCLOSED BY " o.enclosure mysqlLiteral ++
      clause " ESCAPED BY " o.escape mysqlLiteral, ?_⟩
  simp only [String.append_assoc]

theorem postgresStatement_lists (o : LoadOrder) :
    Family.postgres.ListsColumns (Family.postgres.qualified o.schema o.table)
      (o.columns.map Family.postgres.quoted) ("--command=" ++ o.postgresStatement) := by
  unfold Family.ListsColumns postgresStatement Family.columnList
  refine ⟨postgresLiteral o.path ++ " WITH (FORMAT csv, DELIMITER " ++
    postgresLiteral o.delimiter ++ clause ", QUOTE " o.enclosure postgresLiteral ++
    clause ", ESCAPE " o.escape postgresLiteral ++ ")", ?_⟩
  simp only [String.append_assoc]

theorem mysqlCommand_args (h : o.mysqlCommand = .ok command) :
    command.args.getLast? = some ("--execute=" ++ o.mysqlStatement) := by
  unfold mysqlCommand at h
  split at h
  · cases h
  · cases h
    exact List.getLast?_concat

theorem postgresCommand_args (h : o.postgresCommand = .ok command) :
    command.args.getLast? = some ("--command=" ++ o.postgresStatement) := by
  unfold postgresCommand at h
  by_cases hmode : (o.replace || o.ignoreErrors) = true
  · rw [if_pos hmode] at h
    cases h
  rw [if_neg hmode] at h
  by_cases hempty : o.columns.isEmpty = true
  · rw [if_pos hempty] at h
    cases h
  rw [if_neg hempty] at h
  obtain ⟨-, -, h⟩ := bind_eq_ok_iff.1 h
  obtain ⟨-, -, h⟩ := bind_eq_ok_iff.1 h
  obtain ⟨-, -, h⟩ := bind_eq_ok_iff.1 h
  cases h
  exact List.getLast?_concat

theorem columns_of_postgresCommand (h : o.postgresCommand = .ok command) : o.columns ≠ [] := by
  intro hcolumns
  unfold postgresCommand at h
  by_cases hmode : (o.replace || o.ignoreErrors) = true
  · rw [if_pos hmode] at h
    cases h
  · rw [if_neg hmode, if_pos (by rw [hcolumns, List.isEmpty_nil])] at h
    cases h

/-- The last argument of a load command has the columns of the order. -/
theorem command_lists (h : o.command = .ok command) : ∃ arg, command.args.getLast? = some arg ∧
    o.connection.family.ListsColumns (o.connection.family.qualified o.schema o.table)
      (o.columns.map o.connection.family.quoted) arg := by
  unfold LoadOrder.command at h
  cases hf : o.connection.family with
  | mysql =>
    rw [hf] at h
    exact ⟨_, mysqlCommand_args h, o.mysqlStatement_lists⟩
  | postgres =>
    rw [hf] at h
    exact ⟨_, postgresCommand_args h, o.postgresStatement_lists⟩
  | hypersonic =>
    rw [hf] at h
    cases h

theorem mysqlCommand_ok (h : o.columns.isEmpty = false) :
    ∃ command, o.mysqlCommand = .ok command := by
  unfold mysqlCommand
  rw [h]
  exact ⟨_, rfl⟩

theorem singleByte_cases (option value : String) : singleByte option value = .ok () ∨
    ∃ f, singleByte option value = .error f ∧ f.code = "COPY_OPTION" := by
  unfold singleByte
  split
  · exact .inl rfl
  · exact .inr ⟨_, rfl, rfl⟩

theorem singleByteIfAny_cases (option : String) (value : Option String) :
    singleByteIfAny option value = .ok () ∨
    ∃ f, singleByteIfAny option value = .error f ∧ f.code = "COPY_OPTION" := by
  cases value with
  | none => exact .inl rfl
  | some v => exact singleByte_cases option v

theorem postgresCommand_cases (h : o.columns.isEmpty = false) :
    (∃ command, o.postgresCommand = .ok command) ∨
    ∃ f, o.postgresCommand = .error f ∧ f.code = "COPY_OPTION" := by
  unfold postgresCommand
  by_cases hmode : (o.replace || o.ignoreErrors) = true
  · rw [if_pos hmode]
    exact .inr ⟨_, rfl, rfl⟩
  rw [if_neg hmode, if_neg (by simp [h])]
  rcases singleByte_cases "delimiter" o.delimiter with hd | ⟨f, hd, hcode⟩
  · rcases singleByteIfAny_cases "enclosure" o.enclosure with he | ⟨f, he, hcode⟩
    · rcases singleByteIfAny_cases "escape" o.escape with hs | ⟨f, hs, hcode⟩
      · rw [hd, he, hs]
        exact .inl ⟨_, rfl⟩
      · rw [hd, he, hs]
        exact .inr ⟨f, rfl, hcode⟩
    · rw [hd, he]
      exact .inr ⟨f, rfl, hcode⟩
  · rw [hd]
    exact .inr ⟨f, rfl, hcode⟩

theorem singleByte_eq_ok_iff {option value : String} :
    singleByte option value = .ok () ↔ Bytes.lengthOfText value = 1 := by
  unfold singleByte
  split <;> simp_all

theorem singleByteIfAny_eq_ok_iff {option : String} {value : Option String} :
    singleByteIfAny option value = .ok () ↔ ∀ v, value = some v → Bytes.lengthOfText v = 1 := by
  cases value with
  | none => simp [singleByteIfAny]
  | some v => simp [singleByteIfAny, singleByte_eq_ok_iff]

/-- The copy statement takes its options: each of them is a single byte. -/
structure Copyable (o : LoadOrder) : Prop where
  delimiter : Bytes.lengthOfText o.delimiter = 1
  enclosure : ∀ v, o.enclosure = some v → Bytes.lengthOfText v = 1
  escape : ∀ v, o.escape = some v → Bytes.lengthOfText v = 1

/-- An order that neither replaces nor ignores has a copy command exactly if its options fit. -/
theorem postgresCommand_ok_iff (hcolumns : o.columns.isEmpty = false)
    (hmode : (o.replace || o.ignoreErrors) = false) :
    (∃ command, o.postgresCommand = .ok command) ↔ o.Copyable := by
  unfold postgresCommand
  rw [if_neg (by simp [hmode]), if_neg (by simp [hcolumns])]
  constructor
  · rintro ⟨command, h⟩
    obtain ⟨⟨⟩, hdelimiter, h⟩ := bind_eq_ok_iff.1 h
    obtain ⟨⟨⟩, henclosure, h⟩ := bind_eq_ok_iff.1 h
    obtain ⟨⟨⟩, hescape, -⟩ := bind_eq_ok_iff.1 h
    exact ⟨singleByte_eq_ok_iff.1 hdelimiter, singleByteIfAny_eq_ok_iff.1 henclosure,
      singleByteIfAny_eq_ok_iff.1 hescape⟩
  · intro h
    rw [singleByte_eq_ok_iff.2 h.delimiter, singleByteIfAny_eq_ok_iff.2 h.enclosure,
      singleByteIfAny_eq_ok_iff.2 h.escape]
    exact ⟨_, rfl⟩

/-- A family with a client of its own has a command for columns, unless an option of the copy
statement does not fit. -/
theorem command_cases (h : o.columns.isEmpty = false) (hf : o.connection.family ≠ .hypersonic) :
    (∃ command, o.command = .ok command) ∨ o.connection.family = .postgres ∧
      ∃ f, o.command = .error f ∧ f.code = "COPY_OPTION" := by
  unfold LoadOrder.command
  cases hfamily : o.connection.family with
  | mysql => exact .inl (mysqlCommand_ok h)
  | postgres =>
    rcases postgresCommand_cases h with hok | hfault
    · exact .inl hok
    · exact .inr ⟨rfl, hfault⟩
  | hypersonic => exact absurd hfamily hf

end LoadOrder

theorem Family.statements_of_addColumns {f : Family} {table : String} {keys : Keys}
    {fields : List Field} {statements : List String}
    (h : f.addColumns table keys fields = .ok statements) :
    statements = fields.map (f.addColumn table keys) := by
  unfold addColumns at h
  dsimp only at h
  split at h
  · cases h
    rfl
  · cases h

end BulkLoad
