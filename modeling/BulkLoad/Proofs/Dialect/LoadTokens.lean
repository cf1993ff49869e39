import BulkLoad.Proofs.Dialect.CopyTokens
import BulkLoad.Proofs.Dialect.Statements
import BulkLoad.Proofs.Text

/-!
A load statement has the words that it always has, and between them one name or one literal for each
value of its order. The characters of a value do not matter: none of them ends the quotes that the
value is in, so that none of them is taken for a part of the statement.
-/

namespace BulkLoad
namespace Sql

/-- What is to be done with a row that has the key of another. -/
def modeTokens (o : LoadOrder) : List Token :=
  if o.replace then words ["REPLACE"] else if o.ignoreErrors then words ["IGNORE"] else []

/-- The tokens of a load statement for MySQL, whose schema goes by a name or is not named. -/
def loadTokens (schemaName : Option String) (o : LoadOrder) : List Token :=
  words ["LOAD", "DATA", "LOCAL", "INFILE"] ++ .literal o.path.toList :: (modeTokens o ++
    (words ["INTO", "TABLE"] ++ (tableTokens schemaName o.table ++
    (words ["FIELDS", "TERMINATED", "BY"] ++ .literal o.delimiter.toList ::
    (clauseTokens (words ["OPTIONALLY", "ENCLOSED", "BY"]) o.enclosure ++
    (clauseTokens (words ["ESCAPED", "BY"]) o.escape ++
    (words ["LINES", "TERMINATED", "BY"] ++ .literal ['\n'] :: .mark '(' ::
    (listTokens o.columns ++ [.mark ')']))))))))

theorem leads_mode (o : LoadOrder) :
    lexer.Leads .between
      (if o.replace then "REPLACE " else if o.ignoreErrors then "IGNORE " else "") (modeTokens o)
      .between := by
  unfold modeTokens
  split
  · exact fun _ => rfl
  split
  · exact fun _ => rfl
  · exact fun _ => rfl

theorem leads_table (schema : Option String) (table : String) :
    lexer.Leads .between (Family.mysql.qualified schema table ++ " FIELDS TERMINATED BY ")
      (tableTokens (Family.schemaName schema) table ++ words ["FIELDS", "TERMINATED", "BY"])
      .between := by
  have hpoint : ∀ cs, lexer.Leads (.nameQuote cs) "." [.name cs, .mark '.'] .between :=
    fun _ _ => rfl
  have hfields : ∀ cs, lexer.Leads (.nameQuote cs) " FIELDS TERMINATED BY "
      (.name cs :: words ["FIELDS", "TERMINATED", "BY"]) .between := fun _ _ => rfl
  exact Lexer.leads_table (fun n => (leads_name n).append (hpoint _))
    (fun n => (leads_name n).append (hfields _)) schema table

theorem leads_columns (columns : List String) :
    lexer.Leads .between (Family.mysql.columnList columns ++ ")")
      (listTokens columns ++ [.mark ')']) .between := by
  have hcomma : ∀ cs, lexer.Leads (.nameQuote cs) ", " [.name cs, .mark ','] .between :=
    fun _ _ => rfl
  have hclose : ∀ cs, lexer.Leads (.nameQuote cs) ")" [.name cs, .mark ')'] .between :=
    fun _ _ => rfl
  cases columns with
  | nil => exact fun _ => rfl
  | cons n rest =>
    exact Lexer.leads_columns (fun n => (leads_name n).append (hcomma _))
      (fun n => (leads_name n).append (hclose _)) (List.cons_ne_nil n rest)

/-- The load statement of an order has the tokens that it should have, whatever characters are in
its names, its path and its marks. -/
theorem tokens_mysqlStatement (o : LoadOrder) :
    tokens o.mysqlStatement = loadTokens (Family.schemaName o.schema) o := by
  have hload : lexer.Leads .between "LOAD DATA LOCAL INFILE "
      (words ["LOAD", "DATA", "LOCAL", "INFILE"]) .between := fun _ => rfl
  have hpath : lexer.Leads (.literalQuote o.path.toList) " " [.literal o.path.toList] .between :=
    fun _ => rfl
  have hinto : lexer.Leads .between "INTO TABLE " (words ["INTO", "TABLE"]) .between :=
    fun _ => rfl
  have hlines : ∀ d, lexer.Leads (.literalQuote d) " LINES TERMINATED BY '\\n' (" (.literal d ::
      (words ["LINES", "TERMINATED", "BY"] ++ [.literal ['\n'], .mark '('])) .between :=
    fun _ _ => rfl
  have hcolumns : ∀ d, lexer.Leads (.literalQuote d)
      (" LINES TERMINATED BY '\\n' (" ++ (Family.mysql.columnList o.columns ++ ")"))
      (.literal d :: (words ["LINES", "TERMINATED", "BY"] ++ .literal ['\n'] :: .mark '(' ::
        (listTokens o.columns ++ [.mark ')']))) .between :=
    fun d => (hlines d).append (leads_columns o.columns)
  have hescape := Lexer.leads_clause " ESCAPED BY " (words ["ESCAPED", "BY"]) leads_literal
    (fun _ _ => rfl) hcolumns o.escape
  have henclosure := Lexer.leads_clause " OPTIONALLY ENCLOSED BY "
    (words ["OPTIONALLY", "ENCLOSED", "BY"]) leads_literal (fun _ _ => rfl) hescape o.enclosure
  have hall := hload.append ((leads_literal o.path).append (hpath.append ((leads_mode o).append
    (hinto.append ((leads_table o.schema o.table).append ((leads_literal o.delimiter).append
      (henclosure o.delimiter.toList)))))))
  have htokens : tokens _ = _ := hall.tokens_eq
  unfold LoadOrder.mysqlStatement loadTokens
  simp only [String.append_assoc, List.append_assoc, List.cons_append, List.nil_append,
    lexer, Lexing.finish, List.append_nil] at htokens ⊢
  exact htokens

end Sql

namespace LoadOrder

variable {o : LoadOrder} {command : Command}

/-- The white space of Unicode. -/
def spaces : List Nat :=
  [0x9, 0xA, 0xB, 0xC, 0xD, 0x20, 0x85, 0xA0, 0x1680, 0x2000, 0x2001, 0x2002, 0x2003, 0x2004,
    0x2005, 0x2006, 0x2007, 0x2008, 0x2009, 0x200A, 0x2028, 0x2029, 0x202F, 0x205F, 0x3000]

def IsSpace (c : Char) : Prop := c.toNat ∈ spaces

/-- The name by which a schema goes that may be configured: what is configured, from the first
character that is no white space to the last. -/
inductive Names : (configured name : Option String) → Prop
  | absent : Names none none
  | blank {s : String} (spaces : ∀ c ∈ s.toList, IsSpace c) : Names (some s) none
  | trimmed {s name : String} {front back : List Char} {first last : Char}
      (cut : s.toList = front ++ (name.toList ++ back)) (before : ∀ c ∈ front, IsSpace c)
      (behind : ∀ c ∈ back, IsSpace c) (head : name.toList.head? = some first)
      (begins : ¬IsSpace first) (tail : name.toList.getLast? = some last) (ends : ¬IsSpace last) :
      Names (some s) (some name)

theorem isBlank_iff {c : Char} : Text.isBlank c = true ↔ IsSpace c := by
  simp only [Text.isBlank, IsSpace, spaces, List.mem_cons, List.not_mem_nil, Bool.or_eq_true,
    Bool.and_eq_true, decide_eq_true_eq, beq_iff_eq, or_false]
  omega

theorem isBlank_eq_false_iff {c : Char} : Text.isBlank c = false ↔ ¬IsSpace c := by
  rw [← isBlank_iff, Bool.not_eq_true]

theorem names_schemaName (schema : Option String) : Names schema (Family.schemaName schema) := by
  cases schema with
  | none => exact .absent
  | some s =>
    have hname : Family.schemaName (some s) =
        if (Text.trim s).isEmpty then none else some (Text.trim s) := by
      simp [Family.schemaName, Option.filter]
    obtain ⟨front, back, htrim⟩ := Text.exists_trimmed s
    have hcut := htrim.cut
    have hbefore : ∀ c ∈ front, IsSpace c := fun c hc => isBlank_iff.1 (htrim.before c hc)
    have hbehind : ∀ c ∈ back, IsSpace c := fun c hc => isBlank_iff.1 (htrim.behind c hc)
    cases hchars : (Text.trim s).toList with
    | nil =>
      have hempty : (Text.trim s).isEmpty = true := by
        rw [String.isEmpty_iff, ← String.toList_eq_nil_iff, hchars]
      rw [hname, if_pos hempty]
      refine .blank fun c hc => ?_
      rw [hcut, hchars, List.nil_append, List.mem_append] at hc
      exact hc.elim (hbefore c) (hbehind c)
    | cons first rest =>
      have hempty : ¬(Text.trim s).isEmpty = true := by
        rw [String.isEmpty_iff, ← String.toList_eq_nil_iff, hchars]
        exact List.cons_ne_nil first rest
      have hfirst : (Text.trim s).toList.head? = some first := by
        rw [hchars]
        rfl
      obtain ⟨last, hlast⟩ : ∃ last, (Text.trim s).toList.getLast? = some last := by
        rw [hchars]
        exact ⟨_, List.getLast?_eq_some_getLast (List.cons_ne_nil first rest)⟩
      rw [hname, if_neg hempty]
      exact .trimmed hcut hbefore hbehind hfirst (isBlank_eq_false_iff.1 (htrim.begins _ hfirst))
        hlast (isBlank_eq_false_iff.1 (htrim.ends _ hlast))

/-- The argument hands a statement to the client which its server reads as that of the order: each
value is in its place as one token, and nothing else is there. -/
def IsStatedBy (o : LoadOrder) (arg : String) : Prop :=
  ∃ schemaName, Names o.schema schemaName ∧
    match o.connection.family with
    | .mysql => ∃ sql, arg = "--execute=" ++ sql ∧ Sql.tokens sql = Sql.loadTokens schemaName o
    | .postgres => ∃ sql, arg = "--command=" ++ sql ∧
        Sql.Copy.tokens sql = Sql.Copy.statementTokens schemaName o
    | .hypersonic => False

theorem command_states (h : o.command = .ok command) :
    ∃ arg, command.args.getLast? = some arg ∧ o.IsStatedBy arg := by
  have hnames := names_schemaName o.schema
  unfold LoadOrder.command at h
  unfold IsStatedBy
  cases hfamily : o.connection.family with
  | mysql =>
    rw [hfamily] at h
    exact ⟨_, mysqlCommand_args h, _, hnames, _, rfl, Sql.tokens_mysqlStatement o⟩
  | postgres =>
    rw [hfamily] at h
    -- Without columns there is no command, and the list of them is not read as empty.
    have hcolumns := columns_of_postgresCommand h
    exact ⟨_, postgresCommand_args h, _, hnames, _, rfl,
      Sql.Copy.tokens_postgresStatement hcolumns⟩
  | hypersonic =>
    rw [hfamily] at h
    cases h

/-- An order whose values are full of quotes and of what would end a statement. -/
def awkward (f : Family) : LoadOrder where
  connection := { family := f }
  schema := some " a\"b\x60; \t"
  table := "t'); DROP TABLE t; -- "
  columns := ["\x60, id", "\"", "\\", ""]
  path := "/tmp/it's\n\\"
  delimiter := "'"
  enclosure := some "\\"
  escape := none
  replace := f == .mysql
  ignoreErrors := f == .mysql

theorem command_states_awkward :
    (∃ command arg, (awkward .mysql).command = .ok command ∧ command.args.getLast? = some arg ∧
      (awkward .mysql).IsStatedBy arg) ∧
    ∃ command arg, (awkward .postgres).command = .ok command ∧ command.args.getLast? = some arg ∧
      (awkward .postgres).IsStatedBy arg := by
  constructor
  · obtain ⟨arg, hlast, hstated⟩ := command_states (o := awkward .mysql) rfl
    exact ⟨_, arg, rfl, hlast, hstated⟩
  · obtain ⟨arg, hlast, hstated⟩ := command_states (o := awkward .postgres) rfl
    exact ⟨_, arg, rfl, hlast, hstated⟩

end LoadOrder
end BulkLoad
