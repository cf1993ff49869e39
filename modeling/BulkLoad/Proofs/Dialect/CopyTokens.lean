import BulkLoad.Proofs.Dialect.Tokens

/-!
Copy statements as PostgreSQL takes them apart. Names are in double quotes, and a string has escapes
if it begins with the letter E. What the loader has put in quotes is there again as it was, and
nothing of it ends the quotes.
-/

namespace BulkLoad.Sql.Copy

/-- The letters that stand for a control character behind a backslash. Those that begin the number
of a character are left out: the loader writes none. -/
def controls : List (Char × Char) :=
  [('b', Char.ofNat 8), ('f', Char.ofNat 12), ('n', '\n'), ('r', '\r'), ('t', '\t')]

/-- What a character stands for behind a backslash. -/
def meaning (c : Char) : Char := (controls.lookup c).getD c

def inWord (c : Char) : Bool := c.isAlphanum || c == '_'

/-- Where in a statement a reader is, with what it has seen of a token. -/
inductive Lexing where
  | between
  | word (cs : List Char)
  /-- In a string without escapes. -/
  | plain (cs : List Char)
  | plainQuote (cs : List Char)
  /-- In a string with escapes. -/
  | literal (cs : List Char)
  | literalEscape (cs : List Char)
  /-- Behind a quote, which ends the string unless a second one follows. -/
  | literalQuote (cs : List Char)
  | name (cs : List Char)
  | nameQuote (cs : List Char)

namespace Lexing

/-- Begins a token. -/
def start (c : Char) : List Token × Lexing :=
  if c.isWhitespace then ([], between)
  else if c = '\'' then ([], plain [])
  else if c = '"' then ([], name [])
  else if inWord c then ([], word [c])
  else ([.mark c], between)

/-- Ends a token, and begins another. -/
def next (t : Token) (c : Char) : List Token × Lexing := (t :: (start c).1, (start c).2)

def step (s : Lexing) (c : Char) : List Token × Lexing :=
  match s with
  | between => start c
  | word cs =>
    if c = '\'' ∧ cs ∈ [['E'], ['e']] then ([], literal [])
    else if inWord c then ([], word (cs ++ [c])) else next (.word cs) c
  | plain cs => if c = '\'' then ([], plainQuote cs) else ([], plain (cs ++ [c]))
  | plainQuote cs => if c = '\'' then ([], plain (cs ++ [c])) else next (.literal cs) c
  | literal cs =>
    if c = '\\' then ([], literalEscape cs)
    else if c = '\'' then ([], literalQuote cs) else ([], literal (cs ++ [c]))
  | literalEscape cs => ([], literal (cs ++ [meaning c]))
  | literalQuote cs => if c = '\'' then ([], literal (cs ++ [c])) else next (.literal cs) c
  | name cs => if c = '"' then ([], nameQuote cs) else ([], name (cs ++ [c]))
  | nameQuote cs =>
    if c = '"' then ([], name (cs ++ [c])) else next (.name cs) c

def finish : Lexing → List Token
  | between => []
  | word cs => [.word cs]
  | plainQuote cs | literalQuote cs => [.literal cs]
  | nameQuote cs => [.name cs]
  | _ => [.torn]

end Lexing

def lexer : Lexer Lexing where
  step := Lexing.step
  finish := Lexing.finish

/-- The tokens of a statement. -/
def tokens (statement : String) : List Token := lexer.tokens .between statement.toList

theorem lexer_quotes : lexer.Quotes Family.postgres.quote .name .nameQuote where
  takes hc := if_neg hc
  stops _ := rfl
  resumes _ := rfl

theorem leads_name (s : String) :
    lexer.Leads .between (Family.postgres.quoted s) [] (.nameQuote s.toList) :=
  lexer_quotes.leads_quoted rfl s

theorem lexer_escapes : lexer.Escapes .literal where
  takes hback hquote := (if_neg hback).trans (if_neg hquote)
  backslash _ _ := rfl
  quote _ _ := rfl
  tab _ _ := rfl
  newline _ _ := rfl
  carriage _ _ := rfl

theorem leads_literal (s : String) :
    lexer.Leads .between (LoadOrder.postgresLiteral s) [] (.literalQuote s.toList) := by
  have hopen : lexer.Leads .between "E'" [] (.literal []) := fun _ => rfl
  have hclose : lexer.Leads (.literal s.toList) "'" [] (.literalQuote s.toList) := fun _ => rfl
  exact (hopen.append (.join lexer_escapes.leads s.toList [])).append hclose

/-- The tokens of an option behind others, if it is there. -/
def optionTokens (name : String) (value : Option String) : List Token :=
  clauseTokens [.mark ',', .word name.toList] value

/-- The tokens of a copy statement: the words that it always has, and in their places the names,
the path and the options of its order, whose schema goes by a name or is not named. -/
def statementTokens (schemaName : Option String) (o : LoadOrder) : List Token :=
  .mark '\\' :: .word "copy".toList :: (tableTokens schemaName o.table ++ .mark '(' ::
    (listTokens o.columns ++ .mark ')' :: .word "FROM".toList :: .literal o.path.toList ::
      .word "WITH".toList :: .mark '(' :: .word "FORMAT".toList :: .word "csv".toList ::
        .mark ',' :: .word "DELIMITER".toList :: .literal o.delimiter.toList ::
          (optionTokens "QUOTE" o.enclosure ++ (optionTokens "ESCAPE" o.escape ++ [.mark ')']))))

theorem leads_table (schema : Option String) (table : String) :
    lexer.Leads .between (Family.postgres.qualified schema table ++ " (")
      (tableTokens (Family.schemaName schema) table ++ [.mark '(']) .between := by
  have hpoint : ∀ cs, lexer.Leads (.nameQuote cs) "." [.name cs, .mark '.'] .between :=
    fun _ _ => rfl
  have hopen : ∀ cs, lexer.Leads (.nameQuote cs) " (" [.name cs, .mark '('] .between :=
    fun _ _ => rfl
  exact Lexer.leads_table (fun n => (leads_name n).append (hpoint _))
    (fun n => (leads_name n).append (hopen _)) schema table

theorem leads_columns {columns : List String} (h : columns ≠ []) :
    lexer.Leads .between (Family.postgres.columnList columns ++ ") FROM ")
      (listTokens columns ++ [.mark ')', .word "FROM".toList]) .between := by
  have hcomma : ∀ cs, lexer.Leads (.nameQuote cs) ", " [.name cs, .mark ','] .between :=
    fun _ _ => rfl
  have hclose : ∀ cs, lexer.Leads (.nameQuote cs) ") FROM "
      [.name cs, .mark ')', .word "FROM".toList] .between := fun _ _ => rfl
  exact Lexer.leads_columns (fun n => (leads_name n).append (hcomma _))
    (fun n => (leads_name n).append (hclose _)) h

/-- The copy statement of an order has the tokens that it should have, whatever characters are in
its names, its path and its options. -/
theorem tokens_postgresStatement {o : LoadOrder} (h : o.columns ≠ []) :
    tokens o.postgresStatement = statementTokens (Family.schemaName o.schema) o := by
  have hcopy : lexer.Leads .between "\\copy " [.mark '\\', .word "copy".toList] .between :=
    fun _ => rfl
  have hwith : lexer.Leads (.literalQuote o.path.toList) " WITH (FORMAT csv, DELIMITER "
      [.literal o.path.toList, .word "WITH".toList, .mark '(', .word "FORMAT".toList,
        .word "csv".toList, .mark ',', .word "DELIMITER".toList] .between := fun _ => rfl
  have hend : ∀ d, lexer.Leads (.literalQuote d) ")" [.literal d, .mark ')'] .between :=
    fun _ _ => rfl
  have hescape := Lexer.leads_clause ", ESCAPE " [.mark ',', .word "ESCAPE".toList] leads_literal
    (fun _ _ => rfl) hend o.escape
  have hquote := Lexer.leads_clause ", QUOTE " [.mark ',', .word "QUOTE".toList] leads_literal
    (fun _ _ => rfl) hescape o.enclosure
  have hall := hcopy.append ((leads_table o.schema o.table).append ((leads_columns h).append
    ((leads_literal o.path).append (hwith.append ((leads_literal o.delimiter).append
      (hquote o.delimiter.toList))))))
  have htokens : tokens _ = _ := hall.tokens_eq
  unfold LoadOrder.postgresStatement statementTokens optionTokens
  simp only [String.append_assoc, List.append_assoc, List.cons_append, List.nil_append,
    lexer, Lexing.finish, List.append_nil] at htokens ⊢
  exact htokens

end BulkLoad.Sql.Copy
