import BulkLoad.Dialect.Loader
import BulkLoad.Proofs.Traversal

/-!
Statements as servers take them apart, into words, string literals, quoted names and marks. Each
server does it by a lexer of its own; what leads a lexer from one place to another is put together
from pieces. Here is the lexer of MySQL: what the loader has put in quotes is there again as it was,
whatever characters it has.
-/

namespace BulkLoad.Sql

inductive Token where
  | word (cs : List Char)
  | literal (cs : List Char)
  | name (cs : List Char)
  | mark (c : Char)
  /-- A literal or a name that does not end. -/
  | torn
  deriving DecidableEq

def words (ws : List String) : List Token := ws.map fun w => .word w.toList

/-- A lexer with its places: the tokens that a character ends and where it leads, and the tokens
that are left where a text ends. -/
structure Lexer (σ : Type) where
  step : σ → Char → List Token × σ
  finish : σ → List Token

namespace Lexer

variable {σ : Type} {l : Lexer σ}

/-- The tokens that begin in a place. -/
def tokens (l : Lexer σ) : σ → List Char → List Token
  | s, [] => l.finish s
  | s, c :: cs => (l.step s c).1 ++ l.tokens (l.step s c).2 cs

/-- Whatever follows them, these characters lead from one place to another, past these tokens. -/
def Leads (l : Lexer σ) (s : σ) (text : String) (ts : List Token) (s' : σ) : Prop :=
  ∀ rest, l.tokens s (text.toList ++ rest) = ts ++ l.tokens s' rest

namespace Leads

variable {s s₁ s₂ : σ} {text more : String} {ts us : List Token}

theorem append (h : l.Leads s text ts s₁) (h' : l.Leads s₁ more us s₂) :
    l.Leads s (text ++ more) (ts ++ us) s₂ := by
  intro rest
  rw [String.toList_append, List.append_assoc, h, h', List.append_assoc]

theorem tokens_eq (h : l.Leads s text ts s₁) : l.tokens s text.toList = ts ++ l.finish s₁ := by
  have hend := h []
  rwa [List.append_nil] at hend

/-- What is written for each character of a text is read, one after the other, as the text. -/
theorem join {inside : List Char → σ} {written : Char → String}
    (h : ∀ cs c, l.Leads (inside cs) (written c) [] (inside (cs ++ [c]))) (text cs : List Char) :
    l.Leads (inside cs) (String.join (text.map written)) [] (inside (cs ++ text)) := by
  induction text generalizing cs with
  | nil =>
    intro rest
    simp
  | cons c text ih =>
    rw [List.map_cons, String.join_cons, ← List.singleton_append, ← List.append_assoc]
    exact (h cs c).append (ih _)

end Leads

/-- Between quotes a text is taken character by character, and two quotes are taken for one; behind
a single quote the text may be over. -/
structure Quotes (l : Lexer σ) (q : Char) (inside behind : List Char → σ) : Prop where
  takes : ∀ {cs : List Char} {c : Char}, c ≠ q → l.step (inside cs) c = ([], inside (cs ++ [c]))
  stops : ∀ cs, l.step (inside cs) q = ([], behind cs)
  resumes : ∀ cs, l.step (behind cs) q = ([], inside (cs ++ [q]))

namespace Quotes

variable {q : Char} {inside behind : List Char → σ}

theorem leads_doubled (h : l.Quotes q inside behind) (text cs : List Char) :
    l.Leads (inside cs) (String.ofList (Text.doubledChars q text)) [] (inside (cs ++ text)) := by
  intro rest
  rw [String.toList_ofList, List.nil_append, Text.doubledChars]
  induction text generalizing cs with
  | nil => simp
  | cons c text ih =>
    rw [List.flatMap_cons, List.append_assoc, List.append_cons, ← ih]
    by_cases hc : c = q
    · simp [hc, tokens, h.stops, h.resumes]
    · simp [hc, tokens, h.takes]

/-- A name in quotes leads behind the last of them. -/
theorem leads_quoted {f : Family} {s : σ} (h : l.Quotes f.quote inside behind)
    (hopen : l.step s f.quote = ([], inside [])) (name : String) :
    l.Leads s (f.quoted name) [] (behind name.toList) := by
  have hfirst : l.Leads s (String.singleton f.quote) [] (inside []) := by
    intro rest
    simp [tokens, hopen]
  have hlast : l.Leads (inside name.toList) (String.singleton f.quote) [] (behind name.toList) := by
    intro rest
    simp [tokens, h.stops]
  exact (hfirst.append (h.leads_doubled name.toList [])).append hlast

end Quotes

/-- In a literal a character without an escape is taken as it is, and each escape for the character
that it is the escape of. -/
structure Escapes (l : Lexer σ) (inside : List Char → σ) : Prop where
  takes : ∀ {cs : List Char} {c : Char}, c ≠ '\\' → c ≠ '\'' →
    l.step (inside cs) c = ([], inside (cs ++ [c]))
  backslash : ∀ cs, l.Leads (inside cs) "\\\\" [] (inside (cs ++ ['\\']))
  quote : ∀ cs, l.Leads (inside cs) "\\'" [] (inside (cs ++ ['\'']))
  tab : ∀ cs, l.Leads (inside cs) "\\t" [] (inside (cs ++ ['\t']))
  newline : ∀ cs, l.Leads (inside cs) "\\n" [] (inside (cs ++ ['\n']))
  carriage : ∀ cs, l.Leads (inside cs) "\\r" [] (inside (cs ++ ['\r']))

/-- What stands for a character in a literal is read as that character. -/
theorem Escapes.leads {inside : List Char → σ} (h : l.Escapes inside) (cs : List Char) (c : Char) :
    l.Leads (inside cs) ((LoadOrder.escapeOf? c).getD (String.singleton c)) []
      (inside (cs ++ [c])) := by
  unfold LoadOrder.escapeOf?
  by_cases hback : c = '\\'
  · subst hback
    exact h.backslash cs
  by_cases hquote : c = '\''
  · subst hquote
    exact h.quote cs
  by_cases htab : c = '\t'
  · subst htab
    exact h.tab cs
  by_cases hline : c = '\n'
  · subst hline
    exact h.newline cs
  by_cases hcarriage : c = '\r'
  · subst hcarriage
    exact h.carriage cs
  · intro rest
    simp [hback, hquote, htab, hline, hcarriage, tokens, h.takes hback hquote]

end Lexer

/-- The tokens of a table's name, behind that of a schema or without one. -/
def tableTokens (schemaName : Option String) (table : String) : List Token :=
  match schemaName with
  | some s => [.name s.toList, .mark '.', .name table.toList]
  | none => [.name table.toList]

/-- The tokens of a list of names. -/
def listTokens : List String → List Token
  | [] => []
  | [n] => [.name n.toList]
  | n :: rest => .name n.toList :: .mark ',' :: listTokens rest

/-- The tokens of a clause that is only there with its value. -/
def clauseTokens (front : List Token) : Option String → List Token
  | some value => front ++ [.literal value.toList]
  | none => []

namespace Lexer

variable {σ : Type} {l : Lexer σ} {s s' : σ} {f : Family} {tail : String} {ts : List Token}

/-- A lexer that takes a name, and a name with a point behind it, as it should takes a table's name
for the tokens of it. -/
theorem leads_table (hpoint : ∀ n, l.Leads s (f.quoted n ++ ".") [.name n.toList, .mark '.'] s)
    (hlast : ∀ n, l.Leads s (f.quoted n ++ tail) (.name n.toList :: ts) s')
    (schema : Option String) (table : String) :
    l.Leads s (f.qualified schema table ++ tail)
      (tableTokens (Family.schemaName schema) table ++ ts) s' := by
  unfold Family.qualified tableTokens
  cases Family.schemaName schema with
  | none => exact hlast table
  | some name =>
    have hschema := (hpoint name).append (hlast table)
    rwa [← String.append_assoc] at hschema

/-- And with a comma behind it, a list of names for the tokens of that. -/
theorem leads_columns (hcomma : ∀ n, l.Leads s (f.quoted n ++ ", ") [.name n.toList, .mark ','] s)
    (hlast : ∀ n, l.Leads s (f.quoted n ++ tail) (.name n.toList :: ts) s')
    {columns : List String} (h : columns ≠ []) :
    l.Leads s (f.columnList columns ++ tail) (listTokens columns ++ ts) s' := by
  unfold Family.columnList
  induction columns with
  | nil => exact absurd rfl h
  | cons n rest ih =>
    cases rest with
    | nil =>
      rw [List.map_singleton, String.intercalate_singleton]
      exact hlast n
    | cons m rest =>
      have hrest := (hcomma n).append (ih (List.cons_ne_nil m rest))
      rw [List.map_cons, List.map_cons, String.intercalate_cons_cons, String.append_assoc,
        String.append_assoc, ← String.append_assoc]
      exact hrest

/-- A clause between a literal and what follows it. -/
theorem leads_clause (name : String) (front : List Token) {behind : List Char → σ}
    {literal : String → String} (hvalue : ∀ v, l.Leads s (literal v) [] (behind v.toList))
    (hname : ∀ d, l.Leads (behind d) name (.literal d :: front) s)
    (htail : ∀ d, l.Leads (behind d) tail (.literal d :: ts) s') (value : Option String)
    (d : List Char) :
    l.Leads (behind d) (LoadOrder.clause name value literal ++ tail)
      (.literal d :: (clauseTokens front value ++ ts)) s' := by
  cases value with
  | none => exact fun rest => by simpa [LoadOrder.clause, clauseTokens] using htail d rest
  | some v =>
    have hclause := ((hname d).append (hvalue v)).append (htail v.toList)
    simpa [LoadOrder.clause, clauseTokens] using hclause

end Lexer

/-- The letters and digits that stand for a control character behind a backslash. -/
def controls : List (Char × Char) :=
  [('0', Char.ofNat 0), ('b', Char.ofNat 8), ('n', '\n'), ('r', '\r'), ('t', '\t'),
    ('Z', Char.ofNat 26)]

/-- What a character stands for behind an escape. -/
def meaning (c : Char) : Char := (controls.lookup c).getD c

theorem meaning_eq {c : Char} (h : c ∉ controls.map (·.1)) : meaning c = c := by
  rw [meaning, lookup_eq_none_of_notMem h, Option.getD_none]

/-- The escape of a wildcard is kept with it in a string literal. -/
def literalMeaning (c : Char) : List Char :=
  if c ∈ ['%', '_'] then ['\\', c] else [meaning c]

/-- Names are between grave accents. -/
def graveAccent : Char := Char.ofNat 0x60

/-- Where in a statement a reader is, with what it has seen of a token. -/
inductive Lexing where
  | between
  | word (cs : List Char)
  | literal (cs : List Char)
  | literalEscape (cs : List Char)
  /-- Behind a quote, which ends the literal unless a second one follows. -/
  | literalQuote (cs : List Char)
  | name (cs : List Char)
  | nameQuote (cs : List Char)

namespace Lexing

/-- Begins a token. -/
def start (c : Char) : List Token × Lexing :=
  if c.isWhitespace then ([], between)
  else if c = '\'' then ([], literal [])
  else if c = graveAccent then ([], name [])
  else if c.isAlphanum then ([], word [c])
  else ([.mark c], between)

/-- Ends a token, and begins another. -/
def next (t : Token) (c : Char) : List Token × Lexing := (t :: (start c).1, (start c).2)

def step (s : Lexing) (c : Char) : List Token × Lexing :=
  match s with
  | between => start c
  | word cs => if c.isAlphanum then ([], word (cs ++ [c])) else next (.word cs) c
  | literal cs =>
    if c = '\\' then ([], literalEscape cs)
    else if c = '\'' then ([], literalQuote cs) else ([], literal (cs ++ [c]))
  | literalEscape cs => ([], literal (cs ++ literalMeaning c))
  | literalQuote cs => if c = '\'' then ([], literal (cs ++ [c])) else next (.literal cs) c
  | name cs => if c = graveAccent then ([], nameQuote cs) else ([], name (cs ++ [c]))
  | nameQuote cs =>
    if c = graveAccent then ([], name (cs ++ [c])) else next (.name cs) c

def finish : Lexing → List Token
  | between => []
  | word cs => [.word cs]
  | literalQuote cs => [.literal cs]
  | nameQuote cs => [.name cs]
  | _ => [.torn]

end Lexing

def lexer : Lexer Lexing where
  step := Lexing.step
  finish := Lexing.finish

/-- The tokens of a statement. -/
def tokens (statement : String) : List Token := lexer.tokens .between statement.toList

theorem lexer_quotes : lexer.Quotes Family.mysql.quote .name .nameQuote where
  takes hc := if_neg hc
  stops _ := rfl
  resumes _ := rfl

theorem leads_name (s : String) :
    lexer.Leads .between (Family.mysql.quoted s) [] (.nameQuote s.toList) :=
  lexer_quotes.leads_quoted rfl s

theorem lexer_escapes : lexer.Escapes .literal where
  takes hback hquote := (if_neg hback).trans (if_neg hquote)
  backslash _ _ := rfl
  quote _ _ := rfl
  tab _ _ := rfl
  newline _ _ := rfl
  carriage _ _ := rfl

/-- A character may also stand in a literal as a zero behind a backslash. -/
theorem leads_mysqlChar (cs : List Char) (c : Char) :
    lexer.Leads (.literal cs) (LoadOrder.mysqlChar c) [] (.literal (cs ++ [c])) := by
  unfold LoadOrder.mysqlChar
  by_cases hzero : c.toNat = 0
  · have hc : c = Char.ofNat 0 := by rw [← hzero, Char.ofNat_toNat]
    subst hc
    exact fun _ => rfl
  · simpa [hzero] using lexer_escapes.leads cs c

theorem leads_literal (s : String) :
    lexer.Leads .between (LoadOrder.mysqlLiteral s) [] (.literalQuote s.toList) := by
  have hopen : lexer.Leads .between "'" [] (.literal []) := fun _ => rfl
  have hclose : lexer.Leads (.literal s.toList) "'" [] (.literalQuote s.toList) := fun _ => rfl
  exact (hopen.append (.join leads_mysqlChar s.toList [])).append hclose

end BulkLoad.Sql
