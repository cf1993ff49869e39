import BulkLoad.Proofs.Dialect.CopyTokens
import BulkLoad.Proofs.Dialect.LoadRules

/-!
The rules by which PostgreSQL reads a file of comma-separated values, as they are documented. They
are in the options of the copy statement, and an option that is not there has a default: fields end
at a comma, double quotes enclose a field, a quote is its own escape, and null is an empty field
without quotes.
-/

namespace BulkLoad.Sql

/-- How a file is taken apart into fields, and which field is null. -/
structure CopyRules where
  delimiter : Char := ','
  quote : Char := '"'
  escape : Char := quote
  null : List Char := []
  deriving DecidableEq

namespace CopyRules

/-- The tokens behind these, if these are there. -/
def behind? (front ts : List Token) : Option (List Token) := front.isPrefixOf? ts

/-- The tokens behind a list of names. -/
def columns? : List Token → Option (List Token)
  | .name _ :: .mark ',' :: rest => columns? rest
  | .name _ :: .mark ')' :: rest => some rest
  | _ => none

/-- The value of an option is a word or a string. -/
def value? : Token → Option (List Char)
  | .word cs | .literal cs => some cs
  | _ => none

/-- The options up to the parenthesis that ends them, each with its value. -/
def options? : List Token → Option (List (List Char × List Char))
  | .word name :: t :: .mark ',' :: rest => do pure ((name, ← value? t) :: (← options? rest))
  | [.word name, t, .mark ')'] => do pure [(name, ← value? t)]
  | _ => none

/-- The character of an option that takes one. -/
def char? : List Char → Option Char
  | [c] => some c
  | _ => none

/-- The rules that options set, where the format is the one of comma-separated values. -/
def ofOptions? (options : List (List Char × List Char)) : Option CopyRules :=
  if options.lookup "FORMAT".toList = some "csv".toList then do
    let delimiter ← char? ((options.lookup "DELIMITER".toList).getD [','])
    let quote ← char? ((options.lookup "QUOTE".toList).getD ['"'])
    let escape ← char? ((options.lookup "ESCAPE".toList).getD [quote])
    pure ⟨delimiter, quote, escape, (options.lookup "NULL".toList).getD []⟩
  else none

/-- The rules that a copy statement sets; its options are behind table, columns and path. -/
def ofTokens? (ts : List Token) : Option CopyRules := do
  let ts ← LoadRules.table? (← behind? [.mark '\\', .word "copy".toList] ts)
  let ts ← columns? (← behind? [.mark '('] ts)
  let ts ← LoadRules.literal? (← behind? [.word "FROM".toList] ts)
  ofOptions? (← options? (← behind? [.word "WITH".toList, .mark '('] ts))

/-- What has been read of a field: its characters, whether any of it was in quotes, and what
follows it. -/
structure Span where
  value : List Char
  quoted : Bool
  after : List Char
  deriving DecidableEq

/-- One character more before what has been read. -/
def Span.push (c : Char) (s : Span) : Span := { s with value := c :: s.value }

/-- The same, behind a quote. -/
def Span.quote (s : Span) : Span := { s with quoted := true }

variable (r : CopyRules)

/-- A field ends here. Lines end as those of the records do. -/
def ends : List Char → Bool
  | [] => true
  | c :: _ => c == r.delimiter || c == '\n'

/-- Takes a field apart, from a place inside of quotes or outside. Inside, an escape makes a quote
or another escape a character of the field. -/
def span : Bool → List Char → Option Span
  | false, [] => some ⟨[], false, []⟩
  | false, c :: cs =>
    -- A delimiter ends the field even if it is the quote as well.
    if r.ends (c :: cs) then some ⟨[], false, c :: cs⟩
    else if c = r.quote then (span true cs).map Span.quote
    else (span false cs).map (Span.push c)
  | true, [] => none
  | true, [c] => if c = r.quote then some ⟨[], false, []⟩ else none
  | true, c :: d :: cs =>
    if c = r.escape ∧ d ∈ [r.escape, r.quote] then (span true cs).map (Span.push d)
    else if c = r.quote then span false (d :: cs)
    else (span true (d :: cs)).map (Span.push c)

/-- The value of a field, none for null, and what follows the field. Characters in quotes are not
null, whatever they are. -/
def readField (cs : List Char) : Option (Option (List Char) × List Char) :=
  (r.span false cs).map fun s =>
    (if !s.quoted && s.value == r.null then none else some s.value, s.after)

theorem behind?_append (front rest : List Token) : behind? front (front ++ rest) = some rest :=
  List.isPrefixOf?_eq_some_iff_append_eq.2 rfl

theorem table?_tableTokens (schemaName : Option String) (table : String) (rest : List Token) :
    LoadRules.table? (tableTokens schemaName table ++ .mark '(' :: rest) =
      some (.mark '(' :: rest) := by
  cases schemaName <;> rfl

theorem columns?_listTokens {names : List String} (h : names ≠ []) (rest : List Token) :
    columns? (listTokens names ++ .mark ')' :: rest) = some rest := by
  induction names with
  | nil => exact absurd rfl h
  | cons n names ih =>
    cases names with
    | nil => rfl
    | cons m names => exact ih (List.cons_ne_nil m names)

variable {r : CopyRules} {o : LoadOrder}

/-- The options that the statement of an order has. -/
def statementOptions (delimiter : String) (enclosure escape : Option String) :
    List (List Char × List Char) :=
  ("FORMAT".toList, "csv".toList) :: ("DELIMITER".toList, delimiter.toList) ::
    (enclosure.toList.map (fun v => ("QUOTE".toList, v.toList)) ++
      escape.toList.map (fun v => ("ESCAPE".toList, v.toList)))

theorem options?_statementTokens (delimiter : String) (enclosure escape : Option String) :
    options? (.word "FORMAT".toList :: .word "csv".toList :: .mark ',' ::
      .word "DELIMITER".toList :: .literal delimiter.toList ::
        (Copy.optionTokens "QUOTE" enclosure ++ (Copy.optionTokens "ESCAPE" escape ++
          [.mark ')']))) = some (statementOptions delimiter enclosure escape) := by
  cases enclosure <;> cases escape <;> rfl

theorem lookup_statementOptions (delimiter : String) (enclosure escape : Option String) :
    let options := statementOptions delimiter enclosure escape
    options.lookup "FORMAT".toList = some "csv".toList ∧
      options.lookup "DELIMITER".toList = some delimiter.toList ∧
      options.lookup "QUOTE".toList = enclosure.map String.toList ∧
      options.lookup "ESCAPE".toList = escape.map String.toList ∧
      options.lookup "NULL".toList = none := by
  cases enclosure <;> cases escape <;> exact ⟨rfl, rfl, rfl, rfl, rfl⟩

theorem char?_toList {s : String} {c : Char} (h : s = String.singleton c) :
    char? s.toList = some c := by
  rw [h, String.toList_singleton]
  rfl

theorem ofOptions?_statementOptions {delimiter : String} {enclosure escape : Option String}
    {d q e : Char} (hd : delimiter = String.singleton d)
    (hq : enclosure.getD "\"" = String.singleton q)
    (he : escape.getD (String.singleton q) = String.singleton e) :
    ofOptions? (statementOptions delimiter enclosure escape) = some ⟨d, q, e, []⟩ := by
  obtain ⟨hformat, hdelimiter, hquote, hescape, hnull⟩ :=
    lookup_statementOptions delimiter enclosure escape
  have hquoteChar : char? ((enclosure.map String.toList).getD ['"']) = some q := by
    rw [show ['"'] = "\"".toList from rfl, Option.getD_map, char?_toList hq]
  have hescapeChar : char? ((escape.map String.toList).getD [q]) = some e := by
    rw [← String.toList_singleton, Option.getD_map, char?_toList he]
  rw [ofOptions?, if_pos hformat, hdelimiter, hquote, hescape, hnull]
  simp only [Option.getD_some, char?_toList hd, Option.bind_eq_bind, Option.bind_some, hquoteChar,
    hescapeChar]
  rfl

/-- A copy statement sets the marks of its order, and leaves null what it is by default. -/
theorem ofTokens?_postgresStatement (hcolumns : o.columns ≠ []) {delimiter quote escape : Char}
    (hdelimiter : o.delimiter = String.singleton delimiter)
    (hquote : o.enclosure.getD "\"" = String.singleton quote)
    (hescape : o.escape.getD (String.singleton quote) = String.singleton escape) :
    ofTokens? (Copy.tokens o.postgresStatement) = some ⟨delimiter, quote, escape, []⟩ := by
  have hfront : ∀ rest, behind? [.mark '\\', .word "copy".toList]
      (.mark '\\' :: .word "copy".toList :: rest) = some rest := behind?_append _
  have hopen : ∀ rest, behind? [.mark '('] (.mark '(' :: rest) = some rest := behind?_append _
  have hfrom : ∀ rest, behind? [.word "FROM".toList] (.word "FROM".toList :: rest) = some rest :=
    behind?_append _
  have hwith : ∀ rest, behind? [.word "WITH".toList, .mark '(']
      (.word "WITH".toList :: .mark '(' :: rest) = some rest := behind?_append _
  rw [Copy.tokens_postgresStatement hcolumns, Copy.statementTokens, ofTokens?]
  simp only [Option.bind_eq_bind, Option.bind_some, hfront, table?_tableTokens, hopen,
    columns?_listTokens hcolumns, hfrom, LoadRules.literal?, hwith, options?_statementTokens]
  exact ofOptions?_statementOptions hdelimiter hquote hescape

theorem span_quote {cs : List Char} (h : r.ends [r.quote] = false) :
    r.span false (r.quote :: cs) = (r.span true cs).map Span.quote := by
  have hplace : r.ends (r.quote :: cs) = false := h
  rw [span, hplace, if_neg Bool.false_ne_true, if_pos rfl]

/-- Characters without quotes are read as they stand. -/
theorem eq_append_of_span {cs : List Char} {s : Span} (h : r.span false cs = some s)
    (hplain : s.quoted = false) : cs = s.value ++ s.after := by
  induction cs generalizing s with
  | nil =>
    cases h
    rfl
  | cons c cs ih =>
    rw [span] at h
    split at h
    · cases h
      rfl
    split at h
    · obtain ⟨inner, -, rfl⟩ := Option.map_eq_some_iff.1 h
      cases hplain
    · obtain ⟨rest, hrest, rfl⟩ := Option.map_eq_some_iff.1 h
      rw [ih hrest hplain]
      rfl

/-- A field that is null has the characters of null. -/
theorem eq_append_of_readField {cs after : List Char} (h : r.readField cs = some (none, after)) :
    cs = r.null ++ after := by
  obtain ⟨s, hspan, hread⟩ := Option.map_eq_some_iff.1 h
  split at hread
  · rename_i hnull
    obtain ⟨hplain, hvalue⟩ : s.quoted = false ∧ s.value = r.null := by simpa using hnull
    cases hread
    rw [← hvalue]
    exact eq_append_of_span hspan hplain
  · cases hread

/-- With the null that is the default, a text is null exactly if it is empty. -/
theorem readField_null_iff (hnull : r.null = []) {text : List Char} :
    (∀ rest, r.ends rest = true → r.readField (text ++ rest) = some (none, rest)) ↔ text = [] := by
  constructor
  · intro hread
    have hfield := eq_append_of_readField (hread [] rfl)
    rwa [hnull, List.append_nil, List.append_nil] at hfield
  · rintro rfl rest hrest
    have hspan : r.span false rest = some ⟨[], false, rest⟩ := by
      cases rest with
      | nil => rfl
      | cons c rest => rw [span, if_pos hrest]
    rw [List.nil_append, readField, hspan, hnull]
    rfl

/-- A field that begins with a quote is not null. -/
theorem readField_quote_ne_none (h : r.ends [r.quote] = false) (cs after : List Char) :
    r.readField (r.quote :: cs) ≠ some (none, after) := by
  intro hread
  obtain ⟨s, hspan, hvalue⟩ := Option.map_eq_some_iff.1 hread
  rw [span_quote h] at hspan
  obtain ⟨inner, -, rfl⟩ := Option.map_eq_some_iff.1 hspan
  cases hvalue

end CopyRules
end BulkLoad.Sql
