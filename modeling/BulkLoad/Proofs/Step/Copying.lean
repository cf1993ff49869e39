import BulkLoad.Proofs.Dialect.CopyRules
import BulkLoad.Proofs.Step.Validation

/-!
What PostgreSQL makes of the nulls that a loader sends. The copy statement has the marks of the
configuration, but it does not say what stands for null, so null is an empty field without quotes. A
null is sent as the null marker of the configuration, and read as a null only if that is empty.
-/

namespace BulkLoad

open Sql (CopyRules)

/-- A text of one byte is one character. -/
theorem Bytes.eq_singleton_of_lengthOfText {s : String} (h : lengthOfText s = 1) :
    ∃ c, s = String.singleton c := by
  have hs := s.ofList_toList
  unfold lengthOfText at h
  cases hl : s.toList with
  | nil =>
    rw [hl] at hs
    subst hs
    cases h
  | cons c l =>
    rw [hl] at hs
    cases l with
    | nil => exact ⟨c, hs.symm⟩
    | cons d l =>
      -- A second character would have a byte of its own.
      have hc := c.utf8Size_pos
      have hd := d.utf8Size_pos
      rw [← hs, String.ofList_cons, String.ofList_cons, String.utf8ByteSize_append,
        String.utf8ByteSize_append, String.utf8ByteSize_singleton,
        String.utf8ByteSize_singleton] at h
      omega

theorem exists_singleton_of_option {value : Option String} (default : Char)
    (h : ∀ v, value = some v → Bytes.lengthOfText v = 1) :
    ∃ c, value.getD (String.singleton default) = String.singleton c := by
  cases value with
  | none => exact ⟨default, rfl⟩
  | some v => exact Bytes.eq_singleton_of_lengthOfText (h v rfl)

/-- Wherever a field has these characters, it is null. -/
def Sql.CopyRules.Nulls (r : CopyRules) (text : String) : Prop :=
  ∀ rest, r.ends rest = true → r.readField (text.toList ++ rest) = some (none, rest)

/-- No field that begins with these characters is null. -/
def Sql.CopyRules.NeverNulls (r : CopyRules) (text : String) : Prop :=
  ∀ rest after, r.readField (text.toList ++ rest) ≠ some (none, after)

namespace Step.Config

variable {c : Config} {rules : CopyRules} {path : String}

/-- The loader is the one of a PostgreSQL connection. -/
structure LoadsByCopy (c : Config) : Prop where
  connection : ∃ connection, c.connection = some connection ∧ connection.family = .postgres
  own : c.loader.command = none

/-- The rules that are in force for the statement of the load command. -/
def CopiesBy (c : Config) (path : String) (rules : CopyRules) : Prop :=
  ∃ command sql, c.loadCommand path = .ok command ∧
    command.args.getLast? = some ("--command=" ++ sql) ∧
    CopyRules.ofTokens? (Sql.Copy.tokens sql) = some rules

/-- The rules have the marks of the loader, or the default of a mark that it has not, and null is
what it is by default. -/
structure MarkedBy (c : Config) (rules : CopyRules) : Prop where
  delimiter : c.loader.delimiter = String.singleton rules.delimiter
  quote : c.loader.enclosure?.getD "\"" = String.singleton rules.quote
  escape : c.loader.escape?.getD (String.singleton rules.quote) = String.singleton rules.escape
  null : rules.null = []

theorem MarkedBy.eq {rules' : CopyRules} (h : c.MarkedBy rules) (h' : c.MarkedBy rules') :
    rules = rules' := by
  have hdelimiter := String.singleton_inj.1 (h.delimiter.symm.trans h'.delimiter)
  have hquote := String.singleton_inj.1 (h.quote.symm.trans h'.quote)
  have hescape := h.escape
  rw [hquote] at hescape
  have hescapes := String.singleton_inj.1 (hescape.symm.trans h'.escape)
  cases rules
  cases rules'
  cases hdelimiter
  cases hquote
  cases hescapes
  cases h.null
  cases h'.null
  rfl

/-- The loader sends a cell as this text, whatever the precision of its column. -/
def Sends (c : Config) (hint : Hint) (cell : Cell) (text : String) : Prop :=
  ∀ precision, c.loaderFormat.field hint precision cell = Bytes.ofText text

namespace LoadsByCopy

theorem copiesBy (h : c.LoadsByCopy) (hv : c.validate = .ok ())
    (hcommand : ∃ command, c.loadCommand path = .ok command) (hmarks : c.MarkedBy rules) :
    c.CopiesBy path rules := by
  obtain ⟨connection, hconnection, hfamily⟩ := h.connection
  obtain ⟨command, hcommand⟩ := hcommand
  let o := c.loadOrder connection path
  have horder : o.command = .ok command := by
    rwa [← loadCommand_of_connection hconnection h.own]
  have hpostgres : o.postgresCommand = .ok command := by
    unfold LoadOrder.command at horder
    rwa [show o.connection.family = .postgres from hfamily] at horder
  have hcolumns : o.columns ≠ [] := by
    intro hnil
    have hsome : o.columns.isEmpty = false := columns_of_validate hv
    rw [hnil] at hsome
    cases hsome
  refine ⟨command, o.postgresStatement, hcommand, LoadOrder.postgresCommand_args hpostgres, ?_⟩
  rw [CopyRules.ofTokens?_postgresStatement hcolumns hmarks.delimiter hmarks.quote hmarks.escape,
    ← hmarks.null]

/-- If there is a command, the marks of the loader are single characters, and there are rules that
have them. -/
theorem exists_markedBy (h : c.LoadsByCopy) (hv : c.validate = .ok ())
    (hcommand : ∃ command, c.loadCommand path = .ok command) : ∃ rules, c.MarkedBy rules := by
  obtain ⟨connection, hconnection, hfamily⟩ := h.connection
  rw [loadCommand_of_connection hconnection h.own,
    (sound_of_validate hv).order_ok_iff (columns_of_validate hv) hconnection h.own] at hcommand
  have hfits := hcommand hfamily
  obtain ⟨d, hd⟩ := Bytes.eq_singleton_of_lengthOfText hfits.delimiter
  obtain ⟨q, hq⟩ := exists_singleton_of_option '"' hfits.enclosure
  obtain ⟨e, he⟩ := exists_singleton_of_option q hfits.escape
  exact ⟨⟨d, q, e, []⟩, hd, hq, he, rfl⟩

/-- A null is sent as the marker of the configuration; without one nothing is sent. -/
theorem sends_null (h : c.LoadsByCopy) (hint : Hint) :
    c.Sends hint .null (c.loader.nullMarker.getD "") := by
  obtain ⟨connection, hconnection, hfamily⟩ := h.connection
  intro precision
  rw [Delimited.Format.field, loaderFormat, hconnection, Loader.format]
  show Bytes.ofText (c.loader.nullMarker.getD (connection.family.nullMarker _)) = _
  rw [hfamily]
  rfl

end LoadsByCopy

theorem sends_text (c : Config) (hint : Hint) (s : String) : ∃ inner,
    c.Sends hint (.text s)
      (c.loader.enclosure?.getD "" ++ inner ++ c.loader.enclosure?.getD "") :=
  ⟨_, fun _ => rfl⟩

/-- Where there is an enclosure, what is sent for a text begins with the quote of the rules. -/
theorem MarkedBy.sends_quoted (h : c.MarkedBy rules) (henclosure : c.loader.enclosure ≠ "")
    (hint : Hint) (s : String) : ∃ inner,
    c.Sends hint (.text s) (String.singleton rules.quote ++ inner) := by
  have hsome : c.loader.enclosure? = some c.loader.enclosure := by
    rw [Loader.enclosure?, Delimited.nonEmpty?, if_neg]
    simpa using henclosure
  have hquote : c.loader.enclosure = String.singleton rules.quote := by
    rw [← h.quote, hsome]
    rfl
  obtain ⟨inner, hinner⟩ := c.sends_text hint s
  rw [hsome, Option.getD_some, hquote, String.append_assoc] at hinner
  exact ⟨_, hinner⟩

/-- Copying tells nulls from texts, as long as the configuration has no null marker of its own. A
null is sent as the marker, but the copy statement does not name it, so what is null is the empty
field without quotes. So nulls are read as nulls exactly if the marker is empty. With an enclosure
no text is sent as nothing, and none is read as null, unless the enclosure is a mark at which a
field ends. -/
theorem copy_tells_nulls (hv : c.validate = .ok ()) (h : c.LoadsByCopy) (path : String)
    (hcommand : ∃ command, c.loadCommand path = .ok command) : ∃ rules,
    c.CopiesBy path rules ∧ c.MarkedBy rules ∧
    (∀ hint, c.Sends hint .null (c.loader.nullMarker.getD "")) ∧
    (rules.Nulls (c.loader.nullMarker.getD "") ↔ c.loader.nullMarker.getD "" = "") ∧
    (c.loader.enclosure ≠ "" → ∀ hint s, ∃ text, c.Sends hint (.text s) text ∧
      text.toList ≠ rules.null ∧
      (rules.ends [rules.quote] = false → rules.NeverNulls text)) := by
  obtain ⟨rules, hmarks⟩ := h.exists_markedBy hv hcommand
  refine ⟨rules, h.copiesBy hv hcommand hmarks, hmarks, h.sends_null, ?_, ?_⟩
  · rw [CopyRules.Nulls, CopyRules.readField_null_iff hmarks.null, String.toList_eq_nil_iff]
  · -- The quote in front shows that the field is not empty, and that it is not null.
    intro henclosure hint s
    obtain ⟨inner, hsends⟩ := hmarks.sends_quoted henclosure hint s
    refine ⟨_, hsends, ?_, fun hquote rest after => ?_⟩
    · rw [hmarks.null, String.toList_append, String.toList_singleton]
      exact List.cons_ne_nil _ _
    · rw [String.toList_append, String.toList_singleton, List.append_assoc]
      exact CopyRules.readField_quote_ne_none hquote _ _

end Step.Config

namespace Step

/-- A step that copies a column of plain texts into a table, with this marker for nulls. -/
def markingConfig (marker : Option String) : Config :=
  { version := "1.0", name := "marking"
    mapping := ⟨[⟨"a", "a", .plain⟩]⟩
    connection := some { family := .postgres, database := "shop" }
    target := { table := "t" }
    loader := { nullMarker := marker } }

theorem markingConfig_copies (marker : Option String) : (markingConfig marker).LoadsByCopy :=
  ⟨⟨_, rfl, rfl⟩, rfl⟩

theorem markingConfig_markedBy (marker : Option String) :
    (markingConfig marker).MarkedBy ⟨'\t', '"', '\\', []⟩ :=
  ⟨rfl, rfl, rfl, rfl⟩

theorem copy_tells_nulls_default : ∃ rules, (markingConfig none).CopiesBy "/tmp/pipe" rules ∧
    (markingConfig none).Sends .plain .null "" ∧ rules.Nulls "" ∧
    ∃ text, (markingConfig none).Sends .plain (.text "") text ∧ text.toList ≠ rules.null ∧
      rules.NeverNulls text := by
  have hvalid : (markingConfig none).validate = .ok () := rfl
  obtain ⟨rules, hrules, hmarks, hsends, hnulls, htexts⟩ := Config.copy_tells_nulls hvalid
    (markingConfig_copies none) "/tmp/pipe" ⟨_, rfl⟩
  have hquote : rules.ends [rules.quote] = false := by
    rw [hmarks.eq (markingConfig_markedBy none)]
    rfl
  obtain ⟨text, htext, hne, hnever⟩ := htexts (by decide) .plain ""
  exact ⟨rules, hrules, hsends .plain, hnulls.2 rfl, text, htext, hne, hnever hquote⟩

/-- The marker of a configuration is not in the copy statement, so it comes to the table as a
text. -/
theorem copy_loses_null : (markingConfig (some "\\N")).validate = .ok () ∧
    (markingConfig (some "\\N")).LoadsByCopy ∧
    ∃ rules, (markingConfig (some "\\N")).CopiesBy "/tmp/pipe" rules ∧
      (markingConfig (some "\\N")).Sends .plain .null "\\N" ∧ rules.null = [] ∧
      ¬ rules.Nulls "\\N" ∧
      rules.readField "\\N\n".toList = some (some "\\N".toList, ['\n']) := by
  have hcopies := markingConfig_copies (some "\\N")
  refine ⟨rfl, hcopies, _, hcopies.copiesBy rfl ⟨_, rfl⟩ (markingConfig_markedBy _),
    hcopies.sends_null .plain, rfl, ?_, by decide +kernel⟩
  rw [CopyRules.Nulls, CopyRules.readField_null_iff rfl]
  decide

end Step
end BulkLoad
