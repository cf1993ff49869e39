import BulkLoad.Proofs.Dialect.LoadRules
import BulkLoad.Proofs.Step.Positions

/-!
What a MySQL server makes of the texts that a loader sends. The statement and the records are made
from one configuration by two functions. They agree on every escape. Where there is to be none, the
records have none, but the statement does not say so, and the server takes the backslash for one.
-/

namespace BulkLoad

open Delimited (Marks escapedChar)
open Sql (LoadRules)

/-- The character can be an escape: it is none of the other marks, and none of the letters and
digits that have a meaning of their own behind an escape. -/
structure CanEscape (e : Char) : Prop where
  unmarked : e ∉ ['\t', '\n', '"']
  unused : e ∉ 'N' :: Sql.controls.map (·.1)

/-- Fields between quotes that end at tabs, with this escape. -/
def Sql.quotedRules (escape : Char) : LoadRules where
  enclosure := some '"'
  escape := some escape

namespace CanEscape

variable {e : Char}

/-- The marks of the default format, with another escape. -/
def marks (h : CanEscape e) : Marks where
  delimiter := '\t'
  terminator := '\n'
  escape := e
  enclosure := some '"'
  distinct := by
    have hunmarked := h.unmarked
    grind

theorem meaning_of_special (h : CanEscape e) {c : Char} (hc : h.marks.special c = true) :
    Sql.meaning c = c := by
  have hcases : c = e ∨ c = '"' := by simpa [Marks.special, marks] using hc
  rcases hcases with rfl | rfl
  · exact Sql.meaning_eq fun hmem => h.unused (List.mem_cons_of_mem _ hmem)
  · rfl

end CanEscape

namespace Step.Config

variable {c : Config} {connection : Connection}

/-- The loader is the one of a MySQL connection, with fields between quotes that end at tabs. -/
structure LoadsQuoted (c : Config) : Prop where
  connection : ∃ connection, c.connection = some connection ∧ connection.family = .mysql
  own : c.loader.command = none
  delimiter : c.loader.delimiter = "\t"
  enclosure : c.loader.enclosure = "\""

/-- The rules that are in force for the statement of the load command. -/
def LoadsBy (c : Config) (path : String) (rules : LoadRules) : Prop :=
  ∃ command sql, c.loadCommand path = .ok command ∧
    command.args.getLast? = some ("--execute=" ++ sql) ∧
    LoadRules.ofTokens? (Sql.tokens sql) = some rules

/-- The server reads the field of a cell as this value, wherever the field stands, and takes no more
of the file than the field. -/
def Reads (c : Config) (rules : LoadRules) (hint : Hint) (cell : Cell)
    (value : Option (List Char)) : Prop :=
  ∃ field, (∀ precision, c.loaderFormat.field hint precision cell = Bytes.ofText field) ∧
    ∀ rest, rules.ends rest = true → rules.readField (field.toList ++ rest) = some (value, rest)

/-- The server reads a text as it was. -/
def ReadsBack (c : Config) (rules : LoadRules) (s : String) : Prop :=
  c.Reads rules .escaped (.text s) (some s.toList)

namespace LoadsQuoted

theorem loadsBy (h : c.LoadsQuoted) (hv : c.validate = .ok ()) (path : String) {e : Char}
    (he : c.loader.escape?.getD "\\" = String.singleton e) :
    c.LoadsBy path (Sql.quotedRules e) := by
  obtain ⟨connection, hconnection, hfamily⟩ := h.connection
  let o := c.loadOrder connection path
  have horder : o.command = o.mysqlCommand := by
    unfold LoadOrder.command
    rw [show o.connection.family = .mysql from hfamily]
  obtain ⟨command, hcommand⟩ := LoadOrder.mysqlCommand_ok (o := o) (columns_of_validate hv)
  refine ⟨command, o.mysqlStatement, ?_, LoadOrder.mysqlCommand_args hcommand, ?_⟩
  · rw [loadCommand_of_connection hconnection h.own, horder, hcommand]
  · have henclosure : o.enclosure = some "\"" := by
      show c.loader.enclosure? = _
      rw [Loader.enclosure?, h.enclosure]
      rfl
    have hdelimiter : o.delimiter = "\t" := h.delimiter
    have hescape : o.escape.getD "\\" = String.singleton e := he
    have hrules : LoadRules.ofTokens? (Sql.tokens o.mysqlStatement) =
        some ⟨o.delimiter.toList, some '"', some e, ['\n']⟩ := by
      apply LoadRules.ofTokens?_mysqlStatement
      · rw [henclosure]
        rfl
      · rw [hescape, String.toList_singleton]
        rfl
    rw [hrules, hdelimiter]
    rfl

theorem format_enclosure (h : c.LoadsQuoted) : c.loaderFormat.enclosure = some "\"" := by
  show Delimited.nonEmpty? c.loader.enclosure = _
  rw [h.enclosure]
  rfl

/-- A text is between quotes, with the escapes of the format. -/
theorem field_text (h : c.LoadsQuoted) (precision : Option UInt32) (s : String) :
    c.loaderFormat.field .escaped precision (.text s) =
      Bytes.ofText ("\"" ++ c.loaderFormat.escaped s ++ "\"") := by
  rw [Delimited.Format.field, Delimited.Format.enclosed, h.format_enclosure]
  rfl

/-- The server reads what stands between the quotes. -/
theorem readsBack_iff (h : c.LoadsQuoted) {e : Char} {s : String} :
    c.ReadsBack (Sql.quotedRules e) s ↔ ∀ rest, (Sql.quotedRules e).ends rest = true →
      (Sql.quotedRules e).readEnclosed '"' ((c.loaderFormat.escaped s).toList ++ '"' :: rest) =
        some (s.toList, rest) := by
  have hread : ∀ rest, (Sql.quotedRules e).readField
      (("\"" ++ c.loaderFormat.escaped s ++ "\"").toList ++ rest) =
      ((Sql.quotedRules e).readEnclosed '"'
        ((c.loaderFormat.escaped s).toList ++ '"' :: rest)).map fun read =>
          (some read.1, read.2) := by
    intro rest
    rw [String.toList_append, String.toList_append, List.append_assoc, List.append_assoc]
    rfl
  constructor
  · rintro ⟨field, hfield, hreads⟩ rest hrest
    have hsame : "\"" ++ c.loaderFormat.escaped s ++ "\"" = field :=
      Bytes.ofText_inj ((h.field_text none s).symm.trans (hfield none))
    have hvalue := hreads rest hrest
    rw [← hsame, hread] at hvalue
    obtain ⟨⟨value, after⟩, henclosed, heq⟩ := Option.map_eq_some_iff.1 hvalue
    cases heq
    exact henclosed
  · refine fun hreads => ⟨_, fun precision => h.field_text precision s, fun rest hrest => ?_⟩
    rw [hread, hreads rest hrest]
    rfl

theorem uses_marks (h : c.LoadsQuoted) {e : Char} (he : CanEscape e)
    (hescape : c.loader.escape = String.singleton e) : c.loaderFormat.Uses he.marks where
  delimiter := h.delimiter
  terminator := rfl
  escape := by
    show Delimited.nonEmpty? c.loader.escape = _
    rw [Delimited.nonEmpty?, hescape, Delimited.isEmpty_singleton]
    rfl
  enclosure := h.format_enclosure

/-- Where there is an escape, the statement describes the records. -/
theorem readsBack_of_escape (h : c.LoadsQuoted) {e : Char} (he : CanEscape e)
    (hescape : c.loader.escape = String.singleton e) (s : String) :
    c.ReadsBack (Sql.quotedRules e) s := by
  have hquote : '"' ≠ e := fun heq => he.unmarked (by simp [← heq])
  refine h.readsBack_iff.2 fun rest hrest => ?_
  rw [(h.uses_marks he hescape).toList_escaped]
  refine LoadRules.readEnclosed_escaped rfl hquote (fun _ => he.meaning_of_special) ?_ hrest
  intro d _ hd
  simpa [Marks.special, CanEscape.marks] using hd

theorem escaped_of_no_escape (hescape : c.loader.escape = "") (s : String) :
    c.loaderFormat.escaped s = s := by
  have hnone : c.loaderFormat.escape = none := by
    show Delimited.nonEmpty? c.loader.escape = _
    rw [hescape]
    rfl
  rw [Delimited.Format.escaped, hnone]
  rfl

/-- Where there is none, it describes those texts that have no backslash. -/
theorem readsBack_iff_of_no_escape (h : c.LoadsQuoted) (hescape : c.loader.escape = "")
    {s : String} (hs : '"' ∉ s.toList) :
    c.ReadsBack (Sql.quotedRules '\\') s ↔ '\\' ∉ s.toList := by
  rw [h.readsBack_iff, escaped_of_no_escape hescape]
  constructor
  · exact fun hread => LoadRules.not_mem_of_readEnclosed rfl (hread ['\n'] (by decide))
  · intro hbackslash rest hrest
    have hrun : s.toList.flatMap (escapedChar '\\' fun _ => false) = s.toList :=
      List.flatMap_singleton' _
    have hread : (Sql.quotedRules '\\').readEnclosed '"'
        (s.toList.flatMap (escapedChar '\\' fun _ => false) ++ '"' :: rest) =
        some (s.toList, rest) := by
      refine LoadRules.readEnclosed_escaped rfl (by decide) nofun (fun d hd _ => ⟨?_, ?_⟩) hrest
      · rintro rfl
        exact hbackslash hd
      · rintro rfl
        exact hs hd
    rwa [hrun] at hread

/-- A null is read as one, with an escape or without. -/
theorem reads_null (h : c.LoadsQuoted) (hmarker : c.loader.nullMarker = none) {e : Char}
    (he : e ∉ ['\t', '\n', '"']) (hescape : c.loader.escape?.getD "\\" = String.singleton e)
    (hint : Hint) : c.Reads (Sql.quotedRules e) hint .null none := by
  obtain ⟨connection, hconnection, hfamily⟩ := h.connection
  have hnull : c.loaderFormat.nullMarker = String.singleton e ++ "N" := by
    rw [← hescape, loaderFormat, hconnection, Loader.format, hmarker]
    show connection.family.nullMarker _ = _
    rw [hfamily]
    rfl
  refine ⟨String.singleton e ++ "N", fun _ => by rw [← hnull]; rfl, fun rest hrest => ?_⟩
  simp only [List.mem_cons, not_or] at he
  rw [String.toList_append, String.toList_singleton, List.append_assoc]
  refine LoadRules.readField_null rfl ?_ ?_ hrest
  · exact fun hq => he.2.2.1 (Option.some.inj hq).symm
  · have htab : ¬ '\t' = e := fun heq => he.1 heq.symm
    have hline : ¬ '\n' = e := fun heq => he.2.1 heq.symm
    simp [LoadRules.ends, Sql.quotedRules, List.isPrefixOf, htab, hline]

end LoadsQuoted

/-- The load statement describes the records that are sent: under the rules that its clauses and the
defaults of the server set, a text with escapes is read back as it was, and a null as a null. The
exceptions are texts with a backslash where the configuration asks for no escape. The records then
have none, but for want of a clause the server takes the backslash for one. -/
theorem load_describes_records (hv : c.validate = .ok ()) (h : c.LoadsQuoted)
    (hescape : c.loader.escape = "" ∨
      ∃ e, c.loader.escape = String.singleton e ∧ CanEscape e) (path : String) :
    ∃ rules, c.LoadsBy path rules ∧
      (∀ s, (c.loader.escape = "" → '"' ∉ s.toList) →
        (c.ReadsBack rules s ↔ (c.loader.escape = "" → '\\' ∉ s.toList))) ∧
      (c.loader.nullMarker = none → ∀ hint, c.Reads rules hint .null none) := by
  rcases hescape with hnone | ⟨e, hsome, he⟩
  · have hdefault : c.loader.escape?.getD "\\" = String.singleton '\\' := by
      rw [Loader.escape?, hnone]
      rfl
    refine ⟨Sql.quotedRules '\\', h.loadsBy hv path hdefault, fun s hs => ?_, fun hmarker =>
      h.reads_null hmarker (by decide) hdefault⟩
    rw [h.readsBack_iff_of_no_escape hnone (hs hnone)]
    exact ⟨fun hplain _ => hplain, fun hplain => hplain hnone⟩
  · have hgiven : c.loader.escape?.getD "\\" = String.singleton e := by
      rw [Loader.escape?, hsome, Delimited.nonEmpty?, Delimited.isEmpty_singleton]
      rfl
    refine ⟨Sql.quotedRules e, h.loadsBy hv path hgiven, fun s hs => ?_, fun hmarker =>
      h.reads_null hmarker he.unmarked hgiven⟩
    refine iff_of_true (h.readsBack_of_escape he hsome s) fun hempty => ?_
    have hfalse := Delimited.isEmpty_singleton e
    rw [← hsome, hempty] at hfalse
    cases hfalse

end Step.Config

namespace Step

/-- A step that loads a text with escapes into a table, with this escape. -/
def loadingConfig (escape : String) : Config :=
  { version := "1.0", name := "loading"
    mapping := ⟨[⟨"path", "path", .escaped⟩]⟩
    connection := some { family := .mysql, database := "shop" }
    target := { table := "files" }
    loader := { escape } }

theorem loadingConfig_quoted (escape : String) : (loadingConfig escape).LoadsQuoted :=
  ⟨⟨_, rfl, rfl⟩, rfl, rfl, rfl⟩

theorem load_describes_records_hash : ∃ rules, (loadingConfig "#").LoadsBy "/tmp/pipe" rules ∧
    (loadingConfig "#").ReadsBack rules "C:\\temp\t\"#1\"\n" ∧
    (loadingConfig "#").Reads rules .escaped .null none := by
  have hvalid : (loadingConfig "#").validate = .ok () := rfl
  have hescape : CanEscape '#' := ⟨by decide, by decide⟩
  have hsome : (loadingConfig "#").loader.escape ≠ "" := by decide
  obtain ⟨rules, hrules, hread, hnull⟩ := Config.load_describes_records hvalid
    (loadingConfig_quoted "#") (.inr ⟨'#', by decide, hescape⟩) "/tmp/pipe"
  exact ⟨rules, hrules, (hread _ fun h => absurd h hsome).2 fun h => absurd h hsome, hnull rfl _⟩

/-- Without an escape the statement has no clause for it, the server takes the backslash, and a
path in a text comes to the table with a tab in it. -/
theorem load_loses_backslash : (loadingConfig "").validate = .ok () ∧
    (loadingConfig "").LoadsQuoted ∧ ∃ rules, (loadingConfig "").LoadsBy "/tmp/pipe" rules ∧
      '"' ∉ "C:\\temp".toList ∧ ¬ (loadingConfig "").ReadsBack rules "C:\\temp" ∧
      (loadingConfig "").loaderFormat.field .escaped none (.text "C:\\temp") =
        Bytes.ofText "\"C:\\temp\"" ∧
      rules.readField "\"C:\\temp\"\n".toList = some (some "C:\temp".toList, ['\n']) := by
  have hquoted := loadingConfig_quoted ""
  have hfield : (loadingConfig "").loaderFormat.field .escaped none (.text "C:\\temp") =
      Bytes.ofText "\"C:\\temp\"" := by
    rw [hquoted.field_text, Config.LoadsQuoted.escaped_of_no_escape rfl]
    rfl
  refine ⟨rfl, hquoted, Sql.quotedRules '\\', hquoted.loadsBy rfl _ rfl, by decide, ?_, hfield,
    by decide +kernel⟩
  rw [hquoted.readsBack_iff_of_no_escape rfl (by decide)]
  decide

end Step
end BulkLoad
