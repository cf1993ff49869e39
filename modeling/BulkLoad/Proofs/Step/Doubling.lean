import BulkLoad.Proofs.Delimited.Escaping
import BulkLoad.Proofs.Text
import BulkLoad.Proofs.Step.Copying

/-!
Texts whose enclosure is its own escape, as comma-separated values have it. A reader of such a text
takes two quotes for one. Escaping goes over a text twice, once for the escape and once for the
enclosure, and the second pass finds the quotes that the first one has put there. So what is read is
the text with each of its quotes doubled, and that is the text itself only if it has none.
-/

namespace BulkLoad

open Text (doubledChars readQuoted)

namespace Delimited

/-- The enclosure is a single character, and its own escape. -/
structure Format.Doubles (f : Format) (q : Char) : Prop where
  enclosure : f.enclosure = some (String.singleton q)
  escape : f.escape = some (String.singleton q)

theorem flatMap_escapedChar_self (q : Char) (cs : List Char) :
    cs.flatMap (escapedChar q (· == q)) = doubledChars q cs := by
  refine congrArg cs.flatMap (funext fun c => ?_)
  by_cases hc : c = q
  · simp [escapedChar, hc]
  · simp [escapedChar, hc]

namespace Format.Doubles

variable {f : Format} {q : Char}

/-- The second pass doubles what the first one has doubled already. -/
theorem toList_escaped (h : f.Doubles q) (s : String) :
    (f.escaped s).toList = doubledChars q (doubledChars q s.toList) := by
  unfold Format.escaped
  rw [h.escape, h.enclosure]
  simp only [Option.filter, isEmpty_singleton, Bool.not_false, if_true, toList_escapeText,
    flatMap_escapedChar_self]

theorem enclosed_escaped (h : f.Doubles q) (s : String) :
    f.enclosed (f.escaped s) =
      String.ofList (q :: (doubledChars q (doubledChars q s.toList) ++ [q])) := by
  rw [← String.toList_inj, Format.enclosed, h.enclosure]
  simp [h.toList_escaped]

/-- Reading an encoded text ends at its enclosure, and gives the text with its quotes doubled. So
the text is read back exactly if there is no quote in it. -/
theorem read_escaped (h : f.Doubles q) (precision : Option UInt32) (s : String) : ∃ body,
    f.field .escaped precision (.text s) = Bytes.ofText (String.ofList (q :: (body ++ [q]))) ∧
    ∀ rest, rest.head? ≠ some q →
      readQuoted q (body ++ q :: rest) = some (doubledChars q s.toList, rest) ∧
      (readQuoted q (body ++ q :: rest) = some (s.toList, rest) ↔ q ∉ s.toList) := by
  refine ⟨doubledChars q (doubledChars q s.toList), ?_, fun rest hrest => ?_⟩
  · show Bytes.ofText (f.enclosed (f.escaped s)) = _
    rw [h.enclosed_escaped]
  · have hread := Text.readQuoted_doubledChars hrest (doubledChars q s.toList)
    refine ⟨hread, ?_⟩
    rw [hread, Option.some_inj, Prod.mk_inj, and_iff_left rfl]
    exact Text.doubledChars_eq_self_iff

theorem read_escaped_plain :
    let f : Format := { enclosure := some "'", escape := some "'" }
    f.Doubles '\'' ∧ ∃ body,
      f.field .escaped none (.text "a\"b") =
        Bytes.ofText (String.ofList ('\'' :: (body ++ ['\'']))) ∧
      readQuoted '\'' (body ++ ['\'', '\n']) = some ("a\"b".toList, ['\n']) := by
  have hdoubles : ({ enclosure := some "'", escape := some "'" } : Format).Doubles '\'' :=
    ⟨rfl, rfl⟩
  obtain ⟨body, hbody, hread⟩ := read_escaped hdoubles none "a\"b"
  exact ⟨hdoubles, body, hbody, (hread ['\n'] (by decide)).2.2 (by decide)⟩

end Format.Doubles
end Delimited

open Delimited (Format)

namespace Sql.CopyRules

variable {r : CopyRules} {cs value rest : List Char}

/-- With the quote for an escape, these rules read what stands between quotes in the same way. -/
theorem span_of_readQuoted (hescape : r.escape = r.quote) (hrest : r.ends rest = true)
    (h : readQuoted r.quote cs = some (value, rest)) :
    r.span true cs = some ⟨value, false, rest⟩ := by
  fun_induction readQuoted r.quote cs generalizing value with
  | case1 => cases h
  | case2 =>
    cases h
    simp [span]
  | case3 => cases h
  | case4 ds ih =>
    obtain ⟨⟨inner, after⟩, hinner, hvalue⟩ := Option.map_eq_some_iff.1 h
    cases hvalue
    simp [span, hescape, ih hinner, Span.push]
  | case5 d ds hd =>
    cases h
    simp [span, hescape, hd, hrest]
  | case6 c d ds hc ih =>
    obtain ⟨⟨inner, after⟩, hinner, hvalue⟩ := Option.map_eq_some_iff.1 h
    cases hvalue
    simp [span, hescape, hc, ih hinner, Span.push]

theorem readField_of_readQuoted (hescape : r.escape = r.quote) (hquote : r.ends [r.quote] = false)
    (hrest : r.ends rest = true) (h : readQuoted r.quote cs = some (value, rest)) :
    r.readField (r.quote :: cs) = some (some value, rest) := by
  rw [readField, span_quote hquote, span_of_readQuoted hescape hrest h]
  rfl

end Sql.CopyRules

namespace Step

open Sql (CopyRules)

/-- A copy statement whose escape is the quote has its texts come to the table with their quotes
doubled. -/
theorem Config.copy_doubles {c : Config} {path : String} {q : Char} (hv : c.validate = .ok ())
    (h : c.LoadsByCopy) (hcommand : ∃ command, c.loadCommand path = .ok command)
    (hdoubles : c.loaderFormat.Doubles q)
    (hdelimiter : c.loader.delimiter ≠ String.singleton q) (hline : q ≠ '\n') :
    ∃ rules, c.CopiesBy path rules ∧ ∀ s, ∃ text, c.Sends .escaped (.text s) text ∧
      ∀ rest, rules.ends rest = true →
        rules.readField (text.toList ++ rest) = some (some (doubledChars q s.toList), rest) := by
  obtain ⟨rules, hmarks⟩ := h.exists_markedBy hv hcommand
  have hquote : rules.quote = q := by
    have hmark := hmarks.quote
    rw [show c.loader.enclosure? = some (String.singleton q) from hdoubles.enclosure] at hmark
    exact (String.singleton_inj.1 hmark).symm
  have hescape : rules.escape = q := by
    have hmark := hmarks.escape
    rw [show c.loader.escape? = some (String.singleton q) from hdoubles.escape] at hmark
    exact (String.singleton_inj.1 hmark).symm
  have hmark : q ≠ rules.delimiter := by
    rintro rfl
    exact hdelimiter hmarks.delimiter
  have hends : rules.ends [q] = false := by
    simp [CopyRules.ends, hmark, hline]
  refine ⟨rules, h.copiesBy hv hcommand hmarks, fun s => ⟨_, fun _ => rfl, fun rest hrest => ?_⟩⟩
  show rules.readField ((c.loaderFormat.enclosed (c.loaderFormat.escaped s)).toList ++ rest) = _
  -- What follows the field is no quote, since a field does not end at one.
  have hhead : rest.head? ≠ some q := by
    cases rest with
    | nil => nofun
    | cons d ds =>
      rintro hd
      cases hd
      rw [show rules.ends (q :: ds) = rules.ends [q] from rfl, hends] at hrest
      cases hrest
  subst hquote
  rw [hdoubles.enclosed_escaped, String.toList_ofList, List.cons_append, List.append_assoc]
  exact CopyRules.readField_of_readQuoted hescape hends hrest
    (Text.readQuoted_doubledChars hhead _)

/-- A step that copies texts whose enclosure is its own escape. -/
def quotingConfig : Config :=
  { version := "1.0", name := "quoting"
    mapping := ⟨[⟨"a", "a", .escaped⟩]⟩
    connection := some { family := .postgres, database := "shop" }
    target := { table := "t" }
    loader := { enclosure := "\"", escape := "\"" } }

/-- One quote of a text is four in its field, and two when that is read. -/
theorem quote_not_read_back : quotingConfig.validate = .ok () ∧
    (∃ command, quotingConfig.loadCommand "/tmp/pipe" = .ok command) ∧
    quotingConfig.loaderFormat.Doubles '"' ∧
    quotingConfig.Sends .escaped (.text "a\"b") "\"a\"\"\"\"b\"" ∧
    readQuoted '"' "a\"\"\"\"b\"\n".toList = some ("a\"\"b".toList, ['\n']) ∧
    readQuoted '"' "a\"\"\"\"b\"\n".toList ≠ some ("a\"b".toList, ['\n']) := by
  exact ⟨rfl, ⟨_, rfl⟩, ⟨rfl, rfl⟩, fun _ => rfl, by decide +kernel, by decide +kernel⟩

end Step
end BulkLoad
