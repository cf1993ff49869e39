import BulkLoad.Proofs.Delimited.Escaping
import BulkLoad.Proofs.Dialect.LoadTokens
import Mathlib.Data.List.Basic

/-!
The rules by which a MySQL server reads a file that a load statement names, as they are documented.
They are in the clauses of the statement, and where it has no clause there is a default: fields end
at a tab, lines at a line feed, nothing encloses a field, and the backslash is the escape.
-/

namespace BulkLoad.Sql

/-- How a file is taken apart into fields. -/
structure LoadRules where
  fieldEnd : List Char := ['\t']
  enclosure : Option Char := none
  escape : Option Char := some '\\'
  lineEnd : List Char := ['\n']
  deriving DecidableEq

namespace LoadRules

/-- The tokens behind these words, if the words are there. -/
def after? (ws : List String) (ts : List Token) : Option (List Token) := (words ws).isPrefixOf? ts

/-- Words that may be left out. -/
def skip (ws : List String) (ts : List Token) : List Token := (after? ws ts).getD ts

/-- The value of a clause, or its default, and the tokens behind it. -/
def clause (ws : List String) (default : List Char) (ts : List Token) : List Char × List Token :=
  match after? ws ts with
  | some (.literal value :: rest) => (value, rest)
  | _ => (default, ts)

def literal? : List Token → Option (List Token)
  | .literal _ :: rest => some rest
  | _ => none

/-- The tokens behind the name of a table, with its schema or without. -/
def table? : List Token → Option (List Token)
  | .name _ :: .mark '.' :: .name _ :: rest => some rest
  | .name _ :: rest => some rest
  | _ => none

/-- The value of a clause that takes a single character, or none. -/
def single? : List Char → Option (Option Char)
  | [] => some none
  | [c] => some (some c)
  | _ => none

/-- The rules that the clauses of a load statement set. -/
def ofClauses? (ts : List Token) : Option LoadRules := do
  let (fieldEnd, ts) := clause ["TERMINATED", "BY"] ['\t'] (skip ["FIELDS"] ts)
  let (enclosure, ts) := clause ["ENCLOSED", "BY"] [] (skip ["OPTIONALLY"] ts)
  let (escape, ts) := clause ["ESCAPED", "BY"] ['\\'] ts
  let (lineEnd, _) := clause ["TERMINATED", "BY"] ['\n'] (skip ["LINES"] ts)
  pure ⟨fieldEnd, ← single? enclosure, ← single? escape, lineEnd⟩

/-- The rules that a load statement sets; its clauses are behind the name of the table. -/
def ofTokens? (ts : List Token) : Option LoadRules := do
  let ts ← literal? (← after? ["LOAD", "DATA", "LOCAL", "INFILE"] ts)
  ofClauses? (← table? (← after? ["INTO", "TABLE"] (skip ["REPLACE"] (skip ["IGNORE"] ts))))

variable (r : LoadRules)

/-- A field ends here. -/
def ends (cs : List Char) : Bool :=
  [r.fieldEnd, r.lineEnd].any fun e => !e.isEmpty && e.isPrefixOf cs

/-- One character more before what has been read. -/
def push (c : Char) (read : List Char × List Char) : List Char × List Char := (c :: read.1, read.2)

/-- The value of a field behind its enclosure, and what follows the field. An enclosure ends the
field where a field can end; elsewhere it belongs to the field, and two of them stand for one. -/
def readEnclosed (q : Char) : List Char → Option (List Char × List Char)
  | [] => none
  | c :: cs =>
    if r.escape = some c then
      match cs with
      | [] => none
      | d :: cs => (readEnclosed q cs).map (push (meaning d))
    else if c = q then
      if r.ends cs then some ([], cs)
      else match cs with
        | [] => some ([], [])
        | d :: cs =>
          if d = q then (readEnclosed q cs).map (push q)
          else (readEnclosed q (d :: cs)).map (push q)
    else (readEnclosed q cs).map (push c)

/-- A field without enclosure, with its escapes, and what follows it. -/
def spanBare : List Char → List Char × List Char
  | [] => ([], [])
  | c :: cs =>
    if r.ends (c :: cs) then ([], c :: cs)
    else if r.escape = some c then
      match cs with
      | [] => ([c], [])
      | d :: cs => push c (push d (spanBare cs))
    else push c (spanBare cs)

/-- The value of characters that may be behind escapes. -/
def resolved : List Char → List Char
  | c :: d :: cs => if r.escape = some c then meaning d :: resolved cs else c :: resolved (d :: cs)
  | cs => cs

/-- A field without enclosure that stands for null. -/
def isNull (raw : List Char) : Bool :=
  r.escape.any (fun e => raw == [e, 'N']) || r.enclosure.isSome && raw == "NULL".toList

/-- The value of a field, none for null, and what follows the field. -/
def readField (cs : List Char) : Option (Option (List Char) × List Char) :=
  let bare := r.spanBare cs
  let unenclosed := (if r.isNull bare.1 then none else some (r.resolved bare.1), bare.2)
  match r.enclosure, cs with
  | some q, c :: rest =>
    if c = q then (r.readEnclosed q rest).map fun read => (some read.1, read.2)
    else some unenclosed
  | _, _ => some unenclosed

end LoadRules

namespace LoadRules

theorem after?_words (ws : List String) (ts : List Token) :
    after? ws (words ws ++ ts) = some ts :=
  List.isPrefixOf?_eq_some_iff_append_eq.2 rfl

/-- Replacing and ignoring are both left out before the table. -/
theorem skip_modeTokens (o : LoadOrder) (rest : List Token) :
    skip ["REPLACE"] (skip ["IGNORE"] (modeTokens o ++ (words ["INTO", "TABLE"] ++ rest))) =
      words ["INTO", "TABLE"] ++ rest := by
  unfold modeTokens
  split
  · rfl
  split
  · rfl
  · rfl

theorem table?_tableTokens (schemaName : Option String) (table w : String) (ws : List String)
    (rest : List Token) :
    table? (tableTokens schemaName table ++ (words (w :: ws) ++ rest)) =
      some (words (w :: ws) ++ rest) := by
  cases schemaName <;> rfl

theorem ofClauses?_clauseTokens (delimiter : List Char) (enclosure escape : Option String)
    (rest : List Token) :
    ofClauses? (words ["FIELDS", "TERMINATED", "BY"] ++ .literal delimiter ::
      (clauseTokens (words ["OPTIONALLY", "ENCLOSED", "BY"]) enclosure ++
      (clauseTokens (words ["ESCAPED", "BY"]) escape ++
      (words ["LINES", "TERMINATED", "BY"] ++ .literal ['\n'] :: rest)))) =
    (single? (enclosure.getD "").toList).bind fun q =>
      (single? (escape.getD "\\").toList).bind fun e => some ⟨delimiter, q, e, ['\n']⟩ := by
  cases enclosure <;> cases escape <;> rfl

/-- The clauses of a load statement set the marks of its order; without an escape the default one
is in force. -/
theorem ofTokens?_mysqlStatement {o : LoadOrder} {enclosure escape : Option Char}
    (henclosure : single? (o.enclosure.getD "").toList = some enclosure)
    (hescape : single? (o.escape.getD "\\").toList = some escape) :
    ofTokens? (tokens o.mysqlStatement) =
      some ⟨o.delimiter.toList, enclosure, escape, ['\n']⟩ := by
  rw [tokens_mysqlStatement, loadTokens, ofTokens?, after?_words]
  simp only [literal?, Option.bind_eq_bind, Option.bind_some, skip_modeTokens, after?_words,
    table?_tableTokens, ofClauses?_clauseTokens, henclosure, hescape]

variable {r : LoadRules}

theorem readEnclosed_escape {q c d : Char} {cs : List Char} (h : r.escape = some c) :
    r.readEnclosed q (c :: d :: cs) = (r.readEnclosed q cs).map (push (meaning d)) := by
  rw [readEnclosed.eq_def]
  simp [h]

theorem readEnclosed_end {q : Char} {cs : List Char} (h : r.escape ≠ some q)
    (hends : r.ends cs = true) : r.readEnclosed q (q :: cs) = some ([], cs) := by
  rw [readEnclosed.eq_def]
  simp [h, hends]

theorem readEnclosed_plain {q c : Char} {cs : List Char} (h : r.escape ≠ some c) (hc : c ≠ q) :
    r.readEnclosed q (c :: cs) = (r.readEnclosed q cs).map (push c) := by
  rw [readEnclosed.eq_def]
  simp [h, hc]

/-- A run with escapes is read back between enclosures, if what needs an escape has one and keeps
its meaning behind it. -/
theorem readEnclosed_escaped {e q : Char} {special : Char → Bool} {s rest : List Char}
    (he : r.escape = some e) (hq : q ≠ e) (hmeaning : ∀ c, special c = true → meaning c = c)
    (hs : ∀ c ∈ s, special c = false → c ≠ e ∧ c ≠ q) (hrest : r.ends rest = true) :
    r.readEnclosed q (s.flatMap (Delimited.escapedChar e special) ++ q :: rest) =
      some (s, rest) := by
  have hne : ∀ {c}, c ≠ e → r.escape ≠ some c := by
    intro c hc
    rw [he]
    exact fun h => hc (Option.some.inj h).symm
  induction s with
  | nil => exact readEnclosed_end (hne hq) hrest
  | cons c s ih =>
    have hread := ih fun d hd => hs d (List.mem_cons_of_mem _ hd)
    rw [List.flatMap_cons, List.append_assoc]
    cases hc : special c with
    | true =>
      rw [Delimited.escapedChar_special hc, List.cons_append, List.singleton_append,
        readEnclosed_escape he, hread, hmeaning c hc]
      rfl
    | false =>
      obtain ⟨hce, hcq⟩ := hs c List.mem_cons_self hc
      rw [Delimited.escapedChar_plain hc, List.singleton_append, readEnclosed_plain (hne hce) hcq,
        hread]
      rfl

theorem exists_of_map_push {c : Char} {read : Option (List Char × List Char)}
    {value after : List Char} (h : read.map (push c) = some (value, after)) :
    ∃ value', read = some (value', after) ∧ value = c :: value' := by
  obtain ⟨⟨value', after'⟩, hread, hpush⟩ := Option.map_eq_some_iff.1 h
  cases hpush
  exact ⟨value', hread, rfl⟩

/-- A value is shorter than the characters it is read from, by the enclosure at least. Where it is
by no more, none of them was an escape. -/
structure Shorter (r : LoadRules) (cs value after : List Char) : Prop where
  shorter : value.length + after.length < cs.length
  exact : cs.length ≤ value.length + after.length + 1 →
    ∀ c ∈ cs.take value.length, r.escape ≠ some c

namespace Shorter

variable {cs value after : List Char} {c d x : Char}

/-- One character for two. -/
theorem pair (h : r.Shorter cs value after) : r.Shorter (c :: d :: cs) (x :: value) after := by
  have hlength := h.shorter
  constructor
  · simp only [List.length_cons]
    omega
  · intro hle
    simp only [List.length_cons] at hle
    omega

/-- One character for one that is no escape. -/
theorem one (h : r.Shorter cs value after) (hc : r.escape ≠ some c) :
    r.Shorter (c :: cs) (x :: value) after := by
  have hlength := h.shorter
  constructor
  · simp only [List.length_cons]
    omega
  · intro hle d hd
    simp only [List.length_cons, List.take_succ_cons, List.mem_cons] at hle hd
    rcases hd with rfl | hd
    · exact hc
    · exact h.exact (by omega) d hd

end Shorter

theorem readEnclosed_shorter {q : Char} {cs value after : List Char}
    (h : r.readEnclosed q cs = some (value, after)) : r.Shorter cs value after := by
  fun_induction readEnclosed r q cs generalizing value after with
  | case1 | case2 => cases h
  | case3 c hescape d cs ih =>
    obtain ⟨value, hread, rfl⟩ := exists_of_map_push h
    exact (ih hread).pair
  | case4 cs hends hescape =>
    cases h
    exact ⟨by simp, fun _ c hc => absurd hc (by simp)⟩
  | case5 =>
    cases h
    exact ⟨by simp, fun _ c hc => absurd hc (by simp)⟩
  | case6 cs hescape hends ih =>
    obtain ⟨value, hread, rfl⟩ := exists_of_map_push h
    exact (ih hread).pair
  | case7 d cs hne hescape hends ih =>
    obtain ⟨value, hread, rfl⟩ := exists_of_map_push h
    exact (ih hread).one hescape
  | case8 c cs hescape hne ih =>
    obtain ⟨value, hread, rfl⟩ := exists_of_map_push h
    exact (ih hread).one hescape

/-- A run that is read back as it stands has no escape in it. -/
theorem not_mem_of_readEnclosed {e q : Char} {s rest : List Char} (he : r.escape = some e)
    (h : r.readEnclosed q (s ++ q :: rest) = some (s, rest)) : e ∉ s := by
  intro hmem
  have hplain := (readEnclosed_shorter h).exact (by simp; omega)
  rw [List.take_left] at hplain
  exact hplain e hmem he

theorem spanBare_of_ends {cs : List Char} (h : r.ends cs = true) : r.spanBare cs = ([], cs) := by
  cases cs with
  | nil => rfl
  | cons c cs => rw [spanBare.eq_def]; simp [h]

/-- The letter N behind an escape is null. -/
theorem readField_null {e : Char} {rest : List Char} (he : r.escape = some e)
    (hq : r.enclosure ≠ some e) (hmark : r.ends (e :: 'N' :: rest) = false)
    (hrest : r.ends rest = true) : r.readField (e :: 'N' :: rest) = some (none, rest) := by
  have hspan : r.spanBare (e :: 'N' :: rest) = ([e, 'N'], rest) := by
    rw [spanBare.eq_def]
    simp [hmark, he, spanBare_of_ends hrest, push]
  have hnull : r.isNull [e, 'N'] = true := by simp [isNull, he]
  unfold readField
  rw [hspan]
  simp only [hnull, if_true]
  split
  · rename_i q c rest' henclosure hcs
    cases hcs
    rw [if_neg]
    rintro rfl
    exact hq henclosure
  · rfl

end LoadRules
end BulkLoad.Sql
