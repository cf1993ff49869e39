import BulkLoad.Proofs.Delimited.Escaping
import BulkLoad.Proofs.Fill

/-!
A reader of delimited text whose marks are single characters. It goes through the text once. A field
that starts with the enclosure runs to the next one, any other field to the next delimiter or
terminator, and whatever stands behind an escape is part of the field.
-/

namespace BulkLoad.Delimited

/-- A field as it stands in the text: without its enclosures, but with its escapes. -/
structure Span where
  enclosed : Bool
  raw : List Char
  deriving DecidableEq

/-- Where a reader is, with what it has seen of a field. -/
inductive Place where
  | start
  | bare (raw : List Char)
  | enclosed (raw : List Char)
  /-- Behind the second enclosure. -/
  | closed (raw : List Char)
  /-- Behind an escape, in a field with an enclosure or in one without. -/
  | literal (enclosed : Bool) (raw : List Char)
  deriving DecidableEq

/-- A reader amid a text: the records and the fields it has behind it. -/
structure Scan where
  records : List (List Span) := []
  fields : List Span := []
  place : Place := .start
  deriving DecidableEq

namespace Marks

/-- Ends a field at a delimiter, and a record with it at a terminator. -/
def close (m : Marks) (s : Scan) (span : Span) (c : Char) : Option Scan :=
  if c = m.delimiter then some ⟨s.records, s.fields ++ [span], .start⟩
  else if c = m.terminator then some ⟨s.records ++ [s.fields ++ [span]], [], .start⟩
  else none

/-- Takes a character of a field that has no enclosure. -/
def stepBare (m : Marks) (s : Scan) (raw : List Char) (c : Char) : Option Scan :=
  if c = m.escape then some { s with place := .literal false (raw ++ [c]) }
  else if c ∈ [m.delimiter, m.terminator] then m.close s ⟨false, raw⟩ c
  else some { s with place := .bare (raw ++ [c]) }

/-- Takes a character of a field that has one. -/
def stepEnclosed (m : Marks) (s : Scan) (raw : List Char) (c : Char) : Option Scan :=
  if c = m.escape then some { s with place := .literal true (raw ++ [c]) }
  else if c ∈ m.enclosure then some { s with place := .closed raw }
  else some { s with place := .enclosed (raw ++ [c]) }

def step (m : Marks) (s : Scan) (c : Char) : Option Scan :=
  match s.place with
  | .start =>
    if c ∈ m.enclosure then some { s with place := .enclosed [] } else m.stepBare s [] c
  | .bare raw => m.stepBare s raw c
  | .enclosed raw => m.stepEnclosed s raw c
  | .closed raw => m.close s ⟨true, raw⟩ c
  | .literal true raw => some { s with place := .enclosed (raw ++ [c]) }
  | .literal false raw => some { s with place := .bare (raw ++ [c]) }

/-- The records of a text that ends behind a record. -/
def read (m : Marks) (text : String) : Option (List (List Span)) :=
  match text.toList.foldlM m.step {} with
  | some ⟨records, [], .start⟩ => some records
  | _ => none

end Marks

/-- A run of characters that nothing ends: each of the characters that could stands behind an
escape. -/
inductive Within (escape : Char) (stops : List Char) : List Char → Prop
  | nil : Within escape stops []
  | plain {c : Char} {cs : List Char} (hescape : c ≠ escape) (hstops : c ∉ stops)
      (h : Within escape stops cs) : Within escape stops (c :: cs)
  | literal {c : Char} {cs : List Char} (h : Within escape stops cs) :
      Within escape stops (escape :: c :: cs)

theorem Within.escaped {escape : Char} {stops : List Char} {special : Char → Bool}
    (hescape : special escape = true) (hstops : ∀ c ∈ stops, special c = true) (cs : List Char) :
    Within escape stops (cs.flatMap (escapedChar escape special)) := by
  induction cs with
  | nil => exact .nil
  | cons c rest ih =>
    rw [List.flatMap_cons]
    cases hc : special c with
    | true =>
      rw [escapedChar_special hc]
      exact .literal ih
    | false =>
      rw [escapedChar_plain hc]
      refine .plain ?_ ?_ ih
      · rintro rfl
        simp [hc] at hescape
      · intro hmem
        simp [hstops c hmem] at hc

theorem Within.of_plain {escape : Char} {stops cs : List Char}
    (h : ∀ c ∈ cs, c ≠ escape ∧ c ∉ stops) : Within escape stops cs := by
  induction cs with
  | nil => exact .nil
  | cons c rest ih =>
    obtain ⟨hescape, hstops⟩ := h c List.mem_cons_self
    exact .plain hescape hstops (ih fun c hc => h c (List.mem_cons_of_mem _ hc))

/-- How a field stands in a text, with its enclosures. -/
inductive Marks.Spells (m : Marks) : Span → List Char → Prop
  | bare {cs : List Char} (h : Within m.escape [m.delimiter, m.terminator] cs)
      (hstart : ∀ q ∈ m.enclosure, cs.head? ≠ some q) : Spells m ⟨false, cs⟩ cs
  | enclosed {q : Char} {cs : List Char} (hq : m.enclosure = some q) (h : Within m.escape [q] cs) :
      Spells m ⟨true, cs⟩ (q :: (cs ++ [q]))

namespace Marks

variable {m : Marks} {records : List (List Span)} {fields : List Span}

theorem enclosure_ne_escape {q : Char} (h : m.enclosure = some q) : q ≠ m.escape := by
  have hdistinct := m.distinct
  rw [h] at hdistinct
  grind

theorem stop_ne_escape {c : Char} (h : c ∈ [m.delimiter, m.terminator]) : c ≠ m.escape := by
  have hdistinct := m.distinct
  grind

theorem stop_not_mem_enclosure {c : Char} (h : c ∈ [m.delimiter, m.terminator]) :
    c ∉ m.enclosure := by
  have hdistinct := m.distinct
  intro hc
  rw [Option.mem_def.1 hc] at hdistinct
  grind

theorem terminator_ne_delimiter : m.terminator ≠ m.delimiter := by
  have hdistinct := m.distinct
  grind

theorem step_start {c : Char} (h : c ∉ m.enclosure) :
    m.step ⟨records, fields, .start⟩ c = m.step ⟨records, fields, .bare []⟩ c := by
  simp only [step, if_neg h]
  rfl

/-- Between enclosures the reader takes a run as it is. -/
theorem foldlM_enclosed {q : Char} {cs : List Char} (hq : m.enclosure = some q)
    (h : Within m.escape [q] cs) (raw : List Char) :
    cs.foldlM m.step ⟨records, fields, .enclosed raw⟩ =
      some ⟨records, fields, .enclosed (raw ++ cs)⟩ := by
  induction h generalizing raw with
  | nil => simp
  | @plain c cs hescape hstops _ ih =>
    have hc : ¬q = c := by simpa [eq_comm] using hstops
    simp [step, stepEnclosed, hescape, hq, hc, ih]
  | literal _ ih => simp [step, stepEnclosed, ih]

theorem foldlM_bare {cs : List Char} (h : Within m.escape [m.delimiter, m.terminator] cs)
    (raw : List Char) :
    cs.foldlM m.step ⟨records, fields, .bare raw⟩ =
      some ⟨records, fields, .bare (raw ++ cs)⟩ := by
  induction h generalizing raw with
  | nil => simp
  | plain hescape hstops _ ih => simp [step, stepBare, hescape, hstops, ih]
  | literal _ ih => simp [step, stepBare, ih]

/-- A field, and what ends it. -/
theorem foldlM_field {span : Span} {cs : List Char} {c : Char} (h : m.Spells span cs)
    (hc : c ∈ [m.delimiter, m.terminator]) :
    (cs ++ [c]).foldlM m.step ⟨records, fields, .start⟩ =
      m.close ⟨records, fields, .start⟩ span c := by
  have hescape := stop_ne_escape hc
  cases h with
  | @bare cs h hstart =>
    -- At its start a field without enclosure is read as in its midst.
    have hmidst : (cs ++ [c]).foldlM m.step ⟨records, fields, .start⟩ =
        (cs ++ [c]).foldlM m.step ⟨records, fields, .bare []⟩ := by
      cases cs with
      | nil => 
        simp only [List.nil_append, List.foldlM_cons, step_start (stop_not_mem_enclosure hc)]
      | cons d rest =>
        have hd : d ∉ m.enclosure := fun hd => hstart d hd rfl
        simp only [List.cons_append, List.foldlM_cons, step_start hd]
    rw [hmidst, List.foldlM_append, foldlM_bare h]
    simp [step, stepBare, hescape, hc, close]
  | @enclosed q cs hq h =>
    have hqe := enclosure_ne_escape hq
    rw [List.cons_append, List.foldlM_cons]
    simp [step, hq, List.foldlM_append, foldlM_enclosed hq h, stepEnclosed, hqe, close]

theorem close_delimiter (s : Scan) (span : Span) :
    m.close s span m.delimiter = some ⟨s.records, s.fields ++ [span], .start⟩ :=
  if_pos rfl

theorem close_terminator (s : Scan) (span : Span) :
    m.close s span m.terminator = some ⟨s.records ++ [s.fields ++ [span]], [], .start⟩ := by
  rw [close, if_neg terminator_ne_delimiter, if_pos rfl]

/-- A record: fields with delimiters between them, and a terminator. -/
theorem foldlM_record {spans : List Span} {parts : List (List Char)}
    (h : List.Forall₂ m.Spells spans parts) (hne : parts ≠ []) :
    ([m.delimiter].intercalate parts ++ [m.terminator]).foldlM m.step ⟨records, fields, .start⟩ =
      some ⟨records ++ [fields ++ spans], [], .start⟩ := by
  induction h generalizing fields with
  | nil => exact absurd rfl hne
  | @cons span part spans parts hspan hrest ih =>
    rw [intercalate_cons]
    cases hrest with
    | nil =>
      have hpart : part ++ (if ([] : List (List Char)).isEmpty then [] else [m.delimiter]) ++
          [m.delimiter].intercalate [] ++ [m.terminator] = part ++ [m.terminator] := by
        simp [List.intercalate]
      rw [hpart, foldlM_field hspan (by simp), close_terminator]
    | cons hnext hrest =>
      have hend : m.delimiter ∈ [m.delimiter, m.terminator] := by simp
      simp only [List.isEmpty_cons, Bool.false_eq_true, if_false]
      rw [List.append_assoc, List.foldlM_append, foldlM_field hspan hend, close_delimiter]
      show List.foldlM m.step ⟨records, fields ++ [span], .start⟩ _ = _
      rw [ih (List.cons_ne_nil _ _), List.append_assoc, List.singleton_append]

/-- A text: its records one after the other. -/
theorem read_records {text : List (List Span)} {parts : List (List (List Char))}
    (h : List.Forall₂ (List.Forall₂ m.Spells) text parts) (hne : ∀ p ∈ parts, p ≠ []) :
    m.read (String.ofList (parts.flatMap fun p =>
      [m.delimiter].intercalate p ++ [m.terminator])) = some text := by
  have hrun : ∀ records, (parts.flatMap fun p =>
      [m.delimiter].intercalate p ++ [m.terminator]).foldlM m.step ⟨records, [], .start⟩ =
        some ⟨records ++ text, [], .start⟩ := by
    induction h with
    | nil => simp
    | @cons spans p text parts hrecord hrest ih =>
      intro records
      have hp : p ≠ [] := hne p List.mem_cons_self
      rw [List.flatMap_cons, List.foldlM_append, foldlM_record hrecord hp]
      show List.foldlM m.step ⟨records ++ [spans], [], .start⟩ _ = _
      rw [ih fun q hq => hne q (List.mem_cons_of_mem _ hq), List.append_assoc,
        List.singleton_append]
  have hread := hrun []
  rw [List.nil_append] at hread
  rw [read, String.toList_ofList, hread]

end Marks
end BulkLoad.Delimited
