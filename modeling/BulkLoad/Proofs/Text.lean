import BulkLoad.Text
import Mathlib.Data.List.TakeWhile

/-!
Texts that are trimmed, and texts between quotes. Trimming takes the blanks at both ends and nothing
else. Between quotes every quote is written twice; a reader takes two quotes for one, so that it
finds the text as it was and stops at its end.
-/

namespace BulkLoad.Text

section Trimming

variable {p : Char → Bool}

theorem head?_dropWhile {cs : List Char} {c : Char} (h : (cs.dropWhile p).head? = some c) :
    p c = false := by
  have hnot := List.head?_dropWhile_not p cs
  rwa [h] at hnot

theorem dropTrailing_cut (p : Char → Bool) (cs : List Char) : ∃ back,
    cs = dropTrailing p cs ++ back ∧ (∀ c ∈ back, p c = true) ∧
      ∀ c, (dropTrailing p cs).getLast? = some c → p c = false := by
  refine ⟨(cs.reverse.takeWhile p).reverse, ?_, fun c hc => ?_, fun c hc => ?_⟩
  · rw [dropTrailing, ← List.reverse_append, List.takeWhile_append_dropWhile, List.reverse_reverse]
  · exact List.mem_takeWhile_imp (List.mem_reverse.1 hc)
  · rw [dropTrailing, List.getLast?_reverse] at hc
    exact head?_dropWhile hc

/-- A text and what is left of it when it is trimmed. -/
structure Trimmed (text : List Char) (front name back : List Char) : Prop where
  cut : text = front ++ (name ++ back)
  before : ∀ c ∈ front, isBlank c = true
  behind : ∀ c ∈ back, isBlank c = true
  begins : ∀ c, name.head? = some c → isBlank c = false
  ends : ∀ c, name.getLast? = some c → isBlank c = false

theorem exists_trimmed (s : String) :
    ∃ front back, Trimmed s.toList front (trim s).toList back := by
  obtain ⟨back, hback, hbehind, hends⟩ := dropTrailing_cut isBlank (s.toList.dropWhile isBlank)
  rw [trim, String.toList_ofList]
  refine ⟨s.toList.takeWhile isBlank, back, ?_, ?_, hbehind, ?_, hends⟩
  · rw [← hback, List.takeWhile_append_dropWhile]
  · exact fun c hc => List.mem_takeWhile_imp hc
  · intro c hc
    obtain ⟨rest, hrest⟩ := List.head?_eq_some_iff.1 hc
    rw [hrest] at hback
    exact head?_dropWhile (congrArg List.head? hback)

end Trimming

/-- Reads from behind an opening quote up to the one that ends the text, and leaves what follows.
Two quotes stand for one. -/
def readQuoted (q : Char) : List Char → Option (List Char × List Char)
  | [] => none
  | [c] => if c = q then some ([], []) else none
  | c :: d :: cs =>
    if c = q then
      if d = q then (readQuoted q cs).map (Prod.map (q :: ·) id) else some ([], d :: cs)
    else (readQuoted q (d :: cs)).map (Prod.map (c :: ·) id)

variable {q : Char} {cs rest : List Char}

theorem doubledChars_quote (q : Char) (cs : List Char) :
    doubledChars q (q :: cs) = q :: q :: doubledChars q cs := by
  simp [doubledChars]

theorem doubledChars_plain {c : Char} (h : c ≠ q) (cs : List Char) :
    doubledChars q (c :: cs) = c :: doubledChars q cs := by
  simp [doubledChars, h]

theorem length_doubledChars (q : Char) (cs : List Char) :
    (doubledChars q cs).length = cs.length + cs.count q := by
  induction cs with
  | nil => rfl
  | cons c cs ih =>
    by_cases hc : c = q
    · subst hc
      rw [doubledChars_quote, List.count_cons_self]
      simp only [List.length_cons, ih]
      omega
    · rw [doubledChars_plain hc, List.count_cons_of_ne hc]
      simp only [List.length_cons, ih]
      omega

theorem doubledChars_eq_self_iff : doubledChars q cs = cs ↔ q ∉ cs := by
  rw [← List.count_eq_zero]
  constructor
  · intro h
    have hlength := length_doubledChars q cs
    rw [h] at hlength
    omega
  · intro h
    induction cs with
    | nil => rfl
    | cons c cs ih =>
      have hc : c ≠ q := by
        rintro rfl
        simp at h
      rw [List.count_cons_of_ne hc] at h
      rw [doubledChars_plain hc, ih h]

theorem readQuoted_plain {c : Char} (h : c ≠ q) (cs : List Char) :
    readQuoted q (c :: cs) = (readQuoted q cs).map (Prod.map (c :: ·) id) := by
  cases cs with
  | nil => simp [readQuoted, h]
  | cons d cs => rw [readQuoted, if_neg h]

theorem readQuoted_quotes (q : Char) (cs : List Char) :
    readQuoted q (q :: q :: cs) = (readQuoted q cs).map (Prod.map (q :: ·) id) := by
  simp [readQuoted]

theorem readQuoted_close (h : rest.head? ≠ some q) :
    readQuoted q (q :: rest) = some ([], rest) := by
  cases rest with
  | nil => simp [readQuoted]
  | cons d ds =>
    have hd : d ≠ q := fun hd => h (congrArg some hd)
    simp [readQuoted, hd]

/-- A text with its quotes doubled is read as it was, if no quote follows the one that ends it. -/
theorem readQuoted_doubledChars (h : rest.head? ≠ some q) (cs : List Char) :
    readQuoted q (doubledChars q cs ++ q :: rest) = some (cs, rest) := by
  induction cs with
  | nil => exact readQuoted_close h
  | cons c cs ih =>
    by_cases hc : c = q
    · subst hc
      rw [doubledChars_quote, List.cons_append, List.cons_append, readQuoted_quotes, ih]
      rfl
    · rw [doubledChars_plain hc, List.cons_append, readQuoted_plain hc, ih]
      rfl

/-- What quotes hold is shorter than what is taken with them. -/
theorem length_of_readQuoted {text : List Char} (h : readQuoted q cs = some (text, rest)) :
    text.length + rest.length < cs.length := by
  fun_induction readQuoted q cs generalizing text rest with
  | case1 | case3 => cases h
  | case2 =>
    cases h
    simp
  | case4 cs ih =>
    obtain ⟨⟨inner, after⟩, hinner, hpair⟩ := Option.map_eq_some_iff.1 h
    cases hpair
    have hlength := ih hinner
    simp only [List.length_cons, id_eq]
    omega
  | case5 =>
    cases h
    simp
  | case6 c d cs hc ih =>
    obtain ⟨⟨inner, after⟩, hinner, hpair⟩ := Option.map_eq_some_iff.1 h
    cases hpair
    have hlength := ih hinner
    simp only [List.length_cons, id_eq] at hlength ⊢
    omega

end BulkLoad.Text
