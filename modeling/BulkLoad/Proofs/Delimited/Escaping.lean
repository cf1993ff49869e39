import BulkLoad.Delimited.Record

/-!
Escapes in delimited text whose marks are single characters. Each pass over a text replaces one
mark, and sees what the passes before it have put there. As the marks are different, all of them
together do what one pass does that puts an escape before every character which needs one.
-/

namespace BulkLoad

namespace Text

theorem replaceFrom_singleton (p : Char) (replacement cs : List Char) :
    replaceFrom [p] replacement 0 cs = cs.flatMap fun c => if c = p then replacement else [c] := by
  induction cs with
  | nil => rfl
  | cons c rest ih =>
    rw [replaceFrom, List.flatMap_cons]
    by_cases h : c = p
    · simp [h, ih]
    · have hp : p ≠ c := fun hpc => h hpc.symm
      simp [h, hp, ih]

theorem toList_replaceAll_singleton (p : Char) (replacement text : String) :
    (replaceAll (String.singleton p) replacement text).toList =
      text.toList.flatMap fun c => if c = p then replacement.toList else [c] := by
  rw [replaceAll, String.toList_ofList, String.toList_singleton, replaceFrom_singleton]

end Text

namespace Delimited

/-- The single characters by which delimited text is read. -/
structure Marks where
  delimiter : Char
  terminator : Char
  escape : Char
  enclosure : Option Char
  distinct : (delimiter :: terminator :: escape :: enclosure.toList).Nodup := by decide

/-- The format separates, encloses and escapes by these characters. -/
structure Format.Uses (f : Format) (m : Marks) : Prop where
  delimiter : f.delimiter = String.singleton m.delimiter
  terminator : f.terminator = String.singleton m.terminator
  escape : f.escape = some (String.singleton m.escape)
  enclosure : f.enclosure = m.enclosure.map String.singleton

/-- A character of a text, behind an escape where it is special. -/
def escapedChar (escape : Char) (special : Char → Bool) (c : Char) : List Char :=
  if special c then [escape, c] else [c]

/-- The characters that get an escape: the escape itself and the enclosure, or the escape and what
ends a field where there is no enclosure. -/
def Marks.special (m : Marks) (c : Char) : Bool :=
  match m.enclosure with
  | some q => c == m.escape || c == q
  | none => c == m.escape || c == m.delimiter || c == m.terminator

theorem escapedChar_plain {e c : Char} {special : Char → Bool} (h : special c = false) :
    escapedChar e special c = [c] := by
  simp [escapedChar, h]

theorem escapedChar_special {e c : Char} {special : Char → Bool} (h : special c = true) :
    escapedChar e special c = [e, c] := by
  simp [escapedChar, h]

theorem isEmpty_singleton (c : Char) : (String.singleton c).isEmpty = false := by
  rw [← Bool.not_eq_true, String.isEmpty_iff, ← String.toList_inj, String.toList_singleton]
  nofun

theorem toList_escapeText (e q : Char) (s : String) :
    (escapeText (String.singleton e) (String.singleton q) s).toList =
      s.toList.flatMap (escapedChar e (· == q)) := by
  rw [escapeText, Text.toList_replaceAll_singleton]
  congr 1
  funext c
  by_cases h : c = q
  · simp [escapedChar, h]
  · simp [escapedChar, h]

theorem toList_escapeSpecial (e q : Char) (s : String) :
    (escapeSpecial (String.singleton e) s (String.singleton q)).toList =
      s.toList.flatMap (escapedChar e (· == q)) := by
  rw [escapeSpecial, isEmpty_singleton]
  exact toList_escapeText e q s

/-- One more pass: the escapes that are there stay as they are, and so does what stands behind
them. -/
theorem flatMap_escapedChar {e q : Char} {special : Char → Bool} (he : e ≠ q)
    (hq : special q = false) (cs : List Char) :
    (cs.flatMap (escapedChar e special)).flatMap (escapedChar e (· == q)) =
      cs.flatMap (escapedChar e fun c => special c || c == q) := by
  rw [List.flatMap_assoc]
  congr 1
  funext c
  by_cases hc : special c = true
  · have hcq : c ≠ q := by
      rintro rfl
      rw [hc] at hq
      cases hq
    simp [escapedChar, hc, he, hcq]
  · simp [escapedChar, hc]

variable {f : Format} {m : Marks}

/-- A text with its escapes, character by character. -/
theorem Format.Uses.toList_escaped (h : f.Uses m) (s : String) :
    (f.escaped s).toList = s.toList.flatMap (escapedChar m.escape m.special) := by
  have hdistinct := m.distinct
  unfold Format.escaped
  rw [h.escape, h.enclosure, h.delimiter, h.terminator]
  cases hq : m.enclosure with
  | some q =>
    rw [hq] at hdistinct
    simp only [Option.toList_some, List.nodup_cons, List.mem_cons, not_or] at hdistinct
    have heq : m.escape ≠ q := by grind
    have henclosure : (q == m.escape) = false := by grind
    simp only [Option.filter, Option.map_some, isEmpty_singleton, Bool.not_false, if_true,
      toList_escapeText]
    rw [flatMap_escapedChar heq henclosure]
    congr 1
    funext c
    simp [escapedChar, Marks.special, hq]
  | none =>
    rw [hq] at hdistinct
    simp only [Option.toList_none, List.nodup_cons, List.mem_cons, not_or] at hdistinct
    have hed : m.escape ≠ m.delimiter := by grind
    have het : m.escape ≠ m.terminator := by grind
    have hdelimiter : (m.delimiter == m.escape) = false := by grind
    have hterminator : (m.terminator == m.escape || m.terminator == m.delimiter) = false := by
      grind
    simp only [Option.filter, Option.map_none, isEmpty_singleton, Bool.not_false, if_true,
      List.foldl_cons, List.foldl_nil, toList_escapeSpecial, toList_escapeText]
    rw [flatMap_escapedChar hed hdelimiter, flatMap_escapedChar het hterminator]
    congr 1
    funext c
    simp [escapedChar, Marks.special, hq]

/-- A field without its escapes: the character behind each of them is kept. -/
def unescaped (escape : Char) : List Char → List Char
  | c :: d :: rest =>
    if c = escape then d :: unescaped escape rest else c :: unescaped escape (d :: rest)
  | cs => cs

theorem unescaped_cons {e c : Char} (h : c ≠ e) (cs : List Char) :
    unescaped e (c :: cs) = c :: unescaped e cs := by
  cases cs with
  | nil => rfl
  | cons d rest => rw [unescaped, if_neg h]

/-- What was escaped is there again without its escapes. -/
theorem unescaped_escaped {e : Char} {special : Char → Bool} (he : special e = true)
    (cs : List Char) : unescaped e (cs.flatMap (escapedChar e special)) = cs := by
  induction cs with
  | nil => rfl
  | cons c rest ih =>
    rw [List.flatMap_cons]
    by_cases hc : special c = true
    · rw [escapedChar_special hc, List.cons_append, List.singleton_append, unescaped, if_pos rfl,
        ih]
    · have hce : c ≠ e := by
        rintro rfl
        exact hc he
      rw [Bool.not_eq_true] at hc
      rw [escapedChar_plain hc, List.singleton_append, unescaped_cons hce, ih]

theorem Marks.special_escape (m : Marks) : m.special m.escape = true := by
  unfold Marks.special
  split <;> simp

end Delimited
end BulkLoad
