import BulkLoad.Schema

/-!
Two ways to ignore case in a name. Taken by itself, a capital sigma has one small form; in a whole
text it has another where it ends a word. In all else the two ways agree, so they tell the same
names apart as long as no capital sigma ends a word.
-/

namespace BulkLoad

namespace Text

/-- Some capital sigma in the rest of a text ends a word; `before` holds what precedes the rest,
nearest first. -/
def finalSigmaAfter (before : List Char) : List Char → Bool
  | [] => false
  | c :: rest =>
    (c == capitalSigma && meetsLetter before && !meetsLetter rest) ||
      finalSigmaAfter (c :: before) rest

/-- Some capital sigma in the text ends a word. -/
def hasFinalSigma (s : String) : Bool := finalSigmaAfter [] s.toList

theorem lowerChar_capitalSigma : ∃ c, lowerChar capitalSigma = [c] ∧ c ≠ finalSigma :=
  ⟨Char.ofNat 0x3C3, by decide +kernel, by decide +kernel⟩

/-- The rest of a text is in lower case character by character exactly if no sigma there has to
become a final one. -/
theorem lowerAfter_eq_iff (before cs : List Char) :
    lowerAfter before cs = cs.flatMap lowerChar ↔ finalSigmaAfter before cs = false := by
  induction cs generalizing before with
  | nil => simp [lowerAfter, finalSigmaAfter]
  | cons c rest ih =>
    rw [lowerAfter, finalSigmaAfter, List.flatMap_cons]
    by_cases hfinal : (c == capitalSigma && meetsLetter before && !meetsLetter rest) = true
    · obtain ⟨small, hsmall, hne⟩ := lowerChar_capitalSigma
      have hc : c = capitalSigma := by
        simp only [Bool.and_eq_true, beq_iff_eq] at hfinal
        exact hfinal.1.1
      rw [hfinal, hc, hsmall]
      simp [hne.symm]
    · simpa [hfinal] using ih (c :: before)

end Text

/-- The key of a name is made of the small forms of its characters exactly if no capital sigma in it
ends a word. -/
theorem foldedName_eq_iff (name : String) :
    foldedName name = String.ofList (Text.lowerEach name) ↔ Text.hasFinalSigma name = false := by
  rw [foldedName, Text.lowerText, String.ofList_inj, Text.lowerEach, Text.lowerAfter_eq_iff,
    Text.hasFinalSigma]

/-- Names in which no capital sigma ends a word are the same exactly if they have the same key. -/
theorem sameName_iff_foldedName_eq {a b : String} (ha : Text.hasFinalSigma a = false)
    (hb : Text.hasFinalSigma b = false) : sameName a b = true ↔ foldedName a = foldedName b := by
  rw [(foldedName_eq_iff a).2 ha, (foldedName_eq_iff b).2 hb, String.ofList_inj, sameName,
    beq_iff_eq]

end BulkLoad
