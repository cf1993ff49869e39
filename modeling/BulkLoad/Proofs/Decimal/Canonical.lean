import BulkLoad.Proofs.Decimal.Plain
import Mathlib.Data.Int.Cast.Lemmas

/-!
What the plain texts of decimals look like, and which decimals share one. A text without exponent
tells the value and the count of digits behind the point, and nothing else.
-/

namespace BulkLoad.Decimal

attribute [ext] Decimal

/-- The digits of a natural number as it is written, with no zero put before them. -/
structure IsNumeral (cs : List Char) : Prop where
  some_digit : cs ≠ []
  digits : AllDigits cs
  lead : cs.head? = some '0' → cs = ['0']

theorem Written.isNumeral {n : Nat} {scale : Int} {whole behind : List Char}
    (h : Written n scale whole behind) : IsNumeral whole :=
  ⟨h.some_before, (allDigits_append.1 h.digits).1, h.lead⟩

/-- A point stands in the text exactly for a positive scale. -/
theorem Written.pointed_eq {n : Nat} {scale : Int} {whole behind : List Char}
    (h : Written n scale whole behind) :
    pointed whole behind = whole ++ if 0 < scale then '.' :: behind else [] := by
  have hplaces := h.places
  cases behind with
  | nil =>
    rw [List.length_nil] at hplaces
    rw [if_neg (by omega), List.append_nil]
    rfl
  | cons c rest =>
    rw [List.length_cons] at hplaces
    rw [if_pos (by omega)]
    rfl

theorem settled_eq_self_iff {d : Decimal} : d.settled = d ↔ 0 ≤ d.scale := by
  constructor
  · intro h
    have hscale : max d.scale 0 = d.scale := congrArg Decimal.scale h
    omega
  · exact settled_of_nonneg

/-- Multiplied out, decimals differ in their value or in their count of places. -/
theorem settled_eq_iff {d e : Decimal} :
    d.settled = e.settled ↔ d.value = e.value ∧ max d.scale 0 = max e.scale 0 := by
  constructor
  · intro h
    exact ⟨by rw [← d.settled_value, h, e.settled_value], congrArg Decimal.scale h⟩
  · rintro ⟨hvalue, hscale⟩
    have hplaces : d.settled.scale = e.settled.scale := hscale
    rw [← d.settled_value, ← e.settled_value, value, value, hplaces] at hvalue
    have hten : (10 : ℚ) ^ (-e.settled.scale) ≠ 0 := zpow_ne_zero _ (by decide)
    have hunscaled : d.settled.unscaled = e.settled.unscaled :=
      Int.cast_inj.1 (mul_right_cancel₀ hten hvalue)
    exact Decimal.ext hunscaled hplaces

/-- The plain text is read off the decimal multiplied out, and this is read off the text. -/
theorem plain_eq_iff {d e : Decimal} : d.plain = e.plain ↔ d.settled = e.settled := by
  constructor
  · intro h
    obtain ⟨cs, hpoint, hread⟩ := withoutPoint_plain d
    obtain ⟨bs, hpoint', hread'⟩ := withoutPoint_plain e
    rw [h, hpoint'] at hpoint
    obtain ⟨rfl, hscale⟩ := Prod.mk.inj hpoint
    exact Decimal.ext (Option.some.inj (hread.symm.trans hread')) hscale.symm
  · intro h
    rw [← d.settled_plain, h, e.settled_plain]

/-- The plain text of a decimal is a minus sign before a negative number, a numeral, and for a
positive scale a point with as many digits behind it. It reads as exactly the number, and as the
same pair if the scale is not negative. Two decimals have the same text just if they are equal in
value and in the count of digits behind the point. -/
theorem plain_canonical (d : Decimal) :
    (∃ whole behind, IsNumeral whole ∧ AllDigits behind ∧ behind.length = d.scale.toNat ∧
      d.plain.toList = (if d.unscaled < 0 then ['-'] else []) ++
        (whole ++ if 0 < d.scale then '.' :: behind else [])) ∧
    ofText? d.plain = (if d.scale < 2 ^ 63 then some d.settled else none) ∧
    d.settled.value = d.value ∧ (d.settled = d ↔ 0 ≤ d.scale) ∧
    ∀ e : Decimal, d.plain = e.plain ↔ d.value = e.value ∧ max d.scale 0 = max e.scale 0 := by
  refine ⟨?_, d.ofText?_plain_eq, d.settled_value, settled_eq_self_iff, fun e => ?_⟩
  · obtain ⟨whole, behind, hw, hs⟩ := spread_written d.unscaled.natAbs d.scale
    refine ⟨whole, behind, hw.isNumeral, (allDigits_append.1 hw.digits).2, hw.places, ?_⟩
    rw [plain, hs, String.toList_ofList, hw.pointed_eq]
    rfl
  · rw [plain_eq_iff, settled_eq_iff]

/-- 12.50, -0.0042, 10 ^ 5 and zero with two places. -/
example : (Decimal.mk 1250 2).plain = "12.50" ∧ (Decimal.mk (-42) 4).plain = "-0.0042" ∧
    (Decimal.mk 1 (-5)).plain = "100000" ∧ (Decimal.mk 0 2).plain = "0.00" := by decide +kernel

end BulkLoad.Decimal
