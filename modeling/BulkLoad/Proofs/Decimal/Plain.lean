import BulkLoad.Decimal
import Mathlib.Algebra.Order.Field.Rat
import Mathlib.Algebra.Order.Ring.Int
import Mathlib.Data.List.Basic
import Mathlib.Data.List.TakeWhile

/-!
Decimals written without exponent. The text has digits before the point and exactly as many behind
it as the scale says; reading it gives the same number back. The scale comes back as well, except
that a negative one has become zeros before the point.
-/

namespace BulkLoad.Decimal

/-- The number that a decimal is. -/
def value (d : Decimal) : ℚ := d.unscaled * (10 : ℚ) ^ (-d.scale)

/-- The decimal that the plain text denotes: a negative scale is multiplied out. -/
def settled (d : Decimal) : Decimal := ⟨d.unscaled * 10 ^ (-d.scale).toNat, max d.scale 0⟩

theorem settled_of_nonneg {d : Decimal} (h : 0 ≤ d.scale) : d.settled = d := by
  have hz : (-d.scale).toNat = 0 := by omega
  have hm : max d.scale 0 = d.scale := by omega
  rw [settled, hz, hm, pow_zero, mul_one]

@[simp] theorem settled_value (d : Decimal) : d.settled.value = d.value := by
  by_cases h : 0 ≤ d.scale
  · rw [settled_of_nonneg h]
  · obtain ⟨k, hk⟩ : ∃ k : Nat, d.scale = -(k : Int) := ⟨d.scale.natAbs, by omega⟩
    simp [settled, value, hk]

/-- Every character is a decimal digit. -/
def AllDigits (cs : List Char) : Prop := ∀ c ∈ cs, c.isDigit = true

theorem allDigits_append {as bs : List Char} :
    AllDigits (as ++ bs) ↔ AllDigits as ∧ AllDigits bs := by
  simp only [AllDigits, List.mem_append]
  constructor
  · intro h
    exact ⟨fun c hc => h c (.inl hc), fun c hc => h c (.inr hc)⟩
  · rintro ⟨ha, hb⟩ c (hc | hc)
    · exact ha c hc
    · exact hb c hc

theorem allDigits_digitsOf (n : Nat) : AllDigits (digitsOf n) := fun _ hc =>
  Nat.isDigit_of_mem_toDigits (by decide) (by decide) hc

theorem allDigits_replicate (n : Nat) : AllDigits (List.replicate n '0') := by
  intro c hc
  rw [List.eq_of_mem_replicate hc]
  decide

/-- The digits before and behind the point of a number written without exponent. -/
structure Written (n : Nat) (scale : Int) (whole behind : List Char) : Prop where
  some_before : whole ≠ []
  lead : whole.head? = some '0' → whole = ['0']
  digits : AllDigits (whole ++ behind)
  places : behind.length = scale.toNat
  number : Nat.ofDigitChars 10 (whole ++ behind) 0 = n * 10 ^ (-scale).toNat

/-- The point stands only where digits follow it. -/
def pointed (whole behind : List Char) : List Char :=
  if behind.isEmpty then whole else whole ++ '.' :: behind

theorem digitsOf_eq_zero_iff (n : Nat) : digitsOf n = ['0'] ↔ n = 0 := by
  constructor
  · intro h
    have hn : Nat.ofDigitChars 10 (digitsOf n) 0 = n := Nat.ofDigitChars_ten_toDigits
    rw [h] at hn
    simpa [Nat.ofDigitChars] using hn.symm
  · rintro rfl
    exact Nat.toDigits_zero 10

/-- No number but zero begins with a zero. -/
theorem digitsOf_lead {n : Nat} (h : (digitsOf n).head? = some '0') : n = 0 := by
  induction n using Nat.strong_induction_on with
  | _ n ih =>
    by_cases hn : n < 10
    · have hdigit : ∀ n < 10, [Nat.digitChar n].head? = some '0' → n = 0 := by decide
      rw [digitsOf, Nat.toDigits_of_lt_base hn] at h
      exact hdigit n hn h
    · have hcut := Nat.toDigits_of_base_le (by decide) (Nat.not_lt.1 hn)
      rw [digitsOf, hcut, List.head?_append_of_ne_nil _ Nat.toDigits_ne_nil] at h
      have hfront := ih (n / 10) (by omega) h
      omega

theorem spread_nonpos (n : Nat) {scale : Int} (h : scale ≤ 0) :
    ∃ whole, Written n scale whole [] ∧ spread (digitsOf n) scale = whole := by
  have hdigits : Nat.ofDigitChars 10 (digitsOf n) 0 = n := Nat.ofDigitChars_ten_toDigits
  refine ⟨_, ?_, rfl⟩
  rw [spread, if_pos h]
  by_cases hz : digitsOf n = ['0']
  · have hn : n = 0 := (digitsOf_eq_zero_iff n).1 hz
    rw [if_pos hz]
    refine ⟨Nat.toDigits_ne_nil, fun _ => hz, ?_, by simp; omega, ?_⟩
    · rw [List.append_nil]
      exact allDigits_digitsOf n
    · rw [List.append_nil, hdigits, hn, Nat.zero_mul]
  · rw [if_neg hz]
    refine ⟨?_, ?_, ?_, by simp; omega, ?_⟩
    · simp [digitsOf, Nat.toDigits_ne_nil]
    · rw [List.head?_append_of_ne_nil (digitsOf n) Nat.toDigits_ne_nil]
      intro hhead
      exact absurd ((digitsOf_eq_zero_iff n).2 (digitsOf_lead hhead)) hz
    · rw [List.append_nil]
      exact allDigits_append.2 ⟨allDigits_digitsOf n, allDigits_replicate _⟩
    · rw [List.append_nil, Nat.ofDigitChars_append, hdigits, Nat.ofDigitChars_replicate_zero,
        Nat.mul_comm]

theorem spread_pos (n : Nat) {scale : Int} (h : 0 < scale) :
    ∃ whole behind, Written n scale whole behind ∧
      spread (digitsOf n) scale = whole ++ '.' :: behind := by
  have hdigits : Nat.ofDigitChars 10 (digitsOf n) 0 = n := Nat.ofDigitChars_ten_toDigits
  have hpow : (-scale).toNat = 0 := by omega
  have hlength : 0 < (digitsOf n).length := Nat.length_toDigits_pos
  rw [spread, if_neg (by omega)]
  dsimp only
  -- The point falls among the digits, or zeros stand between it and them.
  by_cases hs : scale.toNat < (digitsOf n).length
  · rw [if_pos hs]
    refine ⟨_, _, ⟨?_, ?_, ?_, ?_, ?_⟩, rfl⟩
    · intro hnil
      have := congrArg List.length hnil
      simp only [List.length_take, List.length_nil] at this
      omega
    · rw [List.head?_take, if_neg (by omega)]
      intro hhead
      rw [(digitsOf_eq_zero_iff n).2 (digitsOf_lead hhead), List.length_singleton] at hs
      omega
    · rw [List.take_append_drop]
      exact allDigits_digitsOf n
    · rw [List.length_drop]
      omega
    · rw [List.take_append_drop, hdigits, hpow, Nat.pow_zero, Nat.mul_one]
  · rw [if_neg hs]
    refine ⟨['0'], _, ⟨by simp, fun _ => rfl, ?_, ?_, ?_⟩, rfl⟩
    · exact allDigits_append.2 ⟨allDigits_replicate 1,
        allDigits_append.2 ⟨allDigits_replicate _, allDigits_digitsOf n⟩⟩
    · simp only [List.length_append, List.length_replicate]
      omega
    · rw [Nat.ofDigitChars_append, Nat.ofDigitChars_append, Nat.ofDigitChars_replicate_zero, hpow]
      simpa [Nat.ofDigitChars_cons] using hdigits

/-- The digits of a number, spread out around the point. -/
theorem spread_written (n : Nat) (scale : Int) :
    ∃ whole behind, Written n scale whole behind ∧
      spread (digitsOf n) scale = pointed whole behind := by
  by_cases h : scale ≤ 0
  · obtain ⟨whole, hw, hs⟩ := spread_nonpos n h
    exact ⟨whole, [], hw, hs⟩
  · obtain ⟨whole, behind, hw, hs⟩ := spread_pos n (show 0 < scale by omega)
    refine ⟨whole, behind, hw, ?_⟩
    have hne : behind ≠ [] := by
      rintro rfl
      have := hw.places
      simp only [List.length_nil] at this
      omega
    simp [hs, pointed, hne]

theorem digitValue?_of_isDigit {c : Char} (h : c.isDigit = true) :
    digitValue? c = some (c.toNat - '0'.toNat) := by
  have h' : '0' ≤ c ∧ c ≤ '9' := by
    simpa [Char.isDigit, Char.le_def] using h
  rw [digitValue?, if_pos h']
  rfl

theorem readDigits_of_allDigits {cs : List Char} (h : AllDigits cs) (grouped : Bool) (n : Nat) :
    readDigits grouped n cs = some (Nat.ofDigitChars 10 cs n) := by
  induction cs generalizing n with
  | nil => rfl
  | cons c rest ih =>
    have hc := digitValue?_of_isDigit (h c List.mem_cons_self)
    have hrest : AllDigits rest := fun c hc => h c (List.mem_cons_of_mem _ hc)
    rw [readDigits, hc, Nat.ofDigitChars_cons, Nat.mul_comm 10 n]
    exact ih hrest _

/-- Digits are neither signs, separators, points nor marks of an exponent. -/
theorem ne_of_isDigit {c : Char} (h : c.isDigit = true) :
    c ≠ '+' ∧ c ≠ '-' ∧ c ≠ '_' ∧ c ≠ '.' ∧ isExponentMark c = false := by
  refine ⟨?_, ?_, ?_, ?_, ?_⟩
  · rintro rfl
    exact absurd h (by decide)
  · rintro rfl
    exact absurd h (by decide)
  · rintro rfl
    exact absurd h (by decide)
  · rintro rfl
    exact absurd h (by decide)
  · by_contra hm
    simp only [isExponentMark, Bool.not_eq_false, Bool.or_eq_true, beq_iff_eq] at hm
    rcases hm with rfl | rfl
    · exact absurd h (by decide)
    · exact absurd h (by decide)

theorem eq_minus_of_mem_signOf {m : Int} {c : Char} (h : c ∈ signOf m) : c = '-' := by
  unfold signOf at h
  split at h
  · exact List.mem_singleton.1 h
  · cases h

/-- A number and its sign read as an integer. -/
theorem readInteger_of_allDigits {cs : List Char} (h : AllDigits cs) (hne : cs ≠ []) (m : Int) :
    readInteger (signOf m ++ cs) =
      some (if m < 0 then -(Nat.ofDigitChars 10 cs 0 : Int) else Nat.ofDigitChars 10 cs 0) := by
  obtain ⟨c, rest, rfl⟩ := List.exists_cons_of_ne_nil hne
  obtain ⟨hplus, hminus, hbar, -, -⟩ := ne_of_isDigit (h c List.mem_cons_self)
  have hunsigned : readUnsigned (c :: rest) = some (Nat.ofDigitChars 10 (c :: rest) 0) := by
    rw [← readDigits_of_allDigits h true 0]
    simp [readUnsigned, readNatural, hplus, hbar]
  by_cases hm : m < 0
  · simp [signOf, hm, readInteger, hplus, hunsigned]
  · simp [signOf, hm, readInteger, hminus, hunsigned]

theorem takeWhile_append_point {cs : List Char} (h : ∀ c ∈ cs, c ≠ '.') (rest : List Char) :
    (cs ++ '.' :: rest).takeWhile (· != '.') = cs ∧
      (cs ++ '.' :: rest).dropWhile (· != '.') = '.' :: rest := by
  have hp : ∀ c ∈ cs, (c != '.') = true := fun c hc => by simp [h c hc]
  rw [List.takeWhile_append_of_pos hp, List.dropWhile_append_of_pos hp]
  simp

theorem withoutPoint_pointed {sign whole behind : List Char} (hs : ∀ c ∈ sign, c ≠ '.')
    (h : AllDigits (whole ++ behind)) :
    withoutPoint (sign ++ pointed whole behind) =
      (sign ++ (whole ++ behind), (behind.length : Int)) := by
  obtain ⟨hw, hb⟩ := allDigits_append.1 h
  have hlead : ∀ c ∈ sign ++ whole, c ≠ '.' := by
    intro c hc
    rcases List.mem_append.1 hc with hc | hc
    · exact hs c hc
    · exact (ne_of_isDigit (hw c hc)).2.2.2.1
  unfold pointed
  by_cases hempty : behind = []
  · have hdrop : (sign ++ whole).dropWhile (· != '.') = [] := by
      rw [List.dropWhile_eq_nil_iff]
      intro c hc
      simp [hlead c hc]
    simp [hempty, withoutPoint, hdrop]
  · obtain ⟨htake, hdrop⟩ := takeWhile_append_point hlead behind
    have hfilter : behind.filter (· != '_') = behind := by
      rw [List.filter_eq_self]
      intro c hc
      simp [(ne_of_isDigit (hb c hc)).2.2.1]
    rw [List.append_assoc] at htake hdrop
    simp [hempty, withoutPoint, htake, hdrop, hfilter]

theorem no_exponent_plain {m : Int} {whole behind : List Char} (h : AllDigits (whole ++ behind)) :
    ∀ c ∈ signOf m ++ pointed whole behind, isExponentMark c = false := by
  obtain ⟨hw, hb⟩ := allDigits_append.1 h
  intro c hc
  rcases List.mem_append.1 hc with hc | hc
  · rw [eq_minus_of_mem_signOf hc]
    rfl
  · unfold pointed at hc
    split at hc
    · exact (ne_of_isDigit (hw c hc)).2.2.2.2
    · rcases List.mem_append.1 hc with hc | hc
      · exact (ne_of_isDigit (hw c hc)).2.2.2.2
      · rcases List.mem_cons.1 hc with rfl | hc
        · rfl
        · exact (ne_of_isDigit (hb c hc)).2.2.2.2

theorem signed_natAbs_mul (m : Int) (k : Nat) :
    (if m < 0 then -((m.natAbs * k : Nat) : Int) else ((m.natAbs * k : Nat) : Int)) = m * k := by
  split
  · rw [Nat.cast_mul, Int.ofNat_natAbs_of_nonpos (by omega), neg_mul, neg_neg]
  · rw [Nat.cast_mul, Int.natAbs_of_nonneg (by omega)]

/-- Without its point, the plain text of a decimal is the integer that the number is in units of its
last place. -/
theorem withoutPoint_plain (d : Decimal) :
    ∃ cs, withoutPoint d.plain.toList = (cs, d.settled.scale) ∧
      readInteger cs = some d.settled.unscaled := by
  obtain ⟨whole, behind, hw, hs⟩ := spread_written d.unscaled.natAbs d.scale
  have hsign : ∀ c ∈ signOf d.unscaled, c ≠ '.' := by
    intro c hc
    rw [eq_minus_of_mem_signOf hc]
    decide
  have hscale : (behind.length : Int) = max d.scale 0 := by
    have := hw.places
    omega
  refine ⟨signOf d.unscaled ++ (whole ++ behind), ?_, ?_⟩
  · rw [plain, hs, String.toList_ofList, withoutPoint_pointed hsign hw.digits, hscale, settled]
  · rw [readInteger_of_allDigits hw.digits (by simp [hw.some_before]), hw.number,
      signed_natAbs_mul, settled]
    norm_cast

/-- The plain text of a decimal holds something, and nothing that opens an exponent. -/
theorem plain_without_mark (d : Decimal) :
    d.plain.toList ≠ [] ∧ ∀ c ∈ d.plain.toList, isExponentMark c = false := by
  obtain ⟨whole, behind, hw, hs⟩ := spread_written d.unscaled.natAbs d.scale
  rw [plain, hs, String.toList_ofList]
  refine ⟨?_, no_exponent_plain hw.digits⟩
  unfold pointed
  split <;> simp [hw.some_before]

/-- The plain text of a decimal reads as the number it stands for, in the bound of the reader, which
keeps scales in 64 bits. -/
theorem ofText?_plain_eq (d : Decimal) :
    ofText? d.plain = if d.scale < 2 ^ 63 then some d.settled else none := by
  -- The reader looks for an exponent, then for a point, then for the digits.
  obtain ⟨hne, hmark⟩ := plain_without_mark d
  have htake : d.plain.toList.takeWhile (fun c => !isExponentMark c) = d.plain.toList := by
    rw [List.takeWhile_eq_self_iff]
    intro c hc
    simp [hmark c hc]
  have hdrop : d.plain.toList.dropWhile (fun c => !isExponentMark c) = [] := by
    rw [List.dropWhile_eq_nil_iff]
    intro c hc
    simp [hmark c hc]
  obtain ⟨cs, hpoint, hread⟩ := withoutPoint_plain d
  have hscale : d.settled.scale = max d.scale 0 := rfl
  unfold ofText?
  simp only [htake, hdrop, hpoint, hread, List.isEmpty_eq_false_iff.2 hne]
  by_cases h : d.scale < 2 ^ 63
  · have hrange : ¬(d.settled.scale - 0 < -2 ^ 63 ∨ 2 ^ 63 ≤ d.settled.scale - 0) := by omega
    simp only [Option.bind_eq_bind, Option.bind_some, if_neg hrange, if_pos h]
    simp
  · have hrange : d.settled.scale - 0 < -2 ^ 63 ∨ 2 ^ 63 ≤ d.settled.scale - 0 := by omega
    simp only [Option.bind_eq_bind, Option.bind_some, if_pos hrange, if_neg h]
    rfl

theorem ofText?_plain {d : Decimal} (h : d.scale < 2 ^ 63) : ofText? d.plain = some d.settled := by
  rw [ofText?_plain_eq, if_pos h]

/-- Zeros behind the digits of a number multiply it by ten. -/
theorem digitsOf_mul_pow {n : Nat} (h : n ≠ 0) (k : Nat) :
    digitsOf (n * 10 ^ k) = digitsOf n ++ List.replicate k '0' := by
  induction k with
  | zero => simp
  | succ k ih =>
    have hpos : 0 < n * 10 ^ k := Nat.mul_pos (Nat.pos_of_ne_zero h) (Nat.pow_pos (by decide))
    have hten : n * 10 ^ (k + 1) = 10 * (n * 10 ^ k) + 0 := by
      rw [Nat.pow_succ, ← Nat.mul_assoc, Nat.mul_comm _ 10, Nat.add_zero]
    rw [hten, digitsOf, ← Nat.toDigits_append_toDigits (by decide) hpos (by decide),
      List.replicate_succ', ← List.append_assoc, ← ih]
    rfl

theorem signOf_mul_pow (m : Int) (k : Nat) : signOf (m * 10 ^ k) = signOf m := by
  have hpos : (0 : Int) < 10 ^ k := Int.pow_pos (by decide)
  have hneg : m * 10 ^ k < 0 ↔ m < 0 := by
    constructor
    · intro h
      by_contra hm
      exact absurd h (not_lt.2 (Int.mul_nonneg (not_lt.1 hm) hpos.le))
    · intro hm
      exact Int.mul_neg_of_neg_of_pos hm hpos
  simp only [signOf, hneg]

/-- Multiplied out or not, a decimal has one plain text. -/
theorem settled_plain (d : Decimal) : d.settled.plain = d.plain := by
  by_cases hscale : 0 ≤ d.scale
  · rw [settled_of_nonneg hscale]
  · have hmax : max d.scale 0 = 0 := by omega
    have habs : (d.unscaled * 10 ^ (-d.scale).toNat).natAbs =
        d.unscaled.natAbs * 10 ^ (-d.scale).toNat := by
      rw [Int.natAbs_mul, Int.natAbs_pow]
      rfl
    rw [plain, plain, settled, signOf_mul_pow, habs, hmax, spread, spread, if_pos (Int.le_refl 0),
      if_pos (show d.scale ≤ 0 by omega)]
    by_cases hzero : d.unscaled.natAbs = 0
    · rw [hzero, Nat.zero_mul, if_pos (digitsOf_eq_zero_iff 0 |>.2 rfl),
        if_pos (digitsOf_eq_zero_iff 0 |>.2 rfl)]
    · have hmul : d.unscaled.natAbs * 10 ^ (-d.scale).toNat ≠ 0 :=
        Nat.mul_ne_zero hzero (Nat.pow_pos (by decide)).ne'
      rw [if_neg (mt (digitsOf_eq_zero_iff _).1 hzero), if_neg (mt (digitsOf_eq_zero_iff _).1 hmul),
        digitsOf_mul_pow hzero]
      simp

/-- The plain text has a character for each digit behind the point. -/
theorem scale_le_plain_length (d : Decimal) : d.scale ≤ d.plain.length := by
  obtain ⟨whole, behind, hw, hs⟩ := spread_written d.unscaled.natAbs d.scale
  have hplaces := hw.places
  rw [plain, hs, String.length_ofList, List.length_append, pointed]
  split
  · rename_i hempty
    have : behind = [] := by simpa using hempty
    rw [this, List.length_nil] at hplaces
    omega
  · simp only [List.length_append, List.length_cons]
    omega

end BulkLoad.Decimal
