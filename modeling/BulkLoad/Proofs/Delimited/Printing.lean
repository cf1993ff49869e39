import BulkLoad.Delimited.Record
import BulkLoad.Proofs.Decimal.Plain

/-!
What values look like in delimited text. Everything but text and binary data is spelled with
letters, digits and a few signs, whatever the hint and the precision of its column are.
-/

namespace BulkLoad

open Decimal (AllDigits)

/-- The characters that values other than text and binary data are spelled with. -/
def isPrinted (c : Char) : Bool := c.isAlphanum || ['+', '-', '.', ':', '/', ' '].contains c

/-- The text has no other characters. -/
def Printed (s : String) : Prop := ∀ c ∈ s.toList, isPrinted c = true

instance (s : String) : Decidable (Printed s) :=
  decidable_of_iff (s.toList.all isPrinted = true) List.all_eq_true

namespace Printed

theorem append {s t : String} (hs : Printed s) (ht : Printed t) : Printed (s ++ t) := by
  intro c hc
  rw [String.toList_append] at hc
  exact (List.mem_append.1 hc).elim (hs c) (ht c)

theorem ite {p : Prop} [Decidable p] {s t : String} (hs : Printed s) (ht : Printed t) :
    Printed (if p then s else t) := by
  split
  · exact hs
  · exact ht

theorem ofList {cs : List Char} (h : ∀ c ∈ cs, isPrinted c = true) :
    Printed (String.ofList cs) := by
  rwa [Printed, String.toList_ofList]

end Printed

theorem isPrinted_of_isDigit {c : Char} (h : c.isDigit = true) : isPrinted c = true := by
  simp [isPrinted, Char.isAlphanum, h]

theorem printed_of_allDigits {cs : List Char} (h : AllDigits cs) : Printed (String.ofList cs) :=
  .ofList fun c hc => isPrinted_of_isDigit (h c hc)

theorem allDigits_of_subset {cs ds : List Char} (h : AllDigits ds) (hs : cs ⊆ ds) : AllDigits cs :=
  fun c hc => h c (hs hc)

theorem zeroPadded_printed (width n : Nat) : Printed (zeroPadded width n) :=
  printed_of_allDigits
    (Decimal.allDigits_append.2 ⟨Decimal.allDigits_replicate _, Decimal.allDigits_digitsOf n⟩)

theorem placed_printed {digits : List Char} (h : AllDigits digits) (places : Nat) :
    Printed (placed digits places) := by
  have hpadded := Decimal.allDigits_append.2
    ⟨Decimal.allDigits_replicate (places + 1 - digits.length), h⟩
  refine .ite (printed_of_allDigits h) (.append (.append ?_ (by decide)) ?_)
  · exact printed_of_allDigits (allDigits_of_subset hpadded (List.take_subset ..))
  · exact printed_of_allDigits (allDigits_of_subset hpadded (List.drop_subset ..))

namespace Double

theorem signText_printed (x : Double) : Printed x.signText := .ite (by decide) (by decide)

theorem shortest_allDigits (x : Double) : AllDigits x.shortest.digits := by
  have hkept : ∀ cs : List Char, (cs.reverse.dropWhile (· == '0')).reverse ⊆ cs := by
    intro cs c hc
    rw [List.mem_reverse] at hc
    exact List.mem_reverse.1 ((List.dropWhile_suffix _).subset hc)
  exact allDigits_of_subset (Decimal.allDigits_digitsOf _) (hkept _)

theorem Digits.positional_printed {d : Digits} (h : AllDigits d.digits) : Printed d.positional := by
  have hzeros := Decimal.allDigits_replicate
  refine .ite (.append (by decide) ?_) (.ite ?_ (.append (.append ?_ (by decide)) ?_))
  · exact printed_of_allDigits (Decimal.allDigits_append.2 ⟨hzeros _, h⟩)
  · exact printed_of_allDigits (Decimal.allDigits_append.2 ⟨h, hzeros _⟩)
  · exact printed_of_allDigits (allDigits_of_subset h (List.take_subset ..))
  · exact printed_of_allDigits (allDigits_of_subset h (List.drop_subset ..))

theorem text_printed (x : Double) : Printed x.text :=
  .ite (by decide) (.ite (.append x.signText_printed (by decide))
    (.ite (.append x.signText_printed (by decide))
      (.append x.signText_printed (Digits.positional_printed x.shortest_allDigits))))

theorem fixed_printed (x : Double) (places : Nat) : Printed (x.fixed places) :=
  .append x.signText_printed (placed_printed (Decimal.allDigits_digitsOf _) places)

end Double

theorem Decimal.plain_printed (d : Decimal) : Printed d.plain := by
  obtain ⟨whole, behind, hw, hs⟩ := spread_written d.unscaled.natAbs d.scale
  obtain ⟨hwhole, hbehind⟩ := allDigits_append.1 hw.digits
  rw [plain, hs]
  refine .ofList fun c hc => ?_
  rcases List.mem_append.1 hc with hc | hc
  · rw [eq_minus_of_mem_signOf hc]
    decide
  · unfold pointed at hc
    split at hc
    · exact isPrinted_of_isDigit (hwhole c hc)
    · rcases List.mem_append.1 hc with hc | hc
      · exact isPrinted_of_isDigit (hwhole c hc)
      · rcases List.mem_cons.1 hc with rfl | hc
        · decide
        · exact isPrinted_of_isDigit (hbehind c hc)

namespace Instant

theorem yearText_printed (year : Int) : Printed (yearText year) :=
  .ite (zeroPadded_printed _ _)
    (.append (.ite (by decide) (by decide)) (zeroPadded_printed _ _))

theorem text_printed (t : Instant) {l : Layout} (h : Printed l.dateSeparator) :
    Printed (t.text l) := by
  have hdate := ((((yearText_printed t.fields.year).append h).append
    (zeroPadded_printed 2 t.fields.month)).append h).append (zeroPadded_printed 2 t.fields.day)
  refine .append (.append hdate (.ite ?_ (by decide))) (.ite ?_ (by decide))
  · have hhour : Printed (" " ++ zeroPadded 2 t.fields.hour) :=
      .append (by decide) (zeroPadded_printed _ _)
    exact (((hhour.append (by decide)).append (zeroPadded_printed _ _)).append (by decide)).append
      (zeroPadded_printed _ _)
  · exact .append (by decide) (zeroPadded_printed _ _)

end Instant

theorem toString_int_printed (n : Int) : Printed (toString n) := by
  have hnat : ∀ m : Nat, Printed m.repr := fun m =>
    printed_of_allDigits (Decimal.allDigits_digitsOf m)
  cases n with
  | ofNat m => exact hnat m
  | negSucc m => exact .append (by decide) (hnat m.succ)

namespace Delimited

theorem numberText_printed (hint : Hint) (precision : Option UInt32) (x : Double) :
    Printed (numberText hint precision x) := by
  refine .ite (by decide) (.ite (.append x.signText_printed (by decide)) ?_)
  split
  · exact x.fixed_printed _
  · exact x.text_printed

theorem decimalText_printed (hint : Hint) (precision : Option UInt32) (d : Decimal) :
    Printed (decimalText hint precision d) := by
  unfold decimalText
  split
  · exact Decimal.plain_printed _
  · exact d.plain_printed

/-- The field of any value but null, text and binary data is spelled with printed characters. -/
theorem Format.field_printed (f : Format) (hint : Hint) (precision : Option UInt32) {cell : Cell}
    {k : Kind} (hk : cell.kind? = some k) (htext : k ≠ .text) (hbinary : k ≠ .binary) :
    ∃ s, f.field hint precision cell = Bytes.ofText s ∧ Printed s := by
  cases cell with
  | null => cases hk
  | text s => cases hk; exact absurd rfl htext
  | binary b => cases hk; exact absurd rfl hbinary
  | integer n => exact ⟨_, rfl, toString_int_printed _⟩
  | number x => exact ⟨_, rfl, numberText_printed hint precision x⟩
  | decimal d => exact ⟨_, rfl, decimalText_printed hint precision d⟩
  | date t => exact ⟨_, rfl, t.text_printed (by cases hint <;> decide)⟩
  | boolean b => exact ⟨_, rfl, .ite (by decide) (by decide)⟩

end Delimited
end BulkLoad
