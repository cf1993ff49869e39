import BulkLoad.Double

/-!
The number that a decimal literal of a JSON text stands for. At most as many digits count as fit a
64-bit word; the rest only moves the point. The word is then scaled by a power of ten in double
precision.
-/

namespace BulkLoad.Json

/-- The largest 64-bit word. -/
def wordLimit : Nat := 2 ^ 64 - 1

/-- Digits read so far and the power of ten that is still to be applied. -/
structure Significand where
  word : Nat
  exponent : Int

/-- Reads the digits before the point: once a digit does not fit, each one moves the point. -/
def readWhole : Significand → Bool → List Nat → Significand
  | s, _, [] => s
  | s, full, d :: rest =>
    if full || wordLimit < s.word * 10 + d then readWhole ⟨s.word, s.exponent + 1⟩ true rest
    else readWhole ⟨s.word * 10 + d, s.exponent⟩ false rest

/-- Reads the digits behind the point until one does not fit. -/
def readFraction : Significand → List Nat → Significand
  | s, [] => s
  | s, d :: rest =>
    if wordLimit < s.word * 10 + d then s
    else readFraction ⟨s.word * 10 + d, s.exponent - 1⟩ rest

/-- The ratio of a finite number's magnitude. -/
def magnitude (x : Double) : Nat × Nat :=
  if 0 ≤ x.power then (x.mantissa * 2 ^ x.power.toNat, 1)
  else (x.mantissa, 2 ^ (-x.power).toNat)

/-- A power of ten in double precision. -/
def powerOfTen (e : Nat) : Nat × Nat := magnitude (Double.ofNat (10 ^ e))

def timesPower (x : Double) (e : Nat) : Double :=
  let a := magnitude x
  let b := powerOfTen e
  Double.ofRatio false (a.1 * b.1) (a.2 * b.2)

def overPower (x : Double) (e : Nat) : Double :=
  let a := magnitude x
  let b := powerOfTen e
  Double.ofRatio false (a.1 * b.2) (a.2 * b.1)

/-- The largest exponent of ten that a double-precision number reaches. -/
def largestPower : Nat := 308

/-- Divides by powers of ten until the rest of the exponent can be applied at once; a few steps
reach zero. -/
def scaleDown : Nat → Double → Nat → Double
  | 0, _, _ => Double.ofFields false 0 0
  | steps + 1, x, e =>
    if e ≤ largestPower then overPower x e
    else if x.mantissa = 0 then x
    else scaleDown steps (overPower x largestPower) (e - largestPower)

/-- The magnitude of a significand, or nothing when it is beyond the largest number. -/
def Significand.value? (s : Significand) : Option Double :=
  let x := Double.ofNat s.word
  if 0 ≤ s.exponent then
    let e := s.exponent.toNat
    if e ≤ largestPower then
      let y := timesPower x e
      if y.isInfinite then none else some y
    else if x.mantissa = 0 then some x else none
  else some (scaleDown 8 x (-s.exponent).toNat)

/-- The largest exponent that is read digit by digit. -/
def exponentLimit : Nat := 2 ^ 31 - 1

/-- Brings an exponent into the range of 32 bits. -/
def clampExponent (e : Int) : Int := max (-2 ^ 31) (min e (2 ^ 31 - 1))

def withSign (negative : Bool) (x : Double) : Double :=
  if negative then ⟨UInt64.ofNat (x.bits.toNat + 2 ^ 63)⟩ else x

/-- The digits of a literal: before the point, behind it, and of the exponent. -/
structure Literal where
  negative : Bool
  whole : List Nat
  fraction : Option (List Nat)
  exponent : Option (Bool × List Nat)

/-- An integer literal that fits 64 bits, signed or unsigned; minus zero is no integer. -/
def Literal.integer? (l : Literal) : Option Int :=
  if l.fraction.isSome || l.exponent.isSome then none
  else
    let n : Nat := l.whole.foldl (fun n d => n * 10 + d) 0
    if l.negative then
      if 0 < n && n ≤ 2 ^ 63 then some (-(n : Int)) else none
    else if n ≤ wordLimit then some n else none

/-- The double-precision number of a literal. -/
def Literal.double? (l : Literal) : Option Double := do
  let s := readWhole ⟨0, 0⟩ false l.whole
  let s := match l.fraction with
    | some digits => readFraction s digits
    | none => s
  let x ← match l.exponent with
    | none => s.value?
    | some (down, digits) =>
      let e : Nat := digits.foldl (fun n d => n * 10 + d) 0
      if exponentLimit < e then
        if s.word != 0 && !down then none else some (Double.ofFields false 0 0)
      else
        let exponent := if down then s.exponent - (e : Int) else s.exponent + (e : Int)
        Significand.value? ⟨s.word, clampExponent exponent⟩
  some (withSign l.negative x)

end BulkLoad.Json
