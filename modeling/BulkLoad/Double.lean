import BulkLoad.Bytes

/-!
Double-precision numbers by their 64 bits: sign, and a magnitude `mantissa · 2 ^ power` that is
exact. Two numbers are equal here when their bits are, so payloads of NaN are kept apart.
-/

namespace BulkLoad

/-- A double-precision number, given by its bits. -/
structure Double where
  bits : UInt64
  deriving DecidableEq, Repr, Inhabited

namespace Double

def isNegative (x : Double) : Bool := x.bits.toNat / 2 ^ 63 == 1

/-- The eleven bits of the exponent. -/
def exponentField (x : Double) : Nat := x.bits.toNat / 2 ^ 52 % 2 ^ 11

/-- The fifty-two bits of the fraction. -/
def fractionField (x : Double) : Nat := x.bits.toNat % 2 ^ 52

/-- Neither a number nor an infinity. -/
def isNaN (x : Double) : Bool := x.exponentField == 2047 && x.fractionField != 0

/-- One of the two infinities. -/
def isInfinite (x : Double) : Bool := x.exponentField == 2047 && x.fractionField == 0

/-- A number that is no infinity. -/
def isFinite (x : Double) : Bool := x.exponentField != 2047

/-- The integer that, scaled by `2 ^ power`, is the magnitude of a finite number. -/
def mantissa (x : Double) : Nat :=
  if x.exponentField = 0 then x.fractionField else 2 ^ 52 + x.fractionField

/-- The power of two that scales the mantissa. -/
def power (x : Double) : Int :=
  if x.exponentField = 0 then -1074 else (x.exponentField : Int) - 1075

/-- The number with given sign and magnitude fields. -/
def ofFields (negative : Bool) (exponent fraction : Nat) : Double :=
  ⟨UInt64.ofNat ((if negative then 2 ^ 63 else 0) + exponent * 2 ^ 52 + fraction)⟩

def infinity (negative : Bool) : Double := ofFields negative 2047 0

/-- The quotient of two integers, a half rounded to the even neighbour. -/
def roundDiv (n d : Nat) : Nat :=
  let q := n / d
  let r := n % d
  if 2 * r < d then q else if 2 * r > d then q + 1 else if q % 2 = 0 then q else q + 1

/-- The least power of two by which `n / d` must be divided to fall below `2 ^ 53`, but not less
than the power of the smallest numbers. -/
def scaleOf (n d : Nat) : Int :=
  let guess : Int := (n.log2 : Int) - (d.log2 : Int) - 53
  let fits (p : Int) : Bool :=
    if 0 ≤ p then n < d * 2 ^ (53 + p.toNat) else n * 2 ^ (-p).toNat < d * 2 ^ 53
  let p := if fits guess then guess else guess + 1
  max p (-1074)

/-- The number nearest to `± n / d`, ties to the even mantissa; infinite beyond the largest. -/
def ofRatio (negative : Bool) (n d : Nat) : Double :=
  if n = 0 then ofFields negative 0 0
  else
    let p := scaleOf n d
    let m := if 0 ≤ p then roundDiv n (d * 2 ^ p.toNat) else roundDiv (n * 2 ^ (-p).toNat) d
    let carried := m = 2 ^ 53
    let m := if carried then 2 ^ 52 else m
    let p := if carried then p + 1 else p
    if m < 2 ^ 52 then ofFields negative 0 m
    else if p + 1075 ≥ 2047 then infinity negative
    else ofFields negative (p + 1075).toNat (m - 2 ^ 52)

def ofNat (n : Nat) : Double := ofRatio false n 1

end Double
end BulkLoad
