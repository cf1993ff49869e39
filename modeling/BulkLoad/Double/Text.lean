import BulkLoad.Double

/-!
Numbers in decimal digits. Of a finite number there are the shortest digits that read back as it,
with two texts built from them: positional, and with an exponent outside a middle range. And there
is the text with a fixed count of fractional digits, rounded from the exact value, a half to the
even neighbour.
-/

namespace BulkLoad

namespace Double

/-- Digits `d` and position `e` stand for `0.d · 10 ^ e`. -/
structure Digits where
  digits : List Char
  point : Int
  deriving DecidableEq, Repr

/-- The ratio `n / d` as numerator and denominator of `m · 2 ^ p`. -/
def ratioOf (m : Nat) (p : Int) : Nat × Nat :=
  if 0 ≤ p then (m * 2 ^ p.toNat, 1) else (m, 2 ^ (-p).toNat)

/-- The least `e` such that `n / d < 10 ^ e`, near a first guess. -/
def decimalPoint (n d : Nat) : Int :=
  let below (e : Int) : Bool :=
    if 0 ≤ e then n < d * 10 ^ e.toNat else n * 10 ^ (-e).toNat < d
  let guess : Int := ((n.log2 : Int) - (d.log2 : Int)) * 30103 / 100000
  if below (guess - 1) then guess - 1
  else if below guess then guess
  else if below (guess + 1) then guess + 1
  else guess + 2

/-- The value `n / d` in units of `10 ^ e`, as numerator and denominator. -/
def inUnits (n d : Nat) (e : Int) : Nat × Nat :=
  if 0 ≤ e then (n, d * 10 ^ e.toNat) else (n * 10 ^ (-e).toNat, d)

/-- A grid point within the interval, given in units of the grid, nearest to the value. -/
def gridPoint? (value low high unit : Nat) (closed : Bool) : Option Nat :=
  let inside (k : Nat) : Bool :=
    if closed then low ≤ k * unit && k * unit ≤ high else low < k * unit && k * unit < high
  let k := value / unit
  let lowIn := inside k
  let highIn := inside (k + 1)
  if lowIn && highIn then some (if 2 * (value - k * unit) < unit then k else k + 1)
  else if lowIn then some k
  else if highIn then some (k + 1)
  else none

/-- Tries grids of growing fineness, `count` more after `tried` digits. -/
def searchGrid (value low high d : Nat) (closed : Bool) (point : Int) : Nat → Nat → Nat × Int
  | _, 0 => (0, point)
  | tried, count + 1 =>
    let e := point - (tried + 1 : Nat)
    let unit := inUnits 1 1 e
    match gridPoint? (value * unit.1) (low * unit.1) (high * unit.1) (d * unit.2) closed with
    | some k => if k = 0 then searchGrid value low high d closed point (tried + 1) count else (k, e)
    | none => searchGrid value low high d closed point (tried + 1) count

/-- The shortest digits whose number rounds to `x`, nearest to it among those; `x` is finite and
not zero. -/
def shortest (x : Double) : Digits :=
  let m := x.mantissa
  let p := x.power
  let narrow := x.fractionField = 0 && 1 < x.exponentField
  let scaled := ratioOf (4 * m) (p - 2)
  let step := ratioOf 1 (p - 2)
  let d := scaled.2
  let unit := step.1 * (d / step.2)
  let low := scaled.1 - (if narrow then 1 else 2) * unit
  let high := scaled.1 + 2 * unit
  let found := searchGrid scaled.1 low high d (m % 2 == 0) (decimalPoint scaled.1 d) 0 17
  let digits := Nat.toDigits 10 found.1
  let kept := (digits.reverse.dropWhile (· == '0')).reverse
  ⟨kept, found.2 + digits.length⟩

/-- Digits and point written without an exponent. -/
def Digits.positional (d : Digits) : String :=
  let n := d.digits.length
  if d.point ≤ 0 then "0." ++ String.ofList (List.replicate (-d.point).toNat '0' ++ d.digits)
  else if n ≤ d.point.toNat then
    String.ofList (d.digits ++ List.replicate (d.point.toNat - n) '0')
  else String.ofList (d.digits.take d.point.toNat) ++ "." ++
    String.ofList (d.digits.drop d.point.toNat)

def signText (x : Double) : String := if x.isNegative then "-" else ""

/-- A number written without exponent, with no more digits than reading back needs. -/
def text (x : Double) : String :=
  if x.isNaN then "NaN"
  else if x.isInfinite then x.signText ++ "inf"
  else if x.mantissa = 0 then x.signText ++ "0"
  else x.signText ++ x.shortest.positional

/-- Digits with a point after the first and an exponent. -/
def Digits.scientific (d : Digits) : String :=
  let head := String.ofList (d.digits.take 1)
  let tail := d.digits.drop 1
  let e := d.point - 1
  head ++ (if tail.isEmpty then "" else "." ++ String.ofList tail) ++ "e" ++ toString e

/-- A finite number in a JSON document: always a point or an exponent, positional from `1e-5` up to
below `1e16`. -/
def jsonText (x : Double) : String :=
  if x.mantissa = 0 then x.signText ++ "0.0"
  else
    let d := x.shortest
    let body :=
      if d.point ≤ -5 || 16 < d.point then d.scientific
      else if (d.digits.length : Int) ≤ d.point then d.positional ++ ".0"
      else d.positional
    x.signText ++ body

end Double

/-- Digits of an unscaled number with `places` of them behind the point. -/
def placed (digits : List Char) (places : Nat) : String :=
  if places = 0 then String.ofList digits
  else
    let padded := List.replicate (places + 1 - digits.length) '0' ++ digits
    let whole := padded.length - places
    String.ofList (padded.take whole) ++ "." ++ String.ofList (padded.drop whole)

/-- The ratio `n / d` with a fixed count of fractional digits. -/
def fixedRatio (n d places : Nat) : String :=
  placed (Nat.toDigits 10 (Double.roundDiv (n * 10 ^ places) d)) places

/-- A finite number with a fixed count of fractional digits. -/
def Double.fixed (x : Double) (places : Nat) : String :=
  let r := Double.ratioOf x.mantissa x.power
  x.signText ++ fixedRatio r.1 r.2 places

end BulkLoad
