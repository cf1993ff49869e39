import BulkLoad.Double.Text

/-!
Decimal numbers of any size, `unscaled · 10 ^ -scale`. The pair is kept as given: 1.50 and 1.5 are
equal in value but two numbers here. Rounding takes a half to the even neighbour.
A text of a number has an optional sign, digits with at most one point among them and with
underscores as separators, and an optional exponent.
-/

namespace BulkLoad

/-- The number `unscaled · 10 ^ -scale`. -/
structure Decimal where
  unscaled : Int
  scale : Int
  deriving DecidableEq, Repr, Inhabited

namespace Decimal

def digitsOf (n : Nat) : List Char := Nat.toDigits 10 n

/-- Digits written with `scale` of them behind the point and no exponent: padded with zeros on the
side where they fall short. -/
def spread (digits : List Char) (scale : Int) : List Char :=
  if scale ≤ 0 then
    if digits = ['0'] then digits else digits ++ List.replicate (-scale).toNat '0'
  else
    let s := scale.toNat
    if s < digits.length then
      digits.take (digits.length - s) ++ '.' :: digits.drop (digits.length - s)
    else '0' :: '.' :: (List.replicate (s - digits.length) '0' ++ digits)

/-- The minus sign of a negative number. -/
def signOf (n : Int) : List Char := if n < 0 then ['-'] else []

/-- The number without exponent, with exactly `scale` fractional digits when `scale` is positive. -/
def plain (d : Decimal) : String :=
  String.ofList (signOf d.unscaled ++ spread (digitsOf d.unscaled.natAbs) d.scale)

/-- The number with a given scale: exact when that is finer, else rounded. -/
def rescale (d : Decimal) (scale : Int) : Decimal :=
  if d.scale ≤ scale then ⟨d.unscaled * 10 ^ (scale - d.scale).toNat, scale⟩
  else
    let magnitude := Double.roundDiv d.unscaled.natAbs (10 ^ (d.scale - scale).toNat)
    ⟨if d.unscaled < 0 then -magnitude else magnitude, scale⟩

/-- An exponent with its sign. -/
def signedText (n : Int) : String := if n < 0 then toString n else "+" ++ toString n

/-- How many zeros behind the point are written out before an exponent takes over. -/
def leadingZeroLimit : Int := 5

/-- How many zeros before the point are written out before an exponent takes over. -/
def trailingZeroLimit : Int := 15

/-- The number for a reader: an exponent stands in for long runs of zeros, and zero is `0`. -/
def display (d : Decimal) : String :=
  let digits := digitsOf d.unscaled.natAbs
  let sign := String.ofList (signOf d.unscaled)
  if d.unscaled = 0 then "0"
  else if leadingZeroLimit < d.scale - digits.length then
    let tail := digits.drop 1
    sign ++ String.ofList (digits.take 1) ++
      (if tail.isEmpty then "" else "." ++ String.ofList tail) ++
      "E" ++ signedText (digits.length - d.scale - 1)
  else if trailingZeroLimit < -d.scale then
    sign ++ String.ofList digits ++ "e" ++ signedText (-d.scale)
  else d.plain

def digitValue? (c : Char) : Option Nat :=
  if '0' ≤ c ∧ c ≤ '9' then some (c.toNat - 0x30) else none

/-- Reads digits, and underscores where `grouped` allows them, onto a number already read. -/
def readDigits (grouped : Bool) : Nat → List Char → Option Nat
  | n, [] => some n
  | n, c :: rest =>
    match digitValue? c with
    | some d => readDigits grouped (n * 10 + d) rest
    | none => if grouped && c == '_' then readDigits grouped n rest else none

/-- A digit string that is not empty and does not start with a separator. -/
def readNatural (cs : List Char) : Option Nat :=
  match cs with
  | [] => none
  | '_' :: _ => none
  | cs => readDigits true 0 cs

/-- A digit string with at most one plus sign before it. -/
def readUnsigned (cs : List Char) : Option Nat :=
  match cs with
  | '+' :: rest => readNatural rest
  | cs => readNatural cs

/-- An integer with an optional sign. -/
def readInteger (cs : List Char) : Option Int :=
  match cs with
  | '-' :: '+' :: _ => none
  | '-' :: rest => (readUnsigned rest).map fun n => -(n : Int)
  | cs => (readUnsigned cs).map fun n => (n : Int)

/-- Digits of an exponent, without separators. -/
def readExponentDigits (cs : List Char) : Option Nat :=
  if cs.isEmpty then none else readDigits false 0 cs

/-- An exponent within 128 bits. -/
def readExponent (cs : List Char) : Option Int := do
  let e ← match cs with
    | '-' :: rest => (readExponentDigits rest).map fun n => -(n : Int)
    | '+' :: rest => (readExponentDigits rest).map fun n => (n : Int)
    | cs => (readExponentDigits cs).map fun n => (n : Int)
  if -2 ^ 127 ≤ e ∧ e < 2 ^ 127 then some e else none

/-- The digits of the number without its point, and how many of them follow the point. -/
def withoutPoint (cs : List Char) : List Char × Int :=
  let lead := cs.takeWhile (· != '.')
  match cs.dropWhile (· != '.') with
  | '.' :: trail => (lead ++ trail, ((trail.filter (· != '_')).length : Int))
  | _ => (cs, 0)

/-- A letter that opens the exponent. -/
def isExponentMark (c : Char) : Bool := c == 'e' || c == 'E'

/-- The number that a text denotes; the scale has to fit 64 bits. -/
def ofText? (s : String) : Option Decimal := do
  let cs := s.toList
  let base := cs.takeWhile fun c => !isExponentMark c
  let exponent ← match cs.dropWhile fun c => !isExponentMark c with
    | _ :: e => readExponent e
    | [] => some 0
  if base.isEmpty then none
  let digits := withoutPoint base
  let scale := digits.2 - exponent
  if scale < -2 ^ 63 ∨ 2 ^ 63 ≤ scale then none
  let unscaled ← readInteger digits.1
  some ⟨unscaled, scale⟩

end Decimal
end BulkLoad
