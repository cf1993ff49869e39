/-!
Points in time without a zone: seconds since the start of 1970 and nanoseconds. A leap second is
written as the second before it with nanoseconds from 1,000,000,000 on, so it only follows the
last second of a minute. A calendar may well allow such nanoseconds in any second; a point in time
from seconds and nanoseconds never has them, and there are no others here. Calendar fields are those
of the proleptic Gregorian calendar. In texts a year has four digits at least, and a
sign when it is negative or has more than four.
-/

namespace BulkLoad

/-- A number with leading zeros up to a width. -/
def zeroPadded (width n : Nat) : String :=
  let digits := Nat.toDigits 10 n
  String.ofList (List.replicate (width - digits.length) '0' ++ digits)

namespace Instant

/-- First second of the year -262143. -/
def firstSecond : Int := -8334601228800

/-- Last second of the year 262142. -/
def lastSecond : Int := 8210266876799

/-- Seconds and nanoseconds that name a point in time. -/
def Valid (second : Int) (nano : Nat) : Prop :=
  firstSecond ≤ second ∧ second ≤ lastSecond ∧ nano < 2000000000 ∧
    (1000000000 ≤ nano → second % 60 = 59)

instance (second : Int) (nano : Nat) : Decidable (Valid second nano) := by
  unfold Valid; infer_instance

end Instant

structure Instant where
  second : Int
  nano : Nat
  valid : Instant.Valid second nano := by decide
  deriving DecidableEq

namespace Instant

/-- The point in time with given seconds and nanoseconds, if there is one. -/
def ofTimestamp? (second : Int) (nano : Nat) : Option Instant :=
  if h : Valid second nano then some ⟨second, nano, h⟩ else none

/-- Calendar fields of a point in time. -/
structure Fields where
  year : Int
  month : Nat
  day : Nat
  hour : Nat
  minute : Nat
  second : Nat
  milli : Nat
  deriving DecidableEq, Repr

/-- Year, month and day of a day counted from the first of January 1970. -/
def dateOfDay (day : Int) : Int × Nat × Nat :=
  let z := day + 719468
  let era := z / 146097
  let doe := (z % 146097).toNat
  let yoe := (doe - doe / 1460 + doe / 36524 - doe / 146096) / 365
  let doy := doe - (365 * yoe + yoe / 4 - yoe / 100)
  let mp := (5 * doy + 2) / 153
  let d := doy - (153 * mp + 2) / 5 + 1
  let m := if mp < 10 then mp + 3 else mp - 9
  let y : Int := (yoe : Int) + era * 400
  (if m ≤ 2 then y + 1 else y, m, d)

/-- The calendar fields; a leap second is second 60. -/
def fields (t : Instant) : Fields :=
  let date := dateOfDay (t.second / 86400)
  let inDay := (t.second % 86400).toNat
  { year := date.1, month := date.2.1, day := date.2.2
    hour := inDay / 3600, minute := inDay / 60 % 60
    second := inDay % 60 + t.nano / 1000000000
    milli := t.nano % 1000000000 / 1000000 }

/-- A year: four digits, or a sign and at least four. -/
def yearText (year : Int) : String :=
  if 0 ≤ year ∧ year < 10000 then zeroPadded 4 year.toNat
  else (if year < 0 then "-" else "+") ++ zeroPadded 4 year.natAbs

/-- Which separators and parts a text of a point in time has. -/
structure Layout where
  dateSeparator : String
  time : Bool
  millis : Bool

/-- Slashes in the date, time with milliseconds. -/
def slashed : Layout := ⟨"/", true, true⟩

/-- The date alone, with hyphens. -/
def dateOnly : Layout := ⟨"-", false, false⟩

/-- Date with hyphens and time in whole seconds. -/
def wholeSeconds : Layout := ⟨"-", true, false⟩

/-- Date with hyphens and time with milliseconds. -/
def hyphened : Layout := ⟨"-", true, true⟩

def Fields.text (f : Fields) (l : Layout) : String :=
  yearText f.year ++ l.dateSeparator ++ zeroPadded 2 f.month ++ l.dateSeparator ++
    zeroPadded 2 f.day ++
    (if l.time then
      " " ++ zeroPadded 2 f.hour ++ ":" ++ zeroPadded 2 f.minute ++ ":" ++ zeroPadded 2 f.second
    else "") ++
    (if l.millis then "." ++ zeroPadded 3 f.milli else "")

def text (t : Instant) (l : Layout) : String := t.fields.text l

end Instant
end BulkLoad
