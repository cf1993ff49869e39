import BulkLoad.Json
import BulkLoad.Json.Number

/-!
Reading JSON texts into documents. A malformed text gives the document up to the place of the fault.
-/

namespace BulkLoad.Json

/-- Space between the tokens of a JSON text. -/
def isSpace (c : Char) : Bool := c == ' ' || c == '\n' || c == '\t' || c == '\r'

def skipSpace (cs : List Char) : List Char := cs.dropWhile isSpace

def hexDigit? (c : Char) : Option Nat :=
  if '0' ≤ c ∧ c ≤ '9' then some (c.toNat - 0x30)
  else if 'a' ≤ c ∧ c ≤ 'f' then some (c.toNat - 0x57)
  else if 'A' ≤ c ∧ c ≤ 'F' then some (c.toNat - 0x37)
  else none

/-- Four hexadecimal digits and what follows them. -/
def readUnit : List Char → Option (Nat × List Char)
  | a :: b :: c :: d :: rest => do
    let a ← hexDigit? a
    let b ← hexDigit? b
    let c ← hexDigit? c
    let d ← hexDigit? d
    pure (((a * 16 + b) * 16 + c) * 16 + d, rest)
  | _ => none

/-- The character a one-letter escape stands for. -/
def escaped? (c : Char) : Option Char :=
  match c with
  | '"' => some '"'
  | '\\' => some '\\'
  | '/' => some '/'
  | 'b' => some (Char.ofNat 8)
  | 'f' => some (Char.ofNat 12)
  | 'n' => some '\n'
  | 'r' => some '\r'
  | 't' => some '\t'
  | _ => none

/-- Half of a surrogate pair, the first one. -/
def isHighHalf (n : Nat) : Bool := 0xD800 ≤ n && n < 0xDC00

/-- Half of a surrogate pair, the second one. -/
def isLowHalf (n : Nat) : Bool := 0xDC00 ≤ n && n < 0xE000

/-- The low half that must follow a high one. -/
def readLowHalf : List Char → Option (Nat × List Char)
  | '\\' :: 'u' :: rest => (readUnit rest).filter fun r => isLowHalf r.1
  | _ => none

/-- A string read to its closing quote: the characters so far, last first, and whether every
escape had a value. -/
def readString : Nat → List Char → Bool → List Char → Option (Token × List Char)
  | 0, _, _, _ => none
  | _ + 1, _, _, [] => none
  | fuel + 1, acc, sound, c :: rest =>
    if c == '"' then
      some (if sound then .text (String.ofList acc.reverse) else .valueless, rest)
    else if c == '\\' then
      match rest with
      | 'u' :: rest => match readUnit rest with
        | none => none
        | some (n, rest) =>
          if isHighHalf n then match readLowHalf rest with
            | some (low, rest) =>
              readString fuel
                (Char.ofNat (0x10000 + (n - 0xD800) * 0x400 + (low - 0xDC00)) :: acc) sound rest
            | none => readString fuel acc false rest
          else if isLowHalf n then readString fuel acc false rest
          else readString fuel (Char.ofNat n :: acc) sound rest
      | e :: rest => match escaped? e with
        | some x => readString fuel (x :: acc) sound rest
        | none => none
      | [] => none
    else if c.toNat < 0x20 then none
    else readString fuel (c :: acc) sound rest

def isDigit (c : Char) : Bool := '0' ≤ c && c ≤ '9'

/-- Leading digits and what follows them. -/
def readDigits (cs : List Char) : List Nat × List Char :=
  ((cs.takeWhile isDigit).map fun c => c.toNat - 0x30, cs.dropWhile isDigit)

/-- The exponent of a literal, if there is one. -/
def readExponent (cs : List Char) : Option (Option (Bool × List Nat) × List Char) :=
  match cs with
  | c :: rest =>
    if c == 'e' || c == 'E' then
      let signed := match rest with
        | '-' :: rest => (true, rest)
        | '+' :: rest => (false, rest)
        | rest => (false, rest)
      let digits := readDigits signed.2
      if digits.1.isEmpty then none else some (some (signed.1, digits.1), digits.2)
    else some (none, cs)
  | [] => some (none, [])

/-- The fraction of a literal, if there is one. -/
def readFractionPart (cs : List Char) : Option (Option (List Nat) × List Char) :=
  match cs with
  | '.' :: rest =>
    let digits := readDigits rest
    if digits.1.isEmpty then none else some (some digits.1, digits.2)
  | cs => some (none, cs)

/-- A number literal: no leading zeros, digits on both sides of a point. -/
def readLiteral (cs : List Char) : Option (Literal × List Char) := do
  let (negative, cs) := match cs with
    | '-' :: rest => (true, rest)
    | cs => (false, cs)
  let (whole, rest) := readDigits cs
  if whole.isEmpty then none
  if whole.head? == some 0 && whole.length != 1 then none
  let (fraction, rest) ← readFractionPart rest
  let (exponent, rest) ← readExponent rest
  some (⟨negative, whole, fraction, exponent⟩, rest)

/-- The scalar of a literal. -/
def Literal.token (l : Literal) : Token :=
  match l.integer? with
  | some n => .int n
  | none => match l.double? with
    | some x => .double x
    | none => .valueless

/-- A document and what follows it; nothing follows a malformed one. -/
abbrev Parsed := Tree Token × Option (List Char)

/-- A word that must stand here. -/
def readWord (word : String) (value : Token) (cs : List Char) : Parsed :=
  let n := word.length
  if cs.take n = word.toList then (.scalar value, some (cs.drop n)) else (.broken, none)

/-- A list or an object with `room` levels left for it. Where none is left, it has no value. -/
def within (room : Nat) (p : Parsed) : Parsed :=
  if room == 0 && p.1.isWhole then (.scalar .valueless, p.2) else p

def readText (cs : List Char) : Parsed :=
  match readString (cs.length + 1) [] true cs with
  | some (token, rest) => (.scalar token, some rest)
  | none => (.broken, none)

mutual

/-- A value; space before it is skipped. Lists and objects nest to `room` levels. -/
def readValue : Nat → Nat → List Char → Parsed
  | 0, _, _ => (.broken, none)
  | fuel + 1, room, cs =>
    match skipSpace cs with
    | [] => (.broken, none)
    | '"' :: rest => readText rest
    | '[' :: rest =>
      match skipSpace rest with
      | ']' :: rest => within room (.list [] true, some rest)
      | rest => within room (readItems fuel (room - 1) [] rest)
    | '\x7b' :: rest =>
      match skipSpace rest with
      | '\x7d' :: rest => within room (.record [] true, some rest)
      | rest => within room (readEntries fuel (room - 1) [] rest)
    | 'n' :: rest => readWord "ull" .null rest
    | 't' :: rest => readWord "rue" (.bool true) rest
    | 'f' :: rest => readWord "alse" (.bool false) rest
    | cs => match readLiteral cs with
      | some (l, rest) => (.scalar l.token, some rest)
      | none => (.broken, none)

/-- The items of a list; those read so far come last first. -/
def readItems : Nat → Nat → List (Tree Token) → List Char → Parsed
  | 0, _, acc, _ => (.list acc.reverse false, none)
  | fuel + 1, room, acc, cs =>
    match readValue fuel room cs with
    | (t, none) => (.list (t :: acc).reverse false, none)
    | (t, some rest) =>
      match skipSpace rest with
      | ',' :: rest => readItems fuel room (t :: acc) rest
      | ']' :: rest => (.list (t :: acc).reverse true, some rest)
      | _ => (.list (t :: acc).reverse false, none)

/-- The entries of an object; those read so far come last first. -/
def readEntries : Nat → Nat → List (Tree Token × Tree Token) → List Char → Parsed
  | 0, _, acc, _ => (.record acc.reverse false, none)
  | fuel + 1, room, acc, cs =>
    match skipSpace cs with
    | '"' :: rest =>
      match readText rest with
      | (k, none) => (.record ((k, .broken) :: acc).reverse false, none)
      | (k, some rest) =>
        match skipSpace rest with
        | ':' :: rest =>
          match readValue fuel room rest with
          | (t, none) => (.record ((k, t) :: acc).reverse false, none)
          | (t, some rest) =>
            match skipSpace rest with
            | ',' :: rest => readEntries fuel room ((k, t) :: acc) rest
            | '\x7d' :: rest => (.record ((k, t) :: acc).reverse true, some rest)
            | _ => (.record ((k, t) :: acc).reverse false, none)
        | _ => (.record ((k, .broken) :: acc).reverse false, none)
    | _ => (.record acc.reverse false, none)

end

/-- How many levels of lists and objects a text may have. -/
def maxLevels : Nat := 127

/-- A text read whole: the document, and whether nothing but space follows it. -/
def readDocument (s : String) : Tree Token × Bool :=
  let cs := s.toList
  match readValue (2 * cs.length + 4) maxLevels cs with
  | (t, none) => (t, false)
  | (t, some rest) => (t, (skipSpace rest).isEmpty)

/-- Reads a text as a value of some kind. -/
def read {α : Type} (r : Reader Token α) (s : String) : Except ReadError α := do
  let (t, ended) := readDocument s
  let a ← r t
  if ended then pure a else throw .shape

/-- The value of a JSON text. -/
def parse? (s : String) : Option Json := (read reader s).toOption

end BulkLoad.Json
