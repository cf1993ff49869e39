/-!
A place in a YAML text: what is left to read, and the line and column reached. Five characters and
one pair of characters break lines.
-/

namespace BulkLoad.Yaml

/-- A place in a text. -/
structure Cursor where
  rest : List Char
  index : Nat := 0
  line : Nat := 0
  column : Nat := 0

def isBreak (c : Char) : Bool :=
  c == '\n' || c == '\r' || c.toNat == 0x85 || c.toNat == 0x2028 || c.toNat == 0x2029

def isBlank (c : Char) : Bool := c == ' ' || c == '\t'

/-- A letter of ASCII, a digit, a hyphen or an underscore. -/
def isWordChar (c : Char) : Bool := c.isAlphanum || c == '-' || c == '_'

/-- Some test holds of a character, or the text has ended. -/
def endsOr (p : Char → Bool) : Option Char → Bool
  | some c => p c
  | none => true

/-- Some test holds of a character that is there. -/
def isSomeAnd (p : Char → Bool) : Option Char → Bool
  | some c => p c
  | none => false

namespace Cursor

def head? (c : Cursor) : Option Char := c.rest.head?

/-- The character `k` places on. -/
def peek? (c : Cursor) (k : Nat) : Option Char := (c.rest.drop k).head?

def atEnd (c : Cursor) : Bool := c.rest.isEmpty

def sees (c : Cursor) (x : Char) : Bool := c.head? == some x

def seesBlank (c : Cursor) : Bool := isSomeAnd isBlank c.head?

def seesBreak (c : Cursor) : Bool := isSomeAnd isBreak c.head?

/-- A line break, or the end of the text. -/
def seesLineEnd (c : Cursor) : Bool := endsOr isBreak c.head?

/-- A blank, a line break or the end of the text stands `k` places on. -/
def spaceAt (c : Cursor) (k : Nat) : Bool := endsOr (fun x => isBlank x || isBreak x) (c.peek? k)

/-- Moves past one character within the line. -/
def skip (c : Cursor) : Cursor :=
  match c.rest with
  | [] => c
  | _ :: rest => { c with rest, index := c.index + 1, column := c.column + 1 }

/-- Moves past `n` characters within the line. -/
def skipMany (c : Cursor) : Nat → Cursor
  | 0 => c
  | n + 1 => c.skip.skipMany n

/-- Moves past a line break. -/
def skipBreak (c : Cursor) : Cursor :=
  match c.rest with
  | '\r' :: '\n' :: rest => { rest, index := c.index + 2, line := c.line + 1, column := 0 }
  | _ :: rest => { rest, index := c.index + 1, line := c.line + 1, column := 0 }
  | [] => c

/-- What a line break stands for in a scalar. -/
def breakText (c : Cursor) : List Char :=
  match c.rest with
  | x :: _ => if x.toNat == 0x2028 || x.toNat == 0x2029 then [x] else ['\n']
  | [] => []

/-- Moves past the characters that a test accepts, all within the line. -/
def skipWhile (p : Char → Bool) (c : Cursor) : Cursor :=
  (c.rest.takeWhile p).foldl (fun c _ => c.skip) c

/-- The characters that a test accepts, and the place behind them. -/
def takeWhile (p : Char → Bool) (c : Cursor) : List Char × Cursor :=
  (c.rest.takeWhile p, c.skipWhile p)

/-- A mark of three equal characters stands alone at the start of the line. -/
def seesMark (c : Cursor) (x : Char) : Bool :=
  c.column == 0 && c.rest.take 3 == [x, x, x] && c.spaceAt 3

/-- A mark between documents. -/
def seesDocumentMark (c : Cursor) : Bool := c.seesMark '-' || c.seesMark '.'

end Cursor
end BulkLoad.Yaml
