import BulkLoad.Yaml.Cursor

/-!
The three ways to write a scalar in a YAML text: plain, in quotes, and as a block. Line breaks fold
into spaces, blank lines into line breaks.
-/

namespace BulkLoad.Yaml

/-- Why a text is not YAML. -/
inductive Malformed where
  | malformed
  deriving DecidableEq, Repr

/-- A scalar's characters and the place behind it. -/
abbrev Scanned := Except Malformed (List Char × Cursor)

/-- Space met inside a scalar: blanks within the line, the first line break, those after it. -/
structure Gap where
  blanks : List Char := []
  first : Option (List Char) := none
  more : List Char := []

namespace Gap

/-- What a gap stands for between two parts of a scalar. -/
def text (g : Gap) : List Char :=
  match g.first with
  | none => g.blanks
  | some first =>
    if first == ['\n'] then if g.more.isEmpty then [' '] else g.more
    else first ++ g.more

def breaksLine (g : Gap) : Bool := g.first.isSome

def addBreak (g : Gap) (c : Cursor) : Gap :=
  match g.first with
  | none => { blanks := [], first := some c.breakText, more := g.more }
  | some _ => { g with more := g.more ++ c.breakText }

/-- Adds a blank; after a line break blanks do not count. -/
def addBlank (g : Gap) (x : Char) : Gap :=
  match g.first with
  | none => { g with blanks := g.blanks ++ [x] }
  | some _ => g

end Gap

/-- Reads a gap. A tab must not stand left of `indent` after a line break. -/
def scanGap (indent : Nat) : Nat → Gap → Cursor → Except Malformed (Gap × Cursor)
  | 0, g, c => .ok (g, c)
  | fuel + 1, g, c =>
    match c.head? with
    | some x =>
      if isBlank x then
        if g.breaksLine && c.column < indent && x == '\t' then .error .malformed
        else scanGap indent fuel (g.addBlank x) c.skip
      else if isBreak x then scanGap indent fuel (g.addBreak c) c.skipBreak
      else .ok (g, c)
    | none => .ok (g, c)

/-- A character that ends a plain scalar in a flow collection. -/
def isFlowIndicator (x : Char) : Bool :=
  x == ',' || x == '[' || x == ']' || x == '\x7b' || x == '\x7d'

/-- Reads a word of a plain scalar, up to space or an indicator; characters come last first. -/
def scanPlainWord (inFlow : Bool) : Nat → List Char → Cursor → Scanned
  | 0, acc, c => .ok (acc, c)
  | fuel + 1, acc, c =>
    match c.head? with
    | none => .ok (acc, c)
    | some x =>
      if isBlank x || isBreak x then .ok (acc, c)
      else if inFlow && x == ':' &&
          isSomeAnd (fun y => isFlowIndicator y || y == '?') (c.peek? 1) then .error .malformed
      else if (x == ':' && c.spaceAt 1) || (inFlow && isFlowIndicator x) then .ok (acc, c)
      else scanPlainWord inFlow fuel (x :: acc) c.skip

/-- A plain scalar: its characters, whether a line break follows it, and the place behind it. -/
structure PlainScalar where
  text : List Char
  breaksLine : Bool
  next : Cursor

/-- Reads the words of a plain scalar; `gap` precedes the next one. -/
def scanPlainFrom (inFlow : Bool) (indent : Nat) :
    Nat → List Char → Gap → Cursor → Except Malformed PlainScalar
  | 0, _, _, _ => .error .malformed
  | fuel + 1, acc, gap, c =>
    if c.seesDocumentMark || c.sees '#' then .ok ⟨acc.reverse, gap.breaksLine, c⟩
    else do
      let (word, next) ← scanPlainWord inFlow (c.rest.length + 1) [] c
      let acc := if word.isEmpty then acc else word ++ gap.text.reverse ++ acc
      let gap := if word.isEmpty then gap else {}
      if !(next.seesBlank || next.seesBreak) then pure ⟨acc.reverse, gap.breaksLine, next⟩
      else
        let (gap, next) ← scanGap indent (next.rest.length + 1) gap next
        if !inFlow && next.column < indent then pure ⟨acc.reverse, gap.breaksLine, next⟩
        else scanPlainFrom inFlow indent fuel acc gap next

def scanPlain (inFlow : Bool) (indent : Nat) (c : Cursor) : Except Malformed PlainScalar :=
  scanPlainFrom inFlow indent (c.rest.length + 2) [] {} c

/-- The character of a one-letter escape. -/
def escapeChar? (x : Char) : Option Char :=
  match x with
  | '0' => some (Char.ofNat 0)
  | 'a' => some (Char.ofNat 7)
  | 'b' => some (Char.ofNat 8)
  | 't' => some '\t'
  | '\t' => some '\t'
  | 'n' => some '\n'
  | 'v' => some (Char.ofNat 11)
  | 'f' => some (Char.ofNat 12)
  | 'r' => some '\r'
  | 'e' => some (Char.ofNat 27)
  | ' ' => some ' '
  | '"' => some '"'
  | '/' => some '/'
  | '\\' => some '\\'
  | 'N' => some (Char.ofNat 0x85)
  | '_' => some (Char.ofNat 0xA0)
  | 'L' => some (Char.ofNat 0x2028)
  | 'P' => some (Char.ofNat 0x2029)
  | _ => none

/-- How many hexadecimal digits an escape has. -/
def escapeWidth? (x : Char) : Option Nat :=
  match x with
  | 'x' => some 2
  | 'u' => some 4
  | 'U' => some 8
  | _ => none

def hexDigit? (c : Char) : Option Nat :=
  if '0' ≤ c ∧ c ≤ '9' then some (c.toNat - 0x30)
  else if 'a' ≤ c ∧ c ≤ 'f' then some (c.toNat - 0x57)
  else if 'A' ≤ c ∧ c ≤ 'F' then some (c.toNat - 0x37)
  else none

def addHexDigit (n : Option Nat) (x : Char) : Option Nat :=
  n.bind fun n => (hexDigit? x).map fun d => n * 16 + d

/-- The character that hexadecimal digits name; half a surrogate pair is none. -/
def hexChar? (digits : List Char) (width : Nat) : Option Char :=
  if digits.length = width then
    (digits.foldl addHexDigit (some 0)).bind fun n =>
      if n.isValidChar then some (Char.ofNat n) else none
  else none

/-- Reads an escape behind its backslash. -/
def scanEscape (c : Cursor) : Except Malformed (Char × Cursor) :=
  match c.head? with
  | none => .error .malformed
  | some x =>
    match escapeChar? x, escapeWidth? x with
    | some y, _ => .ok (y, c.skip)
    | none, some width =>
      match hexChar? (c.skip.rest.take width) width with
      | some y => .ok (y, c.skipMany (width + 1))
      | none => .error .malformed
    | none, none => .error .malformed

/-- A stretch of a quoted scalar without space: its characters, last first, whether it ends in an
escaped line break, and the place behind it. -/
structure QuotedWord where
  text : List Char
  joined : Bool
  next : Cursor

def scanQuotedWord (single : Bool) : Nat → List Char → Cursor → Except Malformed QuotedWord
  | 0, acc, c => .ok ⟨acc, false, c⟩
  | fuel + 1, acc, c =>
    match c.head? with
    | none => .ok ⟨acc, false, c⟩
    | some x =>
      if isBlank x || isBreak x then .ok ⟨acc, false, c⟩
      else if single then
        if x == '\'' then
          if c.peek? 1 == some '\'' then scanQuotedWord single fuel ('\'' :: acc) (c.skipMany 2)
          else .ok ⟨acc, false, c⟩
        else scanQuotedWord single fuel (x :: acc) c.skip
      else if x == '"' then .ok ⟨acc, false, c⟩
      else if x == '\\' then
        if isSomeAnd isBreak (c.peek? 1) then .ok ⟨acc, true, c.skip.skipBreak⟩
        else do
          let (y, next) ← scanEscape c.skip
          scanQuotedWord single fuel (y :: acc) next
      else scanQuotedWord single fuel (x :: acc) c.skip

/-- A gap that starts behind an escaped line break: nothing of it counts but further breaks. -/
def joinedGap : Gap := { blanks := [], first := some [], more := [] }

/-- Reads a quoted scalar to its closing quote; characters come last first. -/
def scanQuotedFrom (single : Bool) : Nat → List Char → Cursor → Scanned
  | 0, _, _ => .error .malformed
  | fuel + 1, acc, c =>
    if c.seesDocumentMark || c.atEnd then .error .malformed
    else do
      let word ← scanQuotedWord single (c.rest.length + 1) acc c
      if !word.joined && word.next.sees (if single then '\'' else '"') then
        pure (word.text.reverse, word.next.skip)
      else
        let (gap, next) ← scanGap 0 (word.next.rest.length + 1)
          (if word.joined then joinedGap else {}) word.next
        scanQuotedFrom single fuel (gap.text.reverse ++ word.text) next

/-- Reads a quoted scalar; the next character is its opening quote. -/
def scanQuoted (single : Bool) (c : Cursor) : Scanned :=
  scanQuotedFrom single (c.rest.length + 1) [] c.skip

/-- Which of the line breaks at the end of a block count. -/
inductive Chomping where
  | strip
  | clip
  | keep
  deriving DecidableEq, Repr

/-- The header of a block: chomping, and how much further than its parent it is indented. -/
structure BlockHeader where
  chomping : Chomping := .clip
  increment : Option Nat := none

def chomping? (x : Char) : Option Chomping :=
  if x == '+' then some .keep else if x == '-' then some .strip else none

/-- Reads a chomping indicator, if there is one. -/
def scanChomping (h : BlockHeader) (c : Cursor) : BlockHeader × Cursor :=
  match c.head?.bind chomping? with
  | some chomping => ({ h with chomping }, c.skip)
  | none => (h, c)

/-- Reads an indentation indicator, if there is one; zero is none. -/
def scanIncrement (h : BlockHeader) (c : Cursor) : Except Malformed (BlockHeader × Cursor) :=
  match c.head? with
  | some x =>
    if x == '0' then .error .malformed
    else if x.isDigit then .ok ({ h with increment := some (x.toNat - 0x30) }, c.skip)
    else .ok (h, c)
  | none => .ok (h, c)

/-- Reads the header of a block up to the end of its line. -/
def scanBlockHeader (c : Cursor) : Except Malformed (BlockHeader × Cursor) := do
  let (h, c) ←
    if (c.head?.bind chomping?).isSome then
      let (h, c) := scanChomping {} c
      scanIncrement h c
    else do
      let (h, c) ← scanIncrement {} c
      if h.increment.isSome then pure (scanChomping h c) else pure (h, c)
  let c := c.skipWhile isBlank
  let c := if c.sees '#' then c.skipWhile (fun x => !isBreak x) else c
  if !c.seesLineEnd then throw .malformed
  pure (h, if c.seesBreak then c.skipBreak else c)

/-- Empty lines before a line of a block: the breaks, the deepest column seen, and the place. -/
def scanBlockBreaks (indent : Option Nat) :
    Nat → List Char → Nat → Cursor → Except Malformed (List Char × Nat × Cursor)
  | 0, breaks, deepest, c => .ok (breaks, deepest, c)
  | fuel + 1, breaks, deepest, c =>
    let spaces := c.rest.takeWhile (· == ' ')
    let wanted := match indent with
      | some n => min spaces.length (n - c.column)
      | none => spaces.length
    let c := c.skipMany wanted
    let deepest := max deepest c.column
    let shallow := match indent with
      | some n => c.column < n
      | none => true
    if shallow && c.sees '\t' then .error .malformed
    else if c.seesBreak then
      scanBlockBreaks indent fuel (breaks ++ c.breakText) deepest c.skipBreak
    else .ok (breaks, deepest, c)

/-- The lines of a block read so far, last character first, with what is pending. -/
structure BlockState where
  text : List Char := []
  lastBreak : List Char := []
  breaks : List Char := []
  lastWasBlank : Bool := false

/-- Reads the lines of a block. -/
def scanBlockLines (literal : Bool) (indent : Nat) :
    Nat → BlockState → Cursor → Except Malformed (BlockState × Cursor)
  | 0, s, c => .ok (s, c)
  | fuel + 1, s, c =>
    if c.column == indent && !c.atEnd then do
      let blank := c.seesBlank
      let folds := !literal && s.lastBreak == ['\n'] && !s.lastWasBlank && !blank
      let joint :=
        if folds then if s.breaks.isEmpty then [' '] else [] else s.lastBreak
      let (line, next) := c.takeWhile fun x => !isBreak x
      let text := line.reverse ++ s.breaks.reverse ++ joint.reverse ++ s.text
      let lastBreak := next.breakText
      let next := if next.seesBreak then next.skipBreak else next
      let (breaks, _, next) ← scanBlockBreaks (some indent) (next.rest.length + 1) [] 0 next
      scanBlockLines literal indent fuel ⟨text, lastBreak, breaks, blank⟩ next
    else .ok (s, c)

/-- Reads a block scalar; the next character is its indicator, `parent` the column of the block
that it belongs to. -/
def scanBlock (literal : Bool) (parent : Int) (c : Cursor) : Scanned := do
  let (header, c) ← scanBlockHeader c.skip
  let given := header.increment.map fun n => if 0 ≤ parent then parent.toNat + n else n
  let (breaks, deepest, c) ← scanBlockBreaks given (c.rest.length + 1) [] 0 c
  let indent := match given with
    | some n => n
    | none => max (max deepest (parent + 1).toNat) 1
  let (s, c) ← scanBlockLines literal indent (c.rest.length + 1) { breaks } c
  let ending := match header.chomping with
    | .strip => []
    | .clip => s.lastBreak
    | .keep => s.lastBreak ++ s.breaks
  pure (s.text.reverse ++ ending, c)

end BulkLoad.Yaml
