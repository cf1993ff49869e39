import BulkLoad.Yaml.Scalar

/-!
The tokens of a YAML text. Block structure is made explicit: indentation opens and closes blocks,
and a key that is not marked as one is found when the colon behind it is met.
-/

namespace BulkLoad.Yaml

/-- How a scalar is written. -/
inductive Style where
  | plain
  | quoted
  | literal
  | folded
  deriving DecidableEq, Repr

inductive Token where
  | versionDirective
  | tagDirective (handle expansion : String)
  | documentStart
  | documentEnd
  | streamEnd
  | blockSequenceStart
  | blockMappingStart
  | blockEnd
  | flowSequenceStart
  | flowSequenceEnd
  | flowMappingStart
  | flowMappingEnd
  | blockEntry
  | flowEntry
  | key
  | value
  | alias (name : String)
  | anchor (name : String)
  | tag (handle suffix : String)
  | scalar (style : Style) (text : String)
  deriving DecidableEq, Repr

/-- A place where a key without a mark may have begun. -/
structure KeyCandidate where
  /-- The place is the start of a line of a block, so nothing but a key may stand there. -/
  required : Bool
  /-- How many tokens come before it. -/
  position : Nat
  index : Nat
  line : Nat
  column : Nat

/-- The state of the scanner. -/
structure Scanner where
  cursor : Cursor
  tokens : Array Token := #[]
  /-- Column of the innermost block, -1 outside of all. -/
  indent : Int := -1
  /-- Columns of the blocks around it, innermost first. -/
  outer : List Int := []
  keyAllowed : Bool := true
  /-- One candidate for each open flow collection, innermost first, and one for the block. -/
  candidates : List (Option KeyCandidate) := [none]

namespace Scanner

/-- Scanning succeeds with a new state or ends the text. -/
abbrev Step := Except Malformed Scanner

def inFlow (s : Scanner) : Bool := 1 < s.candidates.length

def push (s : Scanner) (t : Token) : Scanner := { s with tokens := s.tokens.push t }

/-- Appends a token for some characters. -/
def pushAt (s : Scanner) (t : Token) (cursor : Cursor) : Scanner :=
  { s with tokens := s.tokens.push t, cursor }

/-- The candidate of the innermost collection. -/
def candidate (s : Scanner) : Option KeyCandidate := s.candidates.head?.join

def setCandidate (s : Scanner) (k : Option KeyCandidate) : Scanner :=
  { s with candidates := k :: s.candidates.drop 1 }

/-- Gives up the candidate of the innermost collection. -/
def dropCandidate (s : Scanner) : Step :=
  match s.candidate with
  | some k => if k.required then .error .malformed else .ok (s.setCandidate none)
  | none => .ok s

/-- Notes that a key may begin here. -/
def noteCandidate (s : Scanner) : Step :=
  if s.keyAllowed then do
    let s ← s.dropCandidate
    let c := s.cursor
    pure (s.setCandidate (some
      ⟨!s.inFlow && s.indent == c.column, s.tokens.size, c.index, c.line, c.column⟩))
  else .ok s

/-- The longest text of a key without a mark. -/
def longestKey : Nat := 1024

/-- A candidate is given up when its line or the length of a key is exceeded. -/
def isStale (c : Cursor) (k : KeyCandidate) : Bool :=
  k.line < c.line || k.index + longestKey < c.index

/-- Gives up candidates that have gone stale. -/
def dropStale (s : Scanner) : Step :=
  if s.candidates.any fun k => k.any fun k => isStale s.cursor k && k.required then
    .error .malformed
  else .ok { s with candidates := s.candidates.map fun k => k.filter fun k => !isStale s.cursor k }

/-- Closes the blocks that are indented further than a column. -/
def unroll (column : Int) : Nat → Scanner → Scanner
  | 0, s => s
  | fuel + 1, s =>
    if s.inFlow then s
    else if column < s.indent then
      unroll column fuel
        { s.push .blockEnd with indent := s.outer.headD (-1), outer := s.outer.drop 1 }
    else s

/-- Closes blocks down to a column. -/
def close (s : Scanner) (column : Int) : Scanner := unroll column (s.outer.length + 1) s

/-- Opens a block at a column if it is indented further; its token goes to a position. -/
def openBlock (s : Scanner) (column : Nat) (position : Nat) (t : Token) : Scanner :=
  if s.inFlow then s
  else if s.indent < column then
    { s with
      indent := column, outer := s.indent :: s.outer
      tokens := s.tokens.insertIdxIfInBounds position t }
  else s

/-- Skips space, comments and line breaks before a token. -/
def skipSpace : Nat → Scanner → Scanner
  | 0, s => s
  | fuel + 1, s =>
    let tabs := s.inFlow || !s.keyAllowed
    let c := s.cursor.skipWhile fun x => x == ' ' || (tabs && x == '\t')
    let c := if c.sees '#' then c.skipWhile fun x => !isBreak x else c
    if c.seesBreak then
      skipSpace fuel { s with cursor := c.skipBreak, keyAllowed := s.keyAllowed || !s.inFlow }
    else { s with cursor := c }

def scanEnd (s : Scanner) : Step := do
  let s ← (s.close (-1)).dropCandidate
  pure ({ s with keyAllowed := false }.push .streamEnd)

def isTagChar (verbatim : Bool) (x : Char) : Bool :=
  isWordChar x || ";/?:@&=+$.~*'()%".toList.contains x ||
    (verbatim && (x == ',' || x == '[' || x == ']' || x == '!'))

/-- The end of a line behind a directive. -/
def endDirective (c : Cursor) : Except Malformed Cursor :=
  let c := c.skipWhile isBlank
  let c := if c.sees '#' then c.skipWhile fun x => !isBreak x else c
  if c.seesLineEnd then .ok (if c.seesBreak then c.skipBreak else c) else .error .malformed

/-- A version number: digits, a point and digits. -/
def scanVersion (c : Cursor) : Except Malformed Cursor := do
  let (major, c) := c.takeWhile Char.isDigit
  if major.isEmpty || 9 < major.length || !c.sees '.' then throw .malformed
  let (minor, c) := c.skip.takeWhile Char.isDigit
  if minor.isEmpty || 9 < minor.length then throw .malformed
  pure c

/-- The handle of a tag: a word between exclamation marks, or one exclamation mark. -/
def scanHandle (c : Cursor) : Except Malformed (List Char × Cursor) :=
  if !c.sees '!' then .error .malformed
  else
    let (word, next) := c.skip.takeWhile isWordChar
    if next.sees '!' then .ok ('!' :: (word ++ ['!']), next.skip) else .ok ('!' :: word, next)

def scanDirective (s : Scanner) : Step := do
  let s ← (s.close (-1)).dropCandidate
  let s := { s with keyAllowed := false }
  let (name, c) := s.cursor.skip.takeWhile isWordChar
  if name.isEmpty || !c.spaceAt 0 then throw .malformed
  if name == "YAML".toList then
    let c ← scanVersion (c.skipWhile isBlank)
    pure (s.pushAt .versionDirective (← endDirective c))
  else if name == "TAG".toList then
    let (handle, c) ← scanHandle (c.skipWhile isBlank)
    if !c.seesBlank then throw .malformed
    let (expansion, c) := (c.skipWhile isBlank).takeWhile (isTagChar true)
    if !c.spaceAt 0 then throw .malformed
    pure (s.pushAt (.tagDirective (String.ofList handle) (String.ofList expansion))
      (← endDirective c))
  else throw .malformed

def scanDocumentMark (s : Scanner) (t : Token) : Step := do
  let s ← (s.close (-1)).dropCandidate
  pure ({ s with keyAllowed := false }.pushAt t (s.cursor.skipMany 3))

def scanFlowStart (s : Scanner) (t : Token) : Step := do
  let s ← s.noteCandidate
  pure ({ s with candidates := none :: s.candidates, keyAllowed := true }.pushAt t s.cursor.skip)

def scanFlowEnd (s : Scanner) (t : Token) : Step := do
  let s ← s.dropCandidate
  let candidates := if s.inFlow then s.candidates.drop 1 else s.candidates
  pure ({ s with candidates, keyAllowed := false }.pushAt t s.cursor.skip)

/-- A comma of a flow collection. -/
def scanFlowEntry (s : Scanner) : Step := do
  let s ← s.dropCandidate
  pure ({ s with keyAllowed := true }.pushAt .flowEntry s.cursor.skip)

/-- The hyphen of a block sequence. -/
def scanBlockEntry (s : Scanner) : Step := do
  if !s.inFlow && !s.keyAllowed then throw .malformed
  let s ← (s.openBlock s.cursor.column s.tokens.size .blockSequenceStart).dropCandidate
  pure ({ s with keyAllowed := true }.pushAt .blockEntry s.cursor.skip)

def scanKey (s : Scanner) : Step := do
  if !s.inFlow && !s.keyAllowed then throw .malformed
  let s ← (s.openBlock s.cursor.column s.tokens.size .blockMappingStart).dropCandidate
  pure ({ s with keyAllowed := !s.inFlow }.pushAt .key s.cursor.skip)

/-- The colon before a value: it makes a key of the candidate, if there is one. -/
def scanValue (s : Scanner) : Step :=
  match s.candidate with
  | some k =>
    let s := { s with tokens := s.tokens.insertIdxIfInBounds k.position .key }
    let s := (s.openBlock k.column k.position .blockMappingStart).setCandidate none
    .ok ({ s with keyAllowed := false }.pushAt .value s.cursor.skip)
  | none => do
    if !s.inFlow && !s.keyAllowed then throw .malformed
    let s := s.openBlock s.cursor.column s.tokens.size .blockMappingStart
    pure ({ s with keyAllowed := !s.inFlow }.pushAt .value s.cursor.skip)

/-- An alias or an anchor. -/
def scanName (s : Scanner) (token : String → Token) : Step := do
  let s ← s.noteCandidate
  let (name, c) := s.cursor.skip.takeWhile isWordChar
  let ends := c.spaceAt 0 ||
    isSomeAnd (fun x => "?:,]\x7d%@`".toList.contains x) c.head?
  if name.isEmpty || !ends then throw .malformed
  pure ({ s with keyAllowed := false }.pushAt (token (String.ofList name)) c)

def scanTag (s : Scanner) : Step := do
  let s ← s.noteCandidate
  let (token, c) ←
    if s.cursor.peek? 1 == some '<' then do
      let (suffix, c) := (s.cursor.skipMany 2).takeWhile (isTagChar true)
      if suffix.isEmpty || !c.sees '>' then throw .malformed
      pure (Token.tag "" (String.ofList suffix), c.skip)
    else do
      let (handle, c) ← scanHandle s.cursor
      if 1 < handle.length && handle.getLast? == some '!' then
        let (suffix, c) := c.takeWhile (isTagChar false)
        if suffix.isEmpty then throw .malformed
        pure (Token.tag (String.ofList handle) (String.ofList suffix), c)
      else
        let (more, c) := c.takeWhile (isTagChar false)
        let suffix := handle.drop 1 ++ more
        if suffix.isEmpty then pure (Token.tag "" "!", c)
        else pure (Token.tag "!" (String.ofList suffix), c)
  if !(c.spaceAt 0 || (s.inFlow && c.sees ',')) then throw .malformed
  pure ({ s with keyAllowed := false }.pushAt token c)

def scanBlockScalar (s : Scanner) (literal : Bool) : Step := do
  let s ← s.dropCandidate
  let (text, c) ← scanBlock literal s.indent s.cursor
  let style : Style := if literal then .literal else .folded
  pure ({ s with keyAllowed := true }.pushAt (.scalar style (String.ofList text)) c)

def scanQuotedScalar (s : Scanner) (single : Bool) : Step := do
  let s ← s.noteCandidate
  let (text, c) ← scanQuoted single s.cursor
  pure ({ s with keyAllowed := false }.pushAt (.scalar .quoted (String.ofList text)) c)

def scanPlainScalar (s : Scanner) : Step := do
  let s ← s.noteCandidate
  let p ← scanPlain s.inFlow (s.indent + 1).toNat s.cursor
  pure ({ s with keyAllowed := p.breaksLine }.pushAt (.scalar .plain (String.ofList p.text)) p.next)

/-- A plain scalar may begin with this character. -/
def startsPlain (s : Scanner) (x : Char) : Bool :=
  let next := s.cursor.peek? 1
  !(isBlank x || isBreak x || "-?:,[]\x7b\x7d#&*!|>'\"%@`".toList.contains x) ||
    (x == '-' && !isSomeAnd isBlank next) ||
    (!s.inFlow && (x == '?' || x == ':') && !s.cursor.spaceAt 1)

/-- The next token. -/
def scanToken (s : Scanner) : Step := do
  let s ← (skipSpace (s.cursor.rest.length + 1) s).dropStale
  let s := s.close s.cursor.column
  let c := s.cursor
  match c.head? with
  | none => s.scanEnd
  | some x =>
    if c.column == 0 && x == '%' then s.scanDirective
    else if c.seesMark '-' then s.scanDocumentMark .documentStart
    else if c.seesMark '.' then s.scanDocumentMark .documentEnd
    else if x == '[' then s.scanFlowStart .flowSequenceStart
    else if x == '\x7b' then s.scanFlowStart .flowMappingStart
    else if x == ']' then s.scanFlowEnd .flowSequenceEnd
    else if x == '\x7d' then s.scanFlowEnd .flowMappingEnd
    else if x == ',' then s.scanFlowEntry
    else if x == '-' && c.spaceAt 1 then s.scanBlockEntry
    else if x == '?' && (s.inFlow || c.spaceAt 1) then s.scanKey
    else if x == ':' && (s.inFlow || c.spaceAt 1) then s.scanValue
    else if x == '*' then s.scanName .alias
    else if x == '&' then s.scanName .anchor
    else if x == '!' then s.scanTag
    else if x == '|' && !s.inFlow then s.scanBlockScalar true
    else if x == '>' && !s.inFlow then s.scanBlockScalar false
    else if x == '\'' then s.scanQuotedScalar true
    else if x == '"' then s.scanQuotedScalar false
    else if s.startsPlain x then s.scanPlainScalar
    else throw .malformed

/-- The tokens that are settled: none from the first key candidate on. -/
def settled (s : Scanner) : List Token :=
  let bound := s.candidates.foldl (fun n k => match k with
    | some k => min n k.position
    | none => n) s.tokens.size
  s.tokens.toList.take bound

/-- Scans to the end of the text or to a fault. -/
def scanAll : Nat → Scanner → List Token
  | 0, s => s.settled
  | fuel + 1, s =>
    match s.scanToken with
    | .error _ => s.settled
    | .ok s => if s.tokens.back? == some .streamEnd then s.tokens.toList else scanAll fuel s

end Scanner

/-- A character that a YAML text may hold. -/
def isAllowed (c : Char) : Bool :=
  let n := c.toNat
  n == 9 || n == 10 || n == 13 || (0x20 ≤ n && n ≤ 0x7E) || n == 0x85 ||
    (0xA0 ≤ n && n ≤ 0xD7FF) || (0xE000 ≤ n && n ≤ 0xFFFD) || 0x10000 ≤ n

/-- The text behind a byte order mark. -/
def withoutMark (cs : List Char) : List Char :=
  match cs with
  | c :: rest => if c.toNat == 0xFEFF then rest else cs
  | [] => []

/-- The tokens of a text, up to its end or to the place where it is malformed. -/
def tokens (text : String) : List Token :=
  let cs := withoutMark text.toList
  if cs.all isAllowed then Scanner.scanAll (2 * cs.length + 2) { cursor := { rest := cs } }
  else []

end BulkLoad.Yaml
