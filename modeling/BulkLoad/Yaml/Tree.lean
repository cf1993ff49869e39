import BulkLoad.Document
import BulkLoad.Yaml.Token

/-!
YAML texts as documents. A plain scalar may stand for a null, a truth value or a number, any scalar
for a text; an empty plain scalar also stands for an empty list or record.
-/

namespace BulkLoad.Yaml

structure Scalar where
  style : Style
  text : String
  /-- The tag written before it. -/
  tag : Option String := none
  deriving DecidableEq, Repr

/-- The scalar that stands where nothing is written, but a tag at most. -/
def Scalar.nothing (tag : Option String) : Scalar := ⟨.plain, "", tag⟩

namespace Scalar

/-- What the tags that every text may use start with. -/
def coreTags : String := "tag:yaml.org,2002:"

def nullTag : String := coreTags ++ "null"

def flagTag : String := coreTags ++ "bool"

def integerTag : String := coreTags ++ "int"

/-- The plain words for null. -/
def nullWords : List String := ["~", "null", "Null", "NULL"]

/-- A tag that the text has of its own: an exclamation mark and a word. -/
def ownTag? (s : Scalar) : Option (String × Scalar) :=
  match s.tag.map String.toList with
  | some ('!' :: word) => some (String.ofList word, { s with tag := none })
  | _ => none

/-- A plain scalar stands for null by its words, unless a tag makes it something else. -/
def isNull (s : Scalar) : Bool :=
  s.style = .plain && (match s.tag with
    | none => s.text.isEmpty || nullWords.contains s.text
    | some tag => tag = nullTag && nullWords.contains s.text)

/-- The plain words for truth values. -/
def flagWords : List (String × Bool) :=
  [("true", true), ("True", true), ("TRUE", true), ("false", false), ("False", false),
    ("FALSE", false)]

/-- The value of a digit in bases up to sixteen. -/
def digitIn? (base : Nat) (c : Char) : Option Nat := (hexDigit? c).filter (· < base)

def addDigit (base : Nat) (n : Option Nat) (c : Char) : Option Nat :=
  n.bind fun n => (digitIn? base c).map fun d => n * base + d

/-- Digits in a base. -/
def readBase (base : Nat) (cs : List Char) : Option Nat :=
  if cs.isEmpty then none else cs.foldl (addDigit base) (some 0)

/-- Digits of a number: hexadecimal, octal, binary, or decimal without leading zeros. -/
def readMagnitude (cs : List Char) : Option Nat :=
  match cs with
  | '0' :: 'x' :: digits => readBase 16 digits
  | '0' :: 'o' :: digits => readBase 8 digits
  | '0' :: 'b' :: digits => readBase 2 digits
  | '0' :: _ :: _ => none
  | digits => readBase 10 digits

/-- A natural number; a plus sign may stand before it, a minus sign never does, not even before
zero. -/
def readNatural (s : String) : Option Int :=
  (readMagnitude (match s.toList with
    | '+' :: digits => digits
    | digits => digits)).map Int.ofNat

end Scalar

/-- The value of a plain scalar, or of a literal one with the tag of such values. -/
def ifPlain {α : Type} (tag : String) (s : Scalar) (f : String → Option α) : Option α :=
  if s.style = .plain || (s.style = .literal && s.tag = some tag) then f s.text else none

instance : BulkLoad.Scalar Scalar where
  text? s := some s.text
  flag? s := ifPlain Scalar.flagTag s fun t => Scalar.flagWords.lookup t
  integer? s := ifPlain Scalar.integerTag s Scalar.readNatural
  double? _ := none
  isNull := Scalar.isNull
  isEmpty s := s.style = .plain && s.text.isEmpty
  label? := Scalar.ownTag?
  positional := false
  wordAsKey := false

/-- The documents under anchors seen so far. -/
abbrev Anchors := List (String × Tree Scalar)

/-- A part of a document, what follows it unless it is malformed, and the anchors behind it. -/
structure Parsed where
  tree : Tree Scalar
  rest : Option (List Token)
  anchors : Anchors

/-- A malformed part. -/
def Parsed.malformed (anchors : Anchors) : Parsed := ⟨.broken, none, anchors⟩

/-- A part that is not written. -/
def Parsed.nothing (rest : List Token) (anchors : Anchors) : Parsed :=
  ⟨.scalar (.nothing none), some rest, anchors⟩

/-- What the handles of tags stand for. -/
abbrev Handles := List (String × String)

/-- The handles that need no directive. -/
def usualHandles : Handles := [("!", "!"), ("!!", Scalar.coreTags)]

/-- A tag in full; a tag without a handle is one already. -/
def fullTag? (handles : Handles) (handle suffix : String) : Option String :=
  if handle.isEmpty then some suffix else (handles.lookup handle).map (· ++ suffix)

/-- Properties before a node: its anchor and its tag. -/
structure Properties where
  anchor : Option String := none
  tag : Option String := none

/-- An exclamation mark alone tells nothing about a scalar. -/
def Properties.scalarTag (p : Properties) : Option String := p.tag.filter (· != "!")

/-- Reads the properties of a node: an anchor and a tag at most, in either order. -/
def readProperties (handles : Handles) (tokens : List Token) :
    Option (Properties × List Token) :=
  match tokens with
  | .anchor a :: .tag h s :: rest => (fullTag? handles h s).map fun t => (⟨some a, some t⟩, rest)
  | .anchor a :: rest => some (⟨some a, none⟩, rest)
  | .tag h s :: .anchor a :: rest => (fullTag? handles h s).map fun t => (⟨some a, some t⟩, rest)
  | .tag h s :: rest => (fullTag? handles h s).map fun t => (⟨none, some t⟩, rest)
  | rest => some ({}, rest)

/-- Puts a finished node under its anchor. -/
def Parsed.anchored (p : Parsed) (anchor : Option String) : Parsed :=
  match anchor with
  | some a => { p with anchors := (a, p.tree) :: p.anchors }
  | none => p

/-- The next token ends a value of a block mapping that is not written. -/
def endsBlockValue : List Token → Bool
  | .key :: _ | .value :: _ | .blockEnd :: _ => true
  | _ => false

/-- The next token ends an entry of a flow mapping. -/
def endsFlowEntry : List Token → Bool
  | .flowEntry :: _ | .flowMappingEnd :: _ => true
  | _ => false

/-- Entries of a record read so far, last first. -/
abbrev Entries := List (Tree Scalar × Tree Scalar)

def cutRecord (entries : Entries) (anchors : Anchors) : Parsed :=
  ⟨.record entries.reverse false, none, anchors⟩

def cutList (items : List (Tree Scalar)) (anchors : Anchors) : Parsed :=
  ⟨.list items.reverse false, none, anchors⟩

mutual

/-- A node. In a block, collections by indentation are allowed; `unindented` allows a sequence at
the column of the key before it. -/
def readNode (handles : Handles) (block unindented : Bool) :
    Nat → Anchors → List Token → Parsed
  | 0, anchors, _ => .malformed anchors
  | fuel + 1, anchors, tokens =>
    match tokens with
    | .alias name :: rest =>
      match anchors.lookup name with
      | some t => ⟨t, some rest, anchors⟩
      | none => .malformed anchors
    | tokens =>
      match readProperties handles tokens with
      | none => .malformed anchors
      | some (p, rest) =>
        match rest with
        | .scalar style text :: rest =>
          Parsed.anchored ⟨.scalar ⟨style, text, p.scalarTag⟩, some rest, anchors⟩ p.anchor
        | .flowSequenceStart :: rest =>
          (readFlowItems handles true fuel [] anchors rest).anchored p.anchor
        | .flowMappingStart :: rest =>
          (readFlowEntries handles true fuel [] anchors rest).anchored p.anchor
        | .blockSequenceStart :: rest' =>
          if block then (readBlockItems handles fuel [] anchors rest').anchored p.anchor
          else .malformed anchors
        | .blockMappingStart :: rest' =>
          if block then (readBlockEntries handles fuel [] anchors rest').anchored p.anchor
          else .malformed anchors
        | rest =>
          if unindented && rest.head? == some .blockEntry then
            (readUnindentedItems handles fuel [] anchors rest).anchored p.anchor
          else if p.anchor.isSome || p.tag.isSome then
            Parsed.anchored ⟨.scalar (.nothing p.tag), some rest, anchors⟩ p.anchor
          else .malformed anchors

/-- The items of a block sequence. -/
def readBlockItems (handles : Handles) :
    Nat → List (Tree Scalar) → Anchors → List Token → Parsed
  | 0, items, anchors, _ => cutList items anchors
  | fuel + 1, items, anchors, tokens =>
    match tokens with
    | .blockEntry :: rest =>
      let p := if rest.head? == some .blockEntry || rest.head? == some .blockEnd then
          Parsed.nothing rest anchors
        else readNode handles true false fuel anchors rest
      match p.rest with
      | some rest => readBlockItems handles fuel (p.tree :: items) p.anchors rest
      | none => cutList (p.tree :: items) p.anchors
    | .blockEnd :: rest => ⟨.list items.reverse true, some rest, anchors⟩
    | _ => cutList items anchors

/-- The items of a sequence at the column of its key. -/
def readUnindentedItems (handles : Handles) :
    Nat → List (Tree Scalar) → Anchors → List Token → Parsed
  | 0, items, anchors, _ => cutList items anchors
  | fuel + 1, items, anchors, tokens =>
    match tokens with
    | .blockEntry :: rest =>
      let p := if rest.head? == some .blockEntry || endsBlockValue rest then
          Parsed.nothing rest anchors
        else readNode handles true false fuel anchors rest
      match p.rest with
      | some rest => readUnindentedItems handles fuel (p.tree :: items) p.anchors rest
      | none => cutList (p.tree :: items) p.anchors
    | rest => ⟨.list items.reverse true, some rest, anchors⟩

/-- The entries of a block mapping. -/
def readBlockEntries (handles : Handles) : Nat → Entries → Anchors → List Token → Parsed
  | 0, entries, anchors, _ => cutRecord entries anchors
  | fuel + 1, entries, anchors, tokens =>
    match tokens with
    | .key :: rest =>
      let k := if endsBlockValue rest then Parsed.nothing rest anchors
        else readNode handles true true fuel anchors rest
      match k.rest with
      | none => cutRecord ((k.tree, .broken) :: entries) k.anchors
      | some rest => readBlockValue handles fuel k.tree entries k.anchors rest
    | .blockEnd :: rest => ⟨.record entries.reverse true, some rest, anchors⟩
    | _ => cutRecord entries anchors

/-- The value of a key of a block mapping, and the entries behind it. -/
def readBlockValue (handles : Handles) :
    Nat → Tree Scalar → Entries → Anchors → List Token → Parsed
  | 0, _, entries, anchors, _ => cutRecord entries anchors
  | fuel + 1, key, entries, anchors, tokens =>
    let v := match tokens with
      | .value :: rest =>
        if endsBlockValue rest then Parsed.nothing rest anchors
        else readNode handles true true fuel anchors rest
      | rest => Parsed.nothing rest anchors
    match v.rest with
    | none => cutRecord ((key, v.tree) :: entries) v.anchors
    | some rest => readBlockEntries handles fuel ((key, v.tree) :: entries) v.anchors rest

/-- The items of a flow sequence. An item may be a record of one entry without braces. -/
def readFlowItems (handles : Handles) (first : Bool) :
    Nat → List (Tree Scalar) → Anchors → List Token → Parsed
  | 0, items, anchors, _ => cutList items anchors
  | fuel + 1, items, anchors, tokens =>
    match tokens with
    | .flowSequenceEnd :: rest => ⟨.list items.reverse true, some rest, anchors⟩
    | tokens =>
      let after := if first then some tokens else match tokens with
        | .flowEntry :: rest => some rest
        | _ => none
      match after with
      | none => cutList items anchors
      | some (.flowSequenceEnd :: rest) => ⟨.list items.reverse true, some rest, anchors⟩
      | some (.key :: rest) =>
        let p := readPair handles fuel anchors rest
        match p.rest with
        | some rest => readFlowItems handles false fuel (p.tree :: items) p.anchors rest
        | none => cutList (p.tree :: items) p.anchors
      | some rest =>
        let p := readNode handles false false fuel anchors rest
        match p.rest with
        | some rest => readFlowItems handles false fuel (p.tree :: items) p.anchors rest
        | none => cutList (p.tree :: items) p.anchors

/-- A record of one entry in a flow sequence, behind the mark of its key. -/
def readPair (handles : Handles) : Nat → Anchors → List Token → Parsed
  | 0, anchors, _ => .malformed anchors
  | fuel + 1, anchors, tokens =>
    let k := match tokens with
      | .value :: rest | .flowEntry :: rest | .flowSequenceEnd :: rest =>
        Parsed.nothing rest anchors
      | tokens => readNode handles false false fuel anchors tokens
    match k.rest with
    | none => cutRecord [(k.tree, .broken)] k.anchors
    | some rest =>
      let v := match rest with
        | .value :: .flowEntry :: rest => Parsed.nothing (.flowEntry :: rest) k.anchors
        | .value :: .flowSequenceEnd :: rest => Parsed.nothing (.flowSequenceEnd :: rest) k.anchors
        | .value :: rest => readNode handles false false fuel k.anchors rest
        | rest => Parsed.nothing rest k.anchors
      match v.rest with
      | none => cutRecord [(k.tree, v.tree)] v.anchors
      | some rest => ⟨.record [(k.tree, v.tree)] true, some rest, v.anchors⟩

/-- The entries of a flow mapping. -/
def readFlowEntries (handles : Handles) (first : Bool) :
    Nat → Entries → Anchors → List Token → Parsed
  | 0, entries, anchors, _ => cutRecord entries anchors
  | fuel + 1, entries, anchors, tokens =>
    match tokens with
    | .flowMappingEnd :: rest => ⟨.record entries.reverse true, some rest, anchors⟩
    | tokens =>
      let after := if first then some tokens else match tokens with
        | .flowEntry :: rest => some rest
        | _ => none
      match after with
      | none => cutRecord entries anchors
      | some (.flowMappingEnd :: rest) => ⟨.record entries.reverse true, some rest, anchors⟩
      | some (.key :: rest) =>
        let k := match rest with
          | .value :: _ => Parsed.nothing rest anchors
          | rest => if endsFlowEntry rest then Parsed.nothing rest anchors
            else readNode handles false false fuel anchors rest
        match k.rest with
        | none => cutRecord ((k.tree, .broken) :: entries) k.anchors
        | some rest =>
          let v := match rest with
            | .value :: rest => if endsFlowEntry rest then Parsed.nothing rest k.anchors
              else readNode handles false false fuel k.anchors rest
            | rest => Parsed.nothing rest k.anchors
          match v.rest with
          | none => cutRecord ((k.tree, v.tree) :: entries) v.anchors
          | some rest =>
            readFlowEntries handles false fuel ((k.tree, v.tree) :: entries) v.anchors rest
      | some rest =>
        let k := readNode handles false false fuel anchors rest
        match k.rest with
        | none => cutRecord ((k.tree, .broken) :: entries) k.anchors
        | some rest =>
          let entries := (k.tree, .scalar (.nothing none)) :: entries
          readFlowEntries handles false fuel entries k.anchors rest

end

/-- Reads the directives before a document: the handles they declare, and what follows. -/
def readDirectives (handles : Handles) (seenVersion : Bool) :
    List Token → Option (Handles × List Token)
  | .versionDirective :: rest => if seenVersion then none else readDirectives handles true rest
  | .tagDirective handle expansion :: rest =>
    if (handles.lookup handle).isSome then none
    else readDirectives ((handles ++ [(handle, expansion)])) seenVersion rest
  | rest => some (handles ++ usualHandles, rest)

/-- The next token starts no content. -/
def startsNoContent : List Token → Bool
  | .versionDirective :: _ | .tagDirective .. :: _ | .documentStart :: _ | .documentEnd :: _
  | .streamEnd :: _ => true
  | _ => false

/-- The node that a document consists of. -/
def readRoot (handles : Handles) (tokens : List Token) : Parsed :=
  readNode handles true false (4 * tokens.length + 4) [] tokens

/-- The content of a document behind its mark. -/
def readContent (handles : Handles) (tokens : List Token) : Parsed :=
  if startsNoContent tokens then .nothing tokens [] else readRoot handles tokens

/-- The first document of a text, and what follows it. Nothing at all is an empty record. -/
def readFirst (tokens : List Token) : Parsed :=
  match tokens with
  | [.streamEnd] => ⟨.record [] true, some [.streamEnd], []⟩
  | .documentStart :: rest => readContent usualHandles rest
  | .versionDirective :: _ | .tagDirective .. :: _ =>
    match readDirectives [] false tokens with
    | some (handles, .documentStart :: rest) => readContent handles rest
    | _ => .malformed []
  | tokens => readRoot usualHandles tokens

/-- Nothing follows a document but marks of its end. -/
def isLast (rest : List Token) : Bool :=
  match rest with
  | [.streamEnd] => true
  | .documentEnd :: rest => rest.dropWhile (· == .documentEnd) == [.streamEnd]
  | _ => false

/-- Reads a text with a single document as a value of some kind. -/
def read {α : Type} (r : Reader Scalar α) (text : String) : Except ReadError α := do
  let p := readFirst (tokens text)
  let a ← r p.tree
  match p.rest with
  | some rest => if isLast rest then pure a else throw .shape
  | none => throw .shape

end BulkLoad.Yaml
