import BulkLoad.Document
import BulkLoad.Double.Text

/-!
JSON values and their text. An object is a list of entries in the order of writing.
-/

namespace BulkLoad

/-- A JSON value. Integers and double-precision numbers are kept apart. -/
inductive Json where
  | null
  | bool (b : Bool)
  | int (n : Int)
  | double (x : Double)
  | text (s : String)
  | list (items : List Json)
  | object (entries : List (String × Json))
  deriving Inhabited

namespace Json

/-- A digit of a character escape. -/
def escapeDigit (n : Nat) : Char :=
  if n < 10 then Char.ofNat (0x30 + n) else Char.ofNat (0x57 + n)

/-- One character of a string, with its escape if it needs one. -/
def pushChar (out : String) (c : Char) : String :=
  if c == '"' then out ++ "\\\""
  else if c == '\\' then out ++ "\\\\"
  else if 0x20 ≤ c.toNat then out.push c
  else if c == '\n' then out ++ "\\n"
  else if c == '\r' then out ++ "\\r"
  else if c == '\t' then out ++ "\\t"
  else if c.toNat == 8 then out ++ "\\b"
  else if c.toNat == 12 then out ++ "\\f"
  else ((out ++ "\\u00").push (escapeDigit (c.toNat / 16))).push (escapeDigit (c.toNat % 16))

def pushText (out : String) (s : String) : String :=
  (s.toList.foldl pushChar (out.push '"')).push '"'

mutual

/-- Appends the text of a value, without any space. -/
def push (out : String) : Json → String
  | null => out ++ "null"
  | bool b => out ++ (if b then "true" else "false")
  | int n => out ++ toString n
  | double x => out ++ (if x.isNaN || x.isInfinite then "null" else x.jsonText)
  | text s => pushText out s
  | list items => (pushItems (out.push '[') true items).push ']'
  | object entries => (pushEntries (out.push '\x7b') true entries).push '\x7d'

/-- Appends the items of a list; `first` tells whether none has been written yet. -/
def pushItems (out : String) (first : Bool) : List Json → String
  | [] => out
  | j :: rest => pushItems (push (if first then out else out.push ',') j) false rest

/-- Appends the entries of an object. -/
def pushEntries (out : String) (first : Bool) : List (String × Json) → String
  | [] => out
  | (k, j) :: rest =>
    pushEntries (push ((pushText (if first then out else out.push ',') k).push ':') j) false rest

end

def render (j : Json) : String := push "" j

def get? (j : Json) (key : String) : Option Json :=
  match j with
  | object entries => entries.lookup key
  | _ => none

/-- What a scalar of a JSON text may be. A number out of range and a string with half a surrogate
pair are well-formed but have no value. -/
inductive Token where
  | null
  | bool (b : Bool)
  | int (n : Int)
  | double (x : Double)
  | text (s : String)
  | valueless
  deriving DecidableEq, Repr

instance : Scalar Token where
  text?
    | .text s => some s
    | _ => none
  flag?
    | .bool b => some b
    | _ => none
  integer?
    | .int n => some n
    | _ => none
  double?
    | .double x => some x
    | .int n => some (Double.ofRatio (n < 0) n.natAbs 1)
    | _ => none
  isNull
    | .null => true
    | _ => false
  isEmpty _ := false
  label? _ := none
  positional := true
  wordAsKey := true

/-- The document of a text as a key. -/
def keyTree (k : String) : Tree Token := .scalar (.text k)

mutual

/-- A value as a document. -/
def tree : Json → Tree Token
  | null => .scalar .null
  | bool b => .scalar (.bool b)
  | int n => .scalar (.int n)
  | double x => .scalar (.double x)
  | text s => .scalar (.text s)
  | list items => .list (trees items) true
  | object entries => .record (entryTrees entries) true

def trees : List Json → List (Tree Token)
  | [] => []
  | j :: rest => tree j :: trees rest

def entryTrees : List (String × Json) → List (Tree Token × Tree Token)
  | [] => []
  | (k, j) :: rest => (keyTree k, tree j) :: entryTrees rest

end

/-- The text of a key. -/
def keyText? : Tree Token → Option String
  | .scalar (.text s) => some s
  | _ => none

mutual

/-- The value of a document, if it is whole and every scalar has a value. -/
def ofTree? : Tree Token → Option Json
  | .scalar .null => some null
  | .scalar (.bool b) => some (bool b)
  | .scalar (.int n) => some (int n)
  | .scalar (.double x) => some (double x)
  | .scalar (.text s) => some (text s)
  | .scalar .valueless => none
  | .list items closed => if closed then (ofTrees? items).map list else none
  | .record entries closed => if closed then (ofEntryTrees? entries).map object else none
  | .broken => none

def ofTrees? : List (Tree Token) → Option (List Json)
  | [] => some []
  | t :: rest => match ofTree? t, ofTrees? rest with
    | some j, some js => some (j :: js)
    | _, _ => none

def ofEntryTrees? : List (Tree Token × Tree Token) → Option (List (String × Json))
  | [] => some []
  | (k, t) :: rest => match keyText? k, ofTree? t, ofEntryTrees? rest with
    | some key, some j, some js => some ((key, j) :: js)
    | _, _, _ => none

end

/-- Reads any value. -/
def reader : Reader Token Json := fun t =>
  match ofTree? t with
  | some j => .ok j
  | none => .error .shape

mutual

/-- The document of a value reads back as the value. -/
theorem ofTree?_tree : ∀ j : Json, ofTree? (tree j) = some j
  | null => rfl
  | bool _ => rfl
  | int _ => rfl
  | double _ => rfl
  | text _ => rfl
  | list items => by simp [tree, ofTree?, ofTrees?_trees items]
  | object entries => by simp [tree, ofTree?, ofEntryTrees?_entryTrees entries]

theorem ofTrees?_trees : ∀ items : List Json, ofTrees? (trees items) = some items
  | [] => rfl
  | j :: rest => by simp [trees, ofTrees?, ofTree?_tree j, ofTrees?_trees rest]

theorem ofEntryTrees?_entryTrees :
    ∀ entries : List (String × Json), ofEntryTrees? (entryTrees entries) = some entries
  | [] => rfl
  | (k, j) :: rest => by
    simp [entryTrees, ofEntryTrees?, keyTree, keyText?, ofTree?_tree j,
      ofEntryTrees?_entryTrees rest]

end

end Json
end BulkLoad
