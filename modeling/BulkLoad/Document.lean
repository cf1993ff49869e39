import BulkLoad.Double

/-!
Documents as a reader meets them: scalars, lists and records in the order of the text. The text may
stop making sense at some place; the tree then ends there, so that a reader which walks it in order
meets the first fault of the whole document first.
-/

namespace BulkLoad

/-- A document over scalars `σ`; `closed` is false where the text ends or fails inside. -/
inductive Tree (σ : Type) where
  | scalar (value : σ)
  | list (items : List (Tree σ)) (closed : Bool)
  | record (entries : List (Tree σ × Tree σ)) (closed : Bool)
  | broken

/-- Why a document does not stand for a value. -/
inductive ReadError where
  /-- A record lacks a field that has no default. -/
  | missingField (name : String)
  /-- A record names a field twice. -/
  | repeatedField (name : String)
  /-- A text is none of the words allowed here. -/
  | unknownWord (word : String)
  /-- A list of fields names a field twice. -/
  | duplicateName (name : String)
  /-- The value has another shape, or the text is malformed. -/
  | shape
  deriving DecidableEq, Repr

namespace ReadError

/-- The grave accent that sets off names in messages. -/
def mark : String := String.singleton (Char.ofNat 0x60)

/-- What a message says about the fault; nothing is said about a wrong shape. -/
def message? : ReadError → Option String
  | missingField n => some ("missing field " ++ mark ++ n ++ mark)
  | repeatedField n => some ("duplicate field " ++ mark ++ n ++ mark)
  | unknownWord w => some ("unknown variant " ++ mark ++ w ++ mark)
  | duplicateName n => some ("duplicate field '" ++ n ++ "'")
  | shape => none

end ReadError

/-- What a format lets a scalar stand for. -/
class Scalar (σ : Type) where
  text? : σ → Option String
  flag? : σ → Option Bool
  integer? : σ → Option Int
  double? : σ → Option Double
  /-- Stands for the absence of a value. -/
  isNull : σ → Bool
  /-- Stands for an empty list or record. -/
  isEmpty : σ → Bool
  /-- A word before the scalar that says what it is, and the scalar without it. -/
  label? : σ → Option (String × σ)
  /-- Records may be written as lists of their values. -/
  positional : Bool
  /-- A word may be written as a record with the word as its only key. -/
  wordAsKey : Bool

/-- Reads a value out of a document. -/
abbrev Reader (σ α : Type) := Tree σ → Except ReadError α

namespace Tree

mutual

/-- No part of the document is malformed. -/
def isWhole {σ : Type} : Tree σ → Bool
  | scalar _ => true
  | list items closed => closed && areWhole items
  | record entries closed => closed && entriesAreWhole entries
  | broken => false

/-- No part of any of the documents is malformed. -/
def areWhole {σ : Type} : List (Tree σ) → Bool
  | [] => true
  | t :: rest => isWhole t && areWhole rest

/-- No part of any key or value is malformed. -/
def entriesAreWhole {σ : Type} : List (Tree σ × Tree σ) → Bool
  | [] => true
  | (k, v) :: rest => isWhole k && isWhole v && entriesAreWhole rest

end

end Tree

namespace Reader

variable {σ : Type} [Scalar σ] {α β : Type}

/-- A value that a scalar may stand for. -/
def scalar (f : σ → Option α) : Reader σ α
  | .scalar s => match f s with
    | some a => .ok a
    | none => .error .shape
  | _ => .error .shape

def text : Reader σ String := scalar Scalar.text?

def flag : Reader σ Bool := scalar Scalar.flag?

def double : Reader σ Double := scalar Scalar.double?

/-- An integer within bounds. -/
def integer (low high : Int) : Reader σ Int :=
  scalar fun s => (Scalar.integer? s).filter fun n => low ≤ n && n ≤ high

/-- A natural number of `width` bits. -/
def natural (width : Nat) : Reader σ Nat := fun t =>
  (integer 0 (2 ^ width - 1) t).map Int.toNat

def null : Reader σ Unit := scalar fun s => if Scalar.isNull s then some () else none

/-- A value or a null. -/
def optional (r : Reader σ α) : Reader σ (Option α)
  | .scalar s => if Scalar.isNull s then .ok none else (r (.scalar s)).map some
  | t => (r t).map some

/-- The value of the first key that the word equals. -/
def lookUp (words : List (String × α)) (word : String) : Except ReadError α :=
  match words.find? (·.1 == word) with
  | some w => .ok w.2
  | none => .error (.unknownWord word)

/-- One of a set of words. -/
def word (words : List (String × α)) : Reader σ α
  | .scalar s => match Scalar.label? s, Scalar.text? s with
    | some (w, s), _ => do
      let a ← lookUp words w
      null (.scalar s)
      pure a
    | none, some w => lookUp words w
    | none, none => .error .shape
  | .record [(k, v)] closed =>
    if Scalar.wordAsKey σ then do
      let a ← lookUp words (← text k)
      null v
      if closed then pure a else throw .shape
    else .error .shape
  | .record ((k, v) :: _) _ =>
    if Scalar.wordAsKey σ then do
      discard <| lookUp words (← text k)
      null v
      throw .shape
    else .error .shape
  | _ => .error .shape

def list (r : Reader σ α) : Reader σ (List α)
  | .list items closed => do
    let values ← items.mapM r
    if closed then pure values else throw .shape
  | .scalar s => if Scalar.isEmpty s then .ok [] else .error .shape
  | _ => .error .shape

/-- A value with its key, both texts. -/
def textEntry (e : Tree σ × Tree σ) : Except ReadError (String × String) := do
  let k ← text e.1
  let v ← text e.2
  pure (k, v)

/-- A record of texts with keys of its own, in the order of the document. -/
def texts : Reader σ (List (String × String))
  | .record entries closed => do
    let values ← entries.mapM textEntry
    if closed then pure values else throw .shape
  | .scalar s => if Scalar.isEmpty s then .ok [] else .error .shape
  | _ => .error .shape

end Reader

/-- A field that a record may have: its key, a test of its value, and whether a list of values may
end before it. -/
structure RecordField (σ : Type) where
  name : String
  check : Reader σ Unit
  mayEnd : Bool

namespace RecordField

variable {σ : Type} [Scalar σ] {α : Type}

/-- A field whose values a reader reads; it must be present. -/
def required (name : String) (r : Reader σ α) : RecordField σ :=
  ⟨name, fun t => (r t).map fun _ => (), false⟩

/-- A field with a default. -/
def defaulted (name : String) (r : Reader σ α) : RecordField σ :=
  ⟨name, fun t => (r t).map fun _ => (), true⟩

end RecordField

/-- The fields found in a record, by name. -/
abbrev Found (σ : Type) := List (String × Tree σ)

namespace Found

variable {σ : Type} [Scalar σ] {α : Type}

/-- The document under a name. -/
def get? (found : Found σ) (name : String) : Option (Tree σ) := found.lookup name

/-- Walks the entries of a record: unknown keys are passed over, known ones tested and kept. -/
def ofEntries (fields : List (RecordField σ)) :
    Found σ → List (Tree σ × Tree σ) → Except ReadError (Found σ)
  | found, [] => .ok found
  | found, (k, v) :: rest => do
    let key ← Reader.text k
    match fields.find? (·.name == key) with
    | some f =>
      if (found.lookup key).isSome then throw (.repeatedField key)
      f.check v
      ofEntries fields (found ++ [(key, v)]) rest
    | none => if v.isWhole then ofEntries fields found rest else throw .shape

/-- Pairs the values of a list with the fields in their order; `closed` tells whether the list ends
where the values do. -/
def ofItems (closed : Bool) : List (RecordField σ) → List (Tree σ) → Except ReadError (Found σ)
  | [], [] => if closed then .ok [] else .error .shape
  | [], _ :: _ => .error .shape
  | f :: fields, [] => if f.mayEnd then ofItems closed fields [] else .error .shape
  | f :: fields, t :: items => do
    f.check t
    let rest ← ofItems closed fields items
    pure ((f.name, t) :: rest)

/-- The fields of a record. -/
def ofTree (fields : List (RecordField σ)) : Tree σ → Except ReadError (Found σ)
  | .record entries closed => do
    let found ← ofEntries fields [] entries
    if closed then pure found else throw .shape
  | .list items closed =>
    if Scalar.positional σ then ofItems closed fields items else .error .shape
  | .scalar s => if Scalar.isEmpty s then .ok [] else .error .shape
  | .broken => .error .shape

/-- The value of a field that must be there. -/
def required (found : Found σ) (name : String) (r : Reader σ α) : Except ReadError α :=
  match found.get? name with
  | some t => r t
  | none => .error (.missingField name)

/-- The value of a field, or a default where it is absent. -/
def defaulted (found : Found σ) (name : String) (r : Reader σ α) (default : α) :
    Except ReadError α :=
  match found.get? name with
  | some t => r t
  | none => .ok default

/-- The value of a field that may be absent or null. -/
def optional (found : Found σ) (name : String) (r : Reader σ α) : Except ReadError (Option α) :=
  found.defaulted name (Reader.optional r) none

end Found
end BulkLoad
