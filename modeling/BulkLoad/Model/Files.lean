import BulkLoad.Bytes
import BulkLoad.Host.SystemError

/-!
File trees as values: directories, files and pipes by their absolute paths. A file lives on without
its name while something has it open, so names and contents are kept apart.
-/

namespace BulkLoad.Model

open Host (SystemError)

/-- What a name in the tree stands for. -/
inductive Node where
  | directory
  | file (id : Nat)
  | pipe (id : Nat)
  deriving DecidableEq, Repr

/-- What a file holds; later parts come first. -/
structure Content where
  parts : List Bytes := []
  executable : Bool := false
  deriving DecidableEq

def Content.bytes (c : Content) : Bytes := c.parts.reverse.flatten

/-- The names from the root to a place in the tree. -/
abbrev Place := List String

/-- A file tree. The root is a directory and has no entry. -/
structure Files where
  nodes : List (Place × Node) := []
  contents : List (Nat × Content) := []
  deriving DecidableEq

namespace Files

def nameLimit : Nat := 255

def pathLimit : Nat := 4095

/-- What stands at a place. -/
def node? (t : Files) (place : Place) : Option Node :=
  if place.isEmpty then some .directory else t.nodes.lookup place

/-- Steps from a place along names, through directories only. -/
def walk (t : Files) : Place → List String → Except SystemError Place
  | place, [] => .ok place
  | place, name :: rest =>
    match t.node? place with
    | none => .error .noEntry
    | some .directory =>
      if name = "" ∨ name = "." then walk t place rest
      else if name = ".." then walk t place.dropLast rest
      else if nameLimit < Bytes.lengthOfText name then .error .nameTooLong
      else walk t (place ++ [name]) rest
    | some _ => .error .notDirectory

/-- The place of a path, seen from a working directory. -/
def place (t : Files) (workingDirectory : Place) (path : String) : Except SystemError Place :=
  if path.toList.contains '\x00' then .error .nulInPath
  else if path.isEmpty then .error .noEntry
  else if pathLimit < Bytes.lengthOfText path then .error .nameTooLong
  else t.walk (if path.startsWith "/" then [] else workingDirectory) (path.splitOn "/")

/-- What a path stands for. -/
def find (t : Files) (workingDirectory : Place) (path : String) :
    Except SystemError (Place × Node) := do
  let place ← t.place workingDirectory path
  match t.node? place with
  | some node => pure (place, node)
  | none => throw .noEntry

/-- Something stands at a path. -/
def has (t : Files) (workingDirectory : Place) (path : String) : Bool :=
  (t.find workingDirectory path).isOk

/-- Puts a node where nothing stands. -/
def insert (t : Files) (workingDirectory : Place) (path : String) (node : Node) :
    Except SystemError Files := do
  let place ← t.place workingDirectory path
  match t.node? place with
  | some _ => throw .taken
  | none => pure { t with nodes := (place, node) :: t.nodes }

/-- Makes a file with some content where nothing stands. -/
def insertFile (t : Files) (workingDirectory : Place) (path : String) (id : Nat)
    (content : Content) : Except SystemError Files := do
  let t ← t.insert workingDirectory path (.file id)
  pure { t with contents := (id, content) :: t.contents }

def content (t : Files) (id : Nat) : Content := (t.contents.lookup id).getD {}

/-- Changes an entry of a list of pairs. -/
def change {α : Type} (id : Nat) (f : α → α) : List (Nat × α) → List (Nat × α)
  | [] => []
  | (k, a) :: rest => if k = id then (k, f a) :: rest else (k, a) :: change id f rest

def append (t : Files) (id : Nat) (bytes : Bytes) : Files :=
  { t with contents := change id (fun c => { c with parts := bytes :: c.parts }) t.contents }

def truncate (t : Files) (id : Nat) : Files :=
  { t with contents := change id (fun c => { c with parts := [] }) t.contents }

/-- Removes a file or pipe. -/
def remove (t : Files) (workingDirectory : Place) (path : String) : Except SystemError Files := do
  let (place, node) ← t.find workingDirectory path
  match node with
  | .directory => throw .isDirectory
  | _ => pure { t with nodes := t.nodes.filter fun e => e.1 != place }

def read (t : Files) (workingDirectory : Place) (path : String) : Except SystemError Bytes := do
  match (← t.find workingDirectory path).2 with
  | .file id => pure (t.content id).bytes
  | .directory => throw .isDirectory
  | .pipe _ => pure []

/-- The names in a directory with what they stand for, sorted. -/
def list (t : Files) (directory : Place) : List (String × Node) :=
  let entries := t.nodes.filterMap fun e =>
    if e.1.dropLast = directory then e.1.getLast?.map fun name => (name, e.2) else none
  entries.mergeSort fun a b => !(b.1 < a.1)

end Files
end BulkLoad.Model
