/-!
Paths as texts: the last name in a path, its stem and extension, and siblings under another name.
Repeated separators and single dots behind the front of a path stand for nothing.
-/

namespace BulkLoad.Path

/-- What no name is cut from: the root, or a dot that opens a relative path. -/
def splitFront (path : List Char) : List Char × List Char :=
  match path with
  | '/' :: rest => (['/'], rest)
  | ['.'] => (['.'], [])
  | '.' :: '/' :: rest => (['.'], '/' :: rest)
  | _ => ([], path)

/-- Drops separators and single dots at the end of a path that is given backwards. -/
def dropIdle : List Char → List Char
  | '/' :: rest => dropIdle rest
  | ['.'] => []
  | '.' :: '/' :: rest => dropIdle rest
  | other => other

/-- What stands before the last separator of a path that is given backwards, and what stands
behind it. -/
def splitLast (backwards : List Char) : List Char × List Char :=
  ((backwards.takeWhile (· != '/')).reverse, (backwards.dropWhile (· != '/')).drop 1)

/-- The last name of a path, and the path that holds it; none where the path ends in two dots or
has no name. -/
def splitName? (path : String) : Option (String × String) :=
  let (front, body) := splitFront path.toList
  match dropIdle body.reverse with
  | [] => none
  | backwards =>
    let (name, before) := splitLast backwards
    if name = ['.', '.'] then none
    else some (String.ofList (front ++ (dropIdle before).reverse), String.ofList name)

def name? (path : String) : Option String := (splitName? path).map (·.2)

/-- A name in its directory. An absolute name stands for itself. -/
def join (directory name : String) : String :=
  if name.startsWith "/" then name
  else if directory.isEmpty || directory.endsWith "/" then directory ++ name
  else directory ++ "/" ++ name

/-- The path with another last name. -/
def withName (path name : String) : String :=
  match splitName? path with
  | some (directory, _) => join directory name
  | none => join path name

/-- A name cut at its last dot; a name whose only dot opens it is not cut. -/
def splitExtension (name : String) : String × Option String :=
  let backwards := name.toList.reverse
  match backwards.dropWhile (· != '.') with
  | [] => (name, none)
  | [_] => (name, none)
  | _ :: stem => (String.ofList stem.reverse,
      some (String.ofList (backwards.takeWhile (· != '.')).reverse))

def withExtension (stem : String) : Option String → String
  | some extension => stem ++ "." ++ extension
  | none => stem

/-- The path whose stem has something added. -/
def withStemSuffix (path suffix : String) : String :=
  let (stem, extension) := splitExtension ((name? path).getD "")
  withName path (withExtension (stem ++ suffix) extension)

end BulkLoad.Path
