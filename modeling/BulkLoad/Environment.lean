/-!
Environments, and the substitution of variables in texts: a dollar sign and a name in braces stand
for the value of the variable. Values are inserted as they are and not looked at again.
-/

namespace BulkLoad

/-- The values of variables; the first setting of a name counts. A variable whose value is no
Unicode text is not among them: it counts as one that is not set. -/
abbrev Environment := List (String × String)

namespace Environment

def startsName (c : Char) : Bool := ('A' ≤ c && c ≤ 'Z') || ('a' ≤ c && c ≤ 'z') || c == '_'

def inName (c : Char) : Bool := startsName c || ('0' ≤ c && c ≤ '9')

/-- The name in a placeholder that starts right behind the dollar sign. -/
def nameAt? (cs : List Char) : Option String :=
  match cs with
  | '\x7b' :: c :: rest =>
    if startsName c then
      match rest.dropWhile inName with
      | '\x7d' :: _ => some (String.ofList (c :: rest.takeWhile inName))
      | _ => none
    else none
  | _ => none

/-- A part of a text: characters as they are, or the name of a variable. -/
inductive Segment where
  | char (c : Char)
  | placeholder (name : String)
  deriving DecidableEq, Repr

/-- Cuts a text into segments; the next `skip` characters belong to a placeholder before them. -/
def segmentsFrom : Nat → List Char → List Segment
  | _, [] => []
  | skip + 1, _ :: rest => segmentsFrom skip rest
  | 0, c :: rest =>
    if c == '$' then
      match nameAt? rest with
      | some name => .placeholder name :: segmentsFrom (name.length + 2) rest
      | none => .char c :: segmentsFrom 0 rest
    else .char c :: segmentsFrom 0 rest

def segments (s : String) : List Segment := segmentsFrom 0 s.toList

/-- The names of the placeholders in a text, in order, with their repetitions. -/
def names (s : String) : List String :=
  (segments s).filterMap fun
    | .char _ => none
    | .placeholder name => some name

/-- The names that an environment does not set, in order, with their repetitions. -/
def unset (env : Environment) (segments : List Segment) : List String :=
  segments.filterMap fun
    | .char _ => none
    | .placeholder name => if (env.lookup name).isSome then none else some name

/-- Drops each name that equals the one before it. -/
def withoutRepeats : List String → List String
  | [] => []
  | a :: rest => match withoutRepeats rest with
    | [] => [a]
    | b :: kept => if a = b then b :: kept else a :: b :: kept

def segmentText (env : Environment) : Segment → List Char
  | .char c => [c]
  | .placeholder name => ((env.lookup name).getD "").toList

def unsetMessage (names : List String) : String :=
  "Missing environment variable(s): " ++ ", ".intercalate names

/-- Puts the values of variables into a text; names the variables that are not set. -/
def substitute (env : Environment) (s : String) : Except (List String) String :=
  let parts := segments s
  let missing := unset env parts
  if missing.isEmpty then .ok (String.ofList (parts.flatMap (segmentText env)))
  else .error (withoutRepeats missing)

end Environment
end BulkLoad
