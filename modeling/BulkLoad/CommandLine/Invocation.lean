/-!
What the command line asks for.
-/

namespace BulkLoad.CommandLine

/-- A request of the command line. -/
inductive Invocation where
  /-- Runs a step, with another limit of rows if one is given. -/
  | run (step : String) (limit : Option UInt64)
  | check (step : String)
  | ddl (step : String)
  /-- Shows a cube's fields and its first rows. -/
  | inspect (cube : String) (rows : UInt64)
  deriving DecidableEq, Repr

/-- The words of a command line: operands, and the values of options by their names. -/
structure Words where
  operands : List String := []
  options : List (String × String) := []
  deriving DecidableEq, Repr

namespace Words

/-- Splits an option from a value in the same word: behind an equals sign, or, for an option of one
letter, right behind it. -/
def splitOption (word : String) : String × Option String :=
  match word.toList with
  | '-' :: '-' :: cs =>
    match cs.dropWhile (· != '=') with
    | _ :: value =>
      (String.ofList ('-' :: '-' :: cs.takeWhile (· != '=')), some (String.ofList value))
    | [] => (word, none)
  | '-' :: letter :: '=' :: value => (String.ofList ['-', letter], some (String.ofList value))
  | '-' :: letter :: c :: value => (String.ofList ['-', letter], some (String.ofList (c :: value)))
  | _ => (word, none)

def isOption (word : String) : Bool := word.startsWith "-" && word != "-"

def addOperand (word : String) (w : Words) : Words := { w with operands := word :: w.operands }

def addOption (name value : String) (w : Words) : Words :=
  { w with options := (name, value) :: w.options }

/-- Sorts words into operands and options; every option has a value, and two hyphens end them. -/
def ofList : List String → Option Words
  | [] => some {}
  | word :: rest =>
    if word = "--" then some { operands := rest }
    else if isOption word then
      match splitOption word, rest with
      | (name, some value), rest => (ofList rest).map (addOption name value)
      | (name, none), value :: rest => (ofList rest).map (addOption name value)
      | (_, none), [] => none
    else (ofList rest).map (addOperand word)

/-- A number in decimal digits, with a plus sign or without. -/
def decimal? (s : String) : Option Nat :=
  let digits := match s.toList with
    | '+' :: digits => digits
    | digits => digits
  if digits.isEmpty || !digits.all Char.isDigit then none
  else some (digits.foldl (fun n c => 10 * n + (c.toNat - '0'.toNat)) 0)

/-- A 64-bit number among the options, under any of its names. -/
def number? (w : Words) (names : List String) : Option (Option UInt64) :=
  match w.options.find? fun o => names.contains o.1 with
  | none => some none
  | some (_, value) => do
    let n ← decimal? value
    if n < UInt64.size then some (some (UInt64.ofNat n)) else none

/-- Every option has one of the names. -/
def allows (w : Words) (names : List String) : Bool := w.options.all fun o => names.contains o.1

end Words

/-- The option that every command takes. -/
def logLevel : String := "--log-level"

def usualRows : UInt64 := 10

/-- The request in the words of a command line. -/
def Invocation.ofArgs? (args : List String) : Option Invocation := do
  let words ← Words.ofList args
  match words.operands with
  | ["run", step] =>
    guard (words.allows ["--limit", logLevel])
    return .run step (← words.number? ["--limit"])
  | ["check", step] =>
    guard (words.allows [logLevel])
    return .check step
  | ["ddl", step] =>
    guard (words.allows [logLevel])
    return .ddl step
  | ["inspect", cube] =>
    guard (words.allows ["--rows", "-r", logLevel])
    return .inspect cube ((← words.number? ["--rows", "-r"]).getD usualRows)
  | _ => none

end BulkLoad.CommandLine
