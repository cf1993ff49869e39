import BulkLoad.Model.Routine

/-!
The small programs that scripts use: what each does with its arguments and streams.
-/

namespace BulkLoad.Model.Tools

open Routine

/-- The number under which tools open files. -/
def fileStream : Nat := 7

/-- The value of decimal digits. -/
def digitsValue (cs : List Char) : Nat := cs.foldl (fun n c => 10 * n + (c.toNat - 0x30)) 0

/-- Milliseconds in a count of seconds with or without a fraction. -/
def milliseconds (seconds : String) : Nat :=
  let whole := seconds.toList.takeWhile Char.isDigit
  let fraction := ((seconds.toList.drop whole.length).drop 1).takeWhile Char.isDigit
  digitsValue whole * 1000 + digitsValue ((fraction ++ ['0', '0', '0']).take 3)

/-- Does something with each file in turn, standard input for a hyphen; `status` tells whether one
could not be opened. -/
def eachFile (tool : String) (use : String → Nat → Routine → Routine) (next : Nat → Routine) :
    Nat → List String → Routine
  | status, [] => next status
  | status, file :: rest =>
    if file = "-" then use file 0 (eachFile tool use next status rest)
    else openPath file .read fileStream fun
      | none => use file fileStream (closeStream fileStream (eachFile tool use next status rest))
      | some words =>
        complain (tool ++ ": " ++ file ++ ": " ++ words) (eachFile tool use next 1 rest)

def operands (args : List String) : List String :=
  args.filter fun a => a = "-" ∨ !a.startsWith "-"

/-- The files to read: standard input if none are named. -/
def inputs (files : List String) : List String := if files.isEmpty then ["-"] else files

def cat (args : List String) : Routine :=
  eachFile "cat" (fun _ stream next => copyAll stream next manySteps) exit 0
    (inputs (operands args))

/-- A count, with the name of the file that was counted. -/
def countLine (file : String) (n : Nat) : String :=
  toString n ++ (if file = "-" then "" else " " ++ file) ++ "\n"

/-- Counts the bytes of files, or their lines. -/
def wc (args : List String) : Routine :=
  eachFile "wc" (fun file stream next =>
      count stream (fun bytes lines =>
        let n := if args.contains "-l" then lines else bytes
        write 1 (Bytes.ofText (countLine file n)) next) manySteps 0 0) exit 0
    (inputs (operands args))

def head (args : List String) : Routine :=
  let copy (bytes : Bool) (n : Nat) (files : List String) : Routine :=
    eachFile "head" (fun _ stream next =>
      if bytes then copyFirst stream next manySteps n else copyLines stream next manySteps n)
      exit 0 (inputs files)
  match args with
  | "-c" :: n :: files => copy true (digitsValue n.toList) files
  | "-n" :: n :: files => copy false (digitsValue n.toList) files
  | option :: files =>
    match option.toList with
    | '-' :: 'c' :: n => copy true (digitsValue n) files
    | '-' :: 'n' :: n => copy false (digitsValue n) files
    | '-' :: c :: n => copy false (digitsValue (c :: n)) files
    | _ => copy false 10 (option :: files)
  | [] => copy false 10 []

/-- Does something with each operand; a complaint makes the tool fail unless it is quiet. -/
def eachPath (tool words : String) (quiet : Bool)
    (call : String → (Option String → Routine) → Routine) : Nat → List String → Routine
  | status, [] => exit status
  | status, path :: rest => call path fun
    | none => eachPath tool words quiet call status rest
    | some why =>
      if quiet then eachPath tool words quiet call status rest
      else complain (tool ++ ": cannot " ++ words ++ " '" ++ path ++ "': " ++ why)
        (eachPath tool words quiet call 1 rest)

/-- The value of an escape that names a character. -/
def escape? (c : Char) : Option Char :=
  if c == 'n' then some '\n'
  else if c == 't' then some '\t'
  else if c == 'r' then some '\r'
  else if c == '\\' then some '\\'
  else if c == 'a' then some (Char.ofNat 7)
  else if c == 'b' then some (Char.ofNat 8)
  else if c == 'f' then some (Char.ofNat 12)
  else if c == 'v' then some (Char.ofNat 11)
  else none

/-- Octal digits of an escape. -/
def octalDigits (limit : Nat) (cs : List Char) : List Char :=
  (cs.take limit).takeWhile fun c => '0' ≤ c && c ≤ '7'

/-- The byte that octal digits name. -/
def octalByte (cs : List Char) : UInt8 :=
  UInt8.ofNat (cs.foldl (fun n c => 8 * n + (c.toNat - 0x30)) 0)

/-- The bytes of a text with its escapes carried out; the next `skip` characters belong to an
escape before them. -/
def unescape (zeroPrefix : Bool) : Nat → List Char → Bytes
  | _, [] => []
  | skip + 1, _ :: rest => unescape zeroPrefix skip rest
  | 0, '\\' :: c :: rest =>
    match escape? c with
    | some e => Bytes.ofText (String.singleton e) ++ unescape zeroPrefix 1 (c :: rest)
    | none =>
      let digits := if zeroPrefix then (if c == '0' then octalDigits 3 rest else [])
        else octalDigits 3 (c :: rest)
      if zeroPrefix && c == '0' then
        octalByte digits :: unescape zeroPrefix (1 + digits.length) (c :: rest)
      else if digits.isEmpty then
        0x5C :: unescape zeroPrefix 0 (c :: rest)
      else octalByte digits :: unescape zeroPrefix digits.length (c :: rest)
  | 0, c :: rest => Bytes.ofText (String.singleton c) ++ unescape zeroPrefix 0 rest

def echoBytes (args : List String) : Bytes :=
  match args with
  | "-n" :: rest => unescape true 0 (" ".intercalate rest).toList
  | _ => unescape true 0 (" ".intercalate args).toList ++ [0x0A]

/-- One pass of a format over arguments: the bytes, the arguments left, and whether any was used. -/
def formatOnce : Nat → List Char → List String → Bytes × List String × Bool
  | 0, _, args => ([], args, false)
  | _, [], args => ([], args, false)
  | fuel + 1, '%' :: '%' :: rest, args =>
    let (bytes, args, used) := formatOnce fuel rest args
    (0x25 :: bytes, args, used)
  | fuel + 1, '%' :: _ :: rest, args =>
    let (bytes, left, _) := formatOnce fuel rest (args.drop 1)
    (Bytes.ofText (args.headD "") ++ bytes, left, true)
  | fuel + 1, cs, args =>
    let literal := cs.takeWhile (· != '%')
    let literal := if literal.isEmpty then cs.take 1 else literal
    let (bytes, left, used) := formatOnce fuel (cs.drop literal.length) args
    (unescape false 0 literal ++ bytes, left, used)

/-- A format over all arguments, again and again while it uses any. -/
def formatAll (format : List Char) : Nat → List String → Bytes
  | 0, _ => []
  | fuel + 1, args =>
    let (bytes, left, used) := formatOnce (format.length + 1) format args
    if used && !left.isEmpty then bytes ++ formatAll format fuel left else bytes

def printfBytes : List String → Bytes
  | [] => []
  | format :: args => formatAll format.toList (args.length + 1) args

def tools : List (String × (List String → Routine)) :=
  [("cat", cat), ("wc", wc), ("head", head),
    ("sleep", fun args => sleep (args.foldl (fun n a => n + milliseconds a) 0) (exit 0)),
    ("rm", fun args =>
      eachPath "rm" "remove" (args.contains "-f") remove 0 (operands args)),
    ("mkdir", fun args =>
      eachPath "mkdir" "create directory" (args.contains "-p") makeDirectory 0 (operands args)),
    ("touch", fun args => eachPath "touch" "touch" true makeFile 0 (operands args)),
    ("true", fun _ => exit 0), ("false", fun _ => exit 1),
    ("echo", fun args => write 1 (echoBytes args) (exit 0)),
    ("printf", fun args => write 1 (printfBytes args) (exit 0))]

end BulkLoad.Model.Tools
