/-!
Scripts of the command language: words with parameters, commands with redirections, and the ways in
which commands are joined. They are read in two passes: characters make words and operators, and
those make commands.
-/

namespace BulkLoad.Model

namespace Script

/-- A part of a word. What a parameter without quotes stands for is split at blanks. -/
inductive Part where
  | text (s : String) (quoted : Bool)
  | parameter (name : String) (quoted : Bool)
  deriving DecidableEq, Repr

abbrev Word := List Part

/-- What a stream is redirected to. -/
inductive Aim where
  | input (path : Word)
  | output (path : Word)
  | appended (path : Word)
  /-- Another stream by its number, or nothing for a hyphen. -/
  | copy (stream : Word)
  deriving DecidableEq, Repr

/-- A redirection of a stream. -/
structure Redirection where
  stream : Nat
  aim : Aim
  deriving DecidableEq, Repr

end Script

open Script in
inductive Script where
  | nothing
  /-- Assignments before a command, its words, and its redirections. -/
  | command (assignments : List (String × Word)) (words : List Word)
      (redirections : List Redirection)
  | sequence (first second : Script)
  /-- The second runs if the first succeeds. -/
  | both (first second : Script)
  /-- The second runs if the first fails. -/
  | either (first second : Script)
  | negated (script : Script)
  /-- What the first says is the input of the second. -/
  | piped (first second : Script)
  /-- Runs beside what follows. -/
  | background (script : Script)
  | subshell (script : Script) (redirections : List Redirection)
  | group (script : Script) (redirections : List Redirection)

namespace Script

/-- A word or an operator of a script. -/
inductive Token where
  | word (w : Word)
  | sign (s : String)
  /-- A sign of redirection, with the number of the stream before it. -/
  | redirect (stream : Option Nat) (s : String)
  deriving DecidableEq, Repr

def startsName (c : Char) : Bool := c.isAlpha || c == '_'

def inName (c : Char) : Bool := c.isAlphanum || c == '_'

/-- Parameters of one character that is no letter. -/
def isSpecial (c : Char) : Bool := c.isDigit || "@*#?$!".toList.contains c

/-- The parameter that stands behind a dollar sign, and what follows it. -/
def readParameter (quoted : Bool) (cs : List Char) : Part × List Char :=
  match cs with
  | '\x7b' :: rest =>
    let name := rest.takeWhile (· != '\x7d')
    (.parameter (String.ofList name) quoted, (rest.drop name.length).drop 1)
  | c :: rest =>
    if startsName c then
      (.parameter (String.ofList (cs.takeWhile inName)) quoted, cs.dropWhile inName)
    else if isSpecial c then (.parameter (String.singleton c) quoted, rest)
    else (.text "$" quoted, cs)
  | [] => (.text "$" quoted, [])

/-- Reads up to a double quote; the parts so far are kept backwards. -/
def readQuoted : Nat → Word → List Char → Option (Word × List Char)
  | 0, _, _ => none
  | _, _, [] => none
  | _, w, '"' :: rest => some (w, rest)
  | fuel + 1, w, '\\' :: c :: rest =>
    if c == '\n' then readQuoted fuel w rest
    else if "$\"\\".toList.contains c || c.toNat == 0x60 then
      readQuoted fuel (.text (String.singleton c) true :: w) rest
    else readQuoted fuel (.text (String.ofList ['\\', c]) true :: w) rest
  | fuel + 1, w, '$' :: rest =>
    let (part, rest) := readParameter true rest
    readQuoted fuel (part :: w) rest
  | fuel + 1, w, c :: rest => readQuoted fuel (.text (String.singleton c) true :: w) rest

/-- Characters that end a word. -/
def endsWord (c : Char) : Bool := " \t\n;&|()<>".toList.contains c

/-- Reads a word; the parts so far are kept backwards. -/
def readWord : Nat → Word → List Char → Option (Word × List Char)
  | 0, _, _ => none
  | _, w, [] => some (w.reverse, [])
  | fuel + 1, w, '\'' :: rest =>
    let body := rest.takeWhile (· != '\'')
    match rest.drop body.length with
    | _ :: rest => readWord fuel (.text (String.ofList body) true :: w) rest
    | [] => none
  | fuel + 1, w, '"' :: rest =>
    match readQuoted fuel (.text "" true :: w) rest with
    | some (w, rest) => readWord fuel w rest
    | none => none
  | fuel + 1, w, '\\' :: c :: rest =>
    if c == '\n' then readWord fuel w rest
    else readWord fuel (.text (String.singleton c) true :: w) rest
  | fuel + 1, w, '$' :: rest =>
    let (part, rest) := readParameter false rest
    readWord fuel (part :: w) rest
  | fuel + 1, w, c :: rest =>
    if endsWord c then some (w.reverse, c :: rest)
    else readWord fuel (.text (String.singleton c) false :: w) rest

/-- A sign of redirection at the front. -/
def redirectSign? : List Char → Option (String × List Char)
  | '>' :: '>' :: rest => some (">>", rest)
  | '>' :: '&' :: rest => some (">&", rest)
  | '>' :: rest => some (">", rest)
  | '<' :: '&' :: rest => some ("<&", rest)
  | '<' :: rest => some ("<", rest)
  | _ => none

/-- A sign that joins or ends commands, at the front. -/
def joinSign? : List Char → Option (String × List Char)
  | '&' :: '&' :: rest => some ("&&", rest)
  | '|' :: '|' :: rest => some ("||", rest)
  | '&' :: rest => some ("&", rest)
  | '|' :: rest => some ("|", rest)
  | ';' :: rest => some (";", rest)
  | '\n' :: rest => some (";", rest)
  | '(' :: rest => some ("(", rest)
  | ')' :: rest => some (")", rest)
  | _ => none

def tokens : Nat → List Char → Option (List Token)
  | 0, _ => none
  | _, [] => some []
  | fuel + 1, c :: rest =>
    if c == ' ' || c == '\t' then tokens fuel rest
    else if c == '#' then tokens fuel (rest.dropWhile (· != '\n'))
    else
      let digits := (c :: rest).takeWhile Char.isDigit
      let behind := (c :: rest).drop digits.length
      match redirectSign? behind with
      | some (s, rest) =>
        (tokens fuel rest).map (.redirect (String.ofList digits).toNat? s :: ·)
      | none =>
        match joinSign? (c :: rest) with
        | some (s, rest) => (tokens fuel rest).map (.sign s :: ·)
        | none =>
          match readWord fuel [] (c :: rest) with
          | some (w, rest) => (tokens fuel rest).map (.word w :: ·)
          | none => none

/-- The text of a word without quotes and parameters. -/
def bareText? : Word → Option String
  | [] => some ""
  | .text s false :: rest => (bareText? rest).map (s ++ ·)
  | _ => none

/-- An assignment: a bare name, an equals sign, and a word. -/
def assignment? (w : Word) : Option (String × Word) :=
  let name := w.takeWhile fun p => p != .text "=" false
  match bareText? name, w.drop name.length with
  | some n, _ :: value =>
    match n.toList with
    | c :: cs => if startsName c && cs.all inName then some (n, value) else none
    | [] => none
  | _, _ => none

/-- What a redirection aims at. -/
def aimOf (s : String) (w : Word) : Aim :=
  if s = "<" then .input w
  else if s = ">" then .output w
  else if s = ">>" then .appended w
  else .copy w

/-- The stream that a sign redirects when no number stands before it. -/
def usualStream (s : String) : Nat := if s.startsWith "<" then 0 else 1

/-- Redirections at the front. -/
def readRedirections : List Token → List Redirection × List Token
  | .redirect stream s :: .word w :: rest =>
    let (more, rest) := readRedirections rest
    (⟨stream.getD (usualStream s), aimOf s w⟩ :: more, rest)
  | rest => ([], rest)

/-- A simple command: its words and redirections in any order. -/
def readSimple : List Token → (List Word × List Redirection) × List Token
  | .word w :: rest =>
    let ((words, redirections), rest) := readSimple rest
    ((w :: words, redirections), rest)
  | .redirect stream s :: .word w :: rest =>
    let ((words, redirections), rest) := readSimple rest
    ((words, ⟨stream.getD (usualStream s), aimOf s w⟩ :: redirections), rest)
  | rest => (([], []), rest)

/-- Splits assignments off the front of a command. -/
def splitAssignments : List Word → List (String × Word) × List Word
  | w :: rest =>
    match assignment? w with
    | some a =>
      let (more, words) := splitAssignments rest
      (a :: more, words)
    | none => ([], w :: rest)
  | [] => ([], [])

def isBare (w : Word) (s : String) : Bool := bareText? w == some s

/-- Skips signs that end commands. -/
def skipEnds (ts : List Token) : List Token := ts.dropWhile (· == .sign ";")

mutual

/-- Reads commands up to a sign or word that ends the list. -/
def readList : Nat → List Token → Option (Script × List Token)
  | 0, _ => none
  | fuel + 1, ts =>
    match skipEnds ts with
    | [] => some (.nothing, [])
    | .sign ")" :: rest => some (.nothing, .sign ")" :: rest)
    | .word w :: rest =>
      if isBare w "\x7d" then some (.nothing, .word w :: rest)
      else readItems fuel (.word w :: rest)
    | ts => readItems fuel ts

/-- Reads one item of a list and those behind it. -/
def readItems : Nat → List Token → Option (Script × List Token)
  | 0, _ => none
  | fuel + 1, ts => do
    let (first, rest) ← readJoined fuel ts
    match rest with
    | .sign "&" :: rest =>
      let (second, rest) ← readList fuel rest
      pure (.sequence (.background first) second, rest)
    | .sign ";" :: rest =>
      let (second, rest) ← readList fuel rest
      pure (.sequence first second, rest)
    | rest => pure (first, rest)

/-- Reads pipelines that are joined by success or failure. -/
def readJoined : Nat → List Token → Option (Script × List Token)
  | 0, _ => none
  | fuel + 1, ts => do
    let (first, rest) ← readPipeline fuel ts
    readJoins fuel first rest

/-- Reads what is joined to a pipeline. -/
def readJoins : Nat → Script → List Token → Option (Script × List Token)
  | 0, _, _ => none
  | fuel + 1, first, ts =>
    match ts with
    | .sign "&&" :: rest => do
      let (second, rest) ← readPipeline fuel (skipEnds rest)
      readJoins fuel (.both first second) rest
    | .sign "||" :: rest => do
      let (second, rest) ← readPipeline fuel (skipEnds rest)
      readJoins fuel (.either first second) rest
    | ts => some (first, ts)

/-- Reads commands that are joined by pipes. -/
def readPipeline : Nat → List Token → Option (Script × List Token)
  | 0, _ => none
  | fuel + 1, ts =>
    match ts with
    | .word w :: rest =>
      if isBare w "!" then do
        let (script, rest) ← readPiped fuel rest
        pure (.negated script, rest)
      else readPiped fuel (.word w :: rest)
    | ts => readPiped fuel ts

/-- Reads a command and what it is piped into. -/
def readPiped : Nat → List Token → Option (Script × List Token)
  | 0, _ => none
  | fuel + 1, ts => do
    let (first, rest) ← readCommand fuel ts
    match rest with
    | .sign "|" :: rest =>
      let (second, rest) ← readPiped fuel (skipEnds rest)
      pure (.piped first second, rest)
    | rest => pure (first, rest)

def readCommand : Nat → List Token → Option (Script × List Token)
  | 0, _ => none
  | fuel + 1, ts =>
    match ts with
    | .sign "(" :: rest => do
      let (script, rest) ← readList fuel rest
      match rest with
      | .sign ")" :: rest =>
        let (redirections, rest) := readRedirections rest
        pure (.subshell script redirections, rest)
      | _ => none
    | .word w :: rest =>
      if isBare w "\x7b" then do
        let (script, rest) ← readList fuel rest
        match rest with
        | .word w :: rest =>
          if isBare w "\x7d" then
            let (redirections, rest) := readRedirections rest
            pure (.group script redirections, rest)
          else none
        | _ => none
      else
        let ((words, redirections), rest) := readSimple (.word w :: rest)
        let (assignments, words) := splitAssignments words
        some (.command assignments words redirections, rest)
    | .redirect .. :: _ =>
      let ((words, redirections), rest) := readSimple ts
      if rest.length < ts.length then some (.command [] words redirections, rest) else none
    | _ => none

end

/-- The script that a text is, if it is one. -/
def ofText? (text : String) : Option Script := do
  let cs := text.toList
  let ts ← tokens (cs.length + 2) cs
  let (script, rest) ← readList (8 * ts.length + 8) ts
  if rest.isEmpty then pure script else none

end Script
end BulkLoad.Model
