import BulkLoad.Environment
import BulkLoad.Model.Script
import BulkLoad.Model.Tools

/-!
The command interpreter: a script as the routine of a process.
-/

namespace BulkLoad.Model

open Routine Script
open Host (ExitStatus)

/-- What the interpreter knows while it runs a script. -/
structure Shell where
  /-- The name that the script runs under. -/
  name : String
  args : List String
  env : Environment
  /-- The number of the process that the script started in. -/
  number : Nat
  /-- How the last command ended. -/
  last : Nat := 0
  /-- The last process started in the background. -/
  background : Nat := 0

namespace Shell

/-- The end of a process as the interpreter counts it. -/
def statusOf : ExitStatus → Nat
  | .code n => n
  | .signal n => 128 + n

/-- What a parameter stands for, as one text. -/
def value (sh : Shell) (name : String) : String :=
  if name = "@" ∨ name = "*" then " ".intercalate sh.args
  else if name = "#" then toString sh.args.length
  else if name = "?" then toString sh.last
  else if name = "$" then toString sh.number
  else if name = "!" then (if sh.background = 0 then "" else toString sh.background)
  else match name.toNat? with
    | some 0 => sh.name
    | some n => (sh.args[n - 1]?).getD ""
    | none => (sh.env.lookup name).getD ""

/-- Fields of a word: those that are complete, backwards, and the one that is being built. -/
structure Fields where
  complete : List String := []
  current : Option String := none

def Fields.add (f : Fields) (s : String) : Fields :=
  { f with current := some (f.current.getD "" ++ s) }

def Fields.close (f : Fields) : Fields :=
  match f.current with
  | some s => ⟨s :: f.complete, none⟩
  | none => f

/-- Blanks between fields. -/
def isFieldEnd (c : Char) : Bool := c == ' ' || c == '\t' || c == '\n'

/-- Adds a text that is split at blanks. -/
def Fields.addSplit (f : Fields) (s : String) : Fields :=
  s.toList.foldl (fun f c => if isFieldEnd c then f.close else f.add (String.singleton c)) f

def Fields.addPart (sh : Shell) (f : Fields) : Part → Fields
  | .text s _ => f.add s
  | .parameter name quoted =>
    if name = "@" ∧ quoted then
      match sh.args with
      | [] => f
      | first :: rest => rest.foldl (fun f a => f.close.add a) (f.add first)
    else if quoted then f.add (sh.value name)
    else f.addSplit (sh.value name)

/-- A word that is nothing but all arguments in quotes, which may be no field at all. -/
def isAllArguments (w : Word) : Bool :=
  w.all fun p => p == .text "" true || p == .parameter "@" true

/-- The fields that a word stands for. -/
def expand (sh : Shell) (w : Word) : List String :=
  if sh.args.isEmpty && w.contains (.parameter "@" true) && isAllArguments w then []
  else (w.foldl (Fields.addPart sh) {}).close.complete.reverse

/-- The text that a word stands for. -/
def expandText (sh : Shell) (w : Word) : String := " ".intercalate (sh.expand w)

/-- Says words as the script. -/
def complain (sh : Shell) (words : String) (next : Routine) : Routine :=
  Routine.complain (sh.name ++ ": 1: " ++ words) next

/-- The interpreter's words for a path that cannot be opened. -/
def openingWords (mode : OpenMode) (path words : String) : String :=
  let words := if words ≠ "No such file or directory" then words
    else if mode = .read then "No such file" else "Directory nonexistent"
  (if mode = .read then "cannot open " else "cannot create ") ++ path ++ ": " ++ words

/-- Opens a path under the number of a stream. -/
def openAs (sh : Shell) (stream : Nat) (mode : OpenMode) (w : Word)
    (next : Option String → Routine) : Routine :=
  let path := sh.expandText w
  openPath path mode stream fun answer => next (answer.map (openingWords mode path))

/-- Carries out redirections; the answer is a complaint, if there was one. -/
def redirect (sh : Shell) : List Redirection → (Option String → Routine) → Routine
  | [], next => next none
  | r :: rest, next =>
    let goOn : Option String → Routine := fun
      | none => redirect sh rest next
      | some words => next (some words)
    match r.aim with
    | .input w => sh.openAs r.stream .read w goOn
    | .output w => sh.openAs r.stream .write w goOn
    | .appended w => sh.openAs r.stream .append w goOn
    | .copy w =>
      let source := sh.expandText w
      if source = "-" then closeStream r.stream (goOn none)
      else copyStream (source.toNat?.getD 1000) r.stream fun
        | true => goOn none
        | false => goOn (some (source ++ ": Bad file descriptor"))

def set (sh : Shell) (a : String × Word) : Shell :=
  { sh with env := (a.1, sh.expandText a.2) :: sh.env }

/-- The number of a signal by name or number. -/
def signalNumber? (s : String) : Option Nat :=
  match s.toNat? with
  | some n => some n
  | none => (ExitStatus.signalNames.find? fun e => e.2 == s || e.2 == "SIG" ++ s).map (·.1)

/-- Sends a signal to processes; a number with a hyphen is a group. -/
def signalAll (n : Nat) (next : Nat → Routine) : Nat → List String → Routine
  | status, [] => next status
  | status, target :: rest =>
    let (toGroup, digits) := match target.toList with
      | '-' :: cs => (true, cs)
      | cs => (false, cs)
    match (String.ofList digits).toNat? with
    | some process =>
      .signal toGroup process n fun sent => signalAll n next (if sent then status else 1) rest
    | none => signalAll n next 1 rest

/-- Sends a signal as the arguments tell. -/
def killWith (args : List String) (next : Nat → Routine) : Routine :=
  match args with
  | "-s" :: name :: targets => signalAll ((signalNumber? name).getD 15) next 0 targets
  | first :: targets =>
    match first.toList with
    | '-' :: name =>
      signalAll ((signalNumber? (String.ofList name)).getD 15) next 0
        (targets.filter (· != "--"))
    | _ => signalAll 15 next 0 args
  | [] => next 2

/-- Ignores signals, or takes them up again. -/
def ignoreAll (ignored : Bool) (next : Routine) : List String → Routine
  | [] => next
  | name :: rest =>
    match signalNumber? name with
    | some n => .ignoreSignal n ignored (ignoreAll ignored next rest)
    | none => ignoreAll ignored next rest

/-- The commands that the interpreter carries out itself. -/
inductive Builtin where
  | succeed
  | fail
  | echo
  | printf
  | leave
  | kill
  | trap
  | wait
  | exec
  | set
  deriving DecidableEq

/-- The names of those commands. -/
def builtins : List (String × Builtin) :=
  [(":", .succeed), ("true", .succeed), ("false", .fail), ("echo", .echo), ("printf", .printf),
    ("exit", .leave), ("kill", .kill), ("trap", .trap), ("wait", .wait), ("exec", .exec),
    ("export", .set)]

/-- A complaint about the redirections of these ends the script. -/
def Builtin.isSpecial : Builtin → Bool
  | .succeed | .leave | .trap | .exec | .set => true
  | _ => false

def builtin (sh : Shell) (b : Builtin) (args : List String) (next : Shell → Routine) :
    Routine :=
  let ended (status : Nat) : Routine := next { sh with last := status }
  match b with
  | .succeed => ended 0
  | .fail => ended 1
  | .echo => write 1 (Tools.echoBytes args) (ended 0)
  | .printf => write 1 (Tools.printfBytes args) (ended 0)
  | .leave => exit (match args with
      | n :: _ => n.toNat?.getD 2 % 256
      | [] => sh.last)
  | .kill => killWith args ended
  | .trap => match args with
    | "" :: names => ignoreAll true (ended 0) names
    | "-" :: names => ignoreAll false (ended 0) names
    | _ => ended 0
  | .wait => match args with
    | n :: _ => await (n.toNat?.getD 0) fun status => ended (statusOf status)
    | [] => awaitAll (ended 0)
  | .exec => match args with
    | program :: rest => become program rest sh.env fun words =>
      sh.complain ("exec: " ++ program ++ ": " ++ words) (exit 127)
    | [] => ended 0
  | .set => next { sh with
      last := 0
      env := args.filterMap (fun a =>
        match a.splitOn "=" with
        | name :: value :: more => some (name, "=".intercalate (value :: more))
        | _ => none) ++ sh.env }

/-- The interpreter's words for a program that cannot be run, and the status that they go with. -/
def startingWords (program words : String) : String × Nat :=
  if words = "No such file or directory" then (program ++ ": not found", 127)
  else (program ++ ": " ++ words, 126)

/-- Runs a program in a process of its own and waits for it. -/
def external (sh : Shell) (program : String) (args : List String)
    (redirections : List Redirection) (next : Shell → Routine) : Routine :=
  fork (sh.redirect redirections fun
    | some words => sh.complain words (exit 2)
    | none => become program args sh.env fun words =>
      let (said, status) := startingWords program words
      sh.complain said (exit status)) fun child =>
  await child fun status => next { sh with last := statusOf status }

/-- Runs something of the interpreter's own under redirections. -/
def within (sh : Shell) (redirections : List Redirection) (fatal : Bool)
    (body : (Shell → Routine) → Routine) (next : Shell → Routine) : Routine :=
  if redirections.isEmpty then body next
  else saveStreams (sh.redirect redirections fun
    | some words => sh.complain words
      (if fatal then exit 2 else restoreStreams (next { sh with last := 2 }))
    | none => body fun sh => restoreStreams (next sh))

def command (sh : Shell) (assignments : List (String × Word)) (words : List Word)
    (redirections : List Redirection) (next : Shell → Routine) : Routine :=
  let set := assignments.foldl Shell.set sh
  match words.flatMap sh.expand with
  | [] => sh.within redirections false (fun go => go { set with last := 0 }) next
  | program :: args =>
    match builtins.lookup program with
    | some .exec => set.redirect redirections fun
      | some words => sh.complain words (exit 2)
      | none => set.builtin .exec args next
    | some b => sh.within redirections b.isSpecial (set.builtin b args)
        fun after => next (if b = .set then after else { after with env := sh.env })
    | none => set.external program args redirections fun after =>
        next { after with env := sh.env }

/-- Ends a process with the status of its last command. -/
def leave (sh : Shell) : Routine := exit sh.last

/-- The ends of a pipe while it is handed on. -/
def pipeReader : Nat := 90

/-- The write end of a pipe while it is handed on. -/
def pipeWriter : Nat := 91

/-- Takes one end of a pipe as a stream and gives up both. -/
def takeEnd (pipeEnd stream : Nat) (next : Routine) : Routine :=
  copyStream pipeEnd stream fun _ => closeStream pipeReader (closeStream pipeWriter next)

/-- Runs a script, and then what follows it. -/
def run : Script → Shell → (Shell → Routine) → Routine
  | .nothing, sh, next => next sh
  | .command assignments words redirections, sh, next =>
    sh.command assignments words redirections next
  | .sequence first second, sh, next => run first sh fun sh => run second sh next
  | .both first second, sh, next =>
    run first sh fun sh => if sh.last = 0 then run second sh next else next sh
  | .either first second, sh, next =>
    run first sh fun sh => if sh.last = 0 then next sh else run second sh next
  | .negated script, sh, next =>
    run script sh fun sh => next { sh with last := if sh.last = 0 then 1 else 0 }
  | .piped first second, sh, next =>
    makePipe pipeReader pipeWriter <|
    fork (takeEnd pipeWriter 1 (run first sh Shell.leave)) fun one =>
    fork (takeEnd pipeReader 0 (run second sh Shell.leave)) fun two =>
    closeStream pipeReader <| closeStream pipeWriter <|
    await one fun _ => await two fun status => next { sh with last := statusOf status }
  | .background script, sh, next =>
    fork (openPath "/dev/null" .read 0 fun _ => run script sh Shell.leave) fun child =>
    next { sh with last := 0, background := child }
  | .subshell script redirections, sh, next =>
    fork (sh.redirect redirections fun
      | some words => sh.complain words (exit 2)
      | none => run script sh Shell.leave) fun child =>
    await child fun status => next { sh with last := statusOf status }
  | .group script redirections, sh, next =>
    sh.within redirections false (run script sh) next

/-- A process that runs a text as a script. -/
def start (text name : String) (args : List String) (env : Environment) : Routine :=
  match ofText? text with
  | some script => ownNumber fun number => run script ⟨name, args, env, number, 0, 0⟩ Shell.leave
  | none => Routine.complain (name ++ ": 1: Syntax error") (exit 2)

end Shell
end BulkLoad.Model
