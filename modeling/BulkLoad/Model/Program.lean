import BulkLoad.Model.Shell
import BulkLoad.Model.World
import BulkLoad.Path
import BulkLoad.Text.Lossy

/-!
Programs by name: the system's own ones, and scripts in executable files.
-/

namespace BulkLoad.Model.World

open Host (SystemError)

/-- The directories of the system's own programs. -/
def toolDirectories : List String :=
  ["/bin", "/usr/bin", "/usr/local/bin", "/sbin", "/usr/sbin", "/usr/local/sbin"]

/-- The routine of the command interpreter as a program. -/
def shellProgram (w : World) (args : List String) (env : Environment) : Routine :=
  let options := args.takeWhile fun a => a.startsWith "-"
  let operands := args.drop options.length
  if options.any fun o => o.toList.contains 'c' then
    match operands with
    | script :: name :: rest => Shell.start script name rest env
    | [script] => Shell.start script "sh" [] env
    | [] => .exit 2
  else
    match operands with
    | path :: rest =>
      match w.files.read w.workingDirectory path with
      | .ok bytes => Shell.start (Text.lossy bytes) path rest env
      | .error _ => Routine.complain ("sh: 0: cannot open " ++ path ++ ": No such file") (.exit 2)
    | [] => .exit 0

def programAt (w : World) (path : String) (args : List String) (env : Environment) :
    Except SystemError Routine :=
  match w.files.find w.workingDirectory path with
  | .ok (_, .file id) =>
    let content := w.files.content id
    if content.executable then .ok (Shell.start (Text.lossy content.bytes) path args env)
    else .error .denied
  | .ok _ => .error .denied
  | .error e =>
    match Path.splitName? path with
    | some (directory, name) =>
      if toolDirectories.contains directory then
        if name = "sh" then .ok (w.shellProgram args env)
        else match Tools.tools.lookup name with
          | some tool => .ok (tool args)
          | none => .error e
      else .error e
    | none => .error e

def usualPath : String := "/usr/local/bin:/usr/bin:/bin"

/-- The first program of a name along a search path. -/
def searchProgram (w : World) (name : String) (args : List String) (env : Environment) :
    List String → Except SystemError Routine
  | [] => .error .noEntry
  | directory :: rest =>
    match w.programAt (Path.join directory name) args env with
    | .ok routine => .ok routine
    | .error _ => searchProgram w name args env rest

/-- The longest argument, in bytes. -/
def argumentLimit : Nat := 131071

/-- A word that no command can hold. -/
def hasNul (word : String) : Bool := word.toList.contains '\x00'

/-- The program that a name stands for. -/
def program (w : World) (name : String) (args : List String) (env : Environment) :
    Except SystemError Routine :=
  if (name :: args).any hasNul || env.any fun e => hasNul e.1 || hasNul e.2 then
    .error .nulInCommand
  else if args.any fun a => argumentLimit < Bytes.lengthOfText a then .error .argumentsTooLong
  else if name.isEmpty then .error .noEntry
  else if name.toList.contains '/' then w.programAt name args env
  else w.searchProgram name args env (((env.lookup "PATH").getD usualPath).splitOn ":")

end BulkLoad.Model.World
