import BulkLoad.Text

/-!
Command lines of loader programs.
-/

namespace BulkLoad

/-- A program with its arguments, and variables added to its environment. Secrets go into the
environment, never into arguments. -/
structure Command where
  program : String
  args : List String := []
  env : List (String × String) := []
  deriving DecidableEq, Inhabited

namespace Command

/-- An argument for display, in quotes if it holds a blank. -/
def showArg (a : String) : String :=
  if a.toList.any Text.isBlank then "'" ++ a ++ "'" else a

/-- The command line for display, without the environment. -/
def display (c : Command) : String :=
  c.program ++ String.join (c.args.map fun a => " " ++ showArg a)

/-- What stands for the path of the channel in the arguments of a configured command. -/
def channelPlaceholder : String := "\x7bpipe\x7d"

def withChannel (c : Command) (path : String) : Command :=
  { c with args := c.args.map (Text.replaceAll channelPlaceholder path) }

end Command
end BulkLoad
