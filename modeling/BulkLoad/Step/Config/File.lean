import BulkLoad.Environment
import BulkLoad.Host.Dialogue
import BulkLoad.Step.Config.Document
import BulkLoad.Yaml.Tree

/-!
Configurations in files: the text of a file, with the values of variables put in, as a document.
-/

namespace BulkLoad.Step

open Host (Dialogue Request)

/-- Why a text or file gives no configuration. -/
inductive ConfigError where
  | unreadable (message : String)
  /-- Variables that are not set. -/
  | unset (names : List String)
  | malformed (e : ReadError)
  deriving DecidableEq

namespace Config

/-- The configuration that a text is in an environment. -/
def ofText (env : Environment) (text : String) : Except ConfigError Config :=
  match env.substitute text with
  | .error names => .error (.unset names)
  | .ok text => (Yaml.read reader text).mapError .malformed

/-- What is said of a file that is not a text. -/
def notText : String := "stream did not contain valid UTF-8"

/-- The configuration in a file. -/
def ofFile (path : String) : Dialogue (Except ConfigError Config) := do
  match ← (Request.readFile path).send with
  | .error message => pure (.error (.unreadable message))
  | .ok bytes =>
    match Bytes.toText? bytes with
    | none => pure (.error (.unreadable notText))
    | some text =>
      let names := (Environment.names text).eraseDups
      pure (ofText (← (Request.environment names).send) text)

end Config
end BulkLoad.Step
