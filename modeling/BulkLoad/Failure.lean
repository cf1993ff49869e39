import BulkLoad.Fault

/-!
Failures of operations: faults of a step, and trouble of the host that no row or step explains.
-/

namespace BulkLoad

/-- Why an operation failed. -/
inductive Failure where
  | fault (f : Fault)
  /-- Trouble of the host, with what was being done when it came up, innermost first. -/
  | trouble (cause : String) (context : List String)
  deriving Inhabited

namespace Failure

/-- What is said of the failure: the outermost context comes first and the cause last. -/
def chain : Failure → List String
  | fault f => [f.line]
  | trouble cause context => context.reverse ++ [cause]

def line (f : Failure) : String := ": ".intercalate f.chain

def fault? : Failure → Option Fault
  | fault f => some f
  | trouble .. => none

/-- The failure came before anything was done. -/
def isConfig : Failure → Bool
  | fault f => f.category == .config
  | trouble .. => false

/-- The fault that a step reports for the failure. -/
def toFault : Failure → Fault
  | fault f => f
  | trouble cause context => Fault.of .internal "INFRASTRUCTURE" (trouble cause context).line

/-- Trouble with one more thing that was being done. -/
def within (context : String) : Failure → Failure
  | trouble cause contexts => trouble cause (contexts ++ [context])
  | fault f => trouble f.line [context]

/-- A cause on lines of its own, each set in by `indent`, the first one by `first`. -/
def setIn (first indent cause : String) : String :=
  first ++ ("\n" ++ indent).intercalate (cause.splitOn "\n")

/-- The number before a cause, in five columns. -/
def causeNumber (n : Nat) : String :=
  let digits := toString n
  String.ofList (List.replicate (5 - digits.length) ' ') ++ digits ++ ": "

/-- The causes behind a failure; they are numbered when there are several. -/
def causesText : List String → String
  | [] => ""
  | [cause] => "\n\nCaused by:\n" ++ setIn "    " "    " cause
  | causes => "\n\nCaused by:" ++
    String.join (causes.mapIdx fun n cause => "\n" ++ setIn (causeNumber n) "       " cause)

/-- The failure with its causes, for a person. -/
def report (f : Failure) : String :=
  "Error: " ++ f.chain.headD "" ++ causesText (f.chain.drop 1) ++ "\n"

end Failure
end BulkLoad
