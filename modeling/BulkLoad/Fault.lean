import BulkLoad.Json
import BulkLoad.Schema

/-!
Faults of a step: what went wrong, how far it reaches, a stable code and a message, and details for
diagnosis. An operation ends before its end by a fault, or, where that may happen, on request.
-/

namespace BulkLoad

namespace Fault

/-- What sort of thing went wrong. -/
inductive Category where
  /-- The configuration is bad; no row is read. -/
  | config
  /-- The target's columns cannot be expressed. -/
  | schema
  /-- A pipe, file or connection is not to be had. -/
  | resource
  /-- A row cannot be encoded. -/
  | encoding
  /-- The consumer failed. -/
  | sinkProcess
  /-- A bounded wait ended. -/
  | timeout
  /-- The step was stopped on request. -/
  | cancelled
  /-- The program is at fault. -/
  | internal
  deriving DecidableEq, Repr, Inhabited

namespace Category

def all : List Category :=
  [config, schema, resource, encoding, sinkProcess, timeout, cancelled, internal]

def word : Category → String
  | config => "config"
  | schema => "schema"
  | resource => "resource"
  | encoding => "encoding"
  | sinkProcess => "sink_process"
  | timeout => "timeout"
  | cancelled => "cancelled"
  | internal => "internal"

def words : List (String × Category) := all.map fun c => (c.word, c)

end Category

/-- How far a fault reaches. -/
inductive Scope where
  /-- It ends the step. -/
  | step
  /-- It concerns one row; the step's policy decides. -/
  | row
  deriving DecidableEq, Repr, Inhabited

namespace Scope

def word : Scope → String
  | step => "step"
  | row => "row"

def words : List (String × Scope) := [step, row].map fun s => (s.word, s)

end Scope

/-- The scope of a fault when nothing else is said: only encoding concerns one row. -/
def Category.scope : Category → Scope
  | encoding => .row
  | _ => .step

end Fault

/-- A fault of a step. -/
structure Fault where
  category : Fault.Category
  scope : Fault.Scope
  code : String
  message : String
  details : Option Json := none
  deriving Inhabited

namespace Fault

/-- A fault of a category with its usual scope. -/
def of (category : Category) (code message : String) : Fault :=
  ⟨category, category.scope, code, message, none⟩

/-- The step was stopped. -/
def stopped (message : String) : Fault := of .cancelled "CANCELLED" message

def withDetails (f : Fault) (details : Json) : Fault := { f with details := some details }

def withScope (f : Fault) (scope : Scope) : Fault := { f with scope }

def line (f : Fault) : String := "[" ++ f.category.word ++ "] " ++ f.code ++ ": " ++ f.message

/-- The fault that an error about fields or a row is. -/
def ofSchemaError (e : SchemaError) : Fault :=
  match e with
  | .duplicateField _ => of .config "DUPLICATE_FIELD" e.message
  | .notFound _ => of .config "FIELD_NOT_FOUND" e.message
  | .arity .. => of .encoding "ROW_ARITY" e.message
  | .cellKind .. => of .encoding "ROW_TYPE" e.message

end Fault

/-- The reason why an operation did not come through; only one that may be stopped is stopped. -/
inductive Interruption (stoppable : Bool) where
  | failed (fault : Fault)
  | stopped (allowed : stoppable = true)

/-- The fault of an operation that failed by its configuration. -/
def Interruption.configFault? {stoppable : Bool} : Interruption stoppable → Option Fault
  | failed fault => if fault.category = .config then some fault else none
  | stopped _ => none

end BulkLoad
