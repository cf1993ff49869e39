/-!
The identity of a running step. Its pipe, its fields and its file are tagged with the step.
-/

namespace BulkLoad.Step

/-- Which step of which pipeline is running. -/
structure Identity where
  pipeline : String
  step : String
  deriving DecidableEq, Inhabited

/-- The identity of another step of the same pipeline. -/
def Identity.withStep (i : Identity) (step : String) : Identity := { i with step }

end BulkLoad.Step
