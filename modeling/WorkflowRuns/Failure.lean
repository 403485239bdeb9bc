/-!
How a call or a status request can end other than with a result.
-/

namespace WorkflowRuns

/-- What can be raised.  The last is for whatever a source raises that has no class of its own here. -/
inductive Failure
  | malformedPayload (words : String)
  | transport (words : String) (status : Option Int)
  | notInitialized (words : String)
  | invalidGraph (errors : List String)
  | invalidUrl (words : String)
  | badValue (words : String)
  | runtime (words : String)
  deriving DecidableEq, Repr, Inhabited

/-- What a source of status documents can raise: a failure, or a timeout of its own. -/
inductive Raised
  | failure (failure : Failure)
  | timeout
  deriving DecidableEq, Repr

def Failure.message : Failure → String
  | .malformedPayload words | .notInitialized words | .invalidUrl words | .badValue words
  | .runtime words => words
  | .transport words _ => words
  | .invalidGraph errors => "Invalid workflow graph: " ++ "; ".intercalate errors

end WorkflowRuns
