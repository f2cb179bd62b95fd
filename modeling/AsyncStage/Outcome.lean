/-!
# Outcomes of attempts

An attempt of the asynchronous function ends with any number of values or with a failure.
No values at all is a success, the empty result.
-/

namespace AsyncStage

/-- Why an attempt failed, in the function's own words. -/
structure InvocationError where
  reason : String
deriving DecidableEq, Repr, Inhabited

/-- What one attempt of the function came to. -/
inductive Outcome where
  | values (values : List String)
  | failure (error : InvocationError)
deriving DecidableEq, Repr, Inhabited

namespace Outcome

/-- A success without values. -/
def isEmptyResult : Outcome → Bool
  | .values vs => vs.isEmpty
  | .failure _ => false

def isFailure : Outcome → Bool
  | .values _ => false
  | .failure _ => true

end Outcome

end AsyncStage
