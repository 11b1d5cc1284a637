/-!
# Warnings

What a conversion could not carry over is reported as a warning, and the conversion goes on. A
warning always names the request that it is about, so that the user knows where to look.
-/

namespace LoadScenario

/-- Something that a conversion could not carry over, with the name of the request. -/
inductive Warning where
  | unsupportedHelper (request helper : String)
  | unsupportedBody (request mode : String)
  | unreadableVariable (request variableName : String)
  | missingFile (request path : String)
  deriving DecidableEq

namespace Warning

/-- The request that a warning is about. -/
def request : Warning → String
  | unsupportedHelper r _ | unsupportedBody r _ | unreadableVariable r _ | missingFile r _ => r

/-- What a warning says about its request. -/
def remark : Warning → String
  | unsupportedHelper _ helper => "Authentication helper " ++ helper ++ " is not supported"
  | unsupportedBody _ mode => "Body mode " ++ mode ++ " is not supported"
  | unreadableVariable _ variableName =>
    "Value of variable " ++ variableName ++
      " could not be extracted, add a //JSONPath= comment"
  | missingFile _ path => "Please provide file " ++ path

/-- The text of a warning. -/
def message (w : Warning) : String := "For request <" ++ w.request ++ "> : " ++ w.remark

end Warning

end LoadScenario
