import LineScope.Grammar.Document
import LineScope.Selector.Error

/-!
Problems found while a grammar is compiled. The rule concerned never matches; the rest of the
grammar is not affected. A location is a path into the document, with slashes between its parts.
-/

set_option autoImplicit false

namespace LineScope.Grammar

inductive ShapeProblem where
  | keys (error : ShapeError)
  | captureKey (key : String)
deriving DecidableEq, Repr, Inhabited

def ShapeProblem.reason : ShapeProblem → String
  | .keys error => error.reason
  | .captureKey key => "capture key " ++ Text.quote key ++ " is not a group number"

inductive Problem where
  | invalidPattern (pattern message : String)
  | invalidShape (problem : ShapeProblem)
  | unresolvedInclude (target : String)
  | invalidSelector (selector : String) (error : Selector.ParseError)
deriving DecidableEq, Repr, Inhabited

structure Diagnostic where
  location : String
  problem : Problem
deriving DecidableEq, Repr, Inhabited

def Problem.message : Problem → String
  | .invalidPattern pattern message => "invalid regex " ++ Text.quote pattern ++ ": " ++ message
  | .invalidShape problem => problem.reason
  | .unresolvedInclude target => "unresolved include " ++ Text.quote target
  | .invalidSelector selector error =>
    "invalid selector " ++ Text.quote selector ++ ": " ++ error.message

def Diagnostic.message (diagnostic : Diagnostic) : String :=
  diagnostic.location ++ ": " ++ diagnostic.problem.message

end LineScope.Grammar
