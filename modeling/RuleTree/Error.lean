import RuleTree.Text.Quoted
import RuleTree.Value.Basic

/-!
Contract: why an evaluation fails, and how that is put in words.

Every error ends the whole evaluation, unless a macro handler that asked for a
nested evaluation catches it.
-/

namespace RuleTree

inductive EvalError where
  /-- The operator is registered neither as a function nor as a macro. -/
  | unsupportedOperator (name : String)
  /-- An operator does not take these arguments. -/
  | invalidArgument (operator detail : String)
  /-- The tree is no expression. -/
  | malformedExpression (detail : String)
  /-- A text is no regular expression. -/
  | invalidPattern (pattern : String)
  /-- Evaluations were nested deeper than the limit. -/
  | recursionLimitExceeded (limit : Nat)
  /-- A handler of the host failed. -/
  | handler (text : String)
deriving DecidableEq, Repr

namespace EvalError

def emptyExpression : EvalError :=
  .malformedExpression "empty expression"

def notAList (found : Value) : EvalError :=
  .malformedExpression ("expected a list, found " ++ found.text)

def headNotAString (found : Value) : EvalError :=
  .malformedExpression ("operator must be a string, found " ++ found.text)

def objectInTree : EvalError :=
  .malformedExpression "objects are not valid expression elements"

def wrongCount (operator : String) (expected got : Nat) : EvalError :=
  .invalidArgument operator
    ("expected " ++ toString expected ++ " arguments, got " ++ toString got)

def message : EvalError → String
  | .unsupportedOperator name => "The operator " ++ name ++ " is not allowed to evaluate"
  | .invalidArgument operator detail => "Invalid arguments for " ++ operator ++ ": " ++ detail
  | .malformedExpression detail => "Malformed expression: " ++ detail
  | .invalidPattern pattern => "Invalid pattern " ++ quoted pattern
  | .recursionLimitExceeded limit => "Recursion limit of " ++ toString limit ++ " exceeded"
  | .handler text => "Handler error: " ++ text

end EvalError

end RuleTree
