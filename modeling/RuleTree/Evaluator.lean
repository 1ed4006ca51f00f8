import RuleTree.Operators

/-!
Contract: evaluation of rule trees under a registry of operators, with a limit on
the nesting of evaluations.

Every evaluation of an expression is one level: of the tree itself, of a list among
a function's arguments, of a macro's expansion, and of whatever a macro handler
asks for while it runs. The evaluator counts the levels it is in and refuses to
enter one more than its limit.

Owns: the evaluator, its counter, dispatch and the queries about it.
Does not own: any particular operator.
-/

namespace RuleTree

/-- The limit of an evaluator that is given none. -/
def defaultLimit : Nat := 256

structure Evaluator (σ : Type) where
  context : σ
  operators : Operators σ
  limit : Nat := defaultLimit
  /-- How many evaluations are under way. -/
  depth : Nat := 0

/-- A result and the evaluator it leaves behind. -/
abbrev Outcome (σ α : Type) := Except EvalError α × Evaluator σ

namespace Evaluator

variable {σ α : Type}

/-! ## Queries -/

def allowedOperators (evaluator : Evaluator σ) : List String :=
  evaluator.operators.functionNames

def supports (evaluator : Evaluator σ) (name : String) : Bool :=
  evaluator.operators.contains name

def isMacro (evaluator : Evaluator σ) (name : String) : Bool :=
  evaluator.operators.isMacro name

def answer (evaluator : Evaluator σ) : (query : Query) → query.Answer
  | .limit => evaluator.limit
  | .allowedOperators => evaluator.allowedOperators
  | .supports name => evaluator.supports name
  | .isMacro name => evaluator.isMacro name

/-- Change the context between evaluations. -/
def updateContext (evaluator : Evaluator σ) (update : σ → σ) : Evaluator σ :=
  { evaluator with context := update evaluator.context }

/-! ## Dispatch

The functions here take the evaluation of one level, `enter`, as a parameter; the
recursion is tied in `evaluateWithin`. -/

/-- The evaluation of an expression, given as its elements, at the next level. -/
abbrev Enter (σ : Type) := List Value → Evaluator σ → Outcome σ Value

/-- A tree has to be a list. -/
def enterTree
    (enter : Enter σ)
    (tree : Value)
    (evaluator : Evaluator σ) : Outcome σ Value :=
  match tree with
  | .list items => enter items evaluator
  | found => (.error (.notAList found), evaluator)

/-- Evaluate one argument: a list is an expression, everything else stands for
itself. -/
def evaluateArgument
    (enter : Enter σ)
    (argument : Value)
    (evaluator : Evaluator σ) : Outcome σ Value :=
  match argument with
  | .list items => enter items evaluator
  | literal => (.ok literal, evaluator)

/-- Evaluate arguments from left to right up to the first error. -/
def evaluateArguments (enter : Enter σ) :
    List Value → Evaluator σ → Outcome σ (List Value)
  | [], evaluator => (.ok [], evaluator)
  | argument :: arguments, evaluator =>
    match evaluateArgument enter argument evaluator with
    | (.error error, evaluator) => (.error error, evaluator)
    | (.ok value, evaluator) =>
      let (results, evaluator) := evaluateArguments enter arguments evaluator
      (results.map (value :: ·), evaluator)

/-- Run a macro handler. -/
def runMacro (enter : Enter σ) : MacroProgram σ α → Evaluator σ → Outcome σ α
  | .finish result, evaluator => (result, evaluator)
  | .evaluate tree next, evaluator =>
    let (result, evaluator) := enterTree enter tree evaluator
    runMacro enter (next result) evaluator
  | .evaluateItems items next, evaluator =>
    let (result, evaluator) := enter items evaluator
    runMacro enter (next result) evaluator
  | .readContext next, evaluator => runMacro enter (next evaluator.context) evaluator
  | .writeContext context next, evaluator =>
    runMacro enter next { evaluator with context := context }
  | .ask query next, evaluator => runMacro enter (next (evaluator.answer query)) evaluator

/-- Expand a macro call and evaluate the expansion in its place. -/
def applyMacro
    (enter : Enter σ)
    (handler : Macro σ)
    (arguments : List Value)
    (evaluator : Evaluator σ) : Outcome σ Value :=
  match runMacro enter (handler arguments) evaluator with
  | (.ok expansion, evaluator) => enter expansion evaluator
  | (.error error, evaluator) => (.error error, evaluator)

/-- Evaluate the arguments and call a function on them. -/
def applyFunction
    (enter : Enter σ)
    (handler : Function σ)
    (arguments : List Value)
    (evaluator : Evaluator σ) : Outcome σ Value :=
  match evaluateArguments enter arguments evaluator with
  | (.ok values, evaluator) =>
    let (result, context) := handler values evaluator.context
    (result, { evaluator with context := context })
  | (.error error, evaluator) => (.error error, evaluator)

/-- Dispatch an expression on its head. -/
def dispatch
    (enter : Enter σ)
    (items : List Value)
    (evaluator : Evaluator σ) : Outcome σ Value :=
  match items with
  | [] => (.error .emptyExpression, evaluator)
  | .string name :: arguments =>
    match evaluator.operators.resolve? name with
    | some (.expander handler) => applyMacro enter handler arguments evaluator
    | some (.function handler) => applyFunction enter handler arguments evaluator
    | none => (.error (.unsupportedOperator name), evaluator)
  | head :: _ => (.error (.headNotAString head), evaluator)

/-! ## Levels -/

/-- Evaluate an expression where at most `levels` more levels can be entered. The
counter is checked before a level is entered and put back after it, whatever the
result is. -/
def evaluateWithin : (levels : Nat) → List Value → Evaluator σ → Outcome σ Value
  | 0, _, evaluator => (.error (.recursionLimitExceeded evaluator.limit), evaluator)
  | levels + 1, items, evaluator =>
    if evaluator.limit ≤ evaluator.depth then
      (.error (.recursionLimitExceeded evaluator.limit), evaluator)
    else
      let (result, after) := dispatch (evaluateWithin levels) items
        { evaluator with depth := evaluator.depth + 1 }
      (result, { after with depth := after.depth - 1 })

/-- Evaluate an expression given as its elements. -/
def evaluateExpression
    (items : List Value)
    (evaluator : Evaluator σ) : Outcome σ Value :=
  evaluateWithin (evaluator.limit - evaluator.depth) items evaluator

/-- Evaluate a tree. -/
def evaluate
    (tree : Value)
    (evaluator : Evaluator σ) : Outcome σ Value :=
  enterTree evaluateExpression tree evaluator

end Evaluator

end RuleTree
