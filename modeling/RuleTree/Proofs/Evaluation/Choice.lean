import RuleTree.Host.Journal
import RuleTree.Proofs.Evaluation.Conditional
import RuleTree.Proofs.Evaluation.Provenance
import RuleTree.Proofs.Value.Truth

/-!
Contract: what a call of the built-in `if-else` is, with the built-in `true?` and `identity`.

A function of one argument is that argument, one level down, and then the function
(`evaluateExpression_unary`). The condition stands under `true?` and the branch under
`identity`, both one level below the call; so each is evaluated two levels down, once, and the
call is the condition followed by one branch, whatever else the registry holds
(`ifElse_evaluates_condition_then_branch`).

Owns: calls of `if-else` where its three operators are built in. Does not own: calls with
other operators under these names (`Proofs.Evaluation.Conditional`).
-/

namespace RuleTree

variable {σ : Type}

open Evaluator

/-! ## Functions of one argument -/

/-- With room for it, the call of a function on one argument is the argument, one level down,
and then the function on what the argument is. -/
theorem evaluateExpression_unary {evaluator : Evaluator σ} {name : String} {handler : Function σ}
    (found : evaluator.operators.resolve? name = some (.function handler))
    (room : evaluator.depth < evaluator.limit) (argument : Value) :
    evaluateExpression [.string name, argument] evaluator =
      match evaluateArgument evaluateExpression argument evaluator.deeper with
      | (.error error, after) => (.error error, evaluator.withContext after.context)
      | (.ok value, after) =>
        ((handler [value] after.context).1,
          evaluator.withContext (handler [value] after.context).2) := by
  have dispatched := dispatch_function evaluateExpression [argument] evaluator.deeper found
  rw [evaluateExpression_of_depth_lt room, dispatched, applyFunction, evaluateArguments]
  rcases evaluateArgument evaluateExpression argument evaluator.deeper with ⟨result, after⟩
  cases result <;> rfl

theorem evaluateExpression_isTrue (evaluator : Evaluator σ) {name : String}
    (found : evaluator.operators.resolve? name = some (.function Builtin.isTrue))
    (room : evaluator.depth < evaluator.limit) (argument : Value) :
    let inner := evaluateArgument evaluateExpression argument evaluator.deeper
    evaluateExpression [.string name, argument] evaluator =
      (inner.1.map fun condition => .boolean condition.readsTrue,
        evaluator.withContext inner.2.context) := by
  rw [evaluateExpression_unary found room]
  rcases evaluateArgument evaluateExpression argument evaluator.deeper with ⟨result, after⟩
  cases result <;> rfl

theorem evaluateExpression_identity (evaluator : Evaluator σ) {name : String}
    (found : evaluator.operators.resolve? name = some (.function Builtin.identity))
    (room : evaluator.depth < evaluator.limit) (argument : Value) :
    let inner := evaluateArgument evaluateExpression argument evaluator.deeper
    evaluateExpression [.string name, argument] evaluator =
      (inner.1, evaluator.withContext inner.2.context) := by
  rw [evaluateExpression_unary found room]
  rcases evaluateArgument evaluateExpression argument evaluator.deeper with ⟨result, after⟩
  cases result <;> rfl

/-- What `true?` answers reads as true when the condition means true. -/
theorem chosenPosition_readsTrue (condition : Value) :
    chosenPosition (.boolean condition.readsTrue) = if condition.MeansTrue then 1 else 2 := by
  have same : (Value.boolean condition.readsTrue).readsTrue = condition.readsTrue := by
    cases condition.readsTrue <;> rfl
  simp only [chosenPosition, same, condition.readsTrue_iff]

/-! ## The call -/

section Call

variable {evaluator after : Evaluator σ} {arguments : List Value}
  (ifElseBuiltIn : evaluator.operators.resolve? "if-else" = some (.expander Builtin.ifElse))

include ifElseBuiltIn

/-- Without room for two levels, a call comes to no argument. -/
theorem evaluateExpression_ifElse_full (full : evaluator.limit ≤ evaluator.depth + 1) :
    evaluateExpression (.string "if-else" :: arguments) evaluator =
      (.error (.recursionLimitExceeded evaluator.limit), evaluator) := by
  have refused : evaluateExpression [.string "true?", Value.argument arguments 0]
      evaluator.deeper =
        (.error (.recursionLimitExceeded evaluator.limit), evaluator.deeper) :=
    evaluateExpression_of_limit_le full _
  have call := evaluateExpression_ifElse_error ifElseBuiltIn refused
  exact call

variable (room : evaluator.depth + 1 < evaluator.limit)
  (trueBuiltIn : evaluator.operators.resolve? "true?" = some (.function Builtin.isTrue))

include room trueBuiltIn

theorem evaluateExpression_condition_error {error : EvalError}
    (failed : evaluateArgument evaluateExpression (Value.argument arguments 0)
      evaluator.deeper.deeper = (.error error, after)) :
    evaluateExpression (.string "if-else" :: arguments) evaluator =
      (.error error, evaluator.withContext after.context) := by
  have test := evaluateExpression_isTrue evaluator.deeper trueBuiltIn room
    (Value.argument arguments 0)
  rw [failed] at test
  have call := evaluateExpression_ifElse_error ifElseBuiltIn test
  exact call

theorem evaluateExpression_condition_ok {condition : Value}
    (identityBuiltIn : evaluator.operators.resolve? "identity" = some (.function Builtin.identity))
    (answered : evaluateArgument evaluateExpression (Value.argument arguments 0)
      evaluator.deeper.deeper = (.ok condition, after)) :
    let branch := evaluateArgument evaluateExpression
      (Value.argument arguments (if condition.MeansTrue then 1 else 2))
      (evaluator.deeper.deeper.withContext after.context)
    evaluateExpression (.string "if-else" :: arguments) evaluator =
      (branch.1, evaluator.withContext branch.2.context) := by
  have test := evaluateExpression_isTrue evaluator.deeper trueBuiltIn room
    (Value.argument arguments 0)
  rw [answered] at test
  have call := evaluateExpression_ifElse_ok ifElseBuiltIn test
  have branch := evaluateExpression_identity (evaluator.deeper.withContext after.context)
    identityBuiltIn room (Value.argument arguments (if condition.MeansTrue then 1 else 2))
  dsimp only at call branch
  rw [chosenPosition_readsTrue, branch] at call
  exact call

end Call

/-- **A call of `if-else` is its condition and then one branch.**

With room for less than two levels it is refused, and the evaluator is as before. Otherwise
the first argument is evaluated two levels down; if that fails, the call fails so. Else the
call is the second argument if the condition means true, and the third one if it does not,
evaluated two levels down as well, in the context that the condition leaves; what it comes to
is the result, a list too. A missing argument is null. -/
theorem ifElse_evaluates_condition_then_branch (evaluator : Evaluator σ)
    (ifElseBuiltIn : evaluator.operators.resolve? "if-else" = some (.expander Builtin.ifElse))
    (trueBuiltIn : evaluator.operators.resolve? "true?" = some (.function Builtin.isTrue))
    (identityBuiltIn : evaluator.operators.resolve? "identity" = some (.function Builtin.identity))
    (arguments : List Value) :
    (evaluator.limit - evaluator.depth < 2 →
      evaluate (.list (.string "if-else" :: arguments)) evaluator =
        (.error (.recursionLimitExceeded evaluator.limit), evaluator)) ∧
    (2 ≤ evaluator.limit - evaluator.depth →
      match evaluateArgument evaluateExpression (Value.argument arguments 0)
        evaluator.deeper.deeper with
      | (.error error, after) =>
        evaluate (.list (.string "if-else" :: arguments)) evaluator =
          (.error error, evaluator.withContext after.context)
      | (.ok condition, after) =>
        let branch := evaluateArgument evaluateExpression
          (Value.argument arguments (if condition.MeansTrue then 1 else 2))
          (evaluator.deeper.deeper.withContext after.context)
        evaluate (.list (.string "if-else" :: arguments)) evaluator =
          (branch.1, evaluator.withContext branch.2.context)) := by
  constructor
  · intro little
    exact evaluateExpression_ifElse_full ifElseBuiltIn (by omega)
  · intro enough
    have room : evaluator.depth + 1 < evaluator.limit := by omega
    split
    · next error after failed =>
      exact evaluateExpression_condition_error ifElseBuiltIn room trueBuiltIn failed
    · next condition after answered =>
      exact evaluateExpression_condition_ok ifElseBuiltIn room trueBuiltIn identityBuiltIn answered

/-- The built-in operators with one that records its argument and one that lists them. -/
def recordingOperators : Operators Host.Journal :=
  (Operators.builtin.insertFunction "record" Host.FunctionRule.record.handler).insertFunction
    "list" Host.FunctionRule.arguments.handler

theorem recordingOperators_onlyIfElse : recordingOperators.OnlyIfElse :=
  (Operators.builtin_onlyIfElse.insertFunction _ _).insertFunction _ _

/-- With room for three levels the condition is recorded once, and the list that the branch
comes to is the result; with room for one level nothing is recorded. -/
theorem ifElse_evaluates_recorded_condition :
    let call := Value.list [.string "if-else", .list [.string "record", .string "True"],
      .list [.string "list", .string "yes"]]
    let roomy := Evaluator.fresh recordingOperators 3 {}
    let tight := Evaluator.fresh recordingOperators 1 {}
    evaluate call roomy =
        (.ok (.list [.string "yes"]), roomy.withContext { log := [.string "True"] }) ∧
      evaluate call tight = (.error (.recursionLimitExceeded 1), tight) := by
  intro call roomy tight
  refine ⟨?_, ?_⟩
  · exact (ifElse_evaluates_condition_then_branch roomy rfl rfl rfl
      [.list [.string "record", .string "True"], .list [.string "list", .string "yes"]]).2
        (by decide)
  · exact (ifElse_evaluates_condition_then_branch tight rfl rfl rfl
      [.list [.string "record", .string "True"], .list [.string "list", .string "yes"]]).1
        (by decide)

end RuleTree
