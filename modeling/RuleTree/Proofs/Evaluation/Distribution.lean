import RuleTree.Proofs.Evaluation.Choice
import RuleTree.Proofs.Evaluation.Shallower

/-!
Contract: a function around a conditional, and the same function in its branches.

A function of one argument that is a conditional waits for the condition, then for one branch,
and is then called. With the function in both branches the steps are the same: the branch is
evaluated at the depth that it had, and the condition one level less deep. So both trees have
one outcome, unless the one with the function outside meets the limit
(`function_enters_branches`).

Owns: this exchange, under any function, with handlers that change the context. Does not own:
what a conditional is (`Evaluation.Choice`).
-/

namespace RuleTree

variable {σ : Type}

open Evaluator

/-- A conditional with a function in both branches has for a branch the call of the function. -/
theorem argument_in_branches (name : String) (condition consequent alternative answer : Value) :
    let position := if answer.MeansTrue then 1 else 2
    Value.argument [condition, .list [.string name, consequent],
        .list [.string name, alternative]] position =
      .list [.string name, Value.argument [condition, consequent, alternative] position] := by
  dsimp only
  split <;> rfl

section Exchange

variable {evaluator after : Evaluator σ} {condition : Value}
  (name : String) (consequent alternative : Value)
  (ifElseBuiltIn : evaluator.operators.resolve? "if-else" = some (.expander Builtin.ifElse))
  (trueBuiltIn : evaluator.operators.resolve? "true?" = some (.function Builtin.isTrue))
  (identityBuiltIn : evaluator.operators.resolve? "identity" = some (.function Builtin.identity))

/-! ## The function inside -/

section Inside

variable (room : evaluator.depth + 1 < evaluator.limit)
include ifElseBuiltIn trueBuiltIn room

theorem evaluateExpression_inside_error {error : EvalError}
    (failed : evaluateArgument evaluateExpression condition evaluator.deeper.deeper =
      (.error error, after)) :
    evaluateExpression [.string "if-else", condition, .list [.string name, consequent],
        .list [.string name, alternative]] evaluator =
      (.error error, evaluator.withContext after.context) :=
  @evaluateExpression_condition_error _ evaluator after [condition, _, _] ifElseBuiltIn room
    trueBuiltIn error failed

include identityBuiltIn

/-- If the condition has an answer, the conditional with the function in both branches is the
function on the branch, two levels down. -/
theorem evaluateExpression_inside_ok {answer : Value}
    (answered : evaluateArgument evaluateExpression condition evaluator.deeper.deeper =
      (.ok answer, after)) :
    let position := if answer.MeansTrue then 1 else 2
    let call := evaluateExpression
      [.string name, Value.argument [condition, consequent, alternative] position]
      (evaluator.deeper.deeper.withContext after.context)
    evaluateExpression [.string "if-else", condition, .list [.string name, consequent],
        .list [.string name, alternative]] evaluator =
      (call.1, evaluator.withContext call.2.context) := by
  have conditional := @evaluateExpression_condition_ok _ evaluator after
    [condition, .list [.string name, consequent], .list [.string name, alternative]]
    ifElseBuiltIn room trueBuiltIn answer identityBuiltIn answered
  dsimp only at conditional
  rw [argument_in_branches name condition consequent alternative answer] at conditional
  exact conditional

end Inside

/-! ## The function outside -/

section Outside

variable {handler : Function σ}
  (isFunction : evaluator.operators.resolve? name = some (.function handler))
include ifElseBuiltIn isFunction

/-- Without room for three levels, a function around a conditional meets the limit. -/
theorem evaluateExpression_outside_full (full : evaluator.limit ≤ evaluator.depth + 2)
    (arguments : List Value) :
    (evaluateExpression [.string name, .list (.string "if-else" :: arguments)] evaluator).1 =
      .error (.recursionLimitExceeded evaluator.limit) := by
  rcases Nat.lt_or_ge evaluator.depth evaluator.limit with room | none
  · have call : evaluateExpression (.string "if-else" :: arguments) evaluator.deeper =
        (.error (.recursionLimitExceeded evaluator.limit), evaluator.deeper) :=
      evaluateExpression_ifElse_full ifElseBuiltIn full
    rw [evaluateExpression_unary isFunction room, evaluateArgument, call]
  · rw [evaluateExpression_of_limit_le none]

variable (room : evaluator.depth + 2 < evaluator.limit)
include trueBuiltIn room

/-- If the condition fails, so does the function around the conditional. -/
theorem evaluateExpression_outside_error {error : EvalError}
    (failed : evaluateArgument evaluateExpression condition evaluator.deeper.deeper.deeper =
      (.error error, after)) :
    evaluateExpression [.string name,
        .list [.string "if-else", condition, consequent, alternative]] evaluator =
      (.error error, evaluator.withContext after.context) := by
  have conditional := @evaluateExpression_condition_error _ evaluator.deeper after
    [condition, consequent, alternative] ifElseBuiltIn room trueBuiltIn error failed
  rw [evaluateExpression_unary isFunction (by omega), evaluateArgument, conditional]
  rfl

include identityBuiltIn

/-- If the condition has an answer, the function around the conditional is the function on the
branch, as it would be called two levels down. -/
theorem evaluateExpression_outside_ok {answer : Value}
    (answered : evaluateArgument evaluateExpression condition evaluator.deeper.deeper.deeper =
      (.ok answer, after)) :
    let position := if answer.MeansTrue then 1 else 2
    let call := evaluateExpression
      [.string name, Value.argument [condition, consequent, alternative] position]
      (evaluator.deeper.deeper.withContext after.context)
    evaluateExpression [.string name,
        .list [.string "if-else", condition, consequent, alternative]] evaluator =
      (call.1, evaluator.withContext call.2.context) := by
  have conditional := @evaluateExpression_condition_ok _ evaluator.deeper after
    [condition, consequent, alternative] ifElseBuiltIn room trueBuiltIn answer identityBuiltIn
    answered
  have call := @evaluateExpression_unary _ (evaluator.deeper.deeper.withContext after.context) _ _
    isFunction room
  dsimp only at conditional ⊢
  rw [evaluateExpression_unary isFunction (by omega), evaluateArgument, conditional, call,
    deeper_withContext]
  rcases evaluateArgument evaluateExpression _ _ with ⟨result, last⟩
  cases result <;> rfl

/-- With the function inside and outside it is the same, if the condition comes to the same two
levels and three levels down. -/
theorem evaluateExpression_inside_eq_outside {result : Except EvalError Value} {context : σ}
    (deep : evaluateArgument evaluateExpression condition evaluator.deeper.deeper.deeper =
      (result, evaluator.deeper.deeper.deeper.withContext context))
    (shallow : evaluateArgument evaluateExpression condition evaluator.deeper.deeper =
      (result, evaluator.deeper.deeper.withContext context)) :
    evaluateExpression [.string "if-else", condition, .list [.string name, consequent],
        .list [.string name, alternative]] evaluator =
      evaluateExpression [.string name,
        .list [.string "if-else", condition, consequent, alternative]] evaluator := by
  have roomInside : evaluator.depth + 1 < evaluator.limit := by omega
  cases result with
  | error error =>
      rw [evaluateExpression_inside_error name _ _ ifElseBuiltIn trueBuiltIn roomInside shallow,
        evaluateExpression_outside_error name _ _ ifElseBuiltIn trueBuiltIn isFunction room deep]
      rfl
  | ok answer =>
      have inside := evaluateExpression_inside_ok name consequent alternative ifElseBuiltIn
        trueBuiltIn identityBuiltIn roomInside shallow
      have outside := evaluateExpression_outside_ok name consequent alternative ifElseBuiltIn
        trueBuiltIn identityBuiltIn isFunction room deep
      exact inside.trans outside.symm

end Outside

end Exchange

/-- **A function can be pushed into the branches of a conditional.**

If a function around a conditional does not meet the limit, then the conditional with the
function around each of its branches has the same outcome, context included, and so does not
meet that limit either. -/
theorem function_enters_branches {evaluator : Evaluator σ}
    (ifElseBuiltIn : evaluator.operators.resolve? "if-else" = some (.expander Builtin.ifElse))
    (trueBuiltIn : evaluator.operators.resolve? "true?" = some (.function Builtin.isTrue))
    (identityBuiltIn : evaluator.operators.resolve? "identity" = some (.function Builtin.identity))
    (letThrough : evaluator.operators.MacrosLetThrough
      (· = .recursionLimitExceeded evaluator.limit))
    {name : String} {handler : Function σ}
    (isFunction : evaluator.operators.resolve? name = some (.function handler))
    (condition consequent alternative : Value) :
    let outside := Value.list
      [.string name, .list [.string "if-else", condition, consequent, alternative]]
    let inside := Value.list [.string "if-else", condition, .list [.string name, consequent],
      .list [.string name, alternative]]
    (evaluate outside evaluator).1 ≠ .error (.recursionLimitExceeded evaluator.limit) →
      evaluate inside evaluator = evaluate outside evaluator ∧
        (evaluate inside evaluator).1 ≠ .error (.recursionLimitExceeded evaluator.limit) := by
  intro outside inside unlimited
  have same : evaluate inside evaluator = evaluate outside evaluator := by
    rcases Nat.lt_or_ge (evaluator.depth + 2) evaluator.limit with room | full
    · -- The condition is evaluated three levels down outside, and two levels down inside.
      have oneLess : evaluator.depth + 2 ≤ evaluator.depth + 3 := by omega
      obtain ⟨result, after, deep⟩ := evaluateArgument_entered evaluator.operators
        evaluator.limit (evaluator.depth + 3) condition evaluator.context
      have conditionUnlimited : result ≠ .error (.recursionLimitExceeded evaluator.limit) := by
        rintro rfl
        have limited := evaluateExpression_outside_error name consequent alternative
          ifElseBuiltIn trueBuiltIn isFunction room deep
        exact unlimited (congrArg Prod.fst limited)
      have shallow := evaluateArgument_shallower letThrough oneLess deep conditionUnlimited
      exact evaluateExpression_inside_eq_outside name consequent alternative ifElseBuiltIn
        trueBuiltIn identityBuiltIn isFunction room deep shallow
    · have limited := evaluateExpression_outside_full name ifElseBuiltIn isFunction full
        [condition, consequent, alternative]
      exact absurd limited unlimited
  refine ⟨same, ?_⟩
  rw [same]
  exact unlimited

/-- The condition is recorded once, and then the chosen branch is, by the function around the
conditional or by the one in the branch. With the function outside four levels are needed; with
the function inside three are enough. -/
theorem function_enters_branches_recorded :
    let start := fun limit => fresh recordingOperators limit {}
    let record := fun argument : Value => Value.list [.string "record", argument]
    let outside := record (.list [.string "if-else", record (.string "True"), .string "yes",
      .string "no"])
    let inside := Value.list [.string "if-else", record (.string "True"), record (.string "yes"),
      record (.string "no")]
    recordingOperators.MacrosLetThrough (· = .recursionLimitExceeded 4) ∧
      evaluate outside (start 4) = (.ok (.string "yes"),
        (start 4).withContext { log := [.string "True", .string "yes"] }) ∧
      evaluate inside (start 4) = evaluate outside (start 4) ∧
      (evaluate outside (start 3)).1 = .error (.recursionLimitExceeded 3) ∧
      (evaluate inside (start 3)).1 = .ok (.string "yes") := by
  intro start record outside inside
  have letThrough : recordingOperators.MacrosLetThrough (· = .recursionLimitExceeded 4) :=
    (recordingOperators_onlyIfElse.macrosPassErrors fun _ => True).letThrough _
  have isFunction : recordingOperators.resolve? "record" =
      some (.function Host.FunctionRule.record.handler) := rfl
  have evaluated : evaluate outside (start 4) = (.ok (.string "yes"),
      (start 4).withContext { log := [.string "True", .string "yes"] }) := rfl
  have unlimited : (evaluate outside (start 4)).1 ≠ .error (.recursionLimitExceeded 4) := by
    rw [evaluated]
    exact nofun
  have exchanged := @function_enters_branches _ (start 4) rfl rfl rfl letThrough _ _ isFunction
    (record (.string "True")) (.string "yes") (.string "no") unlimited
  exact ⟨letThrough, evaluated, exchanged.1, rfl, rfl⟩

end RuleTree
