import RuleTree.Builtins
import RuleTree.Proofs.Evaluation.Level

/-!
Contract: what the built-in `if-else` evaluates.

A call is its condition under `true?`, one level down, followed by one branch under
`identity`, also one level down. Neither the other branch nor any further argument is
looked at, so calls that differ only there cannot be told apart
(`ifElse_short_circuits`). All other operators, `true?` and `identity` among them, may
be those of a host.
-/

namespace RuleTree

variable {σ : Type}

open Evaluator

/-- The argument that the answer to the condition chooses. -/
def chosenPosition (answer : Value) : Nat :=
  if answer.readsTrue then 1 else 2

theorem chosenPosition_eq_or (answer : Value) :
    chosenPosition answer = 1 ∨ chosenPosition answer = 2 := by
  unfold chosenPosition
  split
  · exact .inl rfl
  · exact .inr rfl

theorem applyMacro_ifElse (enter : Enter σ) (arguments : List Value) (evaluator : Evaluator σ) :
    applyMacro enter Builtin.ifElse arguments evaluator =
      match enter [.string "true?", Value.argument arguments 0] evaluator with
      | (.error error, after) => (.error error, after)
      | (.ok answer, after) =>
        enter [.string "identity", Value.argument arguments (chosenPosition answer)] after := by
  simp only [applyMacro, Builtin.ifElse, runMacro, enterTree]
  rcases enter [.string "true?", Value.argument arguments 0] evaluator with ⟨result, after⟩
  cases result <;> rfl

/-- Where a level is refused, the next one down is refused alike. -/
theorem evaluateExpression_deeper_of_limit_le {evaluator : Evaluator σ}
    (full : evaluator.limit ≤ evaluator.depth) (items : List Value) :
    evaluateExpression items evaluator.deeper =
      (.error (.recursionLimitExceeded evaluator.limit), evaluator.deeper) := by
  have fullBelow : evaluator.deeper.limit ≤ evaluator.deeper.depth := Nat.le_succ_of_le full
  exact evaluateExpression_of_limit_le fullBelow items

section Call

variable {evaluator after : Evaluator σ} {arguments : List Value}
  (builtIn : evaluator.operators.resolve? "if-else" = some (.expander Builtin.ifElse))
include builtIn

/-- A call fails as its condition does. Without room for the call there is none for the
condition either, so this includes the limit. -/
theorem evaluateExpression_ifElse_error {error : EvalError}
    (failed : evaluateExpression [.string "true?", Value.argument arguments 0] evaluator.deeper =
      (.error error, after)) :
    evaluateExpression (.string "if-else" :: arguments) evaluator =
      (.error error, evaluator.withContext after.context) := by
  rcases Nat.lt_or_ge evaluator.depth evaluator.limit with room | full
  · have dispatched := dispatch_expander evaluateExpression arguments evaluator.deeper builtIn
    rw [applyMacro_ifElse, failed] at dispatched
    rw [evaluateExpression_of_depth_lt room, dispatched]
  · rw [evaluateExpression_deeper_of_limit_le full] at failed
    cases failed
    exact evaluateExpression_of_limit_le full _

/-- A call whose condition has an answer is its chosen branch, in the context that the
condition leaves. -/
theorem evaluateExpression_ifElse_ok {answer : Value}
    (answered : evaluateExpression [.string "true?", Value.argument arguments 0] evaluator.deeper =
      (.ok answer, after)) :
    let branch := evaluateExpression
      [.string "identity", Value.argument arguments (chosenPosition answer)] after
    evaluateExpression (.string "if-else" :: arguments) evaluator =
      (branch.1, evaluator.withContext branch.2.context) := by
  have room : evaluator.depth < evaluator.limit := by
    apply Nat.lt_of_not_le
    intro full
    rw [evaluateExpression_deeper_of_limit_le full] at answered
    cases answered
  have dispatched := dispatch_expander evaluateExpression arguments evaluator.deeper builtIn
  rw [applyMacro_ifElse, answered] at dispatched
  rw [evaluateExpression_of_depth_lt room, dispatched]

/-- Two calls with one condition and one chosen branch are one call. -/
theorem evaluateExpression_ifElse_congr {others : List Value} {answer : Value}
    (answered : evaluateExpression [.string "true?", Value.argument arguments 0] evaluator.deeper =
      (.ok answer, after))
    (sameCondition : Value.argument others 0 = Value.argument arguments 0)
    (sameBranch : Value.argument others (chosenPosition answer) =
      Value.argument arguments (chosenPosition answer)) :
    evaluateExpression (.string "if-else" :: others) evaluator =
      evaluateExpression (.string "if-else" :: arguments) evaluator := by
  have othersAnswered := answered
  rw [← sameCondition] at othersAnswered
  rw [evaluateExpression_ifElse_ok builtIn answered,
    evaluateExpression_ifElse_ok builtIn othersAnswered, sameBranch]

end Call

/-- **`if-else` is lazy in the branch it does not choose.**

The condition is evaluated under `true?` one level below the call, in an evaluator of
any depth, limit and context. If it has an answer, the call is the branch chosen by the
answer, so calls with this condition that agree on that branch have one outcome, context
included, whatever their other arguments are; a missing argument is null. If it fails,
every call fails so. -/
theorem ifElse_short_circuits
    {evaluator : Evaluator σ}
    (builtIn : evaluator.operators.resolve? "if-else" = some (.expander Builtin.ifElse))
    {condition : Value}
    {arguments others : List Value}
    (conditionOf : Value.argument arguments 0 = condition)
    (conditionOfOthers : Value.argument others 0 = condition) :
    match evaluateExpression [.string "true?", condition] evaluator.deeper with
    | (.ok answer, after) =>
      let branch := evaluateExpression
        [.string "identity", Value.argument arguments (chosenPosition answer)] after
      evaluateExpression (.string "if-else" :: arguments) evaluator =
          (branch.1, evaluator.withContext branch.2.context) ∧
        (Value.argument others (chosenPosition answer) =
            Value.argument arguments (chosenPosition answer) →
          evaluateExpression (.string "if-else" :: others) evaluator =
            evaluateExpression (.string "if-else" :: arguments) evaluator)
    | (.error error, after) =>
      evaluateExpression (.string "if-else" :: arguments) evaluator =
          (.error error, evaluator.withContext after.context) ∧
        evaluateExpression (.string "if-else" :: others) evaluator =
          (.error error, evaluator.withContext after.context) := by
  rcases evaluated : evaluateExpression [.string "true?", condition] evaluator.deeper
    with ⟨result, after⟩
  cases result with
  | ok answer =>
      rw [← conditionOf] at evaluated
      refine ⟨evaluateExpression_ifElse_ok builtIn evaluated, ?_⟩
      intro sameBranch
      exact evaluateExpression_ifElse_congr builtIn evaluated
        (conditionOfOthers.trans conditionOf.symm) sameBranch
  | error error =>
      constructor
      · rw [← conditionOf] at evaluated
        exact evaluateExpression_ifElse_error builtIn evaluated
      · rw [← conditionOfOthers] at evaluated
        exact evaluateExpression_ifElse_error builtIn evaluated

/-- The built-in operators with an `identity` that keeps what it is given. -/
def keepingOperators : Operators (List Value) :=
  Operators.builtin.insertFunction "identity" fun arguments kept =>
    (.ok (Value.argument arguments 0), kept ++ arguments)

/-- With room for three levels, neither an unknown operator, nor what is no expression,
nor a branch that goes too deep matters where it is not chosen. -/
theorem ifElse_unchosen_unseen :
    let start := Evaluator.fresh keepingOperators 3 []
    let deep := .list [.string "always", .list [.string "always", .list [.string "always"]]]
    start.operators.resolve? "if-else" = some (.expander Builtin.ifElse) ∧
      evaluateExpression
          [.string "if-else", .boolean true, .string "yes", .list [.list []]] start =
        evaluateExpression
          [.string "if-else", .boolean true, .string "yes", .list [.string "unknown"]] start ∧
      evaluateExpression [.string "if-else", .boolean false, deep] start =
        evaluateExpression [.string "if-else", .boolean false, .string "yes", .null, deep] start ∧
      (evaluateExpression
        [.string "if-else", .boolean true, .string "yes", .list [.list []]] start).1 =
        .ok (.string "yes") := by
  intro start deep
  have builtIn : start.operators.resolve? "if-else" = some (.expander Builtin.ifElse) := rfl
  refine ⟨builtIn, ?_, ?_, rfl⟩
  · exact (@ifElse_short_circuits _ start builtIn (.boolean true)
      [.boolean true, .string "yes", .list [.string "unknown"]]
      [.boolean true, .string "yes", .list [.list []]] rfl rfl).2 rfl
  · exact (@ifElse_short_circuits _ start builtIn (.boolean false)
      [.boolean false, .string "yes", .null, deep] [.boolean false, deep] rfl rfl).2 rfl

end RuleTree
