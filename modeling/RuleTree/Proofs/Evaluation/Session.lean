import RuleTree.Proofs.Evaluation.History

/-!
Contract: an evaluator in use, for one operation after the other.

The host evaluates trees and expressions and changes the context, in any order and
however the evaluations end. Handlers are arbitrary; a macro handler may evaluate again
while it runs, and go on after an error. All that an operation finds of the earlier ones
is the context (`operation_history_free`).

Owns: operations, their runs, and what they leave behind.
Does not own: the moments inside an evaluation (`History`).
-/

namespace RuleTree

variable {σ : Type}

/-- What a host does with its evaluator. -/
inductive Operation (σ : Type) where
  | evaluate (tree : Value)
  | evaluateItems (items : List Value)
  | updateContext (update : σ → σ)

namespace Operation

open Evaluator

/-- The result of an operation, if it has one, and the evaluator afterwards. -/
def run : Operation σ → Evaluator σ → Option (Except EvalError Value) × Evaluator σ
  | .evaluate tree, evaluator =>
    let (result, after) := Evaluator.evaluate tree evaluator
    (some result, after)
  | .evaluateItems items, evaluator =>
    let (result, after) := evaluateExpression items evaluator
    (some result, after)
  | .updateContext update, evaluator => (none, Evaluator.updateContext evaluator update)

/-- The same with the moments of the operation. -/
def observe :
    Operation σ → Evaluator σ →
      (Option (Except EvalError Value) × Evaluator σ) × List (Moment σ)
  | .evaluate tree, evaluator =>
    let ((result, after), moments) := Evaluator.observe tree evaluator
    ((some result, after), moments)
  | .evaluateItems items, evaluator =>
    let ((result, after), moments) := observeExpression items evaluator
    ((some result, after), moments)
  | .updateContext update, evaluator => ((none, Evaluator.updateContext evaluator update), [])

/-- The evaluator after operations. -/
def runAll (operations : List (Operation σ)) (evaluator : Evaluator σ) : Evaluator σ :=
  operations.foldl (fun current operation => (operation.run current).2) evaluator

theorem run_frame (operation : Operation σ) (evaluator : Evaluator σ) :
    (operation.run evaluator).2 = evaluator.withContext (operation.run evaluator).2.context := by
  cases operation with
  | evaluate tree => exact evaluate_frame tree evaluator
  | evaluateItems items => exact evaluateExpression_frame items evaluator
  | updateContext update => rfl

theorem runAll_frame (operations : List (Operation σ)) (evaluator : Evaluator σ) :
    runAll operations evaluator = evaluator.withContext (runAll operations evaluator).context := by
  induction operations generalizing evaluator with
  | nil => rfl
  | cons operation operations inductionHypothesis =>
      calc runAll operations (operation.run evaluator).2
        _ = (operation.run evaluator).2.withContext _ :=
            inductionHypothesis (operation.run evaluator).2
        _ = (evaluator.withContext (operation.run evaluator).2.context).withContext _ :=
            congrArg (fun between : Evaluator σ => between.withContext _)
              (run_frame operation evaluator)
        _ = evaluator.withContext _ := withContext_withContext evaluator _ _

theorem runAll_fresh (operators : Operators σ) (limit : Nat) (context : σ)
    (operations : List (Operation σ)) :
    runAll operations (fresh operators limit context) =
      fresh operators limit (runAll operations (fresh operators limit context)).context :=
  runAll_frame operations (fresh operators limit context)

theorem observe_outcome (operation : Operation σ) (evaluator : Evaluator σ) :
    (operation.observe evaluator).1 = operation.run evaluator := by
  cases operation with
  | evaluate tree =>
      rw [run, ← observe_evaluates]
      rfl
  | evaluateItems items =>
      rw [run, ← observeExpression_evaluates]
      rfl
  | updateContext update => rfl

theorem observe_sound (operation : Operation σ) {operators : Operators σ} {limit : Nat}
    {evaluator : Evaluator σ} (under : evaluator.Under operators limit) :
    ∀ moment ∈ (operation.observe evaluator).2,
      moment.Sound operators limit fun _ => True := by
  have closed := closed_true operators
  cases operation with
  | evaluate tree => exact observe_records closed under fun _ _ => trivial
  | evaluateItems items => exact observeExpression_records closed under trivial
  | updateContext update => exact fun _ member => absurd member List.not_mem_nil

/-- **An evaluator carries no history but its context.** After any operations it is the
evaluator that is built from the context they left, so the next operation gives what it
would give there. At every moment of it the counter is within the limit, a level that is
counted down is counted, an answer finds the counter of its question, and every query
has the answer it had at the start. Every evaluation, in whatever evaluator it is nested,
leaves the counter where it was. -/
theorem operation_history_free (operators : Operators σ) (limit : Nat) (context : σ)
    (earlier : List (Operation σ)) (operation : Operation σ) :
    let start := fresh operators limit context
    let current := runAll earlier start
    current = fresh operators limit current.context ∧
      operation.run current = operation.run (fresh operators limit current.context) ∧
      (∀ query, current.answer query = start.answer query) ∧
      (operation.observe current).1 = operation.run current ∧
      (∀ moment ∈ (operation.observe current).2,
        moment.evaluator.depth ≤ limit ∧ moment.Balanced ∧
          ∀ query, moment.evaluator.answer query = start.answer query) ∧
      (∀ tree (nested : Evaluator σ), (Evaluator.evaluate tree nested).2.depth = nested.depth) ∧
      ∀ items (nested : Evaluator σ), (evaluateExpression items nested).2.depth = nested.depth := by
  intro start current
  have renewed : current = fresh operators limit current.context :=
    runAll_fresh operators limit context earlier
  have under : current.Under operators limit := by
    rw [renewed]
    exact ⟨rfl, rfl, Nat.zero_le limit⟩
  refine ⟨renewed, congrArg operation.run renewed, ?_, observe_outcome operation current, ?_,
    ?_, ?_⟩
  · exact answer_congr under.sameOperators under.sameLimit
  · intro moment member
    have sound := observe_sound operation under moment member
    exact ⟨sound.under.depth_le, sound.balanced,
      answer_congr sound.under.sameOperators sound.under.sameLimit⟩
  · intro tree nested
    rw [evaluate_frame tree nested, withContext_depth]
  · intro items nested
    rw [evaluateExpression_frame items nested, withContext_depth]

end Operation

end RuleTree
