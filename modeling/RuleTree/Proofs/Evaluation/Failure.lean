import RuleTree.Proofs.Evaluation.Conditional
import RuleTree.Proofs.Evaluation.Function
import RuleTree.Proofs.Evaluation.Provenance

/-!
Contract: which errors an evaluation can end in.

An evaluation fails as an argument, a condition or a branch fails, as a function does, or for
a reason of its own: the limit, an expression that is none, or a name that is not registered.
Where `if-else` is the only macro, the expressions are code of the tree, so a set of errors with
those of its code and of all functions has every error that the tree can end in
(`evaluate_failsOnly`).

Owns: sets of errors that evaluations stay in. Does not own: which values they come to
(`Evaluation.Result`).
-/

namespace RuleTree

variable {σ α : Type}

open Evaluator

/-- The outcome is a result or one of the errors. -/
def FailsOnly (raised : EvalError → Prop) (outcome : Outcome σ α) : Prop :=
  ∀ error, outcome.1 = .error error → raised error

section FailsOnly

variable {raised : EvalError → Prop}

theorem failsOnly_error {error : EvalError} (isRaised : raised error) (evaluator : Evaluator σ) :
    FailsOnly raised ((.error error, evaluator) : Outcome σ α) := by
  intro other same
  rwa [← Except.error.inj same]

/-- The error is passed on to an outcome of another type. -/
theorem FailsOnly.of_error {β : Type} {error : EvalError} {before after : Evaluator σ}
    (failsOnly : FailsOnly raised ((.error error, before) : Outcome σ β)) :
    FailsOnly raised ((.error error, after) : Outcome σ α) :=
  failsOnly_error (failsOnly error rfl) after

theorem FailsOnly.map {β : Type} {result : Except EvalError α} {before after : Evaluator σ}
    (failsOnly : FailsOnly raised (result, before)) (convert : α → β) :
    FailsOnly raised (result.map convert, after) := by
  cases result with
  | error error => exact failsOnly.of_error
  | ok value => exact nofun

/-! ## Calls -/

section Call

variable {arguments : List Value} {evaluator : Evaluator σ}
  (each : ∀ items, .list items ∈ arguments → ∀ context,
    FailsOnly raised (evaluateExpression items (evaluator.withContext context)))
include each

/-- Arguments fail as one of the lists among them does. -/
theorem evaluateArguments_failsOnly (context : σ) :
    FailsOnly raised
      (evaluateArguments evaluateExpression arguments (evaluator.withContext context)) := by
  induction arguments generalizing context with
  | nil => exact nofun
  | cons argument arguments inductionHypothesis =>
      have others := inductionHypothesis
        fun items member => each items (List.mem_cons_of_mem _ member)
      cases argument with
      | list items =>
          have head := each items List.mem_cons_self context
          obtain ⟨result, after, first⟩ :=
            evaluateExpression_frame.outcome items evaluator context
          rw [first] at head
          rw [evaluateArguments, evaluateArgument, first]
          cases result with
          | error error => exact head.of_error
          | ok value => exact (others after).map _
      | _ => exact (others context).map _

theorem applyFunction_failsOnly {handler : Function σ} (raises : handler.RaisesOnly raised)
    (context : σ) :
    FailsOnly raised
      (applyFunction evaluateExpression handler arguments (evaluator.withContext context)) := by
  have evaluated := evaluateArguments_failsOnly each context
  obtain ⟨results, after, outcome⟩ :=
    evaluateArguments_outcome evaluateExpression_frame arguments evaluator context
  rw [outcome] at evaluated
  rw [applyFunction, outcome]
  cases results with
  | error error => exact evaluated.of_error
  | ok values => exact fun error failed => raises values after error failed

end Call

/-! ## Levels -/

/-- The code of the tree fails only so, one level further down. -/
def LevelFailsOnly (raised : EvalError → Prop) (tree : Value) (evaluator : Evaluator σ) : Prop :=
  ∀ items, Code tree items → ∀ context,
    FailsOnly raised (evaluateExpression items (evaluator.withContext context))

section Level

variable {tree : Value} {operators : Operators σ} (only : operators.OnlyIfElse)
  (functions : operators.EveryFunction (Function.RaisesOnly raised))
  (malformed : ∀ detail, raised (.malformedExpression detail))
  (unsupported : ∀ name arguments, Code tree (.string name :: arguments) →
    operators.resolve? name = none → raised (.unsupportedOperator name))
include only functions malformed unsupported

theorem LevelFailsOnly.dispatch {evaluator : Evaluator σ}
    (below : LevelFailsOnly raised tree evaluator) (registered : evaluator.operators = operators)
    {items : List Value} (code : Code tree items) (context : σ) :
    FailsOnly raised (dispatch evaluateExpression items (evaluator.withContext context)) := by
  cases items with
  | nil => exact failsOnly_error (malformed _) _
  | cons head arguments =>
      cases head with
      | string name =>
          cases found : (evaluator.withContext context).operators.resolve? name with
          | none =>
              rw [dispatch_unsupported _ _ _ found]
              exact failsOnly_error (unsupported name arguments code (registered ▸ found)) _
          | some operator =>
              cases operator with
              | function handler =>
                  rw [dispatch_function _ _ _ found]
                  have handled := functions name handler (registered ▸ found)
                  refine applyFunction_failsOnly ?_ handled context
                  intro items member context
                  exact below items (.subexpression (code.arguments_subexpression member)) context
              | expander handler =>
                  rw [dispatch_expander _ _ _ found]
                  obtain ⟨rfl, rfl⟩ := only name handler (registered ▸ found)
                  have call := code.ifElse_subexpression
                  have condition := below _ (.condition call) context
                  obtain ⟨result, after, evaluated⟩ := evaluateExpression_frame.outcome
                    [.string "true?", Value.argument arguments 0] evaluator context
                  rw [evaluated] at condition
                  rw [applyMacro_ifElse, evaluated]
                  cases result with
                  | error error => exact condition
                  | ok answer => exact below _ (.branch call (chosenPosition_eq_or answer)) after
      | _ => exact failsOnly_error (malformed _) _

variable {limit : Nat} (limited : raised (.recursionLimitExceeded limit))
include limited

theorem levelFailsOnly {evaluator : Evaluator σ} (registered : evaluator.operators = operators)
    (limitOf : evaluator.limit = limit) : LevelFailsOnly raised tree evaluator := by
  -- By induction on the levels that are left.
  generalize left : evaluator.limit - evaluator.depth = levels
  induction levels generalizing evaluator with
  | zero =>
      intro items _ context
      have full : (evaluator.withContext context).limit ≤ (evaluator.withContext context).depth :=
        Nat.le_of_sub_eq_zero left
      rw [evaluateExpression_of_limit_le full]
      exact failsOnly_error (limitOf ▸ limited) _
  | succ levels inductionHypothesis =>
      intro items code context
      have below : LevelFailsOnly raised tree evaluator.deeper :=
        inductionHypothesis registered limitOf (by simp only [deeper_limit, deeper_depth]; omega)
      have room :
          (evaluator.withContext context).depth < (evaluator.withContext context).limit := by
        simp only [withContext_limit, withContext_depth]
        omega
      rw [evaluateExpression_of_depth_lt room]
      exact below.dispatch only functions malformed unsupported registered code context

/-- A tree comes to a value or to one of the errors. -/
theorem evaluate_failsOnly {evaluator : Evaluator σ} (registered : evaluator.operators = operators)
    (limitOf : evaluator.limit = limit) : FailsOnly raised (evaluate tree evaluator) := by
  cases whole : tree with
  | list items =>
      have level :=
        levelFailsOnly only functions malformed unsupported limited registered limitOf
      exact level items (.subexpression (.root whole)) evaluator.context
  | _ => exact failsOnly_error (malformed _) _

end Level

end FailsOnly

end RuleTree
