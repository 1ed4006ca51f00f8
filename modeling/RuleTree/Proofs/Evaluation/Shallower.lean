import RuleTree.Proofs.Evaluation.Level

/-!
Contract: evaluations of one expression at two depths.

No handler can see how many levels have been entered: it can ask for the limit, which is the
same at every depth. So an evaluation comes to the same at a lesser depth, context included,
unless it meets the limit at the greater one, provided that no macro goes on after that error
(`evaluateExpression_shallower`).

Owns: what the depth of an evaluation changes. Does not own: how many levels an expression
needs (`Evaluation.Room`).
-/

namespace RuleTree

variable {σ α : Type}

namespace Evaluator

/-! ## Evaluators in some levels -/

section Entered

variable (operators : Operators σ) (limit : Nat) (context : σ) {depth : Nat} (items : List Value)

theorem evaluateExpression_entered_full (full : limit ≤ depth) :
    evaluateExpression items (entered operators limit context depth) =
      (.error (.recursionLimitExceeded limit), entered operators limit context depth) :=
  evaluateExpression_of_limit_le full items

theorem evaluateExpression_entered (room : depth < limit) :
    let dispatched := dispatch evaluateExpression items
      (entered operators limit context (depth + 1))
    evaluateExpression items (entered operators limit context depth) =
      (dispatched.1, entered operators limit dispatched.2.context depth) :=
  evaluateExpression_of_depth_lt room items

end Entered

theorem evaluateArgument_entered (operators : Operators σ) (limit depth : Nat) (argument : Value)
    (context : σ) :
    ∃ result after, evaluateArgument evaluateExpression argument
      (entered operators limit context depth) = (result, entered operators limit after depth) :=
  ⟨_, _, Prod.ext rfl (evaluateArgument_frame evaluateExpression_frame argument _)⟩

/-! ## Two depths -/

/-- One evaluator seen at two depths. -/
inductive AtDepths (operators : Operators σ) (limit depth lesser : Nat) :
    Evaluator σ → Evaluator σ → Prop where
  | seen (context : σ) : AtDepths operators limit depth lesser
      (entered operators limit context depth) (entered operators limit context lesser)

section AtDepths

variable {operators : Operators σ} {limit : Nat}
  (letThrough : operators.MacrosLetThrough (· = .recursionLimitExceeded limit))
include letThrough

theorem lockstep_atDepths (depth lesser : Nat) :
    LockstepUnless (· = .recursionLimitExceeded limit) (fun _ => True)
      (AtDepths operators limit depth lesser) where
  context := by
    rintro _ _ ⟨context⟩
    rfl
  withContext := by
    rintro _ _ ⟨_⟩ context
    exact .seen context
  answer := by
    rintro _ _ ⟨context⟩ query -
    exact answer_congr rfl rfl query
  resolve? := by
    rintro _ _ ⟨context⟩ name
    exact .inl rfl
  asksOnly := fun _ _ _ _ _ => MacroProgram.asksOnly_true _
  letThrough := by
    rintro _ _ ⟨context⟩
    exact letThrough

/-- An evaluation at a lesser depth comes to the same, unless it meets the limit at the greater
one. -/
theorem evaluateExpression_shallower {depth lesser : Nat} (below : lesser ≤ depth) :
    EntersAlikeUnless (· = .recursionLimitExceeded limit)
      (AtDepths operators limit depth lesser) evaluateExpression evaluateExpression := by
  -- By induction on the levels that are left at the greater depth.
  generalize left : limit - depth = levels
  induction levels generalizing depth lesser with
  | zero =>
      rintro items _ _ ⟨context⟩
      rw [evaluateExpression_entered_full operators limit context items (by omega)]
      exact .inl ⟨_, rfl, rfl⟩
  | succ levels inductionHypothesis =>
      rintro items _ _ ⟨context⟩
      have deeper := inductionHypothesis (Nat.succ_le_succ below) (by omega)
      have dispatched := dispatch_agreeUnless (lockstep_atDepths letThrough _ _) deeper items
        (.seen context)
      rw [evaluateExpression_entered operators limit context items (by omega),
        evaluateExpression_entered operators limit context items (by omega)]
      refine dispatched.imp_right ?_
      rintro ⟨sameResult, after⟩
      have sameContext := (lockstep_atDepths letThrough _ _).context after
      rw [sameResult, sameContext]
      exact ⟨rfl, .seen _⟩

theorem evaluateArgument_shallower {depth lesser : Nat} (below : lesser ≤ depth)
    {argument : Value} {before after : σ} {result : Except EvalError Value}
    (evaluated : evaluateArgument evaluateExpression argument
      (entered operators limit before depth) = (result, entered operators limit after depth))
    (unlimited : result ≠ .error (.recursionLimitExceeded limit)) :
    evaluateArgument evaluateExpression argument (entered operators limit before lesser) =
      (result, entered operators limit after lesser) := by
  have agree := evaluateArgument_agreeUnless (evaluateExpression_shallower letThrough below)
    argument (.seen before)
  rw [evaluated] at agree
  rcases agree with ⟨error, rfl, limited⟩ | ⟨sameResult, seen⟩
  · exact absurd limited unlimited
  · have sameContext := (lockstep_atDepths letThrough _ _).context seen
    obtain ⟨other, otherAfter, shallow⟩ :=
      evaluateArgument_entered operators limit lesser argument before
    rw [shallow] at sameResult sameContext ⊢
    exact Prod.ext sameResult.symm (congrArg (entered operators limit · lesser) sameContext.symm)

end AtDepths

end Evaluator

end RuleTree
