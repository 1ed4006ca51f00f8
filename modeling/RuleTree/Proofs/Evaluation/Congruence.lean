import RuleTree.Proofs.Evaluation.Conditional
import RuleTree.Proofs.Evaluation.Function
import RuleTree.Proofs.Evaluation.Provenance
import RuleTree.Proofs.Value.Equality

/-!
Contract: equal trees evaluate to equal values, or to the same error.

Two runs go through equal trees side by side. They meet the same heads, so they call the
same operators; the functions get equal arguments, and `if-else` chooses the same branch,
as equal answers read alike. The words of an error hold no more of a value than its string
form. So the runs stay together, level by level (`evaluateWithin_equal`), as long as every
function respects equality.

Owns: runs of equal trees. Does not own: what equality is (`Proofs.Value.Equality`).
-/

namespace RuleTree

variable {σ α : Type}

open Evaluator

/-! ## Equal results -/

/-- Related values, or one error. -/
inductive ResultsRelated (related : α → α → Prop) :
    Except EvalError α → Except EvalError α → Prop where
  | ok {left right : α} : related left right → ResultsRelated related (.ok left) (.ok right)
  | error {error : EvalError} : ResultsRelated related (.error error) (.error error)

/-- Related results, in one and the same evaluator. -/
def OutcomesRelated (related : α → α → Prop) (left right : Outcome σ α) : Prop :=
  ResultsRelated related left.1 right.1 ∧ left.2 = right.2

theorem OutcomesRelated.error (related : α → α → Prop) (error : EvalError)
    (evaluator : Evaluator σ) :
    OutcomesRelated related (.error error, evaluator) (.error error, evaluator) :=
  ⟨.error, rfl⟩

theorem OutcomesRelated.outcomes {related : α → α → Prop} {left right : Outcome σ α}
    (same : OutcomesRelated related left right) :
    (∃ error after, left = (.error error, after) ∧ right = (.error error, after)) ∨
      ∃ value other after, related value other ∧ left = (.ok value, after) ∧
        right = (.ok other, after) := by
  obtain ⟨leftResult, after⟩ := left
  obtain ⟨rightResult, rightAfter⟩ := right
  obtain ⟨results, rfl : after = rightAfter⟩ := same
  cases results with
  | error => exact .inl ⟨_, after, rfl, rfl⟩
  | ok equals => exact .inr ⟨_, _, after, equals, rfl, rfl⟩

theorem Value.equals_argument {arguments others : List Value}
    (equals : List.Forall₂ Value.Equals arguments others) (index : Nat) :
    (Value.argument arguments index).Equals (Value.argument others index) := by
  induction equals generalizing index with
  | nil => rfl
  | cons first _ inductionHypothesis =>
    cases index with
    | zero => exact first
    | succ index => exact inductionHypothesis index

/-! ## Functions -/

/-- On equal arguments, in one context, the function does the same to the context, and gives
equal values or one error. -/
def Function.RespectsEquality (handler : Function σ) : Prop :=
  ∀ {arguments others}, List.Forall₂ Value.Equals arguments others → ∀ context,
    ResultsRelated Value.Equals (handler arguments context).1 (handler others context).1 ∧
      (handler arguments context).2 = (handler others context).2

theorem Value.equals_boolean (value : Bool) : (Value.boolean value).Equals (.boolean value) :=
  beq_self_eq_true value

theorem Builtin.wholeMatch_respectsEquality :
    Function.RespectsEquality (Builtin.wholeMatch : Function σ) := by
  intro arguments others equals context
  cases equals with
  | nil => exact ⟨.error, rfl⟩
  | cons value rest =>
    cases rest with
    | nil => exact ⟨.error, rfl⟩
    | cons pattern rest =>
      cases rest with
      | nil =>
        refine ⟨?_, rfl⟩
        simp only [wholeMatch, matchesPattern_congr (Value.operandChars_eq_of_equal value)
          (Value.operandChars_eq_of_equal pattern)]
        cases matchesPattern _ _ with
        | error => exact .error
        | ok matched => exact .ok (Value.equals_boolean matched)
      | cons third rest =>
        simp only [wholeMatch, List.length_cons, rest.length_eq]
        exact ⟨.error, trivial⟩

theorem Operators.builtin_respectsEquality :
    (Operators.builtin : Operators σ).EveryFunction Function.RespectsEquality := by
  apply builtin_everyFunction
  · exact fun _ _ => ⟨.ok rfl, rfl⟩
  · exact fun equals _ => ⟨.ok (Value.equals_argument equals 0), rfl⟩
  · intro arguments others equals context
    have same := Value.readsTrue_eq_of_equal (Value.equals_argument equals 0)
    rw [Builtin.isTrue, Builtin.isTrue, same]
    exact ⟨.ok (Value.equals_boolean _), rfl⟩
  · exact Builtin.wholeMatch_respectsEquality

namespace Evaluator

/-! ## One level -/

/-- In every evaluator over the registry, equal expressions have equal outcomes. -/
def EntersEqually (operators : Operators σ) (enter : Enter σ) : Prop :=
  ∀ {items others}, List.Forall₂ Value.Equals items others →
    ∀ evaluator, evaluator.operators = operators →
      OutcomesRelated Value.Equals (enter items evaluator) (enter others evaluator)

theorem KeepsFrame.operators {enter : Enter σ} (keeps : KeepsFrame enter) (items : List Value)
    (evaluator : Evaluator σ) : (enter items evaluator).2.operators = evaluator.operators := by
  rw [keeps]
  rfl

section Level

variable {operators : Operators σ} {enter : Enter σ} (keeps : KeepsFrame enter)
  (enters : EntersEqually operators enter) {evaluator : Evaluator σ}
  (registered : evaluator.operators = operators)

include enters registered

theorem evaluateArgument_equal {argument other : Value} (equals : argument.Equals other) :
    OutcomesRelated Value.Equals (evaluateArgument enter argument evaluator)
      (evaluateArgument enter other evaluator) := by
  obtain ⟨items, others, rfl, rfl, equalItems⟩ | ⟨noList, noOtherList⟩ :=
    Value.lists_or_not_of_equal equals
  · exact enters equalItems evaluator registered
  · rw [evaluateArgument_literal noList, evaluateArgument_literal noOtherList]
    exact ⟨.ok equals, rfl⟩

/-- A tree that is no list is reported in its string form. -/
theorem enterTree_equal {tree other : Value} (equals : tree.Equals other) :
    OutcomesRelated Value.Equals (enterTree enter tree evaluator)
      (enterTree enter other evaluator) := by
  obtain ⟨items, others, rfl, rfl, equalItems⟩ | ⟨noList, noOtherList⟩ :=
    Value.lists_or_not_of_equal equals
  · exact enters equalItems evaluator registered
  · rw [enterTree_literal noList, enterTree_literal noOtherList, EvalError.notAList,
      EvalError.notAList, Value.text_eq_of_equal equals]
    exact .error _ _ _

include keeps

theorem evaluateArguments_equal {arguments others : List Value}
    (equals : List.Forall₂ Value.Equals arguments others) :
    OutcomesRelated (List.Forall₂ Value.Equals) (evaluateArguments enter arguments evaluator)
      (evaluateArguments enter others evaluator) := by
  induction equals generalizing evaluator with
  | nil => exact ⟨.ok .nil, rfl⟩
  | @cons argument other arguments others first _ inductionHypothesis =>
    obtain ⟨error, after, left, right⟩ | ⟨value, otherValue, after, equalValues, left, right⟩ :=
      (evaluateArgument_equal enters registered first).outcomes
    · simp only [evaluateArguments, left, right]
      exact .error _ _ _
    · have framed := evaluateArgument_frame keeps argument evaluator
      rw [left] at framed
      have registeredAfter : after.operators = operators :=
        (congrArg Evaluator.operators framed).trans registered
      obtain ⟨error, final, left', right'⟩ | ⟨values, others', final, equalRest, left', right'⟩ :=
        (inductionHypothesis registeredAfter).outcomes
      · simp only [evaluateArguments, left, right, left', right']
        exact .error _ _ _
      · simp only [evaluateArguments, left, right, left', right']
        exact ⟨.ok (.cons equalValues equalRest), rfl⟩

/-- A function that respects equality gets equal arguments in one context. -/
theorem applyFunction_equal {handler : Function σ} (respects : Function.RespectsEquality handler)
    {arguments others : List Value} (equals : List.Forall₂ Value.Equals arguments others) :
    OutcomesRelated Value.Equals (applyFunction enter handler arguments evaluator)
      (applyFunction enter handler others evaluator) := by
  obtain ⟨error, after, left, right⟩ | ⟨values, otherValues, after, equalValues, left, right⟩ :=
    (evaluateArguments_equal keeps enters registered equals).outcomes
  · simp only [applyFunction, left, right]
    exact .error _ _ _
  · simp only [applyFunction, left, right]
    obtain ⟨results, sameContext⟩ := respects equalValues after.context
    exact ⟨results, by rw [sameContext]⟩

/-- Equal answers to equal conditions choose equal branches. -/
theorem applyMacro_ifElse_equal {arguments others : List Value}
    (equals : List.Forall₂ Value.Equals arguments others) :
    OutcomesRelated Value.Equals (applyMacro enter Builtin.ifElse arguments evaluator)
      (applyMacro enter Builtin.ifElse others evaluator) := by
  have call : ∀ (name : String) (position : Nat), List.Forall₂ Value.Equals
      [.string name, Value.argument arguments position]
      [.string name, Value.argument others position] := fun name position =>
    .cons (beq_self_eq_true name) (.cons (Value.equals_argument equals position) .nil)
  rw [applyMacro_ifElse, applyMacro_ifElse]
  obtain ⟨error, after, left, right⟩ | ⟨answer, otherAnswer, after, equalAnswers, left, right⟩ :=
    (enters (call "true?" 0) evaluator registered).outcomes
  · rw [left, right]
    exact .error _ _ _
  · have registeredAfter : after.operators = operators := by
      have kept := keeps.operators [.string "true?", Value.argument arguments 0] evaluator
      rw [left] at kept
      exact kept.trans registered
    rw [left, right]
    simp only [chosenPosition, Value.readsTrue_eq_of_equal equalAnswers]
    exact enters (call "identity" _) after registeredAfter

theorem dispatch_equal (only : operators.OnlyIfElse)
    (respects : operators.EveryFunction Function.RespectsEquality) {items others : List Value}
    (equals : List.Forall₂ Value.Equals items others) :
    OutcomesRelated Value.Equals (dispatch enter items evaluator)
      (dispatch enter others evaluator) := by
  cases equals with
  | nil => exact .error _ _ _
  | @cons head otherHead arguments others first rest =>
    obtain ⟨-, -, sameName, -⟩ := Value.sameKind_of_equal first
    cases named : head.string? with
    | none =>
      rw [dispatch_nameless _ _ _ named, dispatch_nameless _ _ _ (sameName.symm.trans named),
        EvalError.headNotAString, EvalError.headNotAString, Value.text_eq_of_equal first]
      exact .error _ _ _
    | some name =>
      obtain rfl := Value.eq_string_of_string? named
      obtain rfl := Value.eq_string_of_string? (sameName.symm.trans named)
      cases found : evaluator.operators.resolve? name with
      | none =>
        rw [dispatch_unsupported _ _ _ found, dispatch_unsupported _ _ _ found]
        exact .error _ _ _
      | some operator =>
        cases operator with
        | function handler =>
          rw [dispatch_function _ _ _ found, dispatch_function _ _ _ found]
          exact applyFunction_equal keeps enters registered
            (respects name handler (registered ▸ found)) rest
        | expander handler =>
          obtain ⟨-, rfl⟩ := only name handler (registered ▸ found)
          rw [dispatch_expander _ _ _ found, dispatch_expander _ _ _ found]
          exact applyMacro_ifElse_equal keeps enters registered rest

end Level

theorem evaluateWithin_equal {operators : Operators σ} (only : operators.OnlyIfElse)
    (respects : operators.EveryFunction Function.RespectsEquality) (levels : Nat) :
    EntersEqually operators (evaluateWithin levels) := by
  induction levels with
  | zero => exact fun _ evaluator _ => .error _ _ evaluator
  | succ levels inductionHypothesis =>
    intro items others equals evaluator registered
    unfold evaluateWithin
    split
    · exact .error _ _ evaluator
    · have registeredDeeper : evaluator.deeper.operators = operators := registered
      obtain ⟨results, sameEvaluator⟩ :=
        dispatch_equal (evaluateWithin_frame levels) inductionHypothesis registeredDeeper only
          respects equals
      exact ⟨results, congrArg (fun after => { after with depth := after.depth - 1 }) sameEvaluator⟩

/-- Equal trees have equal outcomes, if every function respects equality. -/
theorem evaluate_equal {operators : Operators σ} (only : operators.OnlyIfElse)
    (respects : operators.EveryFunction Function.RespectsEquality) {tree other : Value}
    (equals : tree.Equals other) {evaluator : Evaluator σ}
    (registered : evaluator.operators = operators) :
    OutcomesRelated Value.Equals (evaluate tree evaluator) (evaluate other evaluator) :=
  enterTree_equal
    (fun equalItems inner =>
      evaluateWithin_equal only respects (inner.limit - inner.depth) equalItems inner)
    registered equals

end Evaluator

/-- **Equality is a congruence.**

It is symmetric and transitive, and reflexive at the values without NaN, which is equal to
nothing; the two zeros are equal. Equal values are of one kind and have the same string form,
document and truth value; in either position, they are the same to a match. Under the
built-in operators and any limit, equal trees evaluate to equal values or to the same
error. -/
theorem equality_congruent (left right third other : Value) (limit : Nat) (context : σ) :
    left.equal right = right.equal left ∧
    (left.equal right = true → right.equal third = true → left.equal third = true) ∧
    (left.equal left = true ↔ ¬ left.HoldsNaN) ∧
    (Value.number .nan).equal left = false ∧
    (Value.number .zero).equal (.number .negativeZero) = true ∧
    (left.equal right = true →
      left.SameKind right ∧ left.text = right.text ∧ left.encode = right.encode ∧
      Builtin.isTrue [left] context = Builtin.isTrue [right] context ∧
      Builtin.wholeMatch [left, other] context = Builtin.wholeMatch [right, other] context ∧
      Builtin.wholeMatch [other, left] context = Builtin.wholeMatch [other, right] context ∧
      OutcomesRelated Value.Equals (evaluate left (fresh Operators.builtin limit context))
        (evaluate right (fresh Operators.builtin limit context))) := by
  refine ⟨Value.equal_comm left right, Value.equal_trans, Value.equal_self_iff left, ?_, rfl, ?_⟩
  · rw [Bool.eq_false_iff, ne_eq, Value.equal_iff]
    exact fun same => same.1 rfl
  · intro equals
    have read := Value.operandChars_eq_of_equal equals
    refine ⟨Value.sameKind_of_equal equals, Value.text_eq_of_equal equals,
      Value.encode_eq_of_equal equals, ?_, ?_, ?_, ?_⟩
    · have truth := Value.readsTrue_eq_of_equal equals
      simp only [Builtin.isTrue, Value.argument, List.getD_cons_zero, truth]
    · simp only [Builtin.wholeMatch, matchesPattern_congr read rfl]
    · simp only [Builtin.wholeMatch, matchesPattern_congr rfl read]
    · exact evaluate_equal Operators.builtin_onlyIfElse Operators.builtin_respectsEquality equals
        rfl

/-- The tree `["identity", number]`. -/
def identityOf (number : Number) : Value :=
  .list [.string "identity", .number number]

/-- The zeros are different values to the end, and equal ones. -/
theorem equality_congruent_zeros :
    (identityOf .zero).equal (identityOf .negativeZero) = true ∧
      (identityOf .zero).equal (identityOf .zero) = true ∧
      (evaluate (identityOf .negativeZero) (fresh Operators.builtin 1 ())).1 =
        .ok (.number .negativeZero) ∧
      OutcomesRelated Value.Equals
        (evaluate (identityOf .zero) (fresh Operators.builtin 1 ()))
        (evaluate (identityOf .negativeZero) (fresh Operators.builtin 1 ())) := by
  have equals : (identityOf .zero).equal (identityOf .negativeZero) = true := rfl
  have congruent := equality_congruent (identityOf .zero) (identityOf .negativeZero)
    (identityOf .zero) .null 1 ()
  obtain ⟨-, transitive, -, -, -, alike⟩ := congruent
  obtain ⟨-, -, -, -, -, -, outcomes⟩ := alike equals
  exact ⟨equals, transitive equals rfl, rfl, outcomes⟩

end RuleTree
