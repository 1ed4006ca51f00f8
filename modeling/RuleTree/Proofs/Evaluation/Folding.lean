import Mathlib.Data.List.Forall2
import RuleTree.Proofs.Evaluation.Conditional
import RuleTree.Proofs.Evaluation.Derivation
import RuleTree.Proofs.Evaluation.Function
import RuleTree.Proofs.Evaluation.Provenance

/-!
Contract: evaluation that leaves the context alone, and what can be replaced in it.

Where no function changes the context and `if-else` is the only macro, an evaluation
leaves the evaluator exactly as it found it, and what an expression comes to depends on
nothing but the levels that are left. Two values can then stand for each other as
arguments if they come to the same at every depth, or the first of them to the limit
error; lists of such values have that property again (`Interchangeable.list`). A list
and the value that it evaluates to are such a pair, so constants can be folded
(`constant_folding_sound`).

Owns: pure evaluation, interchangeable values, and replacement inside a tree.
Does not own: functions that change the context.
-/

namespace RuleTree

variable {σ α : Type}

open Evaluator

/-! ## Pure evaluation -/

namespace Evaluator

/-- The evaluations of the next level leave every evaluator over the registry as it is. -/
def Untouching (operators : Operators σ) (enter : Enter σ) : Prop :=
  ∀ items evaluator, evaluator.operators = operators → (enter items evaluator).2 = evaluator

section Pure

variable {operators : Operators σ} {enter : Enter σ} (untouching : Untouching operators enter)
  {evaluator : Evaluator σ} (registered : evaluator.operators = operators)
include untouching registered

theorem evaluateArgument_untouched (argument : Value) :
    (evaluateArgument enter argument evaluator).2 = evaluator := by
  cases argument with
  | list items => exact untouching items evaluator registered
  | _ => rfl

theorem evaluateArguments_untouched (arguments : List Value) :
    (evaluateArguments enter arguments evaluator).2 = evaluator := by
  induction arguments with
  | nil => rfl
  | cons argument arguments inductionHypothesis =>
      have head := evaluateArgument_untouched untouching registered argument
      rw [evaluateArguments]
      rcases outcome : evaluateArgument enter argument evaluator with ⟨result, after⟩
      rw [outcome] at head
      obtain rfl : after = evaluator := head
      cases result with
      | error error => rfl
      | ok value => exact inductionHypothesis

/-- The arguments are evaluated one beside the other, all in the same evaluator. -/
theorem evaluateArguments_cons_result (argument : Value) (arguments : List Value) :
    (evaluateArguments enter (argument :: arguments) evaluator).1 =
      (evaluateArgument enter argument evaluator).1.bind fun value =>
        (evaluateArguments enter arguments evaluator).1.map (value :: ·) := by
  have head := evaluateArgument_untouched untouching registered argument
  rw [evaluateArguments]
  rcases outcome : evaluateArgument enter argument evaluator with ⟨result, after⟩
  rw [outcome] at head
  obtain rfl : after = evaluator := head
  cases result <;> rfl

theorem applyFunction_untouched {handler : Function σ} (keeps : Function.KeepsContext handler)
    (arguments : List Value) :
    (applyFunction enter handler arguments evaluator).2 = evaluator := by
  have head := evaluateArguments_untouched untouching registered arguments
  rw [applyFunction]
  rcases outcome : evaluateArguments enter arguments evaluator with ⟨results, after⟩
  rw [outcome] at head
  obtain rfl : after = evaluator := head
  cases results with
  | error error => rfl
  | ok values =>
      exact congrArg (fun context => { after with context := context })
        (keeps values after.context)

/-- What a function answers depends on the results of its arguments alone. -/
theorem applyFunction_result (handler : Function σ) (arguments : List Value) :
    (applyFunction enter handler arguments evaluator).1 =
      (evaluateArguments enter arguments evaluator).1.bind
        fun values => (handler values evaluator.context).1 := by
  have head := evaluateArguments_untouched untouching registered arguments
  rw [applyFunction]
  rcases outcome : evaluateArguments enter arguments evaluator with ⟨results, after⟩
  rw [outcome] at head
  obtain rfl : after = evaluator := head
  cases results <;> rfl

/-- The condition and the branch of a conditional are evaluated in the same evaluator. -/
theorem applyMacro_ifElse_pure (arguments : List Value) :
    applyMacro enter Builtin.ifElse arguments evaluator =
      ((enter [.string "true?", Value.argument arguments 0] evaluator).1.bind fun answer =>
        (enter [.string "identity", Value.argument arguments (chosenPosition answer)]
          evaluator).1, evaluator) := by
  have condition := untouching [.string "true?", Value.argument arguments 0] evaluator registered
  rw [applyMacro_ifElse]
  rcases outcome : enter [.string "true?", Value.argument arguments 0] evaluator with
    ⟨result, after⟩
  rw [outcome] at condition
  obtain rfl : after = evaluator := condition
  cases result with
  | error error => rfl
  | ok answer => exact Prod.ext rfl (untouching _ _ registered)

theorem dispatch_untouched (only : operators.OnlyIfElse)
    (keeps : operators.EveryFunction Function.KeepsContext) (items : List Value) :
    (dispatch enter items evaluator).2 = evaluator := by
  cases items with
  | nil => rfl
  | cons head arguments =>
      cases head with
      | string name =>
          cases found : evaluator.operators.resolve? name with
          | none => rw [dispatch_unsupported _ _ _ found]
          | some operator =>
              cases operator with
              | function handler =>
                  rw [dispatch_function _ _ _ found]
                  rw [registered] at found
                  exact applyFunction_untouched untouching registered
                    (keeps name handler found) arguments
              | expander handler =>
                  rw [dispatch_expander _ _ _ found]
                  rw [registered] at found
                  obtain ⟨-, rfl⟩ := only name handler found
                  rw [applyMacro_ifElse_pure untouching registered]
      | _ => rfl

end Pure

theorem evaluateWithin_untouching {operators : Operators σ} (only : operators.OnlyIfElse)
    (keeps : operators.EveryFunction Function.KeepsContext) (levels : Nat) :
    Untouching operators (evaluateWithin levels) := by
  induction levels with
  | zero => exact fun _ _ _ => rfl
  | succ levels inductionHypothesis =>
      intro items evaluator registered
      unfold evaluateWithin
      split
      · rfl
      · have inside : (dispatch (evaluateWithin levels) items evaluator.deeper).2 =
            evaluator.deeper :=
          dispatch_untouched inductionHypothesis
            (show evaluator.deeper.operators = operators from registered) only keeps items
        exact congrArg (fun after : Evaluator σ => { after with depth := after.depth - 1 }) inside

theorem evaluateExpression_untouching {operators : Operators σ} (only : operators.OnlyIfElse)
    (keeps : operators.EveryFunction Function.KeepsContext) :
    Untouching operators (evaluateExpression : Enter σ) :=
  fun items evaluator registered =>
    evaluateWithin_untouching only keeps _ items evaluator registered

theorem evaluate_untouched {evaluator : Evaluator σ} (only : evaluator.operators.OnlyIfElse)
    (keeps : evaluator.operators.EveryFunction Function.KeepsContext) (tree : Value) :
    (evaluate tree evaluator).2 = evaluator := by
  cases tree with
  | list items => exact evaluateExpression_untouching only keeps items evaluator rfl
  | _ => rfl

end Evaluator

/-! ## Interchangeable values -/

/-- Unless the first result is the limit error, the second one is the same. -/
def SameUnlessLimited (limit : Nat) (before after : Except EvalError α) : Prop :=
  before ≠ .error (.recursionLimitExceeded limit) → after = before

theorem SameUnlessLimited.bind {β : Type} {limit : Nat} {before after : Except EvalError α}
    (first : SameUnlessLimited limit before after)
    {next nextAfter : α → Except EvalError β}
    (rest : ∀ value, SameUnlessLimited limit (next value) (nextAfter value)) :
    SameUnlessLimited limit (before.bind next) (after.bind nextAfter) := by
  intro unlimited
  cases before with
  | error error =>
      rw [first fun limited => unlimited (by rw [limited]; rfl)]
      rfl
  | ok value =>
      rw [first fun limited => by cases limited]
      exact rest value unlimited

theorem SameUnlessLimited.map {β : Type} {limit : Nat} {before after : Except EvalError α}
    (same : SameUnlessLimited limit before after) (convert : α → β) :
    SameUnlessLimited limit (before.map convert) (after.map convert) := by
  intro unlimited
  rw [same fun limited => unlimited (by rw [limited]; rfl)]

/-- At every depth, the second value comes to the same as the first one when both are
arguments, unless the first one meets the limit. -/
def Interchangeable (operators : Operators σ) (limit : Nat) (context : σ)
    (before after : Value) : Prop :=
  ∀ depth, SameUnlessLimited limit
    (evaluateArgument evaluateExpression before (entered operators limit context depth)).1
    (evaluateArgument evaluateExpression after (entered operators limit context depth)).1

section Interchangeable

variable {operators : Operators σ} {limit : Nat} {context : σ}

theorem Interchangeable.refl (value : Value) :
    Interchangeable operators limit context value value :=
  fun _ _ => rfl

variable (only : operators.OnlyIfElse) (keeps : operators.EveryFunction Function.KeepsContext)
  {before after : List Value}
  (same : List.Forall₂ (Interchangeable operators limit context) before after)

include only keeps same

theorem evaluateArguments_interchanged (depth : Nat) :
    SameUnlessLimited limit
      (evaluateArguments evaluateExpression before (entered operators limit context depth)).1
      (evaluateArguments evaluateExpression after (entered operators limit context depth)).1 := by
  have untouching : Untouching operators evaluateExpression :=
    evaluateExpression_untouching only keeps
  induction same with
  | nil => exact fun _ => rfl
  | cons head tail inductionHypothesis =>
      simp only [evaluateArguments_cons_result untouching
        (rfl : (entered operators limit context depth).operators = operators)]
      exact (head depth).bind fun value => inductionHypothesis.map (value :: ·)

theorem applyFunction_interchanged (handler : Function σ) (depth : Nat) :
    SameUnlessLimited limit
      (applyFunction evaluateExpression handler before
        (entered operators limit context depth)).1
      (applyFunction evaluateExpression handler after
        (entered operators limit context depth)).1 := by
  have untouching : Untouching operators evaluateExpression :=
    evaluateExpression_untouching only keeps
  simp only [applyFunction_result untouching
    (rfl : (entered operators limit context depth).operators = operators)]
  exact (evaluateArguments_interchanged only keeps same depth).bind fun _ _ => rfl

omit only keeps same in
/-- Lists are interchangeable if their dispatches are. -/
theorem Interchangeable.of_dispatch {before after : List Value}
    (dispatches : ∀ depth, SameUnlessLimited limit
      (dispatch evaluateExpression before (entered operators limit context depth)).1
      (dispatch evaluateExpression after (entered operators limit context depth)).1) :
    Interchangeable operators limit context (.list before) (.list after) := by
  intro depth unlimited
  have level : ∀ items, (evaluateArgument evaluateExpression (.list items)
      (entered operators limit context depth)).1 =
      if limit ≤ depth then .error (.recursionLimitExceeded limit)
      else (dispatch evaluateExpression items
        (entered operators limit context (depth + 1))).1 := by
    intro items
    rw [evaluateArgument]
    split
    · rename_i full
      rw [evaluateExpression_of_limit_le full]
      rfl
    · rename_i room
      rw [evaluateExpression_of_depth_lt (Nat.lt_of_not_le room)]
      rfl
  rw [level] at unlimited ⊢
  rw [level]
  split
  · rename_i full
    exact absurd (if_pos full) unlimited
  · rename_i room
    rw [if_neg room] at unlimited
    exact dispatches (depth + 1) unlimited

/-- A call of anything but a macro. -/
theorem Interchangeable.call {name : String}
    (noMacro : ∀ handler, operators.resolve? name ≠ some (.expander handler)) :
    Interchangeable operators limit context
      (.list (.string name :: before)) (.list (.string name :: after)) := by
  apply Interchangeable.of_dispatch
  intro depth
  cases found : (entered operators limit context depth).operators.resolve? name with
  | none => simp only [dispatch_unsupported _ _ _ found]; exact fun _ => rfl
  | some operator =>
      cases operator with
      | expander handler => exact absurd found (noMacro handler)
      | function handler =>
          simp only [dispatch_function _ _ _ found]
          exact applyFunction_interchanged only keeps same handler depth

omit only keeps in
theorem interchangeable_argument (index : Nat) :
    Interchangeable operators limit context
      (Value.argument before index) (Value.argument after index) := by
  induction same generalizing index with
  | nil => exact .refl _
  | cons head tail inductionHypothesis =>
      cases index with
      | zero => exact head
      | succ index => exact inductionHypothesis index

/-- A conditional: its condition and its branches are arguments of calls. -/
theorem Interchangeable.conditional
    (builtIn : operators.resolve? "if-else" = some (.expander Builtin.ifElse)) :
    Interchangeable operators limit context
      (.list (.string "if-else" :: before)) (.list (.string "if-else" :: after)) := by
  have untouching : Untouching operators evaluateExpression :=
    evaluateExpression_untouching only keeps
  have inside : ∀ {called : String}, called ≠ "if-else" → ∀ index,
      Interchangeable operators limit context
        (.list [.string called, Value.argument before index])
        (.list [.string called, Value.argument after index]) := by
    intro called other index
    apply Interchangeable.call only keeps (.cons (interchangeable_argument same index) .nil)
    exact fun handler found => other (only called handler found).1
  apply Interchangeable.of_dispatch
  intro depth
  have found : (entered operators limit context depth).operators.resolve? "if-else" =
      some (.expander Builtin.ifElse) := builtIn
  simp only [dispatch_expander _ _ _ found, applyMacro_ifElse_pure untouching
    (rfl : (entered operators limit context depth).operators = operators)]
  exact SameUnlessLimited.bind (inside (by decide) 0 depth)
    fun answer => inside (by decide) (chosenPosition answer) depth

/-- Lists of interchangeable values behind one head are interchangeable. -/
theorem Interchangeable.list (head : Value) :
    Interchangeable operators limit context (.list (head :: before)) (.list (head :: after)) := by
  cases head with
  | string name =>
      by_cases expands : ∃ handler, operators.resolve? name = some (.expander handler)
      · obtain ⟨handler, found⟩ := expands
        obtain ⟨rfl, rfl⟩ := only name handler found
        exact .conditional only keeps same found
      · exact .call only keeps same (not_exists.mp expands)
  | _ => exact .of_dispatch fun _ _ => rfl

end Interchangeable

/-! ## Folding -/

/-- In the elements of a list, an expression that is reached through positions behind the
heads is replaced by a value. -/
inductive Replaced (expression value : Value) : List Value → List Value → Prop where
  | argument {outer : List Value} {position : Nat}
      (behindHead : 1 ≤ position)
      (found : outer[position]? = some expression) :
      Replaced expression value outer (outer.set position value)
  | inside {outer inner changed : List Value} {position : Nat}
      (behindHead : 1 ≤ position)
      (found : outer[position]? = some (.list inner))
      (replaced : Replaced expression value inner changed) :
      Replaced expression value outer (outer.set position (.list changed))

section Folding

variable {operators : Operators σ} {limit : Nat} {context : σ}

theorem interchangeable_set {before after : Value}
    (same : Interchangeable operators limit context before after)
    {arguments : List Value} {index : Nat} (found : arguments[index]? = some before) :
    List.Forall₂ (Interchangeable operators limit context) arguments
      (arguments.set index after) := by
  induction arguments generalizing index with
  | nil => cases found
  | cons argument arguments inductionHypothesis =>
      cases index with
      | zero =>
          obtain rfl := Option.some.inj found
          exact .cons same (List.forall₂_same.mpr fun value _ => .refl value)
      | succ index => exact .cons (.refl argument) (inductionHypothesis found)

variable (only : operators.OnlyIfElse)
include only

/-- At every depth, a list comes to what it comes to by itself, or to the limit error. -/
theorem interchangeable_of_list {items : List Value} {value : Value}
    (constant : value.items? = none)
    (evaluated : (evaluate (.list items) (fresh operators limit context)).1 = .ok value) :
    Interchangeable operators limit context (.list items) value := by
  intro depth unlimited
  obtain ⟨height, bounded, derivation⟩ | limited :=
    levelDerived (entered operators limit context depth) (only.macrosPassErrors _) items context
  · -- The levels that are left at this depth are also left at the root.
    have fromRoot := derivation.evaluates (fresh operators limit context) rfl
      (Nat.le_trans bounded (Nat.sub_le_sub_left (Nat.zero_le depth) limit))
    have atRoot := congrArg Prod.fst fromRoot
    have result : (evaluateExpression items (entered operators limit context depth)).1 =
        .ok value := atRoot.symm.trans evaluated
    rw [evaluateArgument_literal constant]
    exact result.symm
  · exact absurd limited unlimited

/-- What is no list does not evaluate to a value by itself. -/
theorem interchangeable_of_evaluate {expression value : Value} (constant : value.items? = none)
    (evaluated : (evaluate expression (fresh operators limit context)).1 = .ok value) :
    Interchangeable operators limit context expression value := by
  cases expression with
  | list items => exact interchangeable_of_list only constant evaluated
  | _ => cases evaluated

variable (keeps : operators.EveryFunction Function.KeepsContext)
include keeps

/-- A value behind the head can be replaced by one that is interchangeable with it. -/
theorem Interchangeable.set {outer : List Value} {position : Nat} {before after : Value}
    (behindHead : 1 ≤ position) (found : outer[position]? = some before)
    (same : Interchangeable operators limit context before after) :
    Interchangeable operators limit context (.list outer) (.list (outer.set position after)) := by
  obtain ⟨index, rfl⟩ := Nat.exists_eq_add_of_le' behindHead
  cases outer with
  | nil => cases found
  | cons head arguments =>
      have behind : arguments[index]? = some before := List.getElem?_cons_succ.symm.trans found
      exact Interchangeable.list only keeps (interchangeable_set same behind) head

theorem Replaced.interchangeable {expression value : Value}
    (same : Interchangeable operators limit context expression value)
    {outer changed : List Value} (replaced : Replaced expression value outer changed) :
    Interchangeable operators limit context (.list outer) (.list changed) := by
  induction replaced with
  | argument behindHead found => exact .set only keeps behindHead found same
  | inside behindHead found _ inductionHypothesis =>
      exact .set only keeps behindHead found inductionHypothesis

end Folding

/-- **Constants can be folded.**

An evaluation under the operators of the command line leaves the bindings, and all else
of the evaluator, as they were, whatever it comes to. If an expression in a tree, reached
through positions behind the heads, evaluates by itself to a value that is no list, then
the tree with this value in its place evaluates to the same value or the same error as
the tree, unless the tree meets the limit. -/
theorem constant_folding_sound (bindings : CommandLine.Bindings) (limit : Nat) :
    let start := fresh CommandLine.operators limit bindings
    (∀ tree, (evaluate tree start).2 = start) ∧
      ∀ {expression value : Value} {outer changed : List Value},
        Replaced expression value outer changed →
        (evaluate expression start).1 = .ok value →
        value.items? = none →
        (evaluate (.list outer) start).1 ≠ .error (.recursionLimitExceeded limit) →
        (evaluate (.list changed) start).1 = (evaluate (.list outer) start).1 := by
  intro start
  have only := CommandLine.operators_onlyIfElse
  have keeps := CommandLine.operators_keepsContext
  refine ⟨evaluate_untouched only keeps, ?_⟩
  intro expression value outer changed replaced evaluated constant unlimited
  have same : Interchangeable CommandLine.operators limit bindings expression value :=
    interchangeable_of_evaluate only constant evaluated
  exact replaced.interchangeable only keeps same 0 unlimited

/-- In `["if-else", ["identity", ["var", "x"]], "set", "unset"]`, the variable stands two
levels below the condition. -/
theorem constant_folding_in_condition :
    let start := fresh CommandLine.operators 4 (.insert .empty "x" (.boolean true))
    let read : Value := .list [.string "var", .string "x"]
    let conditional := fun condition : Value =>
      [.string "if-else", .list [.string "identity", condition], .string "set", .string "unset"]
    Replaced read (.boolean true) (conditional read) (conditional (.boolean true)) ∧
      (evaluate read start).1 = .ok (.boolean true) ∧
      (evaluate (.list (conditional read)) start).1 = .ok (.string "set") ∧
      (evaluate (.list (conditional (.boolean true))) start).1 =
        (evaluate (.list (conditional read)) start).1 := by
  intro start read conditional
  have replaced :
      Replaced read (.boolean true) (conditional read) (conditional (.boolean true)) := by
    have inner : Replaced read (.boolean true) [.string "identity", read]
        [.string "identity", .boolean true] :=
      .argument (Nat.le_refl 1) rfl
    exact .inside (Nat.le_refl 1) rfl inner
  have evaluated : (evaluate read start).1 = .ok (.boolean true) := rfl
  have whole : (evaluate (.list (conditional read)) start).1 = .ok (.string "set") := rfl
  refine ⟨replaced, evaluated, whole, ?_⟩
  apply (constant_folding_sound (.insert .empty "x" (.boolean true)) 4).2 replaced evaluated rfl
  intro limited
  cases whole.symm.trans limited

end RuleTree
