import RuleTree.Proofs.Evaluation.Failure
import RuleTree.Proofs.Evaluation.Result

/-!
Contract: where the outcome of an evaluation comes from.

Under the built-in operators a value is null, a boolean or a literal of the tree, and `var`
brings in what is bound; nothing makes up a value or takes one apart. Errors are those of the
evaluator, which are about the tree, and those of `matches`. Together, an evaluation brings
nothing into its outcome that was not in the tree or the bindings (`evaluate_from_input`).

Owns: what values and errors of the command line can be. Does not own: that properties are
handed on (`Evaluation.Result`, `Evaluation.Failure`).
-/

namespace RuleTree

variable {σ : Type}

open Evaluator

/-- The value is null, a boolean, a literal that stands behind a head in the tree, or one that
is bound. -/
inductive ValueFromInput (tree : Value) (bound : Value → Prop) : Value → Prop where
  | null : ValueFromInput tree bound .null
  | boolean (value : Bool) : ValueFromInput tree bound (.boolean value)
  | literal {items : List Value} {position : Nat} {value : Value}
      (within : Subexpression tree items)
      (behindHead : 1 ≤ position)
      (found : items[position]? = some value)
      (noList : value.items? = none) : ValueFromInput tree bound value
  | bound {value : Value} (isBound : bound value) : ValueFromInput tree bound value

/-- The error is about an expression of the tree, about the name that heads one, from
`matches`, or that of the limit. -/
inductive ErrorFromInput (operators : Operators σ) (limit : Nat) (tree : Value) :
    EvalError → Prop where
  | malformed (detail : String) : ErrorFromInput operators limit tree (.malformedExpression detail)
  | unsupported {name : String} {arguments : List Value}
      (within : Subexpression tree (.string name :: arguments))
      (unknown : operators.contains name = false) :
      ErrorFromInput operators limit tree (.unsupportedOperator name)
  | fromMatches {error : EvalError} (isMatchError : MatchError error) :
      ErrorFromInput operators limit tree error
  | limited : ErrorFromInput operators limit tree (.recursionLimitExceeded limit)

/-! ## Values -/

theorem literalsKept_fromInput (tree : Value) (bound : Value → Prop) :
    tree.LiteralsKept (ValueFromInput tree bound) :=
  fun _ within _ _ behindHead found noList => .literal within behindHead found noList

/-- Without bindings there is nowhere for a list to come from. -/
theorem ValueFromInput.noList {tree value : Value} {bound : Value → Prop}
    (unbound : ∀ value, ¬ bound value) (fromInput : ValueFromInput tree bound value) :
    value.items? = none := by
  cases fromInput with
  | null => rfl
  | boolean value => rfl
  | literal within behindHead found noList => exact noList
  | bound isBound => exact absurd isBound (unbound value)

/-! ## Outcomes -/

/-- The names that `if-else` puts before its arguments are registered, so one that is not
stands in the tree. -/
theorem Code.unsupported_subexpression {tree : Value} {name : String} {arguments : List Value}
    (code : Code tree (.string name :: arguments))
    (unknown : CommandLine.operators.resolve? name = none) :
    Subexpression tree (.string name :: arguments) := by
  cases code with
  | subexpression within => exact within
  | condition call => cases unknown
  | branch call chosen => cases unknown

section Outcomes

variable {tree : Value}

theorem evaluate_builtin_value {evaluator : Evaluator σ}
    (builtIn : evaluator.operators = Operators.builtin) {value : Value}
    (evaluated : (evaluate tree evaluator).1 = .ok value) :
    ValueFromInput tree (fun _ => False) value := by
  have keeps : (Operators.builtin : Operators σ).EveryFunction
      (Function.Keeps (ValueFromInput tree fun _ => False) fun _ => True) :=
    Operators.builtin_keeps .null .boolean _
  have comes := evaluate_keeps Operators.builtin_onlyIfElse keeps .null
    (literalsKept_fromInput tree _) ⟨builtIn, trivial⟩
  exact comes.1 value evaluated

variable {evaluator : Evaluator CommandLine.Bindings}
  (registered : evaluator.operators = CommandLine.operators)
include registered

theorem evaluate_value {value : Value} (evaluated : (evaluate tree evaluator).1 = .ok value) :
    ValueFromInput tree (fun bound => ∃ name, evaluator.context.find? name = some bound) value := by
  -- No operator changes the bindings, so all that is read comes from those at the start.
  have keeps : CommandLine.operators.EveryFunction
      (Function.Keeps
        (ValueFromInput tree fun bound => ∃ name, evaluator.context.find? name = some bound)
        (· = evaluator.context)) := by
    apply CommandLine.operators_keeps .null .boolean
    intro bindings same name value found
    exact .bound ⟨name, same ▸ found⟩
  have comes := evaluate_keeps CommandLine.operators_onlyIfElse keeps .null
    (literalsKept_fromInput tree _) ⟨registered, rfl⟩
  exact comes.1 value evaluated

theorem evaluate_error :
    FailsOnly (ErrorFromInput CommandLine.operators evaluator.limit tree)
      (evaluate tree evaluator) := by
  have functions : CommandLine.operators.EveryFunction
      (Function.RaisesOnly (ErrorFromInput CommandLine.operators evaluator.limit tree)) :=
    fun name handler found arguments context error failed => .fromMatches
      (CommandLine.operators_raisesOnly name handler found arguments context error failed)
  apply evaluate_failsOnly CommandLine.operators_onlyIfElse functions .malformed _ .limited
    registered rfl
  intro name arguments code unknown
  refine .unsupported (code.unsupported_subexpression unknown) ?_
  rw [Operators.contains_eq_isSome_resolve?, unknown]
  rfl

end Outcomes

/-- **Outcomes come from the input.**

Under the operators of the command line, a tree that evaluates to a value evaluates to null, a
boolean, one of its literals behind a head, or a value that is bound, as it stands. An error is
about an expression that is none, a name that heads a list of the tree and is not registered,
or the limit, or comes from `matches`. Under the built-in operators alone, where nothing is
bound, no value is a list. -/
theorem evaluate_from_input (tree : Value) (limit : Nat) :
    (∀ bindings : CommandLine.Bindings,
      match (evaluate tree (fresh CommandLine.operators limit bindings)).1 with
      | .ok value =>
        ValueFromInput tree (fun bound => ∃ name, bindings.find? name = some bound) value
      | .error error => ErrorFromInput CommandLine.operators limit tree error) ∧
    ∀ {σ : Type} (context : σ) (value : Value),
      (evaluate tree (fresh Operators.builtin limit context)).1 = .ok value →
        ValueFromInput tree (fun _ => False) value ∧ value.items? = none := by
  constructor
  · intro bindings
    split
    · next value evaluated => exact evaluate_value rfl evaluated
    · next error failed => exact evaluate_error rfl error failed
  · intro σ context value evaluated
    have fromInput : ValueFromInput tree (fun _ => False) value :=
      evaluate_builtin_value rfl evaluated
    exact ⟨fromInput, fromInput.noList fun _ => id⟩

/-- The list that is bound is the value of a conditional, as it stands; a condition of one
argument too few fails in `matches`; and without `var` the branch that is not chosen does no
harm. -/
theorem evaluate_from_input_conditional :
    let tree := fun condition : Value => Value.list
      [.string "if-else", condition, .list [.string "var", .string "pair"], .string "none"]
    let half := Value.list [.string "matches", .string "a"]
    let pair := Value.list [.null, .list []]
    let start := fresh CommandLine.operators 8 (.insert .empty "pair" pair)
    (evaluate (tree (.boolean true)) start).1 = .ok pair ∧
      ValueFromInput (tree (.boolean true))
        (fun bound => ∃ name, start.context.find? name = some bound) pair ∧
      (evaluate (tree half) start).1 = .error (.wrongCount "matches" 2 1) ∧
      ErrorFromInput CommandLine.operators 8 (tree half) (.wrongCount "matches" 2 1) ∧
      (evaluate (tree .null) (fresh Operators.builtin 8 ())).1 = .ok (.string "none") ∧
      ValueFromInput (tree .null) (fun _ => False) (.string "none") := by
  intro tree half pair start
  have bound := (evaluate_from_input (tree (.boolean true)) 8).1 start.context
  have failed := (evaluate_from_input (tree half) 8).1 start.context
  have unbound := (evaluate_from_input (tree .null) 8).2 () (.string "none") rfl
  exact ⟨rfl, bound, rfl, failed, rfl, unbound.1⟩

end RuleTree
