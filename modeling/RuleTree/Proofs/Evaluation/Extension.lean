import RuleTree.Proofs.Evaluation.Conditional
import RuleTree.Proofs.Evaluation.Provenance
import RuleTree.Proofs.Registry.Table

/-!
Contract: evaluations under two registries.

A registry can be exchanged for another one where the handlers cannot tell the difference:
names resolve alike, and the queries that handlers put have the same answers. A name that
only the new registry knows makes no difference either, as an evaluation that comes to it
under the old one ends in the error for an unsupported operator
(`ReplaceableBy.evaluate_agreeUnless`). So an evaluation that ends in anything else does not
see a new name, and no evaluation sees a function behind a macro (`extension_conservative`).

Owns: exchanging the registry of an evaluator, and adding one operator to a registry.
Does not own: registries that are built in several ways (`Registry.Construction`).
-/

namespace RuleTree

variable {σ : Type}

open Evaluator

/-! ## Exchanging the registry -/

/-- The evaluator over another registry. -/
def Evaluator.withOperators (evaluator : Evaluator σ) (operators : Operators σ) : Evaluator σ :=
  { evaluator with operators := operators }

@[simp] theorem Evaluator.withOperators_limit (evaluator : Evaluator σ) (operators : Operators σ) :
    (evaluator.withOperators operators).limit = evaluator.limit := rfl

@[simp] theorem Evaluator.withOperators_depth (evaluator : Evaluator σ) (operators : Operators σ) :
    (evaluator.withOperators operators).depth = evaluator.depth := rfl

/-- One evaluator over two registries. -/
def Evaluator.Over (operators other : Operators σ) (left right : Evaluator σ) : Prop :=
  left.operators = operators ∧ right = left.withOperators other

theorem Evaluator.Over.refl {evaluator : Evaluator σ} {operators other : Operators σ}
    (registered : evaluator.operators = operators) :
    Over operators other evaluator (evaluator.withOperators other) :=
  ⟨registered, rfl⟩

/-- The other registry knows the same operators, or more where the error for an unsupported
one is fatal, and the handlers of this one cannot tell the two from each other. -/
structure Operators.ReplaceableBy
    (fatal : EvalError → Prop)
    (permitted : Query → Prop)
    (operators other : Operators σ) : Prop where
  resolve? : ∀ name, operators.resolve? name = other.resolve? name ∨
    (operators.resolve? name = none ∧ fatal (.unsupportedOperator name))
  answer : ∀ query, permitted query → ∀ evaluator : Evaluator σ,
    evaluator.operators = operators →
      evaluator.answer query = (evaluator.withOperators other).answer query
  asksOnly : operators.MacrosAskOnly permitted
  letThrough : operators.MacrosLetThrough fatal

namespace Operators.ReplaceableBy

variable {fatal : EvalError → Prop} {permitted : Query → Prop} {operators other : Operators σ}
  (replaceable : operators.ReplaceableBy fatal permitted other)
include replaceable

theorem lockstep : LockstepUnless fatal permitted (Over operators other) where
  context := by
    rintro left right ⟨-, rfl⟩
    rfl
  withContext := by
    rintro left right ⟨registered, rfl⟩ context
    exact ⟨registered, rfl⟩
  answer := by
    rintro left right ⟨registered, rfl⟩ query isPermitted
    exact replaceable.answer query isPermitted left registered
  resolve? := by
    rintro left right ⟨rfl, rfl⟩ name
    exact replaceable.resolve? name
  asksOnly := by
    rintro left right ⟨rfl, -⟩
    exact replaceable.asksOnly
  letThrough := by
    rintro left right ⟨rfl, -⟩
    exact replaceable.letThrough

theorem evaluateWithin_agreeUnless (levels : Nat) :
    EntersAlikeUnless fatal (Over operators other) (evaluateWithin levels)
      (evaluateWithin levels) := by
  induction levels with
  | zero =>
      rintro items left right ⟨registered, rfl⟩
      exact .inr ⟨rfl, .refl registered⟩
  | succ levels inductionHypothesis =>
      rintro items left right ⟨registered, rfl⟩
      have deeper : Over operators other left.deeper (left.deeper.withOperators other) :=
        .refl registered
      by_cases full : left.limit ≤ left.depth
      · simp only [evaluateWithin, withOperators_limit, withOperators_depth, full, if_true]
        exact .inr ⟨rfl, .refl registered⟩
      · simp only [evaluateWithin, withOperators_limit, withOperators_depth, full, if_false]
        have dispatched :=
          dispatch_agreeUnless replaceable.lockstep inductionHypothesis items deeper
        refine dispatched.imp_right ?_
        rintro ⟨sameResult, sameOperators, after⟩
        exact ⟨sameResult, sameOperators, congrArg
          (fun after : Evaluator σ => { after with depth := after.depth - 1 }) after⟩

theorem evaluateExpression_agreeUnless :
    EntersAlikeUnless fatal (Over operators other) evaluateExpression evaluateExpression := by
  rintro items left right ⟨registered, rfl⟩
  exact replaceable.evaluateWithin_agreeUnless _ items (.refl registered)

/-- Under the other registry an evaluation comes to the same, unless it ends in a fatal
error under this one. -/
theorem evaluate_agreeUnless (tree : Value) {evaluator : Evaluator σ}
    (registered : evaluator.operators = operators) :
    AgreeUnless fatal (Over operators other) (evaluate tree evaluator)
      (evaluate tree (evaluator.withOperators other)) :=
  enterTree_agreeUnless replaceable.evaluateExpression_agreeUnless tree (.refl registered)

theorem evaluate_eq {tree : Value} {evaluator : Evaluator σ}
    (registered : evaluator.operators = operators)
    (harmless : ∀ error, fatal error → (evaluate tree evaluator).1 ≠ .error error) :
    evaluate tree (evaluator.withOperators other) =
      ((evaluate tree evaluator).1, (evaluate tree evaluator).2.withOperators other) := by
  obtain ⟨error, isFatal, failed⟩ | ⟨sameResult, -, sameEvaluator⟩ :=
    replaceable.evaluate_agreeUnless tree registered
  · exact absurd failed (harmless error isFatal)
  · exact Prod.ext sameResult.symm sameEvaluator

end Operators.ReplaceableBy

/-! ## Adding an operator -/

namespace Operators

/-- Register an operator, replacing any of that name and kind. -/
def define (operators : Operators σ) (name : String) : Operator σ → Operators σ
  | .function handler => operators.insertFunction name handler
  | .expander handler => operators.insertMacro name handler

theorem resolve?_define_of_ne (operators : Operators σ) {name other : String}
    (different : name ≠ other) (operator : Operator σ) :
    (operators.define name operator).resolve? other = operators.resolve? other := by
  cases operator with
  | function handler => exact resolve?_insertFunction_of_ne operators different handler
  | expander handler =>
      rw [define, resolve?_insertMacro, if_neg different]

/-- The answers to all queries but the one for the names of the functions depend on what
names resolve to. -/
theorem answer_of_resolve? {operators other : Operators σ}
    (same : ∀ name, operators.resolve? name = other.resolve? name)
    {query : Query} (notNames : query ≠ .allowedOperators)
    {evaluator : Evaluator σ} (registered : evaluator.operators = operators) :
    evaluator.answer query = (evaluator.withOperators other).answer query := by
  subst registered
  cases query with
  | limit => rfl
  | allowedOperators => exact absurd rfl notNames
  | supports name =>
      show evaluator.operators.contains name = other.contains name
      rw [contains_eq_isSome_resolve?, contains_eq_isSome_resolve?, same]
  | isMacro name =>
      show evaluator.operators.isMacro name = other.isMacro name
      rw [Bool.eq_iff_iff, isMacro_iff_resolve?, isMacro_iff_resolve?, same]

/-- A name that the registry does not know can be defined, where no macro goes on after the
error for it. -/
theorem replaceableBy_define {operators : Operators σ} {name : String}
    (unsupported : operators.contains name = false)
    (letThrough : operators.MacrosLetThrough (· = .unsupportedOperator name))
    (asksOnly : operators.MacrosAskOnly (· = .limit)) (operator : Operator σ) :
    operators.ReplaceableBy (· = .unsupportedOperator name) (· = .limit)
      (operators.define name operator) where
  resolve? := by
    intro other
    by_cases same : name = other
    · subst same
      rw [contains_eq_isSome_resolve?, Option.isSome_eq_false_iff, Option.isNone_iff_eq_none]
        at unsupported
      exact .inr ⟨unsupported, rfl⟩
    · exact .inl (resolve?_define_of_ne operators same operator).symm
  answer := by
    rintro query rfl evaluator -
    rfl
  asksOnly := asksOnly
  letThrough := letThrough

/-- A function under the name of a macro is out of reach. -/
theorem replaceableBy_insertFunction {operators : Operators σ} {name : String}
    (shadowed : operators.isMacro name = true)
    (asksOnly : operators.MacrosAskOnly (· ≠ .allowedOperators)) (handler : Function σ) :
    operators.ReplaceableBy (fun _ => False) (· ≠ .allowedOperators)
      (operators.insertFunction name handler) where
  resolve? := fun other => .inl (resolve?_insertFunction_of_isMacro shadowed handler other).symm
  answer := fun _ notNames _ registered =>
    answer_of_resolve?
      (fun other => (resolve?_insertFunction_of_isMacro shadowed handler other).symm) notNames
      registered
  asksOnly := asksOnly
  letThrough := fun _ _ _ _ => MacroProgram.letsThrough_false _

theorem mem_functionNames_insertFunction (operators : Operators σ) (name : String)
    (handler : Function σ) : name ∈ (operators.insertFunction name handler).functionNames := by
  rw [functionNames, Table.mem_sortedNames_iff, insertFunction, Table.find?_insert, if_pos rfl]
  rfl

end Operators

/-- **Extending a registry is conservative.**

An evaluation in any evaluator that does not end in the error for an unsupported name comes
to the same, context included, when that name is defined, as a function or as a macro. This
holds where no macro of the registry asks about the registry or goes on after that error; it
may do so after other errors.

A function that is put under the name of a macro, or that replaces one there, changes no
evaluation at all, unless a macro asks for the names of the functions, as the name is then
one of them. -/
theorem extension_conservative (evaluator : Evaluator σ) (name : String) (tree : Value) :
    let operators := evaluator.operators
    let outcome := evaluate tree evaluator
    (operators.contains name = false →
      operators.MacrosLetThrough (· = .unsupportedOperator name) →
      operators.MacrosAskOnly (· = .limit) →
      outcome.1 ≠ .error (.unsupportedOperator name) →
      ∀ operator : Operator σ,
        let extended := operators.define name operator
        evaluate tree (evaluator.withOperators extended) =
          (outcome.1, outcome.2.withOperators extended)) ∧
    (operators.isMacro name = true →
      operators.MacrosAskOnly (· ≠ .allowedOperators) →
      ∀ handler : Function σ,
        let extended := operators.insertFunction name handler
        evaluate tree (evaluator.withOperators extended) =
            (outcome.1, outcome.2.withOperators extended) ∧
          name ∈ (evaluator.withOperators extended).allowedOperators) := by
  intro operators outcome
  refine ⟨?_, ?_⟩
  · intro unsupported letThrough asksOnly elsewhere operator
    have replaceable := Operators.replaceableBy_define unsupported letThrough asksOnly operator
    apply replaceable.evaluate_eq rfl
    rintro error rfl
    exact elsewhere
  · intro shadowed asksOnly handler
    have replaceable := Operators.replaceableBy_insertFunction shadowed asksOnly handler
    refine ⟨replaceable.evaluate_eq rfl fun _ => False.elim, ?_⟩
    exact Operators.mem_functionNames_insertFunction operators name handler

/-- In `["if-else", true, ["identity", "new"], ["new"]]` the name stands as data and in a
branch that is not chosen, so a macro of that name that expands to itself does no harm, nor
does a function in the place of `if-else`. -/
theorem extension_unseen :
    let start := fresh keepingOperators 8 []
    let tree := Value.list [.string "if-else", .boolean true,
      .list [.string "identity", .string "new"], .list [.string "new"]]
    let looping := keepingOperators.define "new" (.expander fun _ => .finish (.ok [.string "new"]))
    let failing := keepingOperators.insertFunction "if-else"
      fun _ kept => (.error (.handler "not reached"), kept)
    keepingOperators.contains "new" = false ∧
      keepingOperators.MacrosLetThrough (· = .unsupportedOperator "new") ∧
      keepingOperators.MacrosAskOnly (· = .limit) ∧
      (evaluate tree start).1 ≠ .error (.unsupportedOperator "new") ∧
      evaluate tree (start.withOperators looping) =
        (.ok (.string "new"), fresh looping 8 [.string "new", .string "new"]) ∧
      keepingOperators.isMacro "if-else" = true ∧
      keepingOperators.MacrosAskOnly (· ≠ .allowedOperators) ∧
      evaluate tree (start.withOperators failing) =
        (.ok (.string "new"), fresh failing 8 [.string "new", .string "new"]) ∧
      "if-else" ∈ (start.withOperators failing).allowedOperators := by
  intro start tree looping failing
  have only : keepingOperators.OnlyIfElse :=
    Operators.builtin_onlyIfElse.insertFunction "identity" _
  have letThrough : keepingOperators.MacrosLetThrough (· = .unsupportedOperator "new") :=
    (only.macrosPassErrors fun _ => True).letThrough _
  have asksOnlyLimit : keepingOperators.MacrosAskOnly (· = .limit) :=
    (only.macrosPassErrors _).asksOnly
  have asksNoNames : keepingOperators.MacrosAskOnly (· ≠ .allowedOperators) :=
    (only.macrosPassErrors _).asksOnly
  have elsewhere : (evaluate tree start).1 ≠ .error (.unsupportedOperator "new") := by
    intro failed
    cases failed
  have defined := (extension_conservative start "new" tree).1 rfl letThrough asksOnlyLimit
    elsewhere (.expander fun _ => .finish (.ok [.string "new"]))
  have shadowed := (extension_conservative start "if-else" tree).2 rfl asksNoNames
    fun _ kept => (.error (.handler "not reached"), kept)
  exact ⟨rfl, letThrough, asksOnlyLimit, elsewhere, defined, rfl, asksNoNames, shadowed⟩

end RuleTree
