import RuleTree.Proofs.Evaluation.Conditional
import RuleTree.Proofs.Evaluation.Function
import RuleTree.Proofs.Evaluation.Provenance

/-!
Contract: which values an evaluation can come to.

Where `if-else` is the only macro, a value comes from the literals of the tree or from a
function. So a property that null and those literals have, and that every function hands
on from its arguments to its result, holds of the result (`evaluate_keeps`). Functions may
read and change the context, so a property of contexts goes along with it.

Owns: properties that functions hand on. Does not own: what is run as code
(`Evaluation.Provenance`).
-/

namespace RuleTree

variable {σ α : Type}

open Evaluator

/-- On kept arguments and in an allowed context, the function answers with a kept value, if
with any, and leaves an allowed context. -/
def Function.Keeps (kept : Value → Prop) (allowed : σ → Prop) (handler : Function σ) : Prop :=
  ∀ arguments context, (∀ argument ∈ arguments, kept argument) → allowed context →
    (∀ value, (handler arguments context).1 = .ok value → kept value) ∧
      allowed (handler arguments context).2

/-- The literals that can be arguments in the tree are kept. -/
def Value.LiteralsKept (kept : Value → Prop) (tree : Value) : Prop :=
  ∀ items, Subexpression tree items → ∀ position value, 1 ≤ position →
    items[position]? = some value → value.items? = none → kept value

/-- The evaluator is over the registry and in an allowed context. -/
def Evaluator.Ready (operators : Operators σ) (allowed : σ → Prop)
    (evaluator : Evaluator σ) : Prop :=
  evaluator.operators = operators ∧ allowed evaluator.context

/-- The result, if there is one, is good, and the evaluator is ready for more. -/
def ComesTo (operators : Operators σ) (allowed : σ → Prop) (good : α → Prop)
    (outcome : Outcome σ α) : Prop :=
  (∀ result, outcome.1 = .ok result → good result) ∧ outcome.2.Ready operators allowed

section Keeps

variable {operators : Operators σ} {allowed : σ → Prop} {kept : Value → Prop}

theorem comesTo_error {good : α → Prop} {error : EvalError} {evaluator : Evaluator σ}
    (ready : evaluator.Ready operators allowed) :
    ComesTo operators allowed good ((.error error, evaluator) : Outcome σ α) :=
  ⟨nofun, ready⟩

theorem comesTo_ok {good : α → Prop} {result : α} {evaluator : Evaluator σ}
    (isGood : good result) (ready : evaluator.Ready operators allowed) :
    ComesTo operators allowed good ((.ok result, evaluator) : Outcome σ α) :=
  ⟨fun _ same => Except.ok.inj same ▸ isGood, ready⟩

/-! ## Calls -/

section Call

variable {enter : Enter σ} {arguments : List Value}
  (each : ∀ argument ∈ arguments, ∀ evaluator : Evaluator σ, evaluator.Ready operators allowed →
    ComesTo operators allowed kept (evaluateArgument enter argument evaluator))
  {evaluator : Evaluator σ} (ready : evaluator.Ready operators allowed)
include each ready

/-- Arguments that each come to a kept value come to kept values together. -/
theorem evaluateArguments_comesTo :
    ComesTo operators allowed (fun values => ∀ value ∈ values, kept value)
      (evaluateArguments enter arguments evaluator) := by
  induction arguments generalizing evaluator with
  | nil => exact comesTo_ok nofun ready
  | cons argument arguments inductionHypothesis =>
      have head := each argument List.mem_cons_self evaluator ready
      rw [evaluateArguments]
      generalize evaluateArgument enter argument evaluator = outcome at head ⊢
      obtain ⟨result, next⟩ := outcome
      obtain ⟨headKept, readyNext⟩ := head
      cases result with
      | error error => exact comesTo_error readyNext
      | ok value =>
          have others := inductionHypothesis
            (fun other member => each other (List.mem_cons_of_mem _ member)) readyNext
          dsimp only
          generalize evaluateArguments enter arguments next = outcomes at others ⊢
          obtain ⟨results, last⟩ := outcomes
          obtain ⟨othersKept, readyLast⟩ := others
          cases results with
          | error error => exact comesTo_error readyLast
          | ok values =>
              refine comesTo_ok (List.forall_mem_cons.mpr ⟨headKept value rfl, ?_⟩) readyLast
              exact othersKept values rfl

theorem applyFunction_comesTo {handler : Function σ} (keeps : handler.Keeps kept allowed) :
    ComesTo operators allowed kept (applyFunction enter handler arguments evaluator) := by
  have evaluated := evaluateArguments_comesTo each ready
  rw [applyFunction]
  generalize evaluateArguments enter arguments evaluator = outcome at evaluated ⊢
  obtain ⟨results, next⟩ := outcome
  obtain ⟨argumentsKept, readyNext⟩ := evaluated
  cases results with
  | error error => exact comesTo_error readyNext
  | ok values =>
      obtain ⟨valueKept, allowedAfter⟩ :=
        keeps values next.context (argumentsKept values rfl) readyNext.2
      exact ⟨valueKept, readyNext.1, allowedAfter⟩

end Call

/-! ## Levels -/

section Level

variable {tree : Value} (only : operators.OnlyIfElse)
  (keeps : operators.EveryFunction (Function.Keeps kept allowed))
  (nullKept : kept .null) (literalsKept : tree.LiteralsKept kept)

/-- The evaluations of the next level come to kept values on the code of the tree. -/
def Evaluator.EntersKept (operators : Operators σ) (allowed : σ → Prop) (kept : Value → Prop)
    (tree : Value) (enter : Enter σ) : Prop :=
  ∀ items, Code tree items → ∀ evaluator : Evaluator σ, evaluator.Ready operators allowed →
    ComesTo operators allowed kept (enter items evaluator)

include nullKept literalsKept in
/-- A literal argument of code is one of the tree, or null where `if-else` lacks one. -/
theorem Code.literal_kept {name : String} {arguments : List Value}
    (code : Code tree (.string name :: arguments)) {argument : Value}
    (member : argument ∈ arguments) (literal : argument.items? = none) : kept argument := by
  have ofCall : ∀ {head others}, Subexpression tree (head :: others) →
      ∀ position, argument = Value.argument others position → kept argument := by
    intro head others within position same
    rw [Value.argument, List.getD_eq_getElem?_getD] at same
    cases found : others[position]? with
    | none =>
        rw [found] at same
        exact same ▸ nullKept
    | some other =>
        rw [found] at same
        obtain rfl : argument = other := same
        exact literalsKept _ within (position + 1) argument (Nat.le_add_left 1 position)
          (List.getElem?_cons_succ.trans found) literal
  cases code with
  | subexpression within =>
      obtain ⟨index, found⟩ := List.mem_iff_getElem?.mp member
      exact literalsKept _ within (index + 1) argument (Nat.le_add_left 1 index)
        (List.getElem?_cons_succ.trans found) literal
  | condition call => exact ofCall call 0 (List.mem_singleton.mp member)
  | branch call chosen => exact ofCall call _ (List.mem_singleton.mp member)

include only keeps nullKept literalsKept in
theorem dispatch_comesTo {enter : Enter σ} (enters : EntersKept operators allowed kept tree enter)
    {items : List Value} (code : Code tree items) {evaluator : Evaluator σ}
    (ready : evaluator.Ready operators allowed) :
    ComesTo operators allowed kept (dispatch enter items evaluator) := by
  cases items with
  | nil => exact comesTo_error ready
  | cons head arguments =>
      cases head with
      | string name =>
          cases found : evaluator.operators.resolve? name with
          | none =>
              rw [dispatch_unsupported _ _ _ found]
              exact comesTo_error ready
          | some operator =>
              cases operator with
              | function handler =>
                  rw [dispatch_function _ _ _ found]
                  rw [ready.1] at found
                  refine applyFunction_comesTo ?_ ready (keeps name handler found)
                  intro argument member evaluator ready
                  cases argument with
                  | list inner =>
                      exact enters inner (.subexpression (code.arguments_subexpression member))
                        evaluator ready
                  | _ => exact comesTo_ok (code.literal_kept nullKept literalsKept member rfl) ready
              | expander handler =>
                  rw [dispatch_expander _ _ _ found]
                  rw [ready.1] at found
                  obtain ⟨rfl, rfl⟩ := only name handler found
                  have call := code.ifElse_subexpression
                  rw [applyMacro_ifElse]
                  have condition := enters _ (.condition call) evaluator ready
                  generalize enter [.string "true?", Value.argument arguments 0] evaluator =
                    outcome at condition ⊢
                  obtain ⟨result, next⟩ := outcome
                  cases result with
                  | error error => exact comesTo_error condition.2
                  | ok answer =>
                      exact enters _ (.branch call (chosenPosition_eq_or answer)) next condition.2
      | _ => exact comesTo_error ready

include only keeps nullKept literalsKept in
/-- By induction on the levels that are left. -/
theorem evaluateWithin_entersKept (levels : Nat) :
    EntersKept operators allowed kept tree (evaluateWithin levels) := by
  induction levels with
  | zero => exact fun _ _ _ ready => comesTo_error ready
  | succ levels inductionHypothesis =>
      intro items code evaluator ready
      unfold evaluateWithin
      split
      · exact comesTo_error ready
      · have deeperReady : evaluator.deeper.Ready operators allowed := ready
        exact dispatch_comesTo only keeps nullKept literalsKept inductionHypothesis code deeperReady

include only keeps nullKept literalsKept in
/-- A tree comes to a kept value, if to any, and leaves an allowed context. -/
theorem evaluate_keeps {evaluator : Evaluator σ} (ready : evaluator.Ready operators allowed) :
    ComesTo operators allowed kept (evaluate tree evaluator) := by
  cases tree with
  | list items =>
      exact evaluateWithin_entersKept only keeps nullKept literalsKept _ items
        (.subexpression (.root rfl)) evaluator ready
  | _ => exact comesTo_error ready

end Level

end Keeps

/-! ## The built-in operators and `var` -/

section Operators

variable {kept : Value → Prop} (nullKept : kept .null)
  (booleansKept : ∀ value, kept (.boolean value))
include nullKept booleansKept

theorem Operators.builtin_keeps (allowed : σ → Prop) :
    (Operators.builtin : Operators σ).EveryFunction (Function.Keeps kept allowed) := by
  apply builtin_everyFunction
  · exact fun _ _ _ start => ⟨fun value same => Except.ok.inj same ▸ booleansKept _, start⟩
  · intro arguments context argumentsKept start
    refine ⟨fun value same => ?_, start⟩
    obtain rfl := Except.ok.inj same
    cases arguments with
    | nil => exact nullKept
    | cons argument others => exact argumentsKept argument List.mem_cons_self
  · exact fun _ _ _ start => ⟨fun value same => Except.ok.inj same ▸ booleansKept _, start⟩
  · intro arguments context _ start
    refine ⟨fun result same => ?_, (Builtin.wholeMatch_keepsContext arguments context).symm ▸ start⟩
    unfold Builtin.wholeMatch at same
    split at same
    · next value pattern _ =>
        cases matched : matchesPattern value pattern with
        | ok answer =>
            rw [matched] at same
            exact Except.ok.inj same ▸ booleansKept answer
        | error error =>
            rw [matched] at same
            cases same
    · cases same

/-- `var` hands on what is bound. -/
theorem CommandLine.operators_keeps {allowed : CommandLine.Bindings → Prop}
    (boundKept : ∀ bindings, allowed bindings →
      ∀ name value, bindings.find? name = some value → kept value) :
    CommandLine.operators.EveryFunction (Function.Keeps kept allowed) := by
  apply (Operators.builtin_keeps nullKept booleansKept allowed).insertFunction "var"
  intro arguments bindings _ start
  refine ⟨fun value same => ?_, start⟩
  obtain rfl := Except.ok.inj same
  cases found : (Value.argument arguments 0).string?.bind bindings.find? with
  | none => exact nullKept
  | some bound =>
      obtain ⟨name, -, under⟩ := Option.bind_eq_some_iff.mp found
      exact boundKept bindings start name bound under

end Operators

end RuleTree
