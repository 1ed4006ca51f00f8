import RuleTree.CommandLine.Bindings
import RuleTree.Proofs.Evaluation.Handler
import RuleTree.Proofs.Evaluation.History

/-!
Contract: which lists are ever run as code.

Lists are both data and code. Where `if-else` is the only macro, code comes from the
tree alone: what is dispatched is a subexpression of the tree, or one of the two
expressions that `if-else` makes of its own arguments (`observe_dispatches_code`).
Nothing that a function returns or the context holds is dispatched.

Owns: registries without other macros, the subexpressions of a tree, and its code.
Does not own: registries with macros of a host, which may run anything.
-/

namespace RuleTree

variable {σ : Type}

open Evaluator

/-! ## Registries without other macros -/

/-- The built-in `if-else` is the only macro, if there is any. -/
def Operators.OnlyIfElse (operators : Operators σ) : Prop :=
  ∀ name handler, operators.resolve? name = some (.expander handler) →
    name = "if-else" ∧ handler = Builtin.ifElse

theorem Operators.builtin_onlyIfElse : (Operators.builtin : Operators σ).OnlyIfElse := by
  intro name handler resolved
  rw [resolve?_eq_expander_iff, find?_macros_builtin] at resolved
  split at resolved
  · rename_i same
    exact ⟨same.symm, Option.some.inj resolved.symm⟩
  · cases resolved

/-- Functions are registered beside the macros, under whatever name. -/
theorem Operators.OnlyIfElse.insertFunction {operators : Operators σ}
    (only : operators.OnlyIfElse) (name : String) (handler : Function σ) :
    (operators.insertFunction name handler).OnlyIfElse := by
  intro other found resolved
  rw [resolve?_eq_expander_iff] at resolved
  exact only other found (resolve?_eq_expander_iff.mpr resolved)

theorem Operators.OnlyIfElse.macrosPassErrors {operators : Operators σ}
    (only : operators.OnlyIfElse) (permitted : Query → Prop) :
    operators.MacrosPassErrors permitted := by
  intro name handler found arguments
  obtain ⟨-, rfl⟩ := only name handler found
  exact Builtin.ifElse_passesErrors permitted arguments

theorem CommandLine.operators_onlyIfElse : CommandLine.operators.OnlyIfElse :=
  Operators.builtin_onlyIfElse.insertFunction "var" varFunction

/-! ## The code of a tree -/

/-- The elements of a list in the tree that is reached from the root through positions
behind the head. -/
inductive Subexpression (tree : Value) : List Value → Prop where
  | root {items : List Value} (whole : tree = .list items) : Subexpression tree items
  | argument {items inner : List Value} {position : Nat}
      (outer : Subexpression tree items)
      (behindHead : 1 ≤ position)
      (found : items[position]? = some (.list inner)) : Subexpression tree inner

/-- What a tree can come to run: its subexpressions, and the condition and the branches
of those that `if-else` heads. -/
inductive Code (tree : Value) : List Value → Prop where
  | subexpression {items : List Value} (within : Subexpression tree items) : Code tree items
  | condition {arguments : List Value}
      (call : Subexpression tree (.string "if-else" :: arguments)) :
      Code tree [.string "true?", Value.argument arguments 0]
  | branch {arguments : List Value} {position : Nat}
      (call : Subexpression tree (.string "if-else" :: arguments))
      (chosen : position = 1 ∨ position = 2) :
      Code tree [.string "identity", Value.argument arguments position]

namespace Subexpression

variable {tree head : Value} {arguments items : List Value}

theorem of_mem (outer : Subexpression tree (head :: arguments))
    (member : .list items ∈ arguments) : Subexpression tree items := by
  obtain ⟨index, found⟩ := List.mem_iff_getElem?.mp member
  exact outer.argument (Nat.le_add_left 1 index) (List.getElem?_cons_succ.trans found)

/-- A missing argument is null, so an argument that is a list is there. -/
theorem of_argument (outer : Subexpression tree (head :: arguments)) {position : Nat}
    (found : Value.argument arguments position = .list items) : Subexpression tree items := by
  rw [Value.argument, List.getD_eq_getElem?_getD] at found
  cases present : arguments[position]? with
  | none =>
      rw [present] at found
      cases found
  | some argument =>
      rw [present] at found
      obtain rfl : argument = .list items := found
      exact outer.of_mem (List.mem_of_getElem? present)

end Subexpression

/-- The lists among the arguments of code are subexpressions: those that `if-else` makes
have one argument, which is one of its own. -/
theorem Code.arguments_subexpression {tree : Value} {name : String}
    {arguments items : List Value} (code : Code tree (.string name :: arguments))
    (member : .list items ∈ arguments) : Subexpression tree items := by
  cases code with
  | subexpression within => exact within.of_mem member
  | condition call => exact call.of_argument (List.mem_singleton.mp member).symm
  | branch call chosen => exact call.of_argument (List.mem_singleton.mp member).symm

/-- Code that `if-else` heads is a subexpression. -/
theorem Code.ifElse_subexpression {tree : Value} {arguments : List Value}
    (code : Code tree (.string "if-else" :: arguments)) :
    Subexpression tree (.string "if-else" :: arguments) := by
  -- `true?` and `identity` are other names than `if-else`.
  generalize headed : Value.string "if-else" :: arguments = items at code
  cases code with
  | subexpression within => exact within
  | condition call => simp at headed
  | branch call chosen => simp at headed

/-- A run of `if-else` asks for its condition, and expands to one of its branches. -/
theorem ifElse_requests {tree : Value} {arguments : List Value}
    (call : Subexpression tree (.string "if-else" :: arguments)) :
    (Builtin.ifElse arguments : MacroProgram σ (List Value)).Requests (Code tree) := by
  refine ⟨?_, ?_⟩
  · intro items asked
    obtain rfl := Value.list.inj asked
    exact .condition call
  · intro answer expansion expanded
    cases answer with
    | error error => cases expanded
    | ok value =>
        obtain rfl := Except.ok.inj expanded
        apply Code.branch call
        cases value.readsTrue with
        | true => exact .inl rfl
        | false => exact .inr rfl

theorem closed_code {operators : Operators σ} (only : operators.OnlyIfElse) (tree : Value) :
    Closed operators (Code tree) where
  arguments := fun _ code _ member => .subexpression (code.arguments_subexpression member)
  requests := by
    intro name handler arguments resolved code
    obtain ⟨rfl, rfl⟩ := only name handler resolved
    exact ifElse_requests code.ifElse_subexpression

/-- Every moment of the evaluation of a tree shows code of the tree only. -/
theorem observe_about_code {operators : Operators σ} (only : operators.OnlyIfElse)
    (tree : Value) (limit : Nat) (context : σ) :
    ∀ moment ∈ (observe tree (fresh operators limit context)).2, moment.About (Code tree) := by
  intro moment member
  have under : (fresh operators limit context).Under operators limit :=
    ⟨rfl, rfl, Nat.zero_le limit⟩
  have sound := observe_records (closed_code only tree) under
    (fun items whole => .subexpression (.root whole)) moment member
  exact sound.about

/-- **Data is not run as code.**

Where `if-else` is the only macro, every list that is dispatched in the evaluation of a
tree is code of the tree, and it makes no difference what dispatch would do with any
other list. The functions and the context do not enter into what code is, so no list
that they bring in is dispatched, whatever it contains. -/
theorem observe_dispatches_code {operators : Operators σ} (only : operators.OnlyIfElse)
    (tree : Value) (limit : Nat) (context : σ) :
    let start := fresh operators limit context
    (observe tree start).1 = evaluate tree start ∧
      (∀ items evaluator, .dispatched items evaluator ∈ (observe tree start).2 →
        Code tree items) ∧
      ∀ dispatching : Enter σ → Enter σ,
        (∀ enter items evaluator, Code tree items →
          dispatching enter items evaluator = dispatch enter items evaluator) →
        evaluateBy dispatching tree start = evaluate tree start := by
  intro start
  have about := observe_about_code only tree limit context
  refine ⟨observe_evaluates tree start, fun items evaluator member => about _ member, ?_⟩
  intro dispatching same
  rw [← observe_evaluates tree start]
  refine (observe_outcome tree start ?_).symm
  intro moment member
  cases moment with
  | dispatched items evaluator =>
      exact fun enter => same enter items evaluator (about _ member)
  | _ => trivial

/-- The tree `["identity", ["var", "x"]]`. -/
def readBinding : Value :=
  .list [.string "identity", .list [.string "var", .string "x"]]

/-- The two lists in `readBinding` are its only subexpressions. -/
theorem subexpression_readBinding {items : List Value}
    (within : Subexpression readBinding items) :
    items = [.string "identity", .list [.string "var", .string "x"]] ∨
      items = [.string "var", .string "x"] := by
  induction within with
  | root whole => exact .inl (Value.list.inj whole).symm
  | argument outer behindHead found inductionHypothesis =>
      rename_i position
      obtain ⟨index, rfl⟩ := Nat.exists_eq_add_of_le' behindHead
      obtain rfl | rfl := inductionHypothesis <;> cases index <;> simp_all

/-- The binding of `x` is the list `["always"]`, which would be true as code; it is the
result as it stands. -/
theorem observe_binding_not_dispatched :
    let start := fresh CommandLine.operators 8
      (.insert .empty "x" (.list [.string "always"]))
    CommandLine.operators.OnlyIfElse ∧
      (evaluate readBinding start).1 = .ok (.list [.string "always"]) ∧
      ∀ evaluator, .dispatched [.string "always"] evaluator ∉
        (observe readBinding start).2 := by
  refine ⟨CommandLine.operators_onlyIfElse, rfl, ?_⟩
  intro evaluator member
  have code := (observe_dispatches_code CommandLine.operators_onlyIfElse readBinding 8 _).2.1
    _ evaluator member
  generalize same : [Value.string "always"] = items at code
  cases code with
  | subexpression within => cases subexpression_readBinding within <;> simp_all
  | condition call => simp at same
  | branch call chosen => simp at same

end RuleTree
