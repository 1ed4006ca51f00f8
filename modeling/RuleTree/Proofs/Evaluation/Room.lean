import RuleTree.CommandLine.Run
import RuleTree.Proofs.Evaluation.Conditional
import RuleTree.Proofs.Evaluation.Failure
import RuleTree.Proofs.Evaluation.Function
import RuleTree.Proofs.Evaluation.Provenance
import RuleTree.Proofs.Value.Nesting

/-!
Contract: how many levels the evaluation of a tree can need.

Where `if-else` is the only macro, a list costs at most two levels on top of what its
elements cost: one for itself, and one more for the `true?` or the `identity` that a
conditional evaluates. So twice the height of a tree is room enough
(`evaluate_unlimited`), and the default limit is never met on the command line, whose
reader accepts no tree that is too high for it (`limit_unreachable`).

Owns: the room that a height needs. Does not own: heights (`Value.Nesting`).
-/

namespace RuleTree

variable {σ α : Type}

open Evaluator

/-- The outcome is not the error of any limit. -/
def Unlimited (outcome : Outcome σ α) : Prop :=
  ∀ reported, outcome.1 ≠ .error (.recursionLimitExceeded reported)

theorem unlimited_iff_failsOnly {outcome : Outcome σ α} :
    Unlimited outcome ↔
      FailsOnly (fun error => ∀ reported, error ≠ .recursionLimitExceeded reported) outcome := by
  constructor
  · intro unlimited error failed reported limited
    exact unlimited reported (limited ▸ failed)
  · intro failsOnly reported limited
    exact failsOnly _ limited reported rfl

/-- All lists among the arguments have outcomes, whatever the context is by then. -/
def ArgumentsUnlimited (arguments : List Value) (evaluator : Evaluator σ) : Prop :=
  ∀ items, .list items ∈ arguments → ∀ context,
    Unlimited (evaluateExpression items (evaluator.withContext context))

section Call

variable {evaluator : Evaluator σ} (room : evaluator.depth < evaluator.limit)
  (silent : evaluator.operators.EveryFunction Function.RaisesNoLimit)
include room

include silent in
/-- A call that is no macro call needs one level on top of its arguments. -/
theorem evaluateExpression_call_unlimited {name : String} {arguments : List Value}
    (noMacro : ∀ handler, evaluator.operators.resolve? name ≠ some (.expander handler))
    (each : ArgumentsUnlimited arguments evaluator.deeper) :
    Unlimited (evaluateExpression (.string name :: arguments) evaluator) := by
  intro reported limited
  rw [evaluateExpression_of_depth_lt room] at limited
  cases found : evaluator.deeper.operators.resolve? name with
  | none =>
      rw [dispatch_unsupported _ _ _ found] at limited
      cases limited
  | some operator =>
      cases operator with
      | expander handler => exact noMacro handler found
      | function handler =>
          rw [dispatch_function _ _ _ found] at limited
          have raises : handler.RaisesOnly fun error =>
              ∀ reported, error ≠ .recursionLimitExceeded reported :=
            fun values context error failed reported limited =>
              silent name handler found values context reported (limited ▸ failed)
          have call := applyFunction_failsOnly
            (fun items member context => unlimited_iff_failsOnly.mp (each items member context))
            raises evaluator.context
          exact unlimited_iff_failsOnly.mpr call reported limited

/-- What is no call fails with another error. -/
theorem evaluateExpression_nameless_unlimited {items : List Value}
    (nameless : ∀ name arguments, items ≠ .string name :: arguments) :
    Unlimited (evaluateExpression items evaluator) := by
  intro reported limited
  rw [evaluateExpression_of_depth_lt room] at limited
  cases items with
  | nil => cases limited
  | cons head arguments =>
      cases head with
      | string name => exact nameless name arguments rfl
      | _ => cases limited

end Call

/-! ## Twice the height -/

/-- All lists up to a height that have twice their height as room have outcomes. -/
def RoomSuffices (operators : Operators σ) (height : Nat) : Prop :=
  ∀ (items : List Value) (evaluator : Evaluator σ), evaluator.operators = operators →
    (Value.list items).height ≤ height →
    evaluator.depth + 2 * (Value.list items).height ≤ evaluator.limit →
    Unlimited (evaluateExpression items evaluator)

section Step

variable {operators : Operators σ} {height : Nat} (below : RoomSuffices operators height)
  (silent : operators.EveryFunction Function.RaisesNoLimit)
  (evaluator : Evaluator σ) (registered : evaluator.operators = operators)
  {name : String} {arguments : List Value}
include below silent registered

/-- A call of anything but a macro needs one level on top of what the highest of its
arguments needs. -/
theorem RoomSuffices.call
    (noMacro : ∀ handler, operators.resolve? name ≠ some (.expander handler))
    (bounded : Value.itemsHeight arguments ≤ height)
    (room : evaluator.depth + 2 * Value.itemsHeight arguments < evaluator.limit) :
    Unlimited (evaluateExpression (.string name :: arguments) evaluator) := by
  have each : ArgumentsUnlimited arguments evaluator.deeper := by
    intro items member context
    have lower := Value.height_le_of_mem member
    apply below items (evaluator.deeper.withContext context) registered
      (Nat.le_trans lower bounded)
    simp only [withContext_depth, withContext_limit, deeper_depth, deeper_limit]
    omega
  exact evaluateExpression_call_unlimited (by omega) (registered ▸ silent)
    (registered ▸ noMacro) each

/-- A conditional needs two: one for itself, and one for the call that it makes of its
condition or its branch. -/
theorem RoomSuffices.conditional (only : operators.OnlyIfElse)
    (builtIn : operators.resolve? "if-else" = some (.expander Builtin.ifElse))
    (bounded : Value.itemsHeight arguments ≤ height)
    (room : evaluator.depth + 2 * Value.itemsHeight arguments + 1 < evaluator.limit) :
    Unlimited (evaluateExpression (.string "if-else" :: arguments) evaluator) := by
  have inside : ∀ {called : String}, called ≠ "if-else" → ∀ index context,
      Unlimited (evaluateExpression [.string called, Value.argument arguments index]
        (evaluator.deeper.withContext context)) := by
    intro called other index context
    have lower := Value.height_argument_le arguments index
    have alone : Value.itemsHeight [Value.argument arguments index] =
        (Value.argument arguments index).height := Nat.max_zero _
    apply below.call silent (evaluator.deeper.withContext context) registered
    · exact fun handler found => other (only called handler found).1
    · omega
    · simp only [withContext_depth, withContext_limit, deeper_depth, deeper_limit]
      omega
  have condition : Unlimited (evaluateExpression
      [.string "true?", Value.argument arguments 0] evaluator.deeper) :=
    inside (by decide) 0 evaluator.context
  rw [← registered] at builtIn
  obtain ⟨result, after, evaluated⟩ := evaluateExpression_frame.outcome
    [.string "true?", Value.argument arguments 0] evaluator.deeper evaluator.context
  rw [show evaluator.deeper.withContext evaluator.context = evaluator.deeper from rfl]
    at evaluated
  rw [evaluated] at condition
  intro reported limited
  cases result with
  | error error =>
      rw [evaluateExpression_ifElse_error builtIn evaluated] at limited
      exact condition reported (by cases limited; rfl)
  | ok answer =>
      rw [evaluateExpression_ifElse_ok builtIn evaluated] at limited
      exact inside (by decide) _ after reported limited

end Step

theorem roomSuffices {operators : Operators σ} (only : operators.OnlyIfElse)
    (silent : operators.EveryFunction Function.RaisesNoLimit) (height : Nat) :
    RoomSuffices operators height := by
  induction height with
  | zero =>
      intro items evaluator _ bounded
      exact absurd bounded (Nat.not_succ_le_zero _)
  | succ height inductionHypothesis =>
      intro items evaluator registered bounded room
      simp only [Value.height] at bounded room
      by_cases called : ∃ name arguments, items = .string name :: arguments
      · obtain ⟨name, arguments, rfl⟩ := called
        have headless : Value.itemsHeight (.string name :: arguments) =
            Value.itemsHeight arguments := Nat.zero_max _
        rw [headless] at bounded room
        by_cases expands : ∃ handler, operators.resolve? name = some (.expander handler)
        · obtain ⟨handler, found⟩ := expands
          obtain ⟨rfl, rfl⟩ := only name handler found
          exact inductionHypothesis.conditional silent evaluator registered only found
            (by omega) (by omega)
        · exact inductionHypothesis.call silent evaluator registered
            (not_exists.mp expands) (by omega) (by omega)
      · exact evaluateExpression_nameless_unlimited (by omega)
          fun name arguments same => called ⟨name, arguments, same⟩

/-- Twice the height of a tree is room enough for it. -/
theorem evaluate_unlimited {evaluator : Evaluator σ} (only : evaluator.operators.OnlyIfElse)
    (silent : evaluator.operators.EveryFunction Function.RaisesNoLimit) {tree : Value}
    (room : evaluator.depth + 2 * tree.height ≤ evaluator.limit) :
    Unlimited (evaluate tree evaluator) := by
  cases tree with
  | list items => exact roomSuffices only silent _ items evaluator rfl (Nat.le_refl _) room
  | _ => exact fun _ limited => by cases limited

/-! ## The command line -/

namespace CommandLine

/-- A text that is read stands for a tree that is no higher than the reader allows. -/
theorem height_le_of_tree? {source : String} {tree : Value} (read : tree? source = .ok tree) :
    tree.height ≤ jsonDepth := by
  unfold tree? at read
  split at read
  · cases read
  · rename_i document parsed
    split at read
    · rename_i decoded
      cases read
      exact Nat.le_trans (Value.height_decode decoded) (Json.nesting_le_of_read? parsed)
    · cases read

theorem tree?_ne_limit {source : String} (reported : Nat) :
    tree? source ≠ .error (.evaluation (.recursionLimitExceeded reported)) := by
  intro limited
  unfold tree? at limited
  split at limited
  · cases limited
  · split at limited
    · cases limited
    · rename_i error failed
      cases limited
      cases Value.error_of_decode failed

theorem evaluateSource_ne_limit {bindings : Bindings} {options : Options}
    (roomy : 2 * jsonDepth ≤ options.limit) (source : String) (reported : Nat) :
    evaluateSource bindings options source ≠
      .error (.evaluation (.recursionLimitExceeded reported)) := by
  intro limited
  unfold evaluateSource at limited
  split at limited
  · rename_i failure unread
    cases limited
    exact tree?_ne_limit reported unread
  · rename_i tree read
    have low := height_le_of_tree? read
    have unlimited : Unlimited ((evaluator bindings options).evaluate tree) := by
      apply evaluate_unlimited operators_onlyIfElse operators_raisesNoLimit
      simp only [evaluator]
      omega
    split at limited
    · cases limited
    · rename_i error failed
      exact unlimited reported (by rw [failed]; cases limited; rfl)

theorem output?_ne_limit {options : Options} (roomy : 2 * jsonDepth ≤ options.limit)
    (environment : Environment) (reported : Nat) :
    output? environment options ≠ .error (.evaluation (.recursionLimitExceeded reported)) := by
  intro limited
  unfold output? at limited
  split at limited
  · cases limited
  · split at limited
    · cases limited
    · split at limited
      · rename_i failure unfetched
        unfold source? at unfetched
        cases limited
        split at unfetched
        · cases unfetched
        · split at unfetched <;> cases unfetched
        · split at unfetched <;> cases unfetched
      · exact evaluateSource_ne_limit roomy _ reported limited

end CommandLine

/-! ## The bound -/

open CommandLine in
/-- **A limit of twice the height is never met.**

Where `if-else` is the only macro and no function makes up a limit error, a tree whose
height is at most half the limit does not end in the limit error, in any context. So a
run of the command line under the default limit never reports one: a text that its
reader accepts is too shallow for that, and all that goes wrong before the evaluation is
reported as something else. -/
theorem limit_unreachable :
    (∀ {σ : Type} (operators : Operators σ), operators.OnlyIfElse →
      operators.EveryFunction Function.RaisesNoLimit →
      ∀ (tree : Value) (limit : Nat) (context : σ), 2 * tree.height ≤ limit →
        Unlimited (evaluate tree (fresh operators limit context))) ∧
    ∀ (environment : Environment) (options : Options), options.limit = defaultLimit →
      ∀ reported, output? environment options ≠
        .error (.evaluation (.recursionLimitExceeded reported)) := by
  refine ⟨?_, ?_⟩
  · intro σ operators only silent tree limit context room
    exact evaluate_unlimited only silent (by simpa only [fresh, Nat.zero_add] using room)
  · intro environment options default reported
    have roomy : 2 * jsonDepth ≤ options.limit := by
      rw [default]
      decide
    exact output?_ne_limit roomy environment reported

/-- A conditional whose condition is a conditional has height 2, and needs all of four
levels. -/
theorem limit_unreachable_nested_condition :
    let tree := Value.list [.string "if-else",
      .list [.string "if-else", .boolean true, .boolean true, .boolean false],
      .string "yes", .string "no"]
    let start := fun limit => fresh (Operators.builtin : Operators Unit) limit ()
    let options : CommandLine.Options := { expression := some "[\"identity\", [\"always\"]]" }
    tree.height = 2 ∧
      Unlimited (evaluate tree (start 4)) ∧
      (evaluate tree (start 4)).1 = .ok (.string "yes") ∧
      (evaluate tree (start 3)).1 = .error (.recursionLimitExceeded 3) ∧
      CommandLine.output? ⟨fun _ => none, none⟩ options ≠
        .error (.evaluation (.recursionLimitExceeded 256)) := by
  intro tree start options
  refine ⟨rfl, ?_, rfl, rfl, ?_⟩
  · exact limit_unreachable.1 Operators.builtin Operators.builtin_onlyIfElse
      Operators.builtin_raisesNoLimit tree 4 () (by decide)
  · exact limit_unreachable.2 ⟨fun _ => none, none⟩ options rfl 256

end RuleTree
