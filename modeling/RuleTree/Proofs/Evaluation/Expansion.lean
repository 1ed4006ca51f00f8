import RuleTree.Proofs.Evaluation.Choice
import RuleTree.Proofs.Evaluation.Shallower

/-!
Contract: a macro call and its expansion.

A macro call is its expansion evaluated one level further down, if its handler does nothing but
expand. So the expansion can stand in its place, where it is evaluated one level less deep
(`substitutable_expansion`), and what can stand in the place of an argument of a function gives
the whole call the same outcome (`Substitutable.call`). Only the limit tells the two apart
(`expansion_replaces_call`).

Owns: replacing arguments of functions, at any depth and in any context. Does not own:
replacements under registries that leave the context alone (`Evaluation.Folding`).
-/

namespace RuleTree

variable {σ α : Type}

open Evaluator

/-! ## Handlers that only expand -/

/-- The run finishes with the expansion, and all that it asks for are answers to queries. -/
def MacroProgram.ExpandsTo (answer : (query : Query) → query.Answer) (expansion : α) :
    MacroProgram σ α → Prop
  | .finish result => result = .ok expansion
  | .evaluate _ _ => False
  | .evaluateItems _ _ => False
  | .readContext _ => False
  | .writeContext _ _ => False
  | .ask query next => (next (answer query)).ExpandsTo answer expansion

theorem runMacro_of_expandsTo {program : MacroProgram σ α} {expansion : α}
    {evaluator : Evaluator σ} (expands : program.ExpandsTo evaluator.answer expansion)
    (enter : Enter σ) : runMacro enter program evaluator = (.ok expansion, evaluator) := by
  induction program with
  | finish result => exact congrArg (·, evaluator) expands
  | evaluate tree next _ => exact expands.elim
  | evaluateItems items next _ => exact expands.elim
  | readContext next _ => exact expands.elim
  | writeContext context next _ => exact expands.elim
  | ask query next inductionHypothesis => exact inductionHypothesis _ expands

/-! ## Values that can stand in the place of others -/

/-- Unless the first outcome is the error of the limit, the second one is the same. -/
def EqUnlessLimited (limit : Nat) (before after : Outcome σ α) : Prop :=
  before.1 ≠ .error (.recursionLimitExceeded limit) → after = before

/-- As an argument, at any depth and in any context, the second value comes to the same as the
first one, unless that one meets the limit. -/
def Substitutable (operators : Operators σ) (limit : Nat) (before after : Value) : Prop :=
  ∀ depth context, EqUnlessLimited limit
    (evaluateArgument evaluateExpression before (entered operators limit context depth))
    (evaluateArgument evaluateExpression after (entered operators limit context depth))

section Substitutable

variable {operators : Operators σ} {limit : Nat}

theorem evaluateArguments_set {before after : Value}
    (same : Substitutable operators limit before after) {arguments : List Value} {index : Nat}
    (found : arguments[index]? = some before) (depth : Nat) (context : σ) :
    EqUnlessLimited limit
      (evaluateArguments evaluateExpression arguments (entered operators limit context depth))
      (evaluateArguments evaluateExpression (arguments.set index after)
        (entered operators limit context depth)) := by
  intro unlimited
  induction arguments generalizing index context with
  | nil => cases found
  | cons argument arguments inductionHypothesis =>
      obtain ⟨result, middle, head⟩ :=
        evaluateArgument_entered operators limit depth argument context
      rw [evaluateArguments, head] at unlimited
      cases index with
      | zero =>
          obtain rfl := Option.some.inj found
          have sameHead := same depth context
          rw [head] at sameHead
          rw [List.set_cons_zero, evaluateArguments, evaluateArguments, head, sameHead]
          rintro rfl
          exact unlimited rfl
      | succ index =>
          rw [List.set_cons_succ, evaluateArguments, evaluateArguments, head]
          cases result with
          | error error => rfl
          | ok value =>
              have others := inductionHypothesis found middle
              dsimp only at unlimited ⊢
              rw [others]
              intro limited
              exact unlimited (by rw [limited]; rfl)

theorem applyFunction_set {before after : Value}
    (same : Substitutable operators limit before after) {arguments : List Value} {index : Nat}
    (found : arguments[index]? = some before) (handler : Function σ) (depth : Nat) (context : σ) :
    EqUnlessLimited limit
      (applyFunction evaluateExpression handler arguments (entered operators limit context depth))
      (applyFunction evaluateExpression handler (arguments.set index after)
        (entered operators limit context depth)) := by
  intro unlimited
  rcases evaluated : evaluateArguments evaluateExpression arguments
    (entered operators limit context depth) with ⟨results, middle⟩
  rw [applyFunction, evaluated] at unlimited
  have sameArguments := evaluateArguments_set same found depth context
  rw [evaluated] at sameArguments
  rw [applyFunction, applyFunction, evaluated, sameArguments]
  rintro rfl
  exact unlimited rfl

/-- In a call of a function, an argument can be replaced by what can stand in its place. -/
theorem Substitutable.call {name : String} {handler : Function σ}
    (isFunction : operators.resolve? name = some (.function handler)) {before after : Value}
    (same : Substitutable operators limit before after) {arguments : List Value} {index : Nat}
    (found : arguments[index]? = some before) :
    Substitutable operators limit (.list (.string name :: arguments))
      (.list (.string name :: arguments.set index after)) := by
  intro depth context unlimited
  rw [evaluateArgument] at unlimited
  rw [evaluateArgument, evaluateArgument]
  rcases Nat.lt_or_ge depth limit with room | full
  · rw [evaluateExpression_entered operators limit context _ room] at unlimited
    rw [evaluateExpression_entered operators limit context _ room,
      evaluateExpression_entered operators limit context _ room]
    rw [dispatch_function _ _ _ isFunction] at unlimited
    rw [dispatch_function _ _ _ isFunction, dispatch_function _ _ _ isFunction,
      applyFunction_set same found handler (depth + 1) context unlimited]
  · rw [evaluateExpression_entered_full operators limit context _ full] at unlimited
    exact absurd rfl unlimited

section Expansion

variable {name : String} {handler : Macro σ}
  (isMacro : operators.resolve? name = some (.expander handler))
  {arguments expansion : List Value}
  (expands : ∀ depth context,
    (handler arguments).ExpandsTo (entered operators limit context depth).answer expansion)
include isMacro expands

/-- With room for it, a macro call is its expansion, one level further down. -/
theorem evaluateExpression_of_expandsTo {depth : Nat} (room : depth < limit) (context : σ) :
    let inner := evaluateExpression expansion (entered operators limit context (depth + 1))
    evaluateExpression (.string name :: arguments) (entered operators limit context depth) =
      (inner.1, entered operators limit inner.2.context depth) := by
  have dispatched := dispatch_expander evaluateExpression arguments
    (entered operators limit context (depth + 1)) isMacro
  rw [applyMacro, runMacro_of_expandsTo (expands _ _)] at dispatched
  rw [evaluateExpression_entered operators limit context _ room, dispatched]

/-- A macro call can be replaced by its expansion. -/
theorem substitutable_expansion
    (letThrough : operators.MacrosLetThrough (· = .recursionLimitExceeded limit)) :
    Substitutable operators limit (.list (.string name :: arguments)) (.list expansion) := by
  intro depth context
  rcases Nat.lt_or_ge depth limit with room | full
  · obtain ⟨result, after, inner⟩ :=
      evaluateArgument_entered operators limit (depth + 1) (.list expansion) context
    have call : evaluateArgument evaluateExpression (.list (.string name :: arguments))
        (entered operators limit context depth) =
          (result, entered operators limit after depth) := by
      rw [evaluateArgument] at inner
      rw [evaluateArgument, evaluateExpression_of_expandsTo isMacro expands room, inner]
      rfl
    rw [call]
    exact evaluateArgument_shallower letThrough (Nat.le_succ depth) inner
  · rw [evaluateArgument, evaluateExpression_entered_full operators limit context _ full]
    exact fun unlimited => absurd rfl unlimited

end Expansion

end Substitutable

/-! ## Replacing a call in a tree -/

/-- In a tree, a value is replaced that is the tree itself or, at any depth, an argument of
functions. -/
inductive ReplacedUnderFunctions (operators : Operators σ) (before after : Value) :
    Value → Value → Prop where
  | whole : ReplacedUnderFunctions operators before after before after
  | argument {name : String} {handler : Function σ} {arguments : List Value} {index : Nat}
      {inner changed : Value}
      (isFunction : operators.resolve? name = some (.function handler))
      (found : arguments[index]? = some inner)
      (replaced : ReplacedUnderFunctions operators before after inner changed) :
      ReplacedUnderFunctions operators before after (.list (.string name :: arguments))
        (.list (.string name :: arguments.set index changed))

theorem ReplacedUnderFunctions.substitutable {operators : Operators σ} {limit : Nat}
    {before after : Value} (same : Substitutable operators limit before after)
    {tree changed : Value} (replaced : ReplacedUnderFunctions operators before after tree changed) :
    Substitutable operators limit tree changed := by
  induction replaced with
  | whole => exact same
  | argument isFunction found _ inductionHypothesis =>
      exact inductionHypothesis.call isFunction found

/-- What a list is replaced in is a list, and becomes one. -/
theorem ReplacedUnderFunctions.lists {operators : Operators σ} {before after : List Value}
    {tree changed : Value}
    (replaced : ReplacedUnderFunctions operators (.list before) (.list after) tree changed) :
    (∃ items, tree = .list items) ∧ ∃ items, changed = .list items := by
  cases replaced with
  | whole => exact ⟨⟨_, rfl⟩, _, rfl⟩
  | argument => exact ⟨⟨_, rfl⟩, _, rfl⟩

/-- **A macro call can be replaced by its expansion.**

Where no macro goes on after the error of the limit, let a macro expand a call without touching
the context or evaluating anything. If the call is a tree, or stands in it as an argument of
functions, at any depth, then the tree with the expansion in its place has the same outcome and
leaves the same evaluator, unless it meets the limit with the call. The expansion may be any
list: another macro call, one that names no operator, or no expression at all. -/
theorem expansion_replaces_call {evaluator : Evaluator σ}
    (letThrough : evaluator.operators.MacrosLetThrough
      (· = .recursionLimitExceeded evaluator.limit))
    {name : String} {handler : Macro σ}
    (isMacro : evaluator.operators.resolve? name = some (.expander handler))
    {arguments expansion : List Value}
    (expands : (handler arguments).ExpandsTo evaluator.answer expansion)
    {tree changed : Value}
    (replaced : ReplacedUnderFunctions evaluator.operators
      (.list (.string name :: arguments)) (.list expansion) tree changed)
    (unlimited : (evaluate tree evaluator).1 ≠
      .error (.recursionLimitExceeded evaluator.limit)) :
    evaluate changed evaluator = evaluate tree evaluator := by
  have expandsAnywhere : ∀ depth context, (handler arguments).ExpandsTo
      (entered evaluator.operators evaluator.limit context depth).answer expansion := by
    intro depth context
    have sameAnswers : (entered evaluator.operators evaluator.limit context depth).answer =
        evaluator.answer := funext fun query => answer_congr rfl rfl query
    rwa [sameAnswers]
  have same := substitutable_expansion isMacro expandsAnywhere letThrough
  obtain ⟨⟨items, rfl⟩, others, rfl⟩ := replaced.lists
  exact replaced.substitutable same evaluator.depth evaluator.context unlimited

/-- A conditional turned around: a call of `if-else` with its branches exchanged. -/
def turnedConditional : Host.MacroRule :=
  .template [.literal (.string "if-else"), .argument 0, .argument 2, .argument 1]

/-- The recording operators with the conditional turned around. -/
def turningOperators : Operators Host.Journal :=
  recordingOperators.insertMacro "unless" turnedConditional.handler

/-- The expansion is a macro call again, and stands behind an argument that changes the journal.
With the call five levels are needed; with the expansion four are enough. -/
theorem expansion_replaces_call_conditional :
    let start := fun limit => fresh turningOperators limit {}
    let record := fun text : String => Value.list [.string "record", .string text]
    let tree := fun inner : List Value => Value.list [.string "list", record "x", .list inner]
    let call := [.string "unless", .boolean true, .string "no", record "y"]
    let expansion := [.string "if-else", .boolean true, record "y", .string "no"]
    turningOperators.MacrosLetThrough (· = .recursionLimitExceeded 5) ∧
      ReplacedUnderFunctions turningOperators (.list call) (.list expansion)
        (tree call) (tree expansion) ∧
      evaluate (tree call) (start 5) = (.ok (.list [.string "x", .string "y"]),
        (start 5).withContext { log := [.string "x", .string "y"] }) ∧
      evaluate (tree expansion) (start 5) = evaluate (tree call) (start 5) ∧
      (evaluate (tree call) (start 4)).1 = .error (.recursionLimitExceeded 4) ∧
      (evaluate (tree expansion) (start 4)).1 = .ok (.list [.string "x", .string "y"]) := by
  intro start record tree call expansion
  have turned : ∀ arguments, (turnedConditional.handler arguments).PassesErrors fun _ => True :=
    fun _ => trivial
  have passErrors : turningOperators.MacrosPassErrors fun _ => True :=
    (recordingOperators_onlyIfElse.macrosPassErrors _).insertMacro "unless" turned
  have letThrough : turningOperators.MacrosLetThrough (· = .recursionLimitExceeded 5) :=
    passErrors.letThrough _
  have isFunction : turningOperators.resolve? "list" =
      some (.function Host.FunctionRule.arguments.handler) := rfl
  have isMacro : turningOperators.resolve? "unless" =
      some (.expander turnedConditional.handler) := rfl
  have second : [record "x", .list call][1]? = some (.list call) := rfl
  have replaced : ReplacedUnderFunctions turningOperators (.list call)
      (.list expansion) (tree call) (tree expansion) := .argument isFunction second .whole
  have expands : (turnedConditional.handler [.boolean true, .string "no", record "y"]).ExpandsTo
      (start 5).answer expansion := rfl
  have evaluated : evaluate (tree call) (start 5) = (.ok (.list [.string "x", .string "y"]),
      (start 5).withContext { log := [.string "x", .string "y"] }) := rfl
  refine ⟨letThrough, replaced, evaluated, ?_, rfl, rfl⟩
  apply expansion_replaces_call letThrough isMacro expands replaced
  rw [evaluated]
  exact nofun

end RuleTree
