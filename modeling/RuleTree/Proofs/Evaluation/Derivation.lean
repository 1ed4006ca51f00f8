import RuleTree.Proofs.Evaluation.Handler
import RuleTree.Proofs.Evaluation.Level

/-!
Contract: evaluation without a limit, as derivation trees, and what a limit makes of it.

A derivation says what an expression comes to, with the context before and after, and
carries its height: one for each evaluation of an expression, on top of the highest
evaluation below it. Nothing in it counts or is refused.

Owns: the derivations, the handlers whose runs they describe, and the agreement of an
evaluator of limit `n` with the derivations of height at most `n`.
Does not own: a limit error that a handler makes up itself; it is an outcome like any other.
-/

namespace RuleTree

variable {σ : Type}

/-! ## Derivations -/

mutual

/-- An expression, given as its elements. -/
inductive ExpressionYields (operators : Operators σ) :
    Nat → List Value → σ → Except EvalError Value → σ → Prop where
  | empty {context : σ} :
      ExpressionYields operators 1 [] context (.error .emptyExpression) context
  | headNotAString {head : Value} {arguments : List Value} {context : σ}
      (nameless : head.string? = none) :
      ExpressionYields operators 1 (head :: arguments) context
        (.error (.headNotAString head)) context
  | unsupported {name : String} {arguments : List Value} {context : σ}
      (unknown : operators.resolve? name = none) :
      ExpressionYields operators 1 (.string name :: arguments) context
        (.error (.unsupportedOperator name)) context
  | applied {name : String} {handler : Function σ} {arguments values : List Value}
      {height : Nat} {before middle after : σ} {result : Except EvalError Value}
      (found : operators.resolve? name = some (.function handler))
      (evaluated : ArgumentsYield operators height arguments before (.ok values) middle)
      (answered : handler values middle = (result, after)) :
      ExpressionYields operators (height + 1) (.string name :: arguments) before result after
  | argumentFails {name : String} {handler : Function σ} {arguments : List Value}
      {height : Nat} {before after : σ} {error : EvalError}
      (found : operators.resolve? name = some (.function handler))
      (failed : ArgumentsYield operators height arguments before (.error error) after) :
      ExpressionYields operators (height + 1) (.string name :: arguments) before
        (.error error) after
  | expanded {name : String} {handler : Macro σ} {arguments expansion : List Value}
      {height rest : Nat} {before middle after : σ} {result : Except EvalError Value}
      (found : operators.resolve? name = some (.expander handler))
      (ran : ProgramYields operators height (handler arguments) before (.ok expansion) middle)
      (replaced : ExpressionYields operators rest expansion middle result after) :
      ExpressionYields operators (max height rest + 1) (.string name :: arguments) before
        result after
  | expansionFails {name : String} {handler : Macro σ} {arguments : List Value}
      {height : Nat} {before after : σ} {error : EvalError}
      (found : operators.resolve? name = some (.expander handler))
      (failed : ProgramYields operators height (handler arguments) before (.error error) after) :
      ExpressionYields operators (height + 1) (.string name :: arguments) before
        (.error error) after

/-- A tree: a list is an expression, nothing else is. -/
inductive TreeYields (operators : Operators σ) :
    Nat → Value → σ → Except EvalError Value → σ → Prop where
  | list {items : List Value} {height : Nat} {before after : σ}
      {result : Except EvalError Value}
      (evaluated : ExpressionYields operators height items before result after) :
      TreeYields operators height (.list items) before result after
  | other {tree : Value} {context : σ} (noList : tree.items? = none) :
      TreeYields operators 0 tree context (.error (.notAList tree)) context

/-- Arguments from left to right, up to the first error. -/
inductive ArgumentsYield (operators : Operators σ) :
    Nat → List Value → σ → Except EvalError (List Value) → σ → Prop where
  | nil {context : σ} : ArgumentsYield operators 0 [] context (.ok []) context
  | literal {value : Value} {arguments : List Value} {height : Nat} {before after : σ}
      {results : Except EvalError (List Value)}
      (noList : value.items? = none)
      (others : ArgumentsYield operators height arguments before results after) :
      ArgumentsYield operators height (value :: arguments) before
        (results.map (value :: ·)) after
  | list {items arguments : List Value} {value : Value} {height rest : Nat}
      {before middle after : σ} {results : Except EvalError (List Value)}
      (first : ExpressionYields operators height items before (.ok value) middle)
      (others : ArgumentsYield operators rest arguments middle results after) :
      ArgumentsYield operators (max height rest) (.list items :: arguments) before
        (results.map (value :: ·)) after
  | listFails {items arguments : List Value} {height : Nat} {before after : σ}
      {error : EvalError}
      (failed : ExpressionYields operators height items before (.error error) after) :
      ArgumentsYield operators height (.list items :: arguments) before (.error error) after

/-- A run of a macro handler. A query has an answer here if all evaluators over the
registry give it, whatever their limits are. -/
inductive ProgramYields (operators : Operators σ) :
    Nat → MacroProgram σ (List Value) → σ → Except EvalError (List Value) → σ → Prop where
  | finish {result : Except EvalError (List Value)} {context : σ} :
      ProgramYields operators 0 (.finish result) context result context
  | evaluate {tree : Value} {next : Except EvalError Value → MacroProgram σ (List Value)}
      {height rest : Nat} {before middle after : σ} {answer : Except EvalError Value}
      {result : Except EvalError (List Value)}
      (evaluated : TreeYields operators height tree before answer middle)
      (resumed : ProgramYields operators rest (next answer) middle result after) :
      ProgramYields operators (max height rest) (.evaluate tree next) before result after
  | evaluateItems {items : List Value}
      {next : Except EvalError Value → MacroProgram σ (List Value)}
      {height rest : Nat} {before middle after : σ} {answer : Except EvalError Value}
      {result : Except EvalError (List Value)}
      (evaluated : ExpressionYields operators height items before answer middle)
      (resumed : ProgramYields operators rest (next answer) middle result after) :
      ProgramYields operators (max height rest) (.evaluateItems items next) before result after
  | readContext {next : σ → MacroProgram σ (List Value)} {height : Nat} {before after : σ}
      {result : Except EvalError (List Value)}
      (resumed : ProgramYields operators height (next before) before result after) :
      ProgramYields operators height (.readContext next) before result after
  | writeContext {context : σ} {next : MacroProgram σ (List Value)} {height : Nat}
      {before after : σ} {result : Except EvalError (List Value)}
      (resumed : ProgramYields operators height next context result after) :
      ProgramYields operators height (.writeContext context next) before result after
  | ask {query : Query} {next : query.Answer → MacroProgram σ (List Value)}
      {answer : query.Answer} {height : Nat} {before after : σ}
      {result : Except EvalError (List Value)}
      (answered : ∀ evaluator : Evaluator σ,
        evaluator.operators = operators → evaluator.answer query = answer)
      (resumed : ProgramYields operators height (next answer) before result after) :
      ProgramYields operators height (.ask query next) before result after

end

open Evaluator

/-! ## A derivation that fits under the limit is what happens -/

section Fits

variable {operators : Operators σ}

mutual

/-- An evaluator with at least as many levels left as a derivation is high follows it. -/
theorem ExpressionYields.evaluates {height : Nat} {items : List Value} {before after : σ}
    {result : Except EvalError Value} :
    ExpressionYields operators height items before result after →
    ∀ evaluator : Evaluator σ, evaluator.operators = operators →
    height ≤ evaluator.limit - evaluator.depth →
    evaluateExpression items (evaluator.withContext before) =
      (result, evaluator.withContext after)
  | .empty, evaluator, _, fits =>
      evaluateExpression_of_dispatch (by omega) rfl
  | .headNotAString nameless, evaluator, _, fits =>
      evaluateExpression_of_dispatch (by omega) (dispatch_nameless _ _ _ nameless)
  | .unsupported unknown, evaluator, registered, fits =>
      evaluateExpression_of_dispatch (by omega)
        (dispatch_unsupported _ _ _ (by rw [← registered] at unknown; exact unknown))
  | .applied found evaluated answered, evaluator, registered, fits => by
      rw [← registered] at found
      apply evaluateExpression_of_dispatch (by omega)
      have evaluatedArguments := evaluated.evaluates evaluator.deeper registered
        (by simp only [deeper_limit, deeper_depth]; omega)
      rw [dispatch_function _ _ (evaluator.deeper.withContext _) found, applyFunction,
        evaluatedArguments]
      simp only [withContext_context, answered]
      rfl
  | .argumentFails found failed, evaluator, registered, fits => by
      rw [← registered] at found
      apply evaluateExpression_of_dispatch (by omega)
      have failedArguments := failed.evaluates evaluator.deeper registered
        (by simp only [deeper_limit, deeper_depth]; omega)
      rw [dispatch_function _ _ (evaluator.deeper.withContext _) found, applyFunction,
        failedArguments]
  | .expanded found ran replaced, evaluator, registered, fits => by
      rw [← registered] at found
      apply evaluateExpression_of_dispatch (by omega)
      have ranHandler := ran.evaluates evaluator.deeper registered
        (by simp only [deeper_limit, deeper_depth]; omega)
      have evaluatedExpansion := replaced.evaluates evaluator.deeper registered
        (by simp only [deeper_limit, deeper_depth]; omega)
      rw [dispatch_expander _ _ (evaluator.deeper.withContext _) found, applyMacro, ranHandler]
      exact evaluatedExpansion
  | .expansionFails found failed, evaluator, registered, fits => by
      rw [← registered] at found
      apply evaluateExpression_of_dispatch (by omega)
      have failedHandler := failed.evaluates evaluator.deeper registered
        (by simp only [deeper_limit, deeper_depth]; omega)
      rw [dispatch_expander _ _ (evaluator.deeper.withContext _) found, applyMacro, failedHandler]

theorem TreeYields.evaluates {height : Nat} {tree : Value} {before after : σ}
    {result : Except EvalError Value} :
    TreeYields operators height tree before result after →
    ∀ evaluator : Evaluator σ, evaluator.operators = operators →
    height ≤ evaluator.limit - evaluator.depth →
    evaluate tree (evaluator.withContext before) = (result, evaluator.withContext after)
  | .list evaluated, evaluator, registered, fits => evaluated.evaluates evaluator registered fits
  | .other noList, evaluator, _, _ => by
      cases tree with
      | list items => simp [Value.items?] at noList
      | _ => rfl

theorem ArgumentsYield.evaluates {height : Nat} {arguments : List Value} {before after : σ}
    {results : Except EvalError (List Value)} :
    ArgumentsYield operators height arguments before results after →
    ∀ evaluator : Evaluator σ, evaluator.operators = operators →
    height ≤ evaluator.limit - evaluator.depth →
    evaluateArguments evaluateExpression arguments (evaluator.withContext before) =
      (results, evaluator.withContext after)
  | .nil, _, _, _ => rfl
  | .literal noList others, evaluator, registered, fits => by
      have evaluatedOthers := others.evaluates evaluator registered fits
      simp only [evaluateArguments, evaluateArgument_literal noList, evaluatedOthers]
  | .list first others, evaluator, registered, fits => by
      have evaluatedFirst := first.evaluates evaluator registered (by omega)
      have evaluatedOthers := others.evaluates evaluator registered (by omega)
      simp only [evaluateArguments, evaluateArgument, evaluatedFirst, evaluatedOthers]
  | .listFails failed, evaluator, registered, fits => by
      have failedFirst := failed.evaluates evaluator registered fits
      simp only [evaluateArguments, evaluateArgument, failedFirst]

theorem ProgramYields.evaluates {height : Nat} {program : MacroProgram σ (List Value)}
    {before after : σ} {result : Except EvalError (List Value)} :
    ProgramYields operators height program before result after →
    ∀ evaluator : Evaluator σ, evaluator.operators = operators →
    height ≤ evaluator.limit - evaluator.depth →
    runMacro evaluateExpression program (evaluator.withContext before) =
      (result, evaluator.withContext after)
  | .finish, _, _, _ => rfl
  | .evaluate evaluated resumed, evaluator, registered, fits => by
      have evaluatedTree := evaluated.evaluates evaluator registered (by omega)
      rw [evaluate] at evaluatedTree
      rw [runMacro, evaluatedTree]
      exact resumed.evaluates evaluator registered (by omega)
  | .evaluateItems evaluated resumed, evaluator, registered, fits => by
      rw [runMacro, evaluated.evaluates evaluator registered (by omega)]
      exact resumed.evaluates evaluator registered (by omega)
  | .readContext resumed, evaluator, registered, fits => resumed.evaluates evaluator registered fits
  | .writeContext resumed, evaluator, registered, fits =>
      resumed.evaluates evaluator registered fits
  | .ask answered resumed, evaluator, registered, fits => by
      rw [runMacro, answered (evaluator.withContext before) registered]
      exact resumed.evaluates evaluator registered fits

end

end Fits

/-! ## What happens under a limit is derived, or is the limit error -/

/-- An outcome that some derivation of bounded height gives, or the limit error. -/
def DerivedOrLimited {α : Type} (yields : Nat → Except EvalError α → σ → Prop)
    (levels limit : Nat) (outcome : Outcome σ α) : Prop :=
  (∃ height ≤ levels, yields height outcome.1 outcome.2.context) ∨
    outcome.1 = .error (.recursionLimitExceeded limit)

section Derived

variable {evaluator : Evaluator σ} {levels : Nat}

/-- The rest of a run that raises an error needs no level, and ends in that error. -/
theorem MacroProgram.Raises.yields {error : EvalError}
    {program : MacroProgram σ (List Value)} (raises : program.Raises (· ≠ .limit) error)
    (evaluator : Evaluator σ) (context : σ) :
    ProgramYields evaluator.operators 0 program context (.error error)
        (runMacro evaluateExpression program (evaluator.withContext context)).2.context ∧
      (runMacro evaluateExpression program (evaluator.withContext context)).1 =
        .error error := by
  induction program generalizing context with
  | finish result =>
      obtain rfl : result = .error error := raises
      exact ⟨.finish, rfl⟩
  | evaluate tree next _ => exact raises.elim
  | evaluateItems items next _ => exact raises.elim
  | readContext next inductionHypothesis =>
      obtain ⟨derivation, ended⟩ := inductionHypothesis context (raises context) context
      exact ⟨.readContext derivation, ended⟩
  | writeContext written next inductionHypothesis =>
      obtain ⟨derivation, ended⟩ := inductionHypothesis raises written
      exact ⟨.writeContext derivation, ended⟩
  | ask query next inductionHypothesis =>
      obtain ⟨derivation, ended⟩ := inductionHypothesis
        ((evaluator.withContext context).answer query) (raises.2 _) context
      exact ⟨.ask (fun other same => answer_eq_of_ne_limit raises.1 same) derivation, ended⟩

/-- All evaluations of the next level, in the frame of the evaluator, are derived with
at most the given height or end in the limit error. -/
def LevelDerived (evaluator : Evaluator σ) (levels : Nat) : Prop :=
  ∀ items context, DerivedOrLimited (ExpressionYields evaluator.operators · items context)
    levels evaluator.limit (evaluateExpression items (evaluator.withContext context))

theorem LevelDerived.tree (below : LevelDerived evaluator levels) (tree : Value) (context : σ) :
    DerivedOrLimited (TreeYields evaluator.operators · tree context) levels evaluator.limit
      (evaluate tree (evaluator.withContext context)) := by
  cases tree with
  | list items =>
      refine (below items context).imp_left ?_
      rintro ⟨height, bounded, derivation⟩
      exact ⟨height, bounded, .list derivation⟩
  | _ => exact .inl ⟨0, Nat.zero_le _, .other rfl⟩

theorem LevelDerived.arguments (below : LevelDerived evaluator levels)
    (arguments : List Value) (context : σ) :
    DerivedOrLimited (ArgumentsYield evaluator.operators · arguments context) levels
      evaluator.limit
      (evaluateArguments evaluateExpression arguments (evaluator.withContext context)) := by
  induction arguments generalizing context with
  | nil => exact .inl ⟨0, Nat.zero_le _, .nil⟩
  | cons argument arguments inductionHypothesis =>
      cases argument with
      | list items =>
          obtain ⟨result, middle, first⟩ :=
            evaluateExpression_frame.outcome items evaluator context
          have firstDerived := below items context
          simp only [evaluateArguments, evaluateArgument, first] at firstDerived ⊢
          cases result with
          | error error =>
              refine firstDerived.imp ?_ (congrArg _ <| Except.error.inj ·)
              rintro ⟨height, bounded, derivation⟩
              exact ⟨height, bounded, .listFails derivation⟩
          | ok value =>
              obtain ⟨height, bounded, derivation⟩ | limited := firstDerived
              · refine (inductionHypothesis middle).imp ?_ (congrArg (Except.map (value :: ·)))
                rintro ⟨rest, restBounded, others⟩
                exact ⟨max height rest, Nat.max_le.mpr ⟨bounded, restBounded⟩,
                  .list derivation others⟩
              · cases limited
      | _ =>
          refine (inductionHypothesis context).imp ?_ (congrArg (Except.map _))
          rintro ⟨height, bounded, others⟩
          exact ⟨height, bounded, .literal rfl others⟩

/-- What a handler's request and the rest of its run come to together: if the request
is answered within the levels, or the rest of the run raises its error, so is the run. -/
theorem derived_of_answer {yields : Nat → Except EvalError Value → σ → Prop}
    {next : Except EvalError Value → MacroProgram σ (List Value)}
    {answer : Except EvalError Value} {middle : σ}
    (answered : DerivedOrLimited yields levels evaluator.limit
      (answer, evaluator.withContext middle))
    (raises : ∀ error, (next (.error error)).Raises (· ≠ .limit) error)
    (resumed : ∀ value context,
      DerivedOrLimited (ProgramYields evaluator.operators · (next (.ok value)) context) levels
        evaluator.limit
        (runMacro evaluateExpression (next (.ok value)) (evaluator.withContext context))) :
    DerivedOrLimited
      (fun height result after => ∃ first rest, height = max first rest ∧
        yields first answer middle ∧
        ProgramYields evaluator.operators rest (next answer) middle result after)
      levels evaluator.limit
      (runMacro evaluateExpression (next answer) (evaluator.withContext middle)) := by
  cases answer with
  | ok value =>
      obtain ⟨first, firstBounded, derivation⟩ | limited := answered
      · refine (resumed value middle).imp_left ?_
        rintro ⟨rest, restBounded, others⟩
        exact ⟨max first rest, Nat.max_le.mpr ⟨firstBounded, restBounded⟩, first, rest, rfl,
          derivation, others⟩
      · cases limited
  | error error =>
      -- The run ends in the error whatever it is, so a limit error below is one here.
      obtain ⟨raised, ended⟩ := (raises error).yields evaluator middle
      obtain ⟨first, firstBounded, derivation⟩ | limited := answered
      · refine .inl ⟨max first 0, Nat.max_le.mpr ⟨firstBounded, Nat.zero_le _⟩, first, 0, rfl,
          derivation, ?_⟩
        rw [ended]
        exact raised
      · exact .inr (ended.trans (congrArg _ (Except.error.inj limited)))

theorem LevelDerived.program (below : LevelDerived evaluator levels)
    {program : MacroProgram σ (List Value)} (passes : program.PassesErrors (· ≠ .limit))
    (context : σ) :
    DerivedOrLimited (ProgramYields evaluator.operators · program context) levels
      evaluator.limit
      (runMacro evaluateExpression program (evaluator.withContext context)) := by
  induction program generalizing context with
  | finish result => exact .inl ⟨0, Nat.zero_le _, .finish⟩
  | evaluate tree next inductionHypothesis =>
      obtain ⟨answer, middle, requested⟩ : ∃ answer middle,
          evaluate tree (evaluator.withContext context) =
            (answer, evaluator.withContext middle) :=
        ⟨_, _, Prod.ext rfl (evaluate_frame tree (evaluator.withContext context))⟩
      have answered := below.tree tree context
      rw [requested] at answered
      rw [evaluate] at requested
      rw [runMacro, requested]
      refine (derived_of_answer answered passes.2
        fun value => inductionHypothesis (.ok value) (passes.1 value)).imp_left ?_
      rintro ⟨_, bounded, first, rest, rfl, derivation, others⟩
      exact ⟨_, bounded, .evaluate derivation others⟩
  | evaluateItems items next inductionHypothesis =>
      obtain ⟨answer, middle, requested⟩ :=
        evaluateExpression_frame.outcome items evaluator context
      have answered := below items context
      rw [requested] at answered
      rw [runMacro, requested]
      refine (derived_of_answer answered passes.2
        fun value => inductionHypothesis (.ok value) (passes.1 value)).imp_left ?_
      rintro ⟨_, bounded, first, rest, rfl, derivation, others⟩
      exact ⟨_, bounded, .evaluateItems derivation others⟩
  | readContext next inductionHypothesis =>
      refine (inductionHypothesis context (passes context) context).imp_left ?_
      rintro ⟨height, bounded, derivation⟩
      exact ⟨height, bounded, .readContext derivation⟩
  | writeContext written next inductionHypothesis =>
      refine (inductionHypothesis passes written).imp_left ?_
      rintro ⟨height, bounded, derivation⟩
      exact ⟨height, bounded, .writeContext derivation⟩
  | ask query next inductionHypothesis =>
      refine (inductionHypothesis _ (passes.2 _) context).imp_left ?_
      rintro ⟨height, bounded, derivation⟩
      exact ⟨height, bounded,
        .ask (fun other same => answer_eq_of_ne_limit passes.1 same) derivation⟩

theorem LevelDerived.functionCall (below : LevelDerived evaluator levels)
    {name : String} {handler : Function σ}
    (found : evaluator.operators.resolve? name = some (.function handler))
    (arguments : List Value) (context : σ) :
    DerivedOrLimited
      (ExpressionYields evaluator.operators · (.string name :: arguments) context)
      (levels + 1) evaluator.limit
      (applyFunction evaluateExpression handler arguments (evaluator.withContext context)) := by
  obtain ⟨results, middle, evaluated⟩ :=
    evaluateArguments_outcome evaluateExpression_frame arguments evaluator context
  have derived := below.arguments arguments context
  rw [evaluated] at derived
  rw [applyFunction, evaluated]
  cases results with
  | error error =>
      refine derived.imp ?_ (congrArg _ <| Except.error.inj ·)
      rintro ⟨height, bounded, derivation⟩
      exact ⟨height + 1, Nat.succ_le_succ bounded, .argumentFails found derivation⟩
  | ok values =>
      obtain ⟨height, bounded, derivation⟩ | limited := derived
      · exact .inl ⟨height + 1, Nat.succ_le_succ bounded, .applied found derivation rfl⟩
      · cases limited

theorem LevelDerived.macroCall (below : LevelDerived evaluator levels)
    {name : String} {handler : Macro σ}
    (found : evaluator.operators.resolve? name = some (.expander handler))
    {arguments : List Value} (passes : (handler arguments).PassesErrors (· ≠ .limit))
    (context : σ) :
    DerivedOrLimited
      (ExpressionYields evaluator.operators · (.string name :: arguments) context)
      (levels + 1) evaluator.limit
      (applyMacro evaluateExpression handler arguments (evaluator.withContext context)) := by
  obtain ⟨result, middle, ran⟩ :=
    runMacro_outcome evaluateExpression_frame (handler arguments) evaluator context
  have derived := below.program passes context
  rw [ran] at derived
  rw [applyMacro, ran]
  cases result with
  | error error =>
      refine derived.imp ?_ (congrArg _ <| Except.error.inj ·)
      rintro ⟨height, bounded, derivation⟩
      exact ⟨height + 1, Nat.succ_le_succ bounded, .expansionFails found derivation⟩
  | ok expansion =>
      obtain ⟨height, bounded, derivation⟩ | limited := derived
      · refine (below expansion middle).imp_left ?_
        rintro ⟨rest, restBounded, replaced⟩
        exact ⟨max height rest + 1,
          Nat.succ_le_succ (Nat.max_le.mpr ⟨bounded, restBounded⟩),
          .expanded found derivation replaced⟩
      · cases limited

theorem LevelDerived.dispatch (below : LevelDerived evaluator levels)
    (passes : evaluator.operators.MacrosPassErrors (· ≠ .limit))
    (items : List Value) (context : σ) :
    DerivedOrLimited (ExpressionYields evaluator.operators · items context) (levels + 1)
      evaluator.limit
      (dispatch evaluateExpression items (evaluator.withContext context)) := by
  have leaf : 1 ≤ levels + 1 := Nat.succ_le_succ (Nat.zero_le _)
  cases items with
  | nil => exact .inl ⟨1, leaf, .empty⟩
  | cons head arguments =>
      cases head with
      | string name =>
          cases found : evaluator.operators.resolve? name with
          | none =>
              rw [dispatch_unsupported _ _ (evaluator.withContext context) found]
              exact .inl ⟨1, leaf, .unsupported found⟩
          | some operator =>
              cases operator with
              | function handler =>
                  rw [dispatch_function _ _ (evaluator.withContext context) found]
                  exact below.functionCall found arguments context
              | expander handler =>
                  rw [dispatch_expander _ _ (evaluator.withContext context) found]
                  exact below.macroCall found (passes name handler found arguments) context
      | _ => exact .inl ⟨1, leaf, .headNotAString rfl⟩

end Derived

/-- The levels that the limit leaves are enough for every derivation that is no higher. -/
theorem levelDerived (evaluator : Evaluator σ)
    (passes : evaluator.operators.MacrosPassErrors (· ≠ .limit)) :
    LevelDerived evaluator (evaluator.limit - evaluator.depth) := by
  -- The induction is on the levels that are left: everything that a dispatch evaluates
  -- starts with one less.
  generalize left : evaluator.limit - evaluator.depth = levels
  induction levels generalizing evaluator with
  | zero =>
      intro items context
      have full : (evaluator.withContext context).limit ≤ (evaluator.withContext context).depth :=
        Nat.le_of_sub_eq_zero left
      rw [evaluateExpression_of_limit_le full]
      exact .inr rfl
  | succ levels inductionHypothesis =>
      intro items context
      have below : LevelDerived evaluator.deeper levels :=
        inductionHypothesis evaluator.deeper passes
          (by simp only [deeper_limit, deeper_depth]; omega)
      have room :
          (evaluator.withContext context).depth < (evaluator.withContext context).limit := by
        simp only [withContext_limit, withContext_depth]
        omega
      rw [evaluateExpression_of_depth_lt room]
      exact below.dispatch passes items context

/-! ## Exactness -/

/-- **A limit cuts off exactly the derivations that are higher.** An evaluator of a given
limit gives the outcome and the context of a derivation that is no higher, and the limit
error if there is none; so an outcome that is not the limit error stays under every
higher limit. -/
theorem evaluate_exact_under_limit (operators : Operators σ)
    (passes : operators.MacrosPassErrors (· ≠ .limit))
    (tree : Value) (context : σ) (limit : Nat) :
    (∀ height result after, height ≤ limit →
      TreeYields operators height tree context result after →
      evaluate tree (fresh operators limit context) = (result, fresh operators limit after)) ∧
    ((¬ ∃ height result after, height ≤ limit ∧
        TreeYields operators height tree context result after) →
      (evaluate tree (fresh operators limit context)).1 =
        .error (.recursionLimitExceeded limit)) ∧
    (∀ higher, limit ≤ higher →
      (evaluate tree (fresh operators limit context)).1 ≠
        .error (.recursionLimitExceeded limit) →
      (evaluate tree (fresh operators higher context)).1 =
          (evaluate tree (fresh operators limit context)).1 ∧
        (evaluate tree (fresh operators higher context)).2.context =
          (evaluate tree (fresh operators limit context)).2.context) := by
  have follows : ∀ limit height result after, height ≤ limit →
      TreeYields operators height tree context result after →
      evaluate tree (fresh operators limit context) = (result, fresh operators limit after) :=
    fun limit _ _ _ bounded derivation =>
      derivation.evaluates (fresh operators limit context) rfl bounded
  have derived := (levelDerived (fresh operators limit context) passes).tree tree context
  refine ⟨follows limit, ?_, ?_⟩
  · intro none
    obtain ⟨height, bounded, derivation⟩ | limited := derived
    · exact absurd ⟨height, _, _, bounded, derivation⟩ none
    · exact limited
  · intro higher above unlimited
    obtain ⟨height, bounded, derivation⟩ | limited := derived
    · rw [follows higher height _ _ (Nat.le_trans bounded above) derivation]
      exact ⟨rfl, rfl⟩
    · exact absurd limited unlimited

/-- The built-in operators and a macro that expands to a call of itself. -/
def cyclicOperators : Operators Unit :=
  Operators.builtin.insertMacro "loop" fun _ => .finish (.ok [.string "loop"])

theorem resolve?_loop :
    cyclicOperators.resolve? "loop" =
      some (.expander fun _ => .finish (.ok [.string "loop"])) := by
  rw [cyclicOperators, Operators.resolve?_insertMacro, if_pos rfl]

/-- A derivation of the cyclic call would hold a lower one of the same call. -/
theorem loop_yields_nothing {height : Nat} {before after : Unit}
    {result : Except EvalError Value} :
    ¬ ExpressionYields cyclicOperators height [.string "loop"] before result after := by
  induction height using Nat.strongRecOn generalizing before after result with
  | _ height inductionHypothesis =>
      intro derivation
      cases derivation with
      | headNotAString nameless => cases nameless
      | unsupported unknown => rw [resolve?_loop] at unknown; cases unknown
      | applied found _ _ => rw [resolve?_loop] at found; cases found
      | argumentFails found _ => rw [resolve?_loop] at found; cases found
      | expanded found ran replaced =>
          rw [resolve?_loop] at found
          cases found
          cases ran
          exact inductionHypothesis _ (by omega) replaced
      | expansionFails found failed =>
          rw [resolve?_loop] at found
          cases found
          cases failed

theorem evaluate_loop_limited :
    cyclicOperators.MacrosPassErrors (· ≠ .limit) ∧
      (evaluate (.list [.string "loop"]) (fresh cyclicOperators 64 ())).1 =
        .error (.recursionLimitExceeded 64) ∧
      evaluate (.list [.string "identity", .null]) (fresh cyclicOperators 64 ()) =
        (.ok .null, fresh cyclicOperators 64 ()) := by
  have passes : cyclicOperators.MacrosPassErrors (· ≠ .limit) :=
    (Operators.builtin_macrosPassErrors _).insertMacro "loop" fun _ => trivial
  refine ⟨passes, (evaluate_exact_under_limit _ passes _ () 64).2.1 ?_,
    (evaluate_exact_under_limit _ passes _ () 64).1 1 _ () (by omega) (.list ?_)⟩
  · rintro ⟨height, result, after, -, derivation | noList⟩
    · exact loop_yields_nothing derivation
    · cases noList
  · have found : cyclicOperators.resolve? "identity" = some (.function Builtin.identity) := rfl
    exact .applied found (.literal rfl .nil) rfl

end RuleTree
