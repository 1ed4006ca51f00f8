import RuleTree.Evaluator
import RuleTree.Proofs.Evaluation.Handler

/-!
Contract: what one level of evaluation does to the evaluator.

An evaluation can change the context and nothing else: the registry, the limit and
the counter are afterwards what they were, whatever the result is
(`evaluateExpression_frame`). The levels that the recursion is given are therefore
always those that the limit leaves, and evaluation satisfies an equation that no
longer mentions them (`evaluateExpression_of_depth_lt`).

Owns: the frame of an evaluation, runs in lockstep, and the two equations of a level.
Does not own: what any operator does with the context.
-/

namespace RuleTree.Evaluator

variable {σ α : Type}

/-! ## Contexts and levels of an evaluator -/

/-- The evaluator with another context. -/
def withContext (evaluator : Evaluator σ) (context : σ) : Evaluator σ :=
  { evaluator with context := context }

/-- The evaluator in one more level. -/
def deeper (evaluator : Evaluator σ) : Evaluator σ :=
  { evaluator with depth := evaluator.depth + 1 }

/-- An evaluator before its first evaluation. -/
def fresh (operators : Operators σ) (limit : Nat) (context : σ) : Evaluator σ where
  context := context
  operators := operators
  limit := limit

/-- An evaluator in the middle of an evaluation, with some levels entered. -/
def entered (operators : Operators σ) (limit : Nat) (context : σ) (depth : Nat) :
    Evaluator σ :=
  { fresh operators limit context with depth := depth }

section Fields

variable (evaluator : Evaluator σ) (context other : σ)

@[simp] theorem withContext_context : (evaluator.withContext context).context = context := rfl

@[simp] theorem withContext_limit : (evaluator.withContext context).limit = evaluator.limit := rfl

@[simp] theorem withContext_depth : (evaluator.withContext context).depth = evaluator.depth := rfl

@[simp] theorem withContext_withContext :
    (evaluator.withContext context).withContext other = evaluator.withContext other := rfl

@[simp] theorem deeper_limit : evaluator.deeper.limit = evaluator.limit := rfl

@[simp] theorem deeper_depth : evaluator.deeper.depth = evaluator.depth + 1 := rfl

@[simp] theorem deeper_withContext :
    (evaluator.withContext context).deeper = evaluator.deeper.withContext context := rfl

end Fields

/-- Queries but the one for the limit are about the registry. -/
theorem answer_eq_of_ne_limit {query : Query} (notLimit : query ≠ .limit)
    {left right : Evaluator σ} (same : left.operators = right.operators) :
    left.answer query = right.answer query := by
  cases query with
  | limit => exact absurd rfl notLimit
  | allowedOperators => exact congrArg Operators.functionNames same
  | supports name => exact congrArg (Operators.contains · name) same
  | isMacro name => exact congrArg (Operators.isMacro · name) same

theorem answer_congr {left right : Evaluator σ} (sameOperators : left.operators = right.operators)
    (sameLimit : left.limit = right.limit) (query : Query) :
    left.answer query = right.answer query := by
  by_cases asksLimit : query = .limit
  · subst asksLimit
    exact sameLimit
  · exact answer_eq_of_ne_limit asksLimit sameOperators

/-! ## Dispatch, head by head -/

section Dispatch

variable (enter : Enter σ) (arguments : List Value) (evaluator : Evaluator σ) {name : String}

theorem dispatch_function {handler : Function σ}
    (found : evaluator.operators.resolve? name = some (.function handler)) :
    dispatch enter (.string name :: arguments) evaluator =
      applyFunction enter handler arguments evaluator := by
  simp only [dispatch, found]

theorem dispatch_expander {handler : Macro σ}
    (found : evaluator.operators.resolve? name = some (.expander handler)) :
    dispatch enter (.string name :: arguments) evaluator =
      applyMacro enter handler arguments evaluator := by
  simp only [dispatch, found]

theorem dispatch_unsupported (unknown : evaluator.operators.resolve? name = none) :
    dispatch enter (.string name :: arguments) evaluator =
      (.error (.unsupportedOperator name), evaluator) := by
  simp only [dispatch, unknown]

theorem dispatch_nameless {head : Value} (nameless : head.string? = none) :
    dispatch enter (head :: arguments) evaluator =
      (.error (.headNotAString head), evaluator) := by
  cases head with
  | string name => simp [Value.string?] at nameless
  | _ => rfl

end Dispatch

/-- What is no list stands for itself. -/
theorem evaluateArgument_literal {value : Value} (noList : value.items? = none)
    (enter : Enter σ) (evaluator : Evaluator σ) :
    evaluateArgument enter value evaluator = (.ok value, evaluator) := by
  cases value with
  | list items => simp [Value.items?] at noList
  | _ => rfl

/-- What is no list is no tree to evaluate. -/
theorem enterTree_literal {tree : Value} (noList : tree.items? = none)
    (enter : Enter σ) (evaluator : Evaluator σ) :
    enterTree enter tree evaluator = (.error (.notAList tree), evaluator) := by
  cases tree with
  | list items => simp [Value.items?] at noList
  | _ => rfl

/-! ## Runs in lockstep

Two runs of one dispatch stay related when the evaluations below them do. The runs may part
where the first one comes to a fatal error, as that is then what it ends in: no handler goes
on after it. -/

/-- One result, and evaluators that are still related. -/
def Agree
    (related : Evaluator σ → Evaluator σ → Prop)
    (left right : Outcome σ α) : Prop :=
  left.1 = right.1 ∧ related left.2 right.2

/-- Outcomes that agree unless the first one is a fatal error. -/
def AgreeUnless
    (fatal : EvalError → Prop)
    (related : Evaluator σ → Evaluator σ → Prop)
    (left right : Outcome σ α) : Prop :=
  (∃ error, fatal error ∧ left.1 = .error error) ∨ Agree related left right

/-- Evaluations of the next level that keep evaluators related. -/
def EntersAlike
    (related : Evaluator σ → Evaluator σ → Prop)
    (first second : Enter σ) : Prop :=
  ∀ items {left right}, related left right →
    Agree related (first items left) (second items right)

/-- Evaluations of the next level that do so unless the first one ends in a fatal error. -/
def EntersAlikeUnless
    (fatal : EvalError → Prop)
    (related : Evaluator σ → Evaluator σ → Prop)
    (first second : Enter σ) : Prop :=
  ∀ items {left right}, related left right →
    AgreeUnless fatal related (first items left) (second items right)

/-- Evaluators that no handler can tell apart, now or after a change of context. -/
structure Lockstep (related : Evaluator σ → Evaluator σ → Prop) : Prop where
  context : ∀ {left right}, related left right → left.context = right.context
  withContext : ∀ {left right}, related left right →
    ∀ context, related (left.withContext context) (right.withContext context)
  answer : ∀ {left right}, related left right → ∀ query, left.answer query = right.answer query
  resolve? : ∀ {left right}, related left right →
    ∀ name, left.operators.resolve? name = right.operators.resolve? name

/-- Evaluators that the handlers of the first one cannot tell apart: they put permitted
queries only and let fatal errors through, and to find an operator in the second one alone
is fatal. -/
structure LockstepUnless
    (fatal : EvalError → Prop)
    (permitted : Query → Prop)
    (related : Evaluator σ → Evaluator σ → Prop) : Prop where
  context : ∀ {left right}, related left right → left.context = right.context
  withContext : ∀ {left right}, related left right →
    ∀ context, related (left.withContext context) (right.withContext context)
  answer : ∀ {left right}, related left right →
    ∀ query, permitted query → left.answer query = right.answer query
  resolve? : ∀ {left right}, related left right →
    ∀ name, left.operators.resolve? name = right.operators.resolve? name ∨
      (left.operators.resolve? name = none ∧ fatal (.unsupportedOperator name))
  asksOnly : ∀ {left right}, related left right → left.operators.MacrosAskOnly permitted
  letThrough : ∀ {left right}, related left right → left.operators.MacrosLetThrough fatal

section Fatal

variable {fatal : EvalError → Prop} {permitted : Query → Prop}
  {related : Evaluator σ → Evaluator σ → Prop}

theorem Agree.outcomes
    {left right : Outcome σ α}
    (agree : Agree related left right) :
    ∃ result leftAfter rightAfter,
      left = (result, leftAfter) ∧ right = (result, rightAfter) ∧
        related leftAfter rightAfter :=
  ⟨left.1, left.2, right.2, rfl, Prod.ext agree.1.symm rfl, agree.2⟩

theorem AgreeUnless.outcomes
    {left right : Outcome σ α}
    (agree : AgreeUnless fatal related left right) :
    (∃ error leftAfter, fatal error ∧ left = (.error error, leftAfter)) ∨
      ∃ result leftAfter rightAfter,
        left = (result, leftAfter) ∧ right = (result, rightAfter) ∧
          related leftAfter rightAfter := by
  refine agree.imp ?_ Agree.outcomes
  rintro ⟨error, isFatal, failed⟩
  exact ⟨error, left.2, isFatal, Prod.ext failed rfl⟩

theorem agreeUnless_of_fatal {error : EvalError} (isFatal : fatal error)
    {after : Evaluator σ} {right : Outcome σ α} :
    AgreeUnless fatal related (.error error, after) right :=
  .inl ⟨error, isFatal, rfl⟩

theorem AgreeUnless.agree {left right : Outcome σ α}
    (agree : AgreeUnless (fun _ => False) related left right) : Agree related left right :=
  agree.resolve_left fun ⟨_, isFatal, _⟩ => isFatal

theorem EntersAlike.unless {first second : Enter σ} (enters : EntersAlike related first second) :
    EntersAlikeUnless (fun _ => False) related first second :=
  fun items _ _ start => .inr (enters items start)

theorem Lockstep.unless (lockstep : Lockstep related) :
    LockstepUnless (fun _ => False) (fun _ => True) related where
  context := lockstep.context
  withContext := lockstep.withContext
  answer := fun start query _ => lockstep.answer start query
  resolve? := fun start name => .inl (lockstep.resolve? start name)
  asksOnly := fun _ _ _ _ _ => MacroProgram.asksOnly_true _
  letThrough := fun _ _ _ _ _ => MacroProgram.letsThrough_false _

/-- The rest of a run that ends in an error ends in it under every evaluation of the next
level. -/
theorem runMacro_of_endsIn {program : MacroProgram σ α} {error : EvalError}
    (ends : program.EndsIn error) (enter : Enter σ) (evaluator : Evaluator σ) :
    (runMacro enter program evaluator).1 = .error error := by
  induction program generalizing evaluator with
  | finish result => exact ends
  | evaluate tree next inductionHypothesis => exact inductionHypothesis _ (ends _) _
  | evaluateItems items next inductionHypothesis => exact inductionHypothesis _ (ends _) _
  | readContext next inductionHypothesis => exact inductionHypothesis _ (ends _) evaluator
  | writeContext context next inductionHypothesis => exact inductionHypothesis ends _
  | ask query next inductionHypothesis => exact inductionHypothesis _ (ends _) evaluator

variable {first second : Enter σ} {left right : Evaluator σ}

theorem enterTree_agreeUnless (enters : EntersAlikeUnless fatal related first second)
    (tree : Value) (start : related left right) :
    AgreeUnless fatal related (enterTree first tree left) (enterTree second tree right) := by
  cases tree with
  | list items => exact enters items start
  | _ => exact .inr ⟨rfl, start⟩

theorem evaluateArgument_agreeUnless (enters : EntersAlikeUnless fatal related first second)
    (argument : Value) (start : related left right) :
    AgreeUnless fatal related (evaluateArgument first argument left)
      (evaluateArgument second argument right) := by
  cases argument with
  | list items => exact enters items start
  | _ => exact .inr ⟨rfl, start⟩

theorem evaluateArguments_agreeUnless (enters : EntersAlikeUnless fatal related first second)
    (arguments : List Value) (start : related left right) :
    AgreeUnless fatal related (evaluateArguments first arguments left)
      (evaluateArguments second arguments right) := by
  induction arguments generalizing left right with
  | nil => exact .inr ⟨rfl, start⟩
  | cons argument arguments inductionHypothesis =>
      obtain ⟨error, leftAfter, isFatal, leftHead⟩ |
          ⟨result, leftAfter, rightAfter, leftHead, rightHead, after⟩ :=
        (evaluateArgument_agreeUnless enters argument start).outcomes
      · simp only [evaluateArguments, leftHead]
        exact agreeUnless_of_fatal isFatal
      · simp only [evaluateArguments, leftHead, rightHead]
        cases result with
        | error error => exact .inr ⟨rfl, after⟩
        | ok value =>
            refine (inductionHypothesis after).imp ?_ ?_
            · rintro ⟨error, isFatal, failed⟩
              exact ⟨error, isFatal, congrArg (Except.map (value :: ·)) failed⟩
            · rintro ⟨sameResults, final⟩
              exact ⟨congrArg (Except.map (value :: ·)) sameResults, final⟩

theorem runMacro_agreeUnless (lockstep : LockstepUnless fatal permitted related)
    (enters : EntersAlikeUnless fatal related first second)
    {program : MacroProgram σ α} (asks : program.AsksOnly permitted)
    (lets : program.LetsThrough fatal) (start : related left right) :
    AgreeUnless fatal related (runMacro first program left) (runMacro second program right) := by
  induction program generalizing left right with
  | finish result => exact .inr ⟨rfl, start⟩
  | evaluate tree next inductionHypothesis =>
      obtain ⟨error, isFatal, failed⟩ | ⟨sameResult, after⟩ :=
        enterTree_agreeUnless enters tree start
      · refine .inl ⟨error, isFatal, ?_⟩
        simp only [runMacro]
        rw [failed]
        exact runMacro_of_endsIn (lets.2 error isFatal) first _
      · simp only [runMacro]
        rw [sameResult]
        exact inductionHypothesis _ (asks _) (lets.1 _) after
  | evaluateItems items next inductionHypothesis =>
      obtain ⟨error, isFatal, failed⟩ | ⟨sameResult, after⟩ := enters items start
      · refine .inl ⟨error, isFatal, ?_⟩
        simp only [runMacro]
        rw [failed]
        exact runMacro_of_endsIn (lets.2 error isFatal) first _
      · simp only [runMacro]
        rw [sameResult]
        exact inductionHypothesis _ (asks _) (lets.1 _) after
  | readContext next inductionHypothesis =>
      simp only [runMacro]
      rw [lockstep.context start]
      exact inductionHypothesis _ (asks _) (lets _) start
  | writeContext context next inductionHypothesis =>
      exact inductionHypothesis asks lets (lockstep.withContext start context)
  | ask query next inductionHypothesis =>
      simp only [runMacro]
      rw [lockstep.answer start query asks.1]
      exact inductionHypothesis _ (asks.2 _) (lets _) start

theorem applyMacro_agreeUnless (lockstep : LockstepUnless fatal permitted related)
    (enters : EntersAlikeUnless fatal related first second)
    {handler : Macro σ} {arguments : List Value}
    (asks : (handler arguments).AsksOnly permitted)
    (lets : (handler arguments).LetsThrough fatal) (start : related left right) :
    AgreeUnless fatal related (applyMacro first handler arguments left)
      (applyMacro second handler arguments right) := by
  obtain ⟨error, leftAfter, isFatal, leftRun⟩ |
      ⟨result, leftAfter, rightAfter, leftRun, rightRun, after⟩ :=
    (runMacro_agreeUnless lockstep enters asks lets start).outcomes
  · simp only [applyMacro, leftRun]
    exact agreeUnless_of_fatal isFatal
  · simp only [applyMacro, leftRun, rightRun]
    cases result with
    | error error => exact .inr ⟨rfl, after⟩
    | ok expansion => exact enters expansion after

theorem applyFunction_agreeUnless (lockstep : LockstepUnless fatal permitted related)
    (enters : EntersAlikeUnless fatal related first second)
    (handler : Function σ) (arguments : List Value) (start : related left right) :
    AgreeUnless fatal related (applyFunction first handler arguments left)
      (applyFunction second handler arguments right) := by
  obtain ⟨error, leftAfter, isFatal, leftRun⟩ |
      ⟨result, leftAfter, rightAfter, leftRun, rightRun, after⟩ :=
    (evaluateArguments_agreeUnless enters arguments start).outcomes
  · simp only [applyFunction, leftRun]
    exact agreeUnless_of_fatal isFatal
  · simp only [applyFunction, leftRun, rightRun]
    cases result with
    | error error => exact .inr ⟨rfl, after⟩
    | ok values =>
        simp only [lockstep.context after]
        exact .inr ⟨rfl, lockstep.withContext after _⟩

theorem dispatch_agreeUnless (lockstep : LockstepUnless fatal permitted related)
    (enters : EntersAlikeUnless fatal related first second)
    (items : List Value) (start : related left right) :
    AgreeUnless fatal related (dispatch first items left) (dispatch second items right) := by
  cases items with
  | nil => exact .inr ⟨rfl, start⟩
  | cons head arguments =>
      cases head with
      | string name =>
          obtain sameOperator | ⟨unknown, isFatal⟩ := lockstep.resolve? start name
          · cases found : left.operators.resolve? name with
            | none =>
                rw [dispatch_unsupported _ _ _ found,
                  dispatch_unsupported _ _ _ (sameOperator.symm.trans found)]
                exact .inr ⟨rfl, start⟩
            | some operator =>
                cases operator with
                | function handler =>
                    rw [dispatch_function _ _ _ found,
                      dispatch_function _ _ _ (sameOperator.symm.trans found)]
                    exact applyFunction_agreeUnless lockstep enters handler arguments start
                | expander handler =>
                    rw [dispatch_expander _ _ _ found,
                      dispatch_expander _ _ _ (sameOperator.symm.trans found)]
                    exact applyMacro_agreeUnless lockstep enters
                      (lockstep.asksOnly start name handler found arguments)
                      (lockstep.letThrough start name handler found arguments) start
          · rw [dispatch_unsupported _ _ _ unknown]
            exact agreeUnless_of_fatal isFatal
      | _ => exact .inr ⟨rfl, start⟩

/-- Runs that nothing tells apart agree whatever they come to. -/
theorem dispatch_agree (lockstep : Lockstep related) (enters : EntersAlike related first second)
    (items : List Value) (start : related left right) :
    Agree related (dispatch first items left) (dispatch second items right) :=
  (dispatch_agreeUnless lockstep.unless enters.unless items start).agree

end Fatal

/-! ## The frame of an evaluation -/

/-- The evaluations of the next level change the context at most. -/
def KeepsFrame (enter : Enter σ) : Prop :=
  ∀ items evaluator,
    (enter items evaluator).2 = evaluator.withContext (enter items evaluator).2.context

/-- One evaluator seen twice, in the frame of a given one. -/
def Within (base left right : Evaluator σ) : Prop :=
  left = right ∧ right = base.withContext right.context

theorem Within.refl (base : Evaluator σ) : Within base base base :=
  ⟨rfl, rfl⟩

theorem lockstep_within (base : Evaluator σ) : Lockstep (Within base) where
  context := by
    rintro left right ⟨rfl, -⟩
    rfl
  withContext := by
    rintro left right ⟨rfl, framed⟩ context
    exact ⟨rfl, by rw [framed]; rfl⟩
  answer := by
    rintro left right ⟨rfl, -⟩ query
    rfl
  resolve? := by
    rintro left right ⟨rfl, -⟩ name
    rfl

theorem KeepsFrame.entersAlike {first second : Enter σ} (keeps : KeepsFrame first)
    (base : Evaluator σ)
    (same : ∀ items context,
      first items (base.withContext context) = second items (base.withContext context)) :
    EntersAlike (Within base) first second := by
  rintro items left right ⟨rfl, framed⟩
  have after := keeps items left
  rw [framed] at after ⊢
  rw [← same]
  exact ⟨rfl, rfl, after⟩

theorem Agree.frame {base : Evaluator σ} {left right : Outcome σ α}
    (agree : Agree (Within base) left right) :
    left.2 = base.withContext left.2.context := by
  obtain ⟨-, same, framed⟩ := agree
  rw [same]
  exact framed

theorem Agree.eq {base : Evaluator σ} {left right : Outcome σ α}
    (agree : Agree (Within base) left right) : left = right :=
  Prod.ext agree.1 agree.2.1

section Frame

variable {enter : Enter σ}

theorem enterTree_frame (keeps : KeepsFrame enter) (tree : Value) (evaluator : Evaluator σ) :
    (enterTree enter tree evaluator).2 =
      evaluator.withContext (enterTree enter tree evaluator).2.context :=
  (enterTree_agreeUnless (keeps.entersAlike evaluator fun _ _ => rfl).unless tree
    (.refl evaluator)).agree.frame

theorem evaluateArgument_frame (keeps : KeepsFrame enter) (argument : Value)
    (evaluator : Evaluator σ) :
    (evaluateArgument enter argument evaluator).2 =
      evaluator.withContext (evaluateArgument enter argument evaluator).2.context :=
  (evaluateArgument_agreeUnless (keeps.entersAlike evaluator fun _ _ => rfl).unless argument
    (.refl evaluator)).agree.frame

theorem evaluateArguments_frame (keeps : KeepsFrame enter) (arguments : List Value)
    (evaluator : Evaluator σ) :
    (evaluateArguments enter arguments evaluator).2 =
      evaluator.withContext (evaluateArguments enter arguments evaluator).2.context :=
  (evaluateArguments_agreeUnless (keeps.entersAlike evaluator fun _ _ => rfl).unless arguments
    (.refl evaluator)).agree.frame

theorem runMacro_frame (keeps : KeepsFrame enter) (program : MacroProgram σ α)
    (evaluator : Evaluator σ) :
    (runMacro enter program evaluator).2 =
      evaluator.withContext (runMacro enter program evaluator).2.context :=
  (runMacro_agreeUnless (lockstep_within evaluator).unless
    (keeps.entersAlike evaluator fun _ _ => rfl).unless program.asksOnly_true
    program.letsThrough_false (.refl evaluator)).agree.frame

theorem dispatch_frame (keeps : KeepsFrame enter) : KeepsFrame (dispatch enter) :=
  fun items evaluator =>
    (dispatch_agree (lockstep_within evaluator) (keeps.entersAlike evaluator fun _ _ => rfl)
      items (.refl evaluator)).frame

theorem KeepsFrame.outcome (keeps : KeepsFrame enter) (items : List Value)
    (evaluator : Evaluator σ) (context : σ) :
    ∃ result after,
      enter items (evaluator.withContext context) = (result, evaluator.withContext after) :=
  ⟨_, _, Prod.ext rfl (keeps items (evaluator.withContext context))⟩

theorem evaluateArguments_outcome (keeps : KeepsFrame enter) (arguments : List Value)
    (evaluator : Evaluator σ) (context : σ) :
    ∃ results after,
      evaluateArguments enter arguments (evaluator.withContext context) =
        (results, evaluator.withContext after) :=
  ⟨_, _, Prod.ext rfl (evaluateArguments_frame keeps arguments (evaluator.withContext context))⟩

theorem runMacro_outcome (keeps : KeepsFrame enter) (program : MacroProgram σ α)
    (evaluator : Evaluator σ) (context : σ) :
    ∃ result after,
      runMacro enter program (evaluator.withContext context) =
        (result, evaluator.withContext after) :=
  ⟨_, _, Prod.ext rfl (runMacro_frame keeps program (evaluator.withContext context))⟩

/-- Dispatch depends on the next level only for evaluators in its own frame. -/
theorem dispatch_congr {other : Enter σ} (keeps : KeepsFrame enter) (items : List Value)
    (evaluator : Evaluator σ)
    (same : ∀ items context,
      enter items (evaluator.withContext context) =
        other items (evaluator.withContext context)) :
    dispatch enter items evaluator = dispatch other items evaluator :=
  (dispatch_agree (lockstep_within evaluator) (keeps.entersAlike evaluator same) items
    (.refl evaluator)).eq

end Frame

/-! ## The equations of a level -/

theorem evaluateWithin_frame (levels : Nat) :
    KeepsFrame (evaluateWithin levels : Enter σ) := by
  induction levels with
  | zero => exact fun _ _ => rfl
  | succ levels inductionHypothesis =>
      intro items evaluator
      unfold evaluateWithin
      split
      · rfl
      · have framed := dispatch_frame inductionHypothesis items evaluator.deeper
        exact congrArg (fun after : Evaluator σ => { after with depth := after.depth - 1 }) framed

theorem evaluateExpression_frame :
    KeepsFrame (evaluateExpression : Enter σ) :=
  fun items evaluator => evaluateWithin_frame (evaluator.limit - evaluator.depth) items evaluator

theorem evaluate_frame (tree : Value) (evaluator : Evaluator σ) :
    (evaluate tree evaluator).2 = evaluator.withContext (evaluate tree evaluator).2.context :=
  enterTree_frame evaluateExpression_frame tree evaluator

/-- A level beyond the limit is refused before anything else is looked at. -/
theorem evaluateExpression_of_limit_le {evaluator : Evaluator σ}
    (full : evaluator.limit ≤ evaluator.depth) (items : List Value) :
    evaluateExpression items evaluator =
      (.error (.recursionLimitExceeded evaluator.limit), evaluator) := by
  unfold evaluateExpression
  rw [Nat.sub_eq_zero_of_le full]
  rfl

/-- A level within the limit is a dispatch whose evaluations are one level deeper. -/
theorem evaluateExpression_of_depth_lt {evaluator : Evaluator σ}
    (room : evaluator.depth < evaluator.limit) (items : List Value) :
    evaluateExpression items evaluator =
      ((dispatch evaluateExpression items evaluator.deeper).1,
        evaluator.withContext (dispatch evaluateExpression items evaluator.deeper).2.context) := by
  obtain ⟨levels, left⟩ : ∃ levels, evaluator.limit - evaluator.depth = levels + 1 :=
    ⟨evaluator.limit - evaluator.depth - 1, by omega⟩
  -- All evaluators that a dispatch comes to are in one frame, so the levels that it was
  -- given are in each of them those that the limit leaves.
  have dispatched : dispatch (evaluateWithin levels) items evaluator.deeper =
      dispatch evaluateExpression items evaluator.deeper := by
    apply dispatch_congr (evaluateWithin_frame levels)
    intro items context
    have below : evaluator.limit - (evaluator.depth + 1) = levels := by omega
    simp only [evaluateExpression, withContext_limit, withContext_depth, deeper_limit,
      deeper_depth, below]
  have framed := dispatch_frame evaluateExpression_frame items evaluator.deeper
  have entered : evaluateExpression items evaluator =
      ((dispatch (evaluateWithin levels) items evaluator.deeper).1,
        { (dispatch (evaluateWithin levels) items evaluator.deeper).2 with
          depth := (dispatch (evaluateWithin levels) items evaluator.deeper).2.depth - 1 }) := by
    simp only [evaluateExpression, left, evaluateWithin]
    rw [if_neg (by omega)]
    rfl
  rw [entered, dispatched, framed]
  rfl

/-- A dispatch one level down, with its contexts written out. -/
theorem evaluateExpression_of_dispatch {evaluator : Evaluator σ} {items : List Value}
    {before after : σ} {result : Except EvalError Value}
    (room : evaluator.depth < evaluator.limit)
    (dispatched : dispatch evaluateExpression items (evaluator.deeper.withContext before) =
      (result, evaluator.deeper.withContext after)) :
    evaluateExpression items (evaluator.withContext before) =
      (result, evaluator.withContext after) := by
  have roomBefore : (evaluator.withContext before).depth < (evaluator.withContext before).limit :=
    room
  rw [evaluateExpression_of_depth_lt roomBefore, deeper_withContext, dispatched]
  rfl

end RuleTree.Evaluator
