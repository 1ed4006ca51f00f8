import RuleTree.Proofs.Evaluation.Level

/-!
Contract: an evaluation that keeps a record of what happens in it.

The record holds a moment for each evaluation that is asked for, dispatched, finished
and answered, and for each turn of a macro handler, always with the evaluator as it is
then. The record is only looked at: without it the run is the run of the evaluator
(`observe_evaluates`). Nor does it miss a dispatch: the run is also that of any evaluator
whose dispatch is the same at the moments on the record (`observe_outcome`).

Owns: moments and recorded runs. Does not own: what holds of the moments (`History`).
-/

namespace RuleTree

variable {σ α : Type}

/-! ## Moments -/

/-- A moment of a run, with the evaluator as it is then. -/
inductive Moment (σ : Type) where
  /-- An evaluation is asked for; nothing is checked or counted yet. -/
  | asked (items : List Value) (evaluator : Evaluator σ)
  /-- An expression is dispatched; its level is counted. -/
  | dispatched (items : List Value) (evaluator : Evaluator σ)
  /-- A macro handler has its turn. -/
  | turn (evaluator : Evaluator σ)
  /-- A dispatch has ended; its level is still counted. -/
  | finished (evaluator : Evaluator σ)
  /-- What was asked for with the first evaluator has a result. -/
  | answered (entry : Evaluator σ) (result : Except EvalError Value) (evaluator : Evaluator σ)

def Moment.evaluator : Moment σ → Evaluator σ
  | .asked _ evaluator => evaluator
  | .dispatched _ evaluator => evaluator
  | .turn evaluator => evaluator
  | .finished evaluator => evaluator
  | .answered _ _ evaluator => evaluator

/-- A level is counted when it is counted down, and an answer finds the counter where
the question left it. -/
def Moment.Balanced : Moment σ → Prop
  | .finished evaluator => 0 < evaluator.depth
  | .answered entry _ evaluator => evaluator.depth = entry.depth
  | _ => True

namespace Evaluator

/-! ## Recorded runs -/

/-- An outcome and the moments that led to it. -/
abbrev Observed (σ α : Type) := Outcome σ α × List (Moment σ)

/-- The recorded evaluation of an expression at the next level. -/
abbrev Observe (σ : Type) := List Value → Evaluator σ → Observed σ Value

/-- An answer that is given without any evaluation. -/
def answerAtOnce (result : Except EvalError Value) (evaluator : Evaluator σ) :
    Observed σ Value :=
  ((result, evaluator), [.answered evaluator result evaluator])

def observeTree
    (enter : Observe σ)
    (tree : Value)
    (evaluator : Evaluator σ) : Observed σ Value :=
  match tree with
  | .list items => enter items evaluator
  | found => answerAtOnce (.error (.notAList found)) evaluator

def observeArgument
    (enter : Observe σ)
    (argument : Value)
    (evaluator : Evaluator σ) : Observed σ Value :=
  match argument with
  | .list items => enter items evaluator
  | literal => ((.ok literal, evaluator), [])

def observeArguments (enter : Observe σ) :
    List Value → Evaluator σ → Observed σ (List Value)
  | [], evaluator => ((.ok [], evaluator), [])
  | argument :: arguments, evaluator =>
    match observeArgument enter argument evaluator with
    | ((.error error, evaluator), moments) => ((.error error, evaluator), moments)
    | ((.ok value, evaluator), moments) =>
      let ((results, evaluator), others) := observeArguments enter arguments evaluator
      ((results.map (value :: ·), evaluator), moments ++ others)

def observeMacro (enter : Observe σ) : MacroProgram σ α → Evaluator σ → Observed σ α
  | .finish result, evaluator => ((result, evaluator), [.turn evaluator])
  | .evaluate tree next, evaluator =>
    let ((result, after), moments) := observeTree enter tree evaluator
    let (outcome, others) := observeMacro enter (next result) after
    (outcome, .turn evaluator :: moments ++ others)
  | .evaluateItems items next, evaluator =>
    let ((result, after), moments) := enter items evaluator
    let (outcome, others) := observeMacro enter (next result) after
    (outcome, .turn evaluator :: moments ++ others)
  | .readContext next, evaluator =>
    let (outcome, others) := observeMacro enter (next evaluator.context) evaluator
    (outcome, .turn evaluator :: others)
  | .writeContext context next, evaluator =>
    let (outcome, others) := observeMacro enter next { evaluator with context := context }
    (outcome, .turn evaluator :: others)
  | .ask query next, evaluator =>
    let (outcome, others) := observeMacro enter (next (evaluator.answer query)) evaluator
    (outcome, .turn evaluator :: others)

def observeMacroCall
    (enter : Observe σ)
    (handler : Macro σ)
    (arguments : List Value)
    (evaluator : Evaluator σ) : Observed σ Value :=
  match observeMacro enter (handler arguments) evaluator with
  | ((.ok expansion, evaluator), moments) =>
    let (outcome, others) := enter expansion evaluator
    (outcome, moments ++ others)
  | ((.error error, evaluator), moments) => ((.error error, evaluator), moments)

def observeFunctionCall
    (enter : Observe σ)
    (handler : Function σ)
    (arguments : List Value)
    (evaluator : Evaluator σ) : Observed σ Value :=
  match observeArguments enter arguments evaluator with
  | ((.ok values, evaluator), moments) =>
    let (result, context) := handler values evaluator.context
    ((result, { evaluator with context := context }), moments)
  | ((.error error, evaluator), moments) => ((.error error, evaluator), moments)

def observeDispatch
    (enter : Observe σ)
    (items : List Value)
    (evaluator : Evaluator σ) : Observed σ Value :=
  match items with
  | [] => ((.error .emptyExpression, evaluator), [])
  | .string name :: arguments =>
    match evaluator.operators.resolve? name with
    | some (.expander handler) => observeMacroCall enter handler arguments evaluator
    | some (.function handler) => observeFunctionCall enter handler arguments evaluator
    | none => ((.error (.unsupportedOperator name), evaluator), [])
  | head :: _ => ((.error (.headNotAString head), evaluator), [])

def observeWithin : (levels : Nat) → Observe σ
  | 0, items, evaluator =>
    let (outcome, moments) :=
      answerAtOnce (.error (.recursionLimitExceeded evaluator.limit)) evaluator
    (outcome, .asked items evaluator :: moments)
  | levels + 1, items, evaluator =>
    if evaluator.limit ≤ evaluator.depth then
      let (outcome, moments) :=
        answerAtOnce (.error (.recursionLimitExceeded evaluator.limit)) evaluator
      (outcome, .asked items evaluator :: moments)
    else
      let inside := { evaluator with depth := evaluator.depth + 1 }
      let ((result, after), moments) := observeDispatch (observeWithin levels) items inside
      let left := { after with depth := after.depth - 1 }
      ((result, left),
        .asked items evaluator :: .dispatched items inside :: moments ++
          [.finished after, .answered evaluator result left])

/-- Evaluate an expression on the record. -/
def observeExpression (items : List Value) (evaluator : Evaluator σ) : Observed σ Value :=
  observeWithin (evaluator.limit - evaluator.depth) items evaluator

/-- Evaluate a tree on the record. -/
def observe (tree : Value) (evaluator : Evaluator σ) : Observed σ Value :=
  observeTree observeExpression tree evaluator

/-! ## The record changes nothing and misses nothing

What a recorded run comes to is what the plain run comes to. For that, the plain
evaluation of the next level has to follow the recorded one only where the moments of
the recorded one are trusted. -/

section Outcome

variable {enter : Observe σ} {plain : Enter σ} {trusted : Moment σ → Prop}
  (follows : ∀ items evaluator, (∀ moment ∈ (enter items evaluator).2, trusted moment) →
    (enter items evaluator).1 = plain items evaluator)
include follows

theorem observeTree_outcome (tree : Value) (evaluator : Evaluator σ)
    (trusts : ∀ moment ∈ (observeTree enter tree evaluator).2, trusted moment) :
    (observeTree enter tree evaluator).1 = enterTree plain tree evaluator := by
  cases tree with
  | list items => exact follows items evaluator trusts
  | _ => rfl

theorem observeArgument_outcome (argument : Value) (evaluator : Evaluator σ)
    (trusts : ∀ moment ∈ (observeArgument enter argument evaluator).2, trusted moment) :
    (observeArgument enter argument evaluator).1 = evaluateArgument plain argument evaluator := by
  cases argument with
  | list items => exact follows items evaluator trusts
  | _ => rfl

theorem observeArguments_outcome (arguments : List Value) (evaluator : Evaluator σ)
    (trusts : ∀ moment ∈ (observeArguments enter arguments evaluator).2, trusted moment) :
    (observeArguments enter arguments evaluator).1 =
      evaluateArguments plain arguments evaluator := by
  induction arguments generalizing evaluator with
  | nil => rfl
  | cons argument arguments inductionHypothesis =>
      have head := observeArgument_outcome follows argument evaluator
      rw [observeArguments] at trusts ⊢
      rw [evaluateArguments]
      rcases observed : observeArgument enter argument evaluator with ⟨⟨result, after⟩, moments⟩
      rw [observed] at head trusts
      cases result with
      | error error => rw [← head trusts]
      | ok value =>
          have tail := inductionHypothesis after
            fun moment member => trusts moment (List.mem_append_right _ member)
          rw [← head fun moment member => trusts moment (List.mem_append_left _ member)]
          simp only
          rw [← tail]

theorem observeMacro_outcome (program : MacroProgram σ α) (evaluator : Evaluator σ)
    (trusts : ∀ moment ∈ (observeMacro enter program evaluator).2, trusted moment) :
    (observeMacro enter program evaluator).1 = runMacro plain program evaluator := by
  induction program generalizing evaluator with
  | finish result => rfl
  | evaluate tree next inductionHypothesis =>
      obtain ⟨-, trusts⟩ := List.forall_mem_cons.mp trusts
      obtain ⟨trustsRequest, trustsRest⟩ := List.forall_mem_append.mp trusts
      rw [runMacro, ← observeTree_outcome follows tree evaluator trustsRequest]
      exact inductionHypothesis _ _ trustsRest
  | evaluateItems items next inductionHypothesis =>
      obtain ⟨-, trusts⟩ := List.forall_mem_cons.mp trusts
      obtain ⟨trustsRequest, trustsRest⟩ := List.forall_mem_append.mp trusts
      rw [runMacro, ← follows items evaluator trustsRequest]
      exact inductionHypothesis _ _ trustsRest
  | readContext next inductionHypothesis =>
      exact inductionHypothesis _ _ (List.forall_mem_cons.mp trusts).2
  | writeContext context next inductionHypothesis =>
      exact inductionHypothesis _ (List.forall_mem_cons.mp trusts).2
  | ask query next inductionHypothesis =>
      exact inductionHypothesis _ _ (List.forall_mem_cons.mp trusts).2

theorem observeMacroCall_outcome (handler : Macro σ) (arguments : List Value)
    (evaluator : Evaluator σ)
    (trusts : ∀ moment ∈ (observeMacroCall enter handler arguments evaluator).2,
      trusted moment) :
    (observeMacroCall enter handler arguments evaluator).1 =
      applyMacro plain handler arguments evaluator := by
  have ran := observeMacro_outcome follows (handler arguments) evaluator
  rw [observeMacroCall] at trusts ⊢
  rw [applyMacro.eq_def]
  rcases observed : observeMacro enter (handler arguments) evaluator with
    ⟨⟨result, after⟩, moments⟩
  rw [observed] at ran trusts
  cases result with
  | error error => rw [← ran trusts]
  | ok expansion =>
      obtain ⟨trustsRun, trustsExpansion⟩ := List.forall_mem_append.mp trusts
      rw [← ran trustsRun]
      exact follows expansion after trustsExpansion

theorem observeFunctionCall_outcome (handler : Function σ) (arguments : List Value)
    (evaluator : Evaluator σ)
    (trusts : ∀ moment ∈ (observeFunctionCall enter handler arguments evaluator).2,
      trusted moment) :
    (observeFunctionCall enter handler arguments evaluator).1 =
      applyFunction plain handler arguments evaluator := by
  have evaluated := observeArguments_outcome follows arguments evaluator
  rw [observeFunctionCall] at trusts ⊢
  rw [applyFunction.eq_def]
  rcases observed : observeArguments enter arguments evaluator with
    ⟨⟨result, after⟩, moments⟩
  rw [observed] at evaluated trusts
  cases result <;> rw [← evaluated trusts]

theorem observeDispatch_outcome (items : List Value) (evaluator : Evaluator σ)
    (trusts : ∀ moment ∈ (observeDispatch enter items evaluator).2, trusted moment) :
    (observeDispatch enter items evaluator).1 = dispatch plain items evaluator := by
  cases items with
  | nil => rfl
  | cons head arguments =>
      cases head with
      | string name =>
          simp only [observeDispatch, dispatch] at trusts ⊢
          cases found : evaluator.operators.resolve? name with
          | none => rfl
          | some operator =>
              rw [found] at trusts
              cases operator with
              | function handler =>
                  exact observeFunctionCall_outcome follows handler arguments evaluator trusts
              | expander handler =>
                  exact observeMacroCall_outcome follows handler arguments evaluator trusts
      | _ => rfl

end Outcome

/-! ## Another dispatch -/

/-- Evaluation as in `evaluateWithin`, by a dispatch that may be another one. -/
def evaluateWithinBy (dispatching : Enter σ → Enter σ) : (levels : Nat) → Enter σ
  | 0, _, evaluator => (.error (.recursionLimitExceeded evaluator.limit), evaluator)
  | levels + 1, items, evaluator =>
    if evaluator.limit ≤ evaluator.depth then
      (.error (.recursionLimitExceeded evaluator.limit), evaluator)
    else
      let (result, after) := dispatching (evaluateWithinBy dispatching levels) items
        { evaluator with depth := evaluator.depth + 1 }
      (result, { after with depth := after.depth - 1 })

def evaluateExpressionBy
    (dispatching : Enter σ → Enter σ)
    (items : List Value)
    (evaluator : Evaluator σ) : Outcome σ Value :=
  evaluateWithinBy dispatching (evaluator.limit - evaluator.depth) items evaluator

def evaluateBy
    (dispatching : Enter σ → Enter σ)
    (tree : Value)
    (evaluator : Evaluator σ) : Outcome σ Value :=
  enterTree (evaluateExpressionBy dispatching) tree evaluator

/-- The other dispatch is `dispatch` at this moment. -/
def FollowsAt (dispatching : Enter σ → Enter σ) : Moment σ → Prop
  | .dispatched items evaluator =>
    ∀ enter, dispatching enter items evaluator = dispatch enter items evaluator
  | _ => True

theorem observeWithin_outcome {dispatching : Enter σ → Enter σ} (levels : Nat)
    (items : List Value) (evaluator : Evaluator σ)
    (follows : ∀ moment ∈ (observeWithin levels items evaluator).2,
      FollowsAt dispatching moment) :
    (observeWithin levels items evaluator).1 =
      evaluateWithinBy dispatching levels items evaluator := by
  induction levels generalizing items evaluator with
  | zero => rfl
  | succ levels inductionHypothesis =>
      unfold observeWithin at follows ⊢
      unfold evaluateWithinBy
      split at follows
      · rename_i full
        rw [if_pos full, if_pos full]
        rfl
      · rename_i room
        obtain ⟨-, follows⟩ := List.forall_mem_cons.mp follows
        obtain ⟨here, follows⟩ := List.forall_mem_cons.mp follows
        obtain ⟨below, -⟩ := List.forall_mem_append.mp follows
        rw [if_neg room, if_neg room, here,
          ← observeDispatch_outcome inductionHypothesis items _ below]

theorem evaluateWithinBy_dispatch (levels : Nat) :
    evaluateWithinBy dispatch levels = (evaluateWithin levels : Enter σ) := by
  induction levels with
  | zero => rfl
  | succ levels inductionHypothesis =>
      funext items evaluator
      rw [evaluateWithinBy, evaluateWithin, inductionHypothesis]

theorem observeExpression_outcome {dispatching : Enter σ → Enter σ} (items : List Value)
    (evaluator : Evaluator σ)
    (follows : ∀ moment ∈ (observeExpression items evaluator).2,
      FollowsAt dispatching moment) :
    (observeExpression items evaluator).1 = evaluateExpressionBy dispatching items evaluator :=
  observeWithin_outcome _ items evaluator follows

/-- The record misses no dispatch: any other one may take its place that is the same at
the moments on the record. -/
theorem observe_outcome {dispatching : Enter σ → Enter σ} (tree : Value)
    (evaluator : Evaluator σ)
    (follows : ∀ moment ∈ (observe tree evaluator).2, FollowsAt dispatching moment) :
    (observe tree evaluator).1 = evaluateBy dispatching tree evaluator :=
  observeTree_outcome observeExpression_outcome tree evaluator follows

theorem followsAt_dispatch (moment : Moment σ) : FollowsAt dispatch moment := by
  cases moment with
  | dispatched items evaluator => exact fun _ => rfl
  | _ => trivial

/-- The record changes nothing. -/
theorem observeWithin_evaluates (levels : Nat) (items : List Value) (evaluator : Evaluator σ) :
    (observeWithin levels items evaluator).1 = evaluateWithin levels items evaluator := by
  rw [observeWithin_outcome levels items evaluator fun moment _ => followsAt_dispatch moment,
    evaluateWithinBy_dispatch]

theorem observeExpression_evaluates (items : List Value) (evaluator : Evaluator σ) :
    (observeExpression items evaluator).1 = evaluateExpression items evaluator :=
  observeWithin_evaluates (evaluator.limit - evaluator.depth) items evaluator

theorem observe_evaluates (tree : Value) (evaluator : Evaluator σ) :
    (observe tree evaluator).1 = evaluate tree evaluator := by
  cases tree with
  | list items => exact observeExpression_evaluates items evaluator
  | _ => rfl

end Evaluator

end RuleTree
