import RuleTree.Proofs.Evaluation.Record

/-!
Contract: what holds of every moment of a run.

The evaluator of a moment always has the registry and the limit that the run started
with, and counts at most that many levels; every answer finds the counter where the
question left it. If dispatch leads from lists of some kind to lists of that kind only,
then no moment shows any other list (`observeExpression_records`).

Owns: kinds of lists that are closed under dispatch, and the soundness of moments.
Does not own: any particular kind but that of all lists.
-/

namespace RuleTree

variable {σ α : Type}

/-! ## Lists of a closed kind -/

/-- Whatever a run of a handler is answered, it asks for evaluations of allowed lists
only, and expands to one. -/
def MacroProgram.Requests (allowed : List Value → Prop) :
    MacroProgram σ (List Value) → Prop
  | .finish result => ∀ expansion, result = .ok expansion → allowed expansion
  | .evaluate tree next =>
    (∀ items, tree = .list items → allowed items) ∧ ∀ answer, (next answer).Requests allowed
  | .evaluateItems items next => allowed items ∧ ∀ answer, (next answer).Requests allowed
  | .readContext next => ∀ context, (next context).Requests allowed
  | .writeContext _ next => next.Requests allowed
  | .ask _ next => ∀ answer, (next answer).Requests allowed

/-- From allowed lists, dispatch comes to allowed lists only. -/
structure Closed (operators : Operators σ) (allowed : List Value → Prop) : Prop where
  arguments : ∀ {name handler arguments},
    operators.resolve? name = some (.function handler) → allowed (.string name :: arguments) →
    ∀ items, .list items ∈ arguments → allowed items
  requests : ∀ {name handler arguments},
    operators.resolve? name = some (.expander handler) → allowed (.string name :: arguments) →
    (handler arguments).Requests allowed

theorem MacroProgram.requests_true (program : MacroProgram σ (List Value)) :
    program.Requests fun _ => True := by
  induction program with
  | finish result => exact fun _ _ => trivial
  | evaluate tree next inductionHypothesis => exact ⟨fun _ _ => trivial, inductionHypothesis⟩
  | evaluateItems items next inductionHypothesis => exact ⟨trivial, inductionHypothesis⟩
  | readContext next inductionHypothesis => exact inductionHypothesis
  | writeContext context next inductionHypothesis => exact inductionHypothesis
  | ask query next inductionHypothesis => exact inductionHypothesis

theorem closed_true (operators : Operators σ) : Closed operators fun _ => True where
  arguments := fun _ _ _ _ => trivial
  requests := fun _ _ => MacroProgram.requests_true _

/-! ## Every moment of a run -/

/-- The evaluator has this registry and this limit, and counts no more levels. -/
structure Evaluator.Under (operators : Operators σ) (limit : Nat)
    (evaluator : Evaluator σ) : Prop where
  sameOperators : evaluator.operators = operators
  sameLimit : evaluator.limit = limit
  depth_le : evaluator.depth ≤ limit

/-- The lists that a moment shows. -/
def Moment.About (allowed : List Value → Prop) : Moment σ → Prop
  | .asked items _ => allowed items
  | .dispatched items _ => allowed items
  | _ => True

structure Moment.Sound (operators : Operators σ) (limit : Nat) (allowed : List Value → Prop)
    (moment : Moment σ) : Prop where
  under : moment.evaluator.Under operators limit
  balanced : moment.Balanced
  about : moment.About allowed

namespace Evaluator

variable {operators : Operators σ} {limit : Nat} {allowed : List Value → Prop}

theorem Under.withContext {evaluator : Evaluator σ} (under : evaluator.Under operators limit)
    (context : σ) : (evaluator.withContext context).Under operators limit :=
  ⟨under.sameOperators, under.sameLimit, under.depth_le⟩

theorem Under.of_frame {before after : Evaluator σ} (under : before.Under operators limit)
    (framed : after = before.withContext after.context) : after.Under operators limit := by
  rw [framed]
  exact under.withContext after.context

theorem Under.deeper {evaluator : Evaluator σ} (under : evaluator.Under operators limit)
    (room : evaluator.depth < evaluator.limit) : evaluator.deeper.Under operators limit :=
  ⟨under.sameOperators, under.sameLimit, Nat.lt_of_lt_of_eq room under.sameLimit⟩

/-- All moments on the record are sound. -/
def Records (operators : Operators σ) (limit : Nat) (allowed : List Value → Prop)
    (observed : Observed σ α) : Prop :=
  ∀ moment ∈ observed.2, moment.Sound operators limit allowed

/-- The next level keeps the frame, and records sound moments of allowed lists. -/
structure LevelSound (operators : Operators σ) (limit : Nat) (allowed : List Value → Prop)
    (enter : Observe σ) : Prop where
  keeps : KeepsFrame fun items evaluator => (enter items evaluator).1
  records : ∀ {items} {evaluator : Evaluator σ}, evaluator.Under operators limit →
    allowed items → Records operators limit allowed (enter items evaluator)

theorem records_nothing (outcome : Outcome σ α) :
    Records operators limit allowed (outcome, []) :=
  fun _ member => absurd member List.not_mem_nil

theorem records_answerAtOnce {evaluator : Evaluator σ}
    (under : evaluator.Under operators limit) (result : Except EvalError Value) :
    Records operators limit allowed (answerAtOnce result evaluator) := by
  intro moment member
  obtain rfl := List.mem_singleton.mp member
  exact ⟨under, rfl, trivial⟩

theorem turn_sound {evaluator : Evaluator σ} (under : evaluator.Under operators limit) :
    (Moment.turn evaluator).Sound operators limit allowed :=
  ⟨under, trivial, trivial⟩

section Level

variable {enter : Observe σ} (level : LevelSound operators limit allowed enter)
  {evaluator : Evaluator σ} (under : evaluator.Under operators limit)
include level under

theorem observeTree_records {tree : Value}
    (allowedTree : ∀ items, tree = .list items → allowed items) :
    Records operators limit allowed (observeTree enter tree evaluator) := by
  cases tree with
  | list items => exact level.records under (allowedTree items rfl)
  | _ => exact records_answerAtOnce under _

theorem observeArgument_records {argument : Value}
    (allowedArgument : ∀ items, argument = .list items → allowed items) :
    Records operators limit allowed (observeArgument enter argument evaluator) := by
  cases argument with
  | list items => exact level.records under (allowedArgument items rfl)
  | _ => exact records_nothing _

theorem observeArguments_records {arguments : List Value}
    (allowedArguments : ∀ items, .list items ∈ arguments → allowed items) :
    Records operators limit allowed (observeArguments enter arguments evaluator) := by
  induction arguments generalizing evaluator with
  | nil => exact records_nothing _
  | cons argument arguments inductionHypothesis =>
      have head : Records operators limit allowed (observeArgument enter argument evaluator) :=
        observeArgument_records level under
          fun items same => allowedArguments items (same ▸ List.mem_cons_self)
      have framed := evaluateArgument_frame level.keeps argument evaluator
      rw [← observeArgument_outcome (fun _ _ _ => rfl) _ _ fun _ _ => trivial] at framed
      rw [observeArguments]
      rcases observed : observeArgument enter argument evaluator with ⟨⟨result, after⟩, moments⟩
      rw [observed] at head framed
      cases result with
      | error error => exact head
      | ok value =>
          have tail := inductionHypothesis (under.of_frame framed)
            fun items member => allowedArguments items (List.mem_cons_of_mem _ member)
          intro moment member
          exact (List.mem_append.mp member).elim (head moment) (tail moment)

theorem observeMacro_records {program : MacroProgram σ (List Value)}
    (requests : program.Requests allowed) :
    Records operators limit allowed (observeMacro enter program evaluator) := by
  induction program generalizing evaluator with
  | finish result =>
      intro moment member
      obtain rfl := List.mem_singleton.mp member
      exact turn_sound under
  | evaluate tree next inductionHypothesis =>
      have head := observeTree_records level under requests.1
      have framed := enterTree_frame level.keeps tree evaluator
      rw [← observeTree_outcome (fun _ _ _ => rfl) _ _ fun _ _ => trivial] at framed
      have tail := inductionHypothesis (observeTree enter tree evaluator).1.1
        (under.of_frame framed) (requests.2 _)
      intro moment member
      obtain rfl | member := List.mem_cons.mp member
      · exact turn_sound under
      · exact (List.mem_append.mp member).elim (head moment) (tail moment)
  | evaluateItems items next inductionHypothesis =>
      have head := level.records under requests.1
      have tail := inductionHypothesis (enter items evaluator).1.1
        (under.of_frame (level.keeps items evaluator)) (requests.2 _)
      intro moment member
      obtain rfl | member := List.mem_cons.mp member
      · exact turn_sound under
      · exact (List.mem_append.mp member).elim (head moment) (tail moment)
  | readContext next inductionHypothesis =>
      have tail := inductionHypothesis _ under (requests evaluator.context)
      intro moment member
      obtain rfl | member := List.mem_cons.mp member
      · exact turn_sound under
      · exact tail moment member
  | writeContext context next inductionHypothesis =>
      have tail := inductionHypothesis (under.withContext context) requests
      intro moment member
      obtain rfl | member := List.mem_cons.mp member
      · exact turn_sound under
      · exact tail moment member
  | ask query next inductionHypothesis =>
      have tail := inductionHypothesis _ under (requests (evaluator.answer query))
      intro moment member
      obtain rfl | member := List.mem_cons.mp member
      · exact turn_sound under
      · exact tail moment member

end Level

/-- A run that comes to an expansion comes to an allowed one. -/
theorem runMacro_expansion {enter : Enter σ} {program : MacroProgram σ (List Value)}
    (requests : program.Requests allowed) {evaluator : Evaluator σ} {expansion : List Value}
    (ended : (runMacro enter program evaluator).1 = .ok expansion) : allowed expansion := by
  induction program generalizing evaluator with
  | finish result => exact requests expansion ended
  | evaluate tree next inductionHypothesis => exact inductionHypothesis _ (requests.2 _) ended
  | evaluateItems items next inductionHypothesis =>
      exact inductionHypothesis _ (requests.2 _) ended
  | readContext next inductionHypothesis => exact inductionHypothesis _ (requests _) ended
  | writeContext context next inductionHypothesis => exact inductionHypothesis requests ended
  | ask query next inductionHypothesis => exact inductionHypothesis _ (requests _) ended

section Dispatch

variable {enter : Observe σ} (level : LevelSound operators limit allowed enter)
  (closed : Closed operators allowed)
  {evaluator : Evaluator σ} (under : evaluator.Under operators limit)
include level closed under

theorem observeMacroCall_records {name : String} {handler : Macro σ} {arguments : List Value}
    (found : operators.resolve? name = some (.expander handler))
    (allowedCall : allowed (.string name :: arguments)) :
    Records operators limit allowed (observeMacroCall enter handler arguments evaluator) := by
  have requests := closed.requests found allowedCall
  have head := observeMacro_records level under requests
  have framed := runMacro_frame level.keeps (handler arguments) evaluator
  have expansion : ∀ expansion,
      (runMacro (fun items evaluator => (enter items evaluator).1) (handler arguments)
        evaluator).1 = .ok expansion → allowed expansion :=
    fun _ => runMacro_expansion requests
  rw [← observeMacro_outcome (fun _ _ _ => rfl) _ _ fun _ _ => trivial] at framed expansion
  rw [observeMacroCall]
  rcases observed : observeMacro enter (handler arguments) evaluator with
    ⟨⟨result, after⟩, moments⟩
  rw [observed] at head framed expansion
  cases result with
  | error error => exact head
  | ok items =>
      have tail := level.records (under.of_frame framed) (expansion items rfl)
      intro moment member
      exact (List.mem_append.mp member).elim (head moment) (tail moment)

theorem observeFunctionCall_records {name : String} {handler : Function σ}
    {arguments : List Value}
    (found : operators.resolve? name = some (.function handler))
    (allowedCall : allowed (.string name :: arguments)) :
    Records operators limit allowed (observeFunctionCall enter handler arguments evaluator) := by
  have head := observeArguments_records level under (closed.arguments found allowedCall)
  rw [observeFunctionCall]
  rcases observed : observeArguments enter arguments evaluator with ⟨⟨result, after⟩, moments⟩
  rw [observed] at head
  cases result <;> exact head

theorem observeDispatch_records {items : List Value} (allowedItems : allowed items) :
    Records operators limit allowed (observeDispatch enter items evaluator) := by
  cases items with
  | nil => exact records_nothing _
  | cons head arguments =>
      cases head with
      | string name =>
          simp only [observeDispatch, under.sameOperators]
          cases found : operators.resolve? name with
          | none => exact records_nothing _
          | some operator =>
              cases operator with
              | function handler =>
                  exact observeFunctionCall_records level closed under found allowedItems
              | expander handler =>
                  exact observeMacroCall_records level closed under found allowedItems
      | _ => exact records_nothing _

end Dispatch

/-- A refused evaluation shows the question and the answer. -/
theorem records_refused {items : List Value} {evaluator : Evaluator σ}
    (under : evaluator.Under operators limit) (allowedItems : allowed items)
    (result : Except EvalError Value) :
    Records operators limit allowed
      ((answerAtOnce result evaluator).1,
        .asked items evaluator :: (answerAtOnce result evaluator).2) := by
  intro moment member
  obtain rfl | member := List.mem_cons.mp member
  · exact ⟨under, trivial, allowedItems⟩
  · exact records_answerAtOnce under result moment member

theorem observeWithin_frame (levels : Nat) :
    KeepsFrame fun items (evaluator : Evaluator σ) => (observeWithin levels items evaluator).1 := by
  simp only [observeWithin_evaluates]
  exact evaluateWithin_frame levels

/-- A dispatch within the limit adds the moments of its level around its own. -/
theorem records_level {items : List Value} {evaluator after : Evaluator σ}
    {result : Except EvalError Value} {moments : List (Moment σ)}
    (under : evaluator.Under operators limit) (allowedItems : allowed items)
    (room : evaluator.depth < evaluator.limit)
    (framed : after = evaluator.deeper.withContext after.context)
    (inside : ∀ moment ∈ moments, moment.Sound operators limit allowed) :
    ∀ moment ∈ .asked items evaluator :: .dispatched items evaluator.deeper :: moments ++
        [.finished after,
          .answered evaluator result { after with depth := after.depth - 1 }],
      moment.Sound operators limit allowed := by
  have deeper := under.deeper room
  intro moment member
  simp only [List.cons_append, List.mem_cons, List.mem_append, List.not_mem_nil,
    or_false] at member
  obtain rfl | rfl | member | rfl | rfl := member
  · exact ⟨under, trivial, allowedItems⟩
  · exact ⟨deeper, trivial, allowedItems⟩
  · exact inside moment member
  · refine ⟨deeper.of_frame framed, ?_, trivial⟩
    rw [framed]
    exact Nat.succ_pos evaluator.depth
  · rw [framed]
    exact ⟨under.withContext after.context, rfl, trivial⟩

theorem levelSound_observeWithin (closed : Closed operators allowed) (levels : Nat) :
    LevelSound operators limit allowed (observeWithin levels) := by
  induction levels with
  | zero => exact ⟨observeWithin_frame 0, fun under allowedItems =>
      records_refused under allowedItems _⟩
  | succ levels inductionHypothesis =>
      refine ⟨observeWithin_frame (levels + 1), ?_⟩
      intro items evaluator under allowedItems
      unfold observeWithin
      split
      · exact records_refused under allowedItems _
      · rename_i room
        have room := Nat.lt_of_not_le room
        have inside := observeDispatch_records inductionHypothesis closed (under.deeper room)
          allowedItems
        have framed := dispatch_frame inductionHypothesis.keeps items evaluator.deeper
        rw [← observeDispatch_outcome (fun _ _ _ => rfl) _ _ fun _ _ => trivial] at framed
        exact records_level under allowedItems room framed inside

theorem observeExpression_records (closed : Closed operators allowed) {items : List Value}
    {evaluator : Evaluator σ} (under : evaluator.Under operators limit)
    (allowedItems : allowed items) :
    Records operators limit allowed (observeExpression items evaluator) :=
  (levelSound_observeWithin closed _).records under allowedItems

theorem observe_records (closed : Closed operators allowed) {tree : Value}
    {evaluator : Evaluator σ} (under : evaluator.Under operators limit)
    (allowedTree : ∀ items, tree = .list items → allowed items) :
    Records operators limit allowed (observe tree evaluator) := by
  cases tree with
  | list items => exact observeExpression_records closed under (allowedTree items rfl)
  | _ => exact records_answerAtOnce under _

end Evaluator

end RuleTree
