import RuleTree.Proofs.Evaluation.Conditional
import RuleTree.Proofs.Evaluation.Level
import RuleTree.Proofs.Evaluation.Provenance

/-!
Contract: the order in which an eager tree has its effects, and which of its errors it
reports.

A walk goes through the lists of a tree depth first and from left to right, behind their
heads. It meets each list twice: on the way down, where the list is checked, and on the
way up, where the handler of its head is run on what the lists among its arguments came
to. Where no head names a macro, an evaluation is the walk up to its first event that
fails (`evaluate_walks`).

Owns: places in a tree, the events of a walk, and what they do.
Does not own: macros, whose arguments are not walked through.
-/

namespace RuleTree

variable {σ : Type}

open Evaluator

/-! ## Events -/

/-- Where a list stands in a tree: the positions on the way from the root, which all are
behind heads. -/
abbrev Place := List Nat

/-- How many lists stand around a place and at it. -/
def Place.level (place : Place) : Nat :=
  place.length + 1

inductive Event where
  /-- A list is met on the way down. -/
  | enter (place : Place) (items : List Value)
  /-- A list is met on the way up. -/
  | exit (place : Place) (items : List Value)

mutual

/-- The events of the walk through a value. -/
def events (place : Place) : Value → List Event
  | .list [] => [.enter place [], .exit place []]
  | .list (head :: arguments) =>
    .enter place (head :: arguments) ::
      argumentEvents place 1 arguments ++ [.exit place (head :: arguments)]
  | _ => []

/-- The events of the walk through the elements from a position on. -/
def argumentEvents (place : Place) : (position : Nat) → List Value → List Event
  | _, [] => []
  | position, argument :: arguments =>
    events (place ++ [position]) argument ++ argumentEvents place (position + 1) arguments

end

/-! ## What events do -/

/-- A walk so far: the context, and what the lists that have been left came to. -/
structure Walk (σ : Type) where
  context : σ
  values : Place → Option Value

def Walk.start (context : σ) : Walk σ :=
  ⟨context, fun _ => none⟩

/-- The elements from a position on as a handler gets them: what the lists among them
came to, and the others as they are. -/
def Walk.arguments (walk : Walk σ) (place : Place) : (position : Nat) → List Value → List Value
  | _, [] => []
  | position, .list _ :: arguments =>
    -- A list is left before the list around it is, so it has a value by then.
    (walk.values (place ++ [position])).getD .null ::
      walk.arguments place (position + 1) arguments
  | position, literal :: arguments =>
    literal :: walk.arguments place (position + 1) arguments

/-- A walk that may have failed. -/
abbrev Walked (σ : Type) := Except EvalError Unit × Walk σ

section Perform

variable (operators : Operators σ) (limit : Nat)

/-- The checks of a list, in their order. -/
def enterCheck (place : Place) (items : List Value) : Except EvalError Unit :=
  if limit < place.level then .error (.recursionLimitExceeded limit)
  else
    match items with
    | [] => .error .emptyExpression
    | .string name :: _ =>
      if operators.contains name then .ok () else .error (.unsupportedOperator name)
    | head :: _ => .error (.headNotAString head)

/-- Run the handler of a function on the arguments of a call. -/
def Walk.call (walk : Walk σ) (place : Place) (handler : Function σ) (arguments : List Value) :
    Walked σ :=
  match handler (walk.arguments place 1 arguments) walk.context with
  | (.ok value, context) =>
    (.ok (), ⟨context, fun other => if other = place then some value else walk.values other⟩)
  | (.error error, context) => (.error error, { walk with context := context })

def perform (event : Event) (walk : Walk σ) : Walked σ :=
  match event with
  | .enter place items => (enterCheck operators limit place items, walk)
  | .exit place (.string name :: arguments) =>
    match operators.resolve? name with
    | some (.function handler) => walk.call place handler arguments
    | _ => (.ok (), walk)
  | .exit _ _ => (.ok (), walk)

/-- Perform events in order, up to the first one that fails. -/
def performAll : List Event → Walk σ → Walked σ
  | [], walk => (.ok (), walk)
  | event :: events, walk =>
    match perform operators limit event walk with
    | (.ok _, walk) => performAll events walk
    | (.error error, walk) => (.error error, walk)

end Perform

section Performed

variable {operators : Operators σ} {limit : Nat}

theorem performAll_append (first rest : List Event) (walk : Walk σ) :
    performAll operators limit (first ++ rest) walk =
      match performAll operators limit first walk with
      | (.ok _, walk) => performAll operators limit rest walk
      | (.error error, walk) => (.error error, walk) := by
  induction first generalizing walk with
  | nil => rfl
  | cons event first inductionHypothesis =>
      simp only [List.cons_append, performAll]
      rcases perform operators limit event walk with ⟨result, after⟩
      cases result with
      | ok _ => exact inductionHypothesis after
      | error error => rfl

/-- A walk that fails does so at one event, all events before which succeed. -/
theorem exists_of_performAll_error {events : List Event} {walk failed : Walk σ}
    {error : EvalError}
    (performed : performAll operators limit events walk = (.error error, failed)) :
    ∃ done event rest before, events = done ++ event :: rest ∧
      performAll operators limit done walk = (.ok (), before) ∧
      perform operators limit event before = (.error error, failed) := by
  induction events generalizing walk with
  | nil => cases performed
  | cons event events inductionHypothesis =>
      rw [performAll] at performed
      rcases outcome : perform operators limit event walk with ⟨result, after⟩
      rw [outcome] at performed
      cases result with
      | error raised =>
          cases performed
          exact ⟨[], event, events, walk, rfl, rfl, outcome⟩
      | ok _ =>
          obtain ⟨done, failing, rest, before, rfl, succeeded, fails⟩ :=
            inductionHypothesis performed
          refine ⟨event :: done, failing, rest, before, rfl, ?_, fails⟩
          rw [performAll, outcome]
          exact succeeded

end Performed

/-! ## Eager trees -/

/-- No list of the tree, reached through positions behind the heads, is a macro call. -/
def Eager (operators : Operators σ) (tree : Value) : Prop :=
  ∀ name arguments, Subexpression tree (.string name :: arguments) →
    ∀ handler, operators.resolve? name ≠ some (.expander handler)

theorem Subexpression.trans {tree : Value} {outer inner : List Value}
    (first : Subexpression tree outer) (second : Subexpression (.list outer) inner) :
    Subexpression tree inner := by
  induction second with
  | root whole =>
      cases whole
      exact first
  | argument _ behindHead found inductionHypothesis =>
      exact inductionHypothesis.argument behindHead found

theorem Eager.argument {operators : Operators σ} {head : Value} {arguments items : List Value}
    (eager : Eager operators (.list (head :: arguments))) (member : .list items ∈ arguments) :
    Eager operators (.list items) :=
  fun name others within => eager name others
    (((Subexpression.root rfl).of_mem member).trans within)

/-! ## The walk follows the evaluation -/

/-- Walking through a list at a place comes to the outcome of its evaluation, leaves its
value at the place, and touches no place outside. -/
structure Follows (place : Place) (before : Walk σ) (outcome : Outcome σ Value)
    (walked : Walked σ) : Prop where
  result : walked.1 = outcome.1.map fun _ => ()
  context : walked.2.context = outcome.2.context
  value : ∀ value, outcome.1 = .ok value → walked.2.values place = some value
  outside : ∀ other, ¬ place <+: other → walked.2.values other = before.values other

/-- The same of the elements from a position on. -/
structure ArgumentsFollow (place : Place) (position : Nat) (arguments : List Value)
    (before : Walk σ) (outcome : Outcome σ (List Value)) (walked : Walked σ) : Prop where
  result : walked.1 = outcome.1.map fun _ => ()
  context : walked.2.context = outcome.2.context
  values : ∀ values, outcome.1 = .ok values → values = walked.2.arguments place position arguments
  outside : ∀ other, (∀ index, position ≤ index → ¬ place ++ [index] <+: other) →
    walked.2.values other = before.values other

section Follow

variable {operators : Operators σ} {limit : Nat}

/-- The evaluator that a walk is in when it meets the lists around a number of places. -/
def Walk.evaluator (operators : Operators σ) (limit : Nat) (walk : Walk σ) (depth : Nat) :
    Evaluator σ :=
  entered operators limit walk.context depth

/-- A list that fails its checks is not walked through, and its evaluation fails alike. -/
theorem follows_of_check_error {place : Place} {items : List Value} {walk : Walk σ}
    {error : EvalError} (failed : enterCheck operators limit place items = .error error)
    (evaluated : evaluateExpression items (walk.evaluator operators limit place.length) =
      (.error error, walk.evaluator operators limit place.length)) :
    Follows place walk (evaluateExpression items (walk.evaluator operators limit place.length))
      (performAll operators limit (events place (.list items)) walk) := by
  obtain ⟨rest, walked⟩ : ∃ rest, events place (.list items) = .enter place items :: rest := by
    cases items with
    | nil => exact ⟨_, rfl⟩
    | cons head arguments => exact ⟨_, rfl⟩
  rw [walked, performAll, perform, failed, evaluated]
  exact ⟨rfl, rfl, fun _ answered => absurd answered (by simp), fun _ _ => rfl⟩

/-- The checks of a list under the limit are those of its dispatch. -/
theorem follows_of_dispatch_error {place : Place} {items : List Value} {walk : Walk σ}
    {error : EvalError} (room : place.level ≤ limit)
    (failed : enterCheck operators limit place items = .error error)
    (dispatched : dispatch evaluateExpression items
        (walk.evaluator operators limit place.level) =
      (.error error, walk.evaluator operators limit place.level)) :
    Follows place walk (evaluateExpression items (walk.evaluator operators limit place.length))
      (performAll operators limit (events place (.list items)) walk) := by
  apply follows_of_check_error failed
  have below : (walk.evaluator operators limit place.length).depth <
      (walk.evaluator operators limit place.length).limit := room
  have inside : (walk.evaluator operators limit place.length).deeper =
      walk.evaluator operators limit place.level := rfl
  rw [evaluateExpression_of_depth_lt below, inside, dispatched]
  rfl

/-- Leaving the list of a call runs the handler on the values of the arguments. -/
theorem follows_call {place : Place} {name : String} {handler : Function σ}
    {arguments : List Value} {walk : Walk σ} (room : place.level ≤ limit)
    (found : operators.resolve? name = some (.function handler))
    (follow : ArgumentsFollow place 1 arguments walk
      (evaluateArguments evaluateExpression arguments
        (walk.evaluator operators limit place.level))
      (performAll operators limit (argumentEvents place 1 arguments) walk)) :
    Follows place walk
      (evaluateExpression (.string name :: arguments)
        (walk.evaluator operators limit place.length))
      (performAll operators limit (events place (.list (.string name :: arguments))) walk) := by
  have entering : enterCheck operators limit place (.string name :: arguments) = .ok () := by
    unfold enterCheck
    rw [if_neg (Nat.not_lt.mpr room)]
    simp [Operators.contains_eq_isSome_resolve?, found]
  have evaluated : evaluateExpression (.string name :: arguments)
      (walk.evaluator operators limit place.length) =
      (((applyFunction evaluateExpression handler arguments
          (walk.evaluator operators limit place.level)).1,
        (walk.evaluator operators limit place.length).withContext
          (applyFunction evaluateExpression handler arguments
            (walk.evaluator operators limit place.level)).2.context)) := by
    have below : (walk.evaluator operators limit place.length).depth <
        (walk.evaluator operators limit place.length).limit := room
    rw [evaluateExpression_of_depth_lt below, dispatch_function _ _ _ found]
    rfl
  rw [evaluated, events, List.cons_append, performAll, perform, entering]
  simp only
  rw [performAll_append, applyFunction]
  rcases walked : performAll operators limit (argumentEvents place 1 arguments) walk with
    ⟨result, left⟩
  rcases outcome : evaluateArguments evaluateExpression arguments
    (walk.evaluator operators limit place.level) with ⟨results, after⟩
  rw [walked, outcome] at follow
  obtain ⟨sameResult, sameContext, sameValues, outside⟩ := follow
  have outsideArguments : ∀ other, ¬ place <+: other → left.values other = walk.values other :=
    fun other apart => outside other fun index _ within =>
      apart ((List.prefix_append place [index]).trans within)
  cases results with
  | error error =>
      obtain rfl : result = .error error := sameResult
      exact ⟨rfl, sameContext, fun _ answered => absurd answered (by simp), outsideArguments⟩
  | ok values =>
      obtain rfl : result = .ok () := sameResult
      obtain rfl := sameValues values rfl
      simp only at sameContext
      simp only [performAll, perform, found, Walk.call, sameContext]
      rcases handler (left.arguments place 1 arguments) after.context with ⟨answer, context⟩
      cases answer with
      | error error =>
          exact ⟨rfl, rfl, fun _ answered => absurd answered (by simp), outsideArguments⟩
      | ok value =>
          refine ⟨rfl, rfl, ?_, ?_⟩
          · intro answer answered
            cases answered
            exact if_pos rfl
          · intro other apart
            have elsewhere : other ≠ place := fun same => apart (same ▸ List.prefix_refl _)
            exact (if_neg elsewhere).trans (outsideArguments other apart)

/-- Elements that are no lists are passed over. -/
theorem argumentsFollow_literal {place : Place} {position : Nat} {literal : Value}
    {arguments : List Value} {walk : Walk σ} (noList : literal.items? = none)
    (rest : ArgumentsFollow place (position + 1) arguments walk
      (evaluateArguments evaluateExpression arguments
        (walk.evaluator operators limit place.level))
      (performAll operators limit (argumentEvents place (position + 1) arguments) walk)) :
    ArgumentsFollow place position (literal :: arguments) walk
      (evaluateArguments evaluateExpression (literal :: arguments)
        (walk.evaluator operators limit place.level))
      (performAll operators limit (argumentEvents place position (literal :: arguments)) walk) := by
  have passed : argumentEvents place position (literal :: arguments) =
      argumentEvents place (position + 1) arguments := by
    cases literal with
    | list items => simp [Value.items?] at noList
    | _ => rfl
  have given : ∀ walk : Walk σ, walk.arguments place position (literal :: arguments) =
      literal :: walk.arguments place (position + 1) arguments := by
    cases literal with
    | list items => simp [Value.items?] at noList
    | _ => exact fun _ => rfl
  obtain ⟨sameResult, sameContext, sameValues, outside⟩ := rest
  rw [passed, evaluateArguments, evaluateArgument_literal noList]
  simp only
  refine ⟨?_, sameContext, ?_, ?_⟩
  · rw [sameResult]
    cases (evaluateArguments evaluateExpression arguments
      (walk.evaluator operators limit place.level)).1 <;> rfl
  · intro values answered
    cases evaluated : (evaluateArguments evaluateExpression arguments
        (walk.evaluator operators limit place.level)).1 with
    | error error => rw [evaluated] at answered; cases answered
    | ok others =>
        rw [evaluated] at answered
        cases answered
        rw [given, ← sameValues others evaluated]
  · exact fun other apart => outside other fun index later => apart index (Nat.le_of_succ_le later)

/-- A list among the elements is walked through before those behind it. -/
theorem argumentsFollow_list {place : Place} {position : Nat} {items arguments : List Value}
    {walk : Walk σ}
    (first : Follows (place ++ [position]) walk
      (evaluateExpression items (walk.evaluator operators limit place.level))
      (performAll operators limit (events (place ++ [position]) (.list items)) walk))
    (rest : ∀ walk : Walk σ, ArgumentsFollow place (position + 1) arguments walk
      (evaluateArguments evaluateExpression arguments
        (walk.evaluator operators limit place.level))
      (performAll operators limit (argumentEvents place (position + 1) arguments) walk)) :
    ArgumentsFollow place position (.list items :: arguments) walk
      (evaluateArguments evaluateExpression (.list items :: arguments)
        (walk.evaluator operators limit place.level))
      (performAll operators limit
        (argumentEvents place position (.list items :: arguments)) walk) := by
  rw [argumentEvents, performAll_append, evaluateArguments, evaluateArgument]
  obtain ⟨answer, after, evaluated⟩ := evaluateExpression_frame.outcome items
    (walk.evaluator operators limit place.level) walk.context
  rw [show (walk.evaluator operators limit place.level).withContext walk.context =
    walk.evaluator operators limit place.level from rfl] at evaluated
  rcases walked : performAll operators limit (events (place ++ [position]) (.list items)) walk
    with ⟨result, between⟩
  rw [evaluated, walked] at first
  obtain ⟨sameResult, sameContext, leaves, outside⟩ := first
  rw [evaluated]
  cases answer with
  | error error =>
      obtain rfl : result = .error error := sameResult
      exact ⟨rfl, sameContext, fun _ answered => absurd answered (by simp),
        fun other apart => outside other (apart position (Nat.le_refl _))⟩
  | ok value =>
      obtain rfl : result = .ok () := sameResult
      have resumed := rest between
      rw [show between.evaluator operators limit place.level =
        (walk.evaluator operators limit place.level).withContext after by
          rw [Walk.evaluator, sameContext]; rfl] at resumed
      simp only
      rcases walkedRest : performAll operators limit
        (argumentEvents place (position + 1) arguments) between with ⟨restResult, final⟩
      rcases evaluatedRest : evaluateArguments evaluateExpression arguments
        ((walk.evaluator operators limit place.level).withContext after) with ⟨results, left⟩
      rw [walkedRest, evaluatedRest] at resumed
      obtain ⟨sameRest, sameRestContext, sameValues, outsideRest⟩ := resumed
      refine ⟨?_, sameRestContext, ?_, ?_⟩
      · rw [sameRest]
        cases results <;> rfl
      · intro values answered
        cases results with
        | error error => cases answered
        | ok others =>
            cases answered
            -- The places that are walked through later are beside this one.
            have kept : final.values (place ++ [position]) = some value := by
              rw [outsideRest _ fun index later within => ?_, leaves value rfl]
              have same : index = position := by
                simpa [List.prefix_append_right_inj] using within
              omega
            rw [Walk.arguments, kept, ← sameValues others rfl]
            rfl
      · intro other apart
        exact (outsideRest other fun index later => apart index (Nat.le_of_succ_le later)).trans
          (outside other (apart position (Nat.le_refl _)))

/-- What is no call of a registered operator fails its check on the way down. -/
theorem follows_nameless {place : Place} {items : List Value} {walk : Walk σ}
    (room : place.level ≤ limit)
    (nameless : ∀ name arguments, items = .string name :: arguments →
      operators.resolve? name = none) :
    Follows place walk (evaluateExpression items (walk.evaluator operators limit place.length))
      (performAll operators limit (events place (.list items)) walk) := by
  have within : ¬ limit < place.level := Nat.not_lt.mpr room
  cases items with
  | nil =>
      apply follows_of_dispatch_error room _ rfl
      rw [enterCheck, if_neg within]
  | cons head arguments =>
      cases head with
      | string name =>
          have unknown := nameless name arguments rfl
          apply follows_of_dispatch_error room _ (dispatch_unsupported _ _ _ unknown)
          rw [enterCheck, if_neg within]
          simp [Operators.contains_eq_isSome_resolve?, unknown]
      | _ =>
          apply follows_of_dispatch_error room _ rfl
          unfold enterCheck
          exact if_neg within

mutual

theorem follows_evaluation (items : List Value) (eager : Eager operators (.list items))
    (place : Place) (walk : Walk σ) :
    Follows place walk (evaluateExpression items (walk.evaluator operators limit place.length))
      (performAll operators limit (events place (.list items)) walk) := by
  by_cases room : place.level ≤ limit
  · by_cases called : ∃ name arguments operator, items = .string name :: arguments ∧
        operators.resolve? name = some operator
    · obtain ⟨name, arguments, operator, rfl, found⟩ := called
      cases operator with
      | expander handler => exact absurd found (eager name arguments (.root rfl) handler)
      | function handler =>
          exact follows_call room found
            (arguments_follow arguments (fun _ member => eager.argument member) place 1 walk)
    · apply follows_nameless room
      intro name arguments same
      cases found : operators.resolve? name with
      | none => rfl
      | some operator => exact absurd ⟨name, arguments, operator, same, found⟩ called
  · have full : (walk.evaluator operators limit place.length).limit ≤
        (walk.evaluator operators limit place.length).depth := by
      exact Nat.le_of_lt_succ (Nat.lt_of_not_le room)
    exact follows_of_check_error (if_pos (Nat.lt_of_not_le room))
      (evaluateExpression_of_limit_le full items)

theorem arguments_follow (arguments : List Value)
    (eager : ∀ items, .list items ∈ arguments → Eager operators (.list items))
    (place : Place) (position : Nat) (walk : Walk σ) :
    ArgumentsFollow place position arguments walk
      (evaluateArguments evaluateExpression arguments
        (walk.evaluator operators limit place.level))
      (performAll operators limit (argumentEvents place position arguments) walk) := by
  cases arguments with
  | nil =>
      exact ⟨rfl, rfl, fun _ answered => by cases answered; rfl, fun _ _ => rfl⟩
  | cons argument arguments =>
      have rest := fun walk => arguments_follow arguments
        (fun items member => eager items (List.mem_cons_of_mem _ member)) place (position + 1) walk
      cases argument with
      | list items =>
          have first := follows_evaluation items (eager items List.mem_cons_self)
            (place ++ [position]) walk
          rw [List.length_append] at first
          exact argumentsFollow_list first rest
      | _ => exact argumentsFollow_literal rfl (rest walk)

end

end Follow

/-- **An eager tree has its effects in the order of its walk.**

Whatever the handlers do, an evaluation of a tree without macro calls leaves the context
of the walk, which only the handlers of lists that are left have changed, one after the
other. If no event fails, the value is that which the root list is left with. If one
does, the evaluation ends in the error of the first that fails, and the handlers behind
it are not run. -/
theorem evaluate_walks {operators : Operators σ} {items : List Value}
    (eager : Eager operators (.list items)) (limit : Nat) (context : σ) :
    let outcome := evaluate (.list items) (fresh operators limit context)
    let walked := performAll operators limit (events [] (.list items)) (.start context)
    outcome.2 = fresh operators limit walked.2.context ∧
      match walked.1 with
      | .ok _ => ∃ value, walked.2.values [] = some value ∧ outcome.1 = .ok value
      | .error error =>
        outcome.1 = .error error ∧
          ∃ done event rest before, events [] (.list items) = done ++ event :: rest ∧
            performAll operators limit done (.start context) = (.ok (), before) ∧
            perform operators limit event before = (.error error, walked.2) := by
  intro outcome walked
  have follows : Follows [] (.start context) outcome walked :=
    follows_evaluation items eager [] (.start context)
  have framed : outcome.2 = fresh operators limit outcome.2.context :=
    evaluate_frame (.list items) (fresh operators limit context)
  refine ⟨framed.trans (congrArg (fresh operators limit) follows.context.symm), ?_⟩
  have sameResult := follows.result
  cases answered : outcome.1 with
  | ok value =>
      rw [answered] at sameResult
      rw [sameResult]
      exact ⟨value, follows.value value answered, rfl⟩
  | error error =>
      rw [answered] at sameResult
      rw [sameResult]
      exact ⟨rfl, exists_of_performAll_error (Prod.ext sameResult rfl)⟩

/-- The tree `["identity", ["identity", "first"], ["unknown"], ["identity", "second"]]`. -/
def partlyUnknown : List Value :=
  [.string "identity", .list [.string "identity", .string "first"], .list [.string "unknown"],
    .list [.string "identity", .string "second"]]

theorem subexpression_partlyUnknown {items : List Value}
    (within : Subexpression (.list partlyUnknown) items) :
    items = partlyUnknown ∨ items = [.string "identity", .string "first"] ∨
      items = [.string "unknown"] ∨ items = [.string "identity", .string "second"] := by
  induction within with
  | root whole => exact .inl (Value.list.inj whole).symm
  | argument outer behindHead found inductionHypothesis =>
      rename_i position
      obtain ⟨index, rfl⟩ := Nat.exists_eq_add_of_le' behindHead
      obtain rfl | rfl | rfl | rfl := inductionHypothesis
      · match index with
        | 0 => cases found; exact .inr (.inl rfl)
        | 1 => cases found; exact .inr (.inr (.inl rfl))
        | 2 => cases found; exact .inr (.inr (.inr rfl))
        | index + 3 => cases found
      · match index with
        | 0 => cases found
        | index + 1 => cases found
      · cases found
      · match index with
        | 0 => cases found
        | index + 1 => cases found

/-- Under an `identity` that keeps its arguments, the first argument is kept, the unknown
operator is reported, and the second call of `identity` is not made. -/
theorem evaluate_walks_to_unknown :
    let outcome := evaluate (.list partlyUnknown) (fresh keepingOperators 8 [])
    Eager keepingOperators (.list partlyUnknown) ∧
      outcome.1 = .error (.unsupportedOperator "unknown") ∧
      outcome.2.context = [.string "first"] ∧
      outcome.2 = fresh keepingOperators 8
        (performAll keepingOperators 8
          (events [] (.list partlyUnknown)) (.start [])).2.context := by
  intro outcome
  have eager : Eager keepingOperators (.list partlyUnknown) := by
    intro name arguments within handler found
    obtain ⟨rfl, -⟩ :=
      Operators.builtin_onlyIfElse.insertFunction "identity" _ name handler found
    simpa [partlyUnknown] using subexpression_partlyUnknown within
  exact ⟨eager, rfl, rfl, (evaluate_walks eager 8 []).1⟩

end RuleTree
