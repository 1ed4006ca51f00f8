import RuleTree.Proofs.Evaluation.Extension
import RuleTree.Proofs.Evaluation.Session
import RuleTree.Proofs.Registry.Table

/-!
Contract: registries that a host makes of one list of definitions.

A host registers its operators one after the other, or collects them into a table of
functions and a table of macros and merges these over the built-in operators. Either way
the last definition of a name and kind counts, macros before functions, and definitions of
different names or kinds can be exchanged with each other. Such registries cannot be told
apart by what names resolve to, by any query, or in any session (`constructions_agree`).

Owns: definitions, the ways to make a registry of them, and what such registries share.
Does not own: tables (`Registry.Table`) and evaluations under two registries
(`Evaluation.Extension`).
-/

namespace RuleTree

variable {σ α : Type}

open Evaluator

/-! ## Definitions -/

def Operator.function? : Operator σ → Option (Function σ)
  | .function handler => some handler
  | .expander _ => none

def Operator.expander? : Operator σ → Option (Macro σ)
  | .function _ => none
  | .expander handler => some handler

/-- An operator and the name that a host gives it. -/
structure Definition (σ : Type) where
  name : String
  operator : Operator σ

namespace Definition

/-- The handler of a definition, if it is one of this kind and name. -/
def under? (kind : Operator σ → Option α) (name : String) (definition : Definition σ) :
    Option α :=
  if definition.name = name then kind definition.operator else none

/-- The last handler of this kind that is defined under a name. -/
def last? (kind : Operator σ → Option α) (name : String) (definitions : List (Definition σ)) :
    Option α :=
  definitions.reverse.findSome? (under? kind name)

/-- The handlers of this kind with their names. -/
def entries (kind : Operator σ → Option α) (definitions : List (Definition σ)) :
    List (String × α) :=
  definitions.filterMap fun definition => (kind definition.operator).map (definition.name, ·)

/-- Of two definitions, one is a function and one a macro, or they have two names. -/
def Apart (first second : Definition σ) : Prop :=
  first.name ≠ second.name ∨
    first.operator.expander?.isSome ≠ second.operator.expander?.isSome

/-- Some definitions of different names or kinds have changed places with each other. -/
inductive Reordered : List (Definition σ) → List (Definition σ) → Prop where
  | refl (definitions : List (Definition σ)) : Reordered definitions definitions
  | cons (first : Definition σ) {before after : List (Definition σ)}
      (behind : Reordered before after) : Reordered (first :: before) (first :: after)
  | swap {first second : Definition σ} (apart : first.Apart second)
      (rest : List (Definition σ)) :
      Reordered (first :: second :: rest) (second :: first :: rest)
  | trans {before between after : List (Definition σ)} (earlier : Reordered before between)
      (later : Reordered between after) : Reordered before after

theorem last?_cons (kind : Operator σ → Option α) (name : String) (first : Definition σ)
    (definitions : List (Definition σ)) :
    last? kind name (first :: definitions) =
      (last? kind name definitions).or (first.under? kind name) := by
  rw [last?, List.reverse_cons, List.findSome?_append]
  simp [last?]

theorem entries_cons (kind : Operator σ → Option α) (first : Definition σ)
    (definitions : List (Definition σ)) :
    entries kind (first :: definitions) =
      ((kind first.operator).map (first.name, ·)).toList ++ entries kind definitions := by
  rw [entries, List.filterMap_cons]
  cases kind first.operator <;> rfl

theorem findIn_entries (kind : Operator σ → Option α) (name : String)
    (definitions : List (Definition σ)) :
    Table.findIn name (entries kind definitions).reverse = last? kind name definitions := by
  induction definitions with
  | nil => rfl
  | cons first definitions inductionHypothesis =>
      have alone : Table.findIn name ((kind first.operator).map (first.name, ·)).toList.reverse =
          first.under? kind name := by
        unfold under?
        cases kind first.operator <;> simp [Table.findIn]
      rw [entries_cons, List.reverse_append, Table.findIn_append, inductionHypothesis, alone,
        last?_cons]

/-- Definitions that are apart are not both of one kind and name. -/
theorem Apart.under? {first second : Definition σ} (apart : first.Apart second) (name : String) :
    (first.under? Operator.function? name = none ∨ second.under? Operator.function? name = none) ∧
      (first.under? Operator.expander? name = none ∨
        second.under? Operator.expander? name = none) := by
  obtain ⟨firstName, firstOperator⟩ := first
  obtain ⟨secondName, secondOperator⟩ := second
  simp only [Definition.under?]
  by_cases firstHere : firstName = name
  · by_cases secondHere : secondName = name
    · have kinds := apart.resolve_left fun names => names (firstHere.trans secondHere.symm)
      cases firstOperator <;> cases secondOperator <;>
        simp_all [Operator.function?, Operator.expander?]
    · simp [secondHere]
  · simp [firstHere]

theorem or_comm_of_none {left right : Option α} (one : left = none ∨ right = none) :
    left.or right = right.or left := by
  rcases one with rfl | rfl <;> simp

/-- What is defined last of a kind does not change with the order of definitions that are
apart. -/
theorem Reordered.last? {before after : List (Definition σ)}
    (reordered : Reordered before after) (name : String) :
    Definition.last? Operator.function? name before =
        Definition.last? Operator.function? name after ∧
      Definition.last? Operator.expander? name before =
        Definition.last? Operator.expander? name after := by
  induction reordered with
  | refl definitions => exact ⟨rfl, rfl⟩
  | cons first _ inductionHypothesis =>
      simp only [last?_cons, inductionHypothesis, and_self]
  | swap apart rest =>
      obtain ⟨functions, macros⟩ := apart.under? name
      simp only [last?_cons, Option.or_assoc, or_comm_of_none functions, or_comm_of_none macros,
        and_self]
  | trans _ _ earlier later => exact ⟨earlier.1.trans later.1, earlier.2.trans later.2⟩

end Definition

/-! ## Ways to make a registry -/

/-- The table holds these entries, the last one of each name, in any order. -/
def Table.Collects (table : Table α) (entries : List (String × α)) : Prop :=
  table.entries.Perm (ofList entries).entries

theorem Table.find?_merge_of_collects {overrides : Table α} {entries : List (String × α)}
    (collects : overrides.Collects entries) (table : Table α) (name : String) :
    (table.merge overrides).find? name = (findIn name entries.reverse).or (table.find? name) := by
  have unique : (overrides.entries.reverse.map Prod.fst).Nodup :=
    ((((List.reverse_perm _).trans collects).map Prod.fst).nodup_iff).mpr (unique_ofList entries)
  have permuted : overrides.entries.reverse.Perm (ofList entries).entries :=
    (List.reverse_perm _).trans collects
  rw [merge, find?_insertAll_eq, findIn_perm permuted unique, ← find?_ofList_eq]
  rfl

namespace Operators

/-- Register the definitions in their order. -/
def defineAll (operators : Operators σ) (definitions : List (Definition σ)) : Operators σ :=
  definitions.foldl (fun current definition => current.define definition.name definition.operator)
    operators

theorem defineAll_eq (operators : Operators σ) (definitions : List (Definition σ)) :
    operators.defineAll definitions =
      { functions :=
          operators.functions.insertAll (Definition.entries Operator.function? definitions)
        macros :=
          operators.macros.insertAll (Definition.entries Operator.expander? definitions) } := by
  induction definitions generalizing operators with
  | nil => rfl
  | cons first definitions inductionHypothesis =>
      obtain ⟨name, operator⟩ := first
      calc (operators.define name operator).defineAll definitions
        _ = _ := inductionHypothesis (operators.define name operator)
        _ = _ := by cases operator <;> rfl

/-- A registry that is made of definitions: one by one, or by way of two tables. -/
inductive MadeFrom (definitions : List (Definition σ)) : Operators σ → Prop where
  | oneByOne : MadeFrom definitions (builtin.defineAll definitions)
  | merged {functions : Table (Function σ)} {macros : Table (Macro σ)}
      (collectsFunctions : functions.Collects (Definition.entries Operator.function? definitions))
      (collectsMacros : macros.Collects (Definition.entries Operator.expander? definitions)) :
      MadeFrom definitions (builtin.withOverrides functions macros)

/-- What a name stands for after definitions: the last macro under it, else the macro that
was there, else the last function, else the function that was there. -/
def meaning? (operators : Operators σ) (definitions : List (Definition σ)) (name : String) :
    Option (Operator σ) :=
  match Definition.last? Operator.expander? name definitions, operators.macros.find? name,
    Definition.last? Operator.function? name definitions, operators.functions.find? name with
  | some handler, _, _, _ => some (.expander handler)
  | none, some handler, _, _ => some (.expander handler)
  | none, none, some handler, _ => some (.function handler)
  | none, none, none, some handler => some (.function handler)
  | none, none, none, none => none

/-- The registry answers as the definitions over the built-in operators say. -/
structure Reflects (definitions : List (Definition σ)) (operators : Operators σ) : Prop where
  resolve? : ∀ name, operators.resolve? name = builtin.meaning? definitions name
  contains : ∀ name, operators.contains name = true ↔
    ∃ operator, operators.resolve? name = some operator
  isMacro : ∀ name, operators.isMacro name = true ↔
    ∃ handler, operators.resolve? name = some (.expander handler)
  mem_functionNames : ∀ name, name ∈ operators.functionNames ↔
    (∃ handler, Definition.last? Operator.function? name definitions = some handler) ∨
      ∃ handler, (builtin : Operators σ).functions.find? name = some handler
  nodup_functionNames : operators.functionNames.Nodup

section MadeFrom

variable {definitions : List (Definition σ)} {operators : Operators σ}
  (made : operators.MadeFrom definitions)
include made

theorem MadeFrom.find?_functions (name : String) :
    operators.functions.find? name =
      (Definition.last? Operator.function? name definitions).or
        ((builtin : Operators σ).functions.find? name) := by
  rw [← Definition.findIn_entries]
  cases made with
  | oneByOne => rw [defineAll_eq, Table.find?_insertAll_eq]
  | merged collectsFunctions _ => exact Table.find?_merge_of_collects collectsFunctions _ name

theorem MadeFrom.find?_macros (name : String) :
    operators.macros.find? name =
      (Definition.last? Operator.expander? name definitions).or
        ((builtin : Operators σ).macros.find? name) := by
  rw [← Definition.findIn_entries]
  cases made with
  | oneByOne => rw [defineAll_eq, Table.find?_insertAll_eq]
  | merged _ collectsMacros => exact Table.find?_merge_of_collects collectsMacros _ name

theorem MadeFrom.unique_functions : operators.functions.Unique := by
  have unique : (builtin : Operators σ).functions.Unique := Table.unique_ofList _
  cases made with
  | oneByOne =>
      rw [defineAll_eq]
      exact unique.insertAll _
  | merged _ _ => exact unique.insertAll _

theorem MadeFrom.reflects : operators.Reflects definitions where
  resolve? := by
    intro name
    rw [resolve?, meaning?, made.find?_functions, made.find?_macros]
    rcases Definition.last? Operator.expander? name definitions with _ | _ <;>
      rcases (builtin : Operators σ).macros.find? name with _ | _ <;>
      rcases Definition.last? Operator.function? name definitions with _ | _ <;>
      rcases (builtin : Operators σ).functions.find? name with _ | _ <;> rfl
  contains := by
    intro name
    rw [contains_eq_isSome_resolve?, Option.isSome_iff_exists]
  isMacro := fun _ => isMacro_iff_resolve?
  mem_functionNames := by
    intro name
    rw [functionNames, Table.mem_sortedNames_iff, made.find?_functions, Option.isSome_or,
      Bool.or_eq_true, Option.isSome_iff_exists, Option.isSome_iff_exists]
  nodup_functionNames := made.unique_functions.nodup_sortedNames

end MadeFrom

end Operators

/-! ## Sessions -/

/-- What a host sees after an operation. -/
structure Reply (σ : Type) where
  result : Option (Except EvalError Value)
  context : σ
  answer : (query : Query) → query.Answer

namespace Operation

/-- A session: the reply to each operation, all in one evaluator. -/
def replies : List (Operation σ) → Evaluator σ → List (Reply σ)
  | [], _ => []
  | operation :: operations, evaluator =>
    let (result, after) := operation.run evaluator
    ⟨result, after.context, after.answer⟩ :: replies operations after

section Replies

variable {operators other : Operators σ} {left right : Evaluator σ}
  (replaceable : operators.ReplaceableBy (fun _ => False) (fun _ => True) other)
  (start : Over operators other left right)
include replaceable start

/-- One operation under two registries that nothing tells apart. -/
theorem run_over (operation : Operation σ) :
    (operation.run left).1 = (operation.run right).1 ∧
      Over operators other (operation.run left).2 (operation.run right).2 := by
  cases operation with
  | evaluate tree =>
      obtain ⟨sameResult, after⟩ :=
        (enterTree_agreeUnless replaceable.evaluateExpression_agreeUnless tree start).agree
      exact ⟨congrArg some sameResult, after⟩
  | evaluateItems items =>
      obtain ⟨sameResult, after⟩ := (replaceable.evaluateExpression_agreeUnless items start).agree
      exact ⟨congrArg some sameResult, after⟩
  | updateContext update =>
      obtain ⟨registered, rfl⟩ := start
      exact ⟨rfl, registered, rfl⟩

theorem replies_over (operations : List (Operation σ)) :
    replies operations left = replies operations right := by
  induction operations generalizing left right with
  | nil => rfl
  | cons operation operations inductionHypothesis =>
      obtain ⟨sameResult, after⟩ := run_over replaceable start operation
      have sameContext := replaceable.lockstep.context after
      have sameAnswer : (operation.run left).2.answer = (operation.run right).2.answer :=
        funext fun query => replaceable.lockstep.answer after query trivial
      simp only [replies, sameResult, sameContext, sameAnswer, inductionHypothesis after]

end Replies

end Operation

namespace Operators

/-- Nothing that a host can do tells the registries apart. -/
structure Alike (left right : Operators σ) : Prop where
  resolve? : ∀ name, left.resolve? name = right.resolve? name
  contains : ∀ name, left.contains name = right.contains name
  isMacro : ∀ name, left.isMacro name = right.isMacro name
  functionNames : left.functionNames = right.functionNames
  replies : ∀ limit context operations,
    Operation.replies operations (fresh left limit context) =
      Operation.replies operations (fresh right limit context)

/-- Registries with the same operators and the same names of functions are alike. -/
theorem alike_of_resolve? {left right : Operators σ}
    (same : ∀ name, left.resolve? name = right.resolve? name)
    (sameNames : left.functionNames = right.functionNames) : left.Alike right := by
  have answers : ∀ query, True → ∀ evaluator : Evaluator σ, evaluator.operators = left →
      evaluator.answer query = (evaluator.withOperators right).answer query := by
    intro query _ evaluator registered
    by_cases asksNames : query = .allowedOperators
    · subst asksNames registered
      exact sameNames
    · exact answer_of_resolve? same asksNames registered
  have replaceable : left.ReplaceableBy (fun _ => False) (fun _ => True) right :=
    { resolve? := fun name => .inl (same name)
      answer := answers
      asksOnly := fun _ _ _ _ => MacroProgram.asksOnly_true _
      letThrough := fun _ _ _ _ => MacroProgram.letsThrough_false _ }
  exact
    { resolve? := same
      contains := fun name => by
        rw [contains_eq_isSome_resolve?, contains_eq_isSome_resolve?, same]
      isMacro := fun name => by
        rw [Bool.eq_iff_iff, isMacro_iff_resolve?, isMacro_iff_resolve?, same]
      functionNames := sameNames
      replies := fun limit context operations =>
        have registered : (fresh left limit context).operators = left := rfl
        Operation.replies_over replaceable (.refl registered) operations }

/-- Definitions that are reordered say the same of a registry. -/
theorem Reflects.of_reordered {definitions others : List (Definition σ)}
    (reordered : Definition.Reordered definitions others) {operators : Operators σ}
    (reflects : operators.Reflects others) : operators.Reflects definitions where
  resolve? := by
    intro name
    obtain ⟨functions, macros⟩ := reordered.last? name
    rw [reflects.resolve?, meaning?, meaning?, functions, macros]
  contains := reflects.contains
  isMacro := reflects.isMacro
  mem_functionNames := by
    intro name
    rw [reflects.mem_functionNames, (reordered.last? name).1]
  nodup_functionNames := reflects.nodup_functionNames

/-- **The ways of making a registry agree.**

Take any definitions, under any names, with repetitions and those of the built-in operators
included, and the same definitions with some that differ in name or kind in another order.
A registry made of the first, one by one or by way of two tables, and a registry made of the
second in either way both answer as the definitions say: the last macro under a name, else a
built-in macro, else the last function, else a built-in function; names of functions once
each, shadowed or not. Nothing tells the two registries apart, in any session, under any
limit and from any context. -/
theorem constructions_agree {definitions others : List (Definition σ)}
    (reordered : Definition.Reordered definitions others)
    {left right : Operators σ} (madeLeft : left.MadeFrom definitions)
    (madeRight : right.MadeFrom others) :
    left.Reflects definitions ∧ right.Reflects definitions ∧ left.Alike right := by
  have reflectsLeft := madeLeft.reflects
  have reflectsRight := madeRight.reflects.of_reordered reordered
  have sameNames : left.functionNames = right.functionNames := by
    apply Table.sortedNames_congr madeLeft.unique_functions madeRight.unique_functions
    intro name
    rw [madeLeft.find?_functions, madeRight.find?_functions, (reordered.last? name).1]
  refine ⟨reflectsLeft, reflectsRight, alike_of_resolve? (fun name => ?_) sameNames⟩
  rw [reflectsLeft.resolve?, reflectsRight.resolve?]

/-- A function under the name of the built-in macro, and `identity` three times: as a function,
as a macro that gives its first argument to `always`, and as a function again. -/
def overlapping : List (Definition Unit) :=
  [⟨"if-else", .function fun _ context => (.ok (.string "shadowed"), context)⟩,
    ⟨"identity", .function fun _ context => (.ok (.string "first"), context)⟩,
    ⟨"identity", .expander fun arguments =>
      .finish (.ok [.string "always", Value.argument arguments 0])⟩,
    ⟨"identity", .function fun _ context => (.ok (.string "second"), context)⟩]

/-- The two last definitions change places, and the tables are merged backwards. -/
theorem constructions_agree_overlapping :
    let exchanged := overlapping.take 2 ++ (overlapping.drop 2).reverse
    let functions : Table (Function Unit) :=
      ⟨(Table.ofList (Definition.entries Operator.function? exchanged)).entries.reverse⟩
    let macros : Table (Macro Unit) :=
      ⟨(Table.ofList (Definition.entries Operator.expander? exchanged)).entries.reverse⟩
    let chained : Operators Unit := builtin.defineAll overlapping
    let merged := builtin.withOverrides functions macros
    let call : Operation Unit := .evaluate (.list [.string "identity", .null])
    Definition.Reordered overlapping exchanged ∧
      chained.MadeFrom overlapping ∧ merged.MadeFrom exchanged ∧
      merged.isMacro "identity" = true ∧ merged.isMacro "if-else" = true ∧
      "if-else" ∈ merged.functionNames ∧
      (Operation.replies [call] (fresh chained 2 ())).map Reply.result =
        [some (.ok (.boolean true))] ∧
      Operation.replies [call] (fresh chained 2 ()) =
        Operation.replies [call] (fresh merged 2 ()) := by
  intro exchanged functions macros chained merged call
  have reordered : Definition.Reordered overlapping exchanged := by
    have kinds : Definition.Apart overlapping[2] overlapping[3] := .inr (by decide)
    exact .cons _ (.cons _ (.swap kinds []))
  have madeLeft : chained.MadeFrom overlapping := .oneByOne
  have madeRight : merged.MadeFrom exchanged :=
    .merged (List.reverse_perm _) (List.reverse_perm _)
  obtain ⟨-, reflects, alike⟩ := constructions_agree reordered madeLeft madeRight
  refine ⟨reordered, madeLeft, madeRight, ?_, ?_, ?_, rfl, alike.replies 2 () [call]⟩
  · exact (reflects.isMacro "identity").mpr ⟨_, reflects.resolve? "identity"⟩
  · exact (reflects.isMacro "if-else").mpr ⟨_, reflects.resolve? "if-else"⟩
  · exact (reflects.mem_functionNames "if-else").mpr (.inl ⟨_, rfl⟩)

end Operators

end RuleTree
