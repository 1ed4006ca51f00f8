import RuleTree.Error
import RuleTree.Table

/-!
Contract: what an evaluator may dispatch to.

Functions are eager: they get the context and evaluated arguments. Macros are lazy:
they get raw arguments and give the expression to evaluate in place of the call. A
macro handler is a `MacroProgram`, a description of what it asks of the evaluator
that runs it, so the only ways to reach the evaluator are the ones listed there.

Owns: handlers, macro programs, the registry and its lookup order.
Does not own: running any of it (`Evaluator`) or the built-in operators (`Builtins`).
-/

namespace RuleTree

/-- An eager operator over a context of type `σ`. It has no state but the context: a
handler that remembers its calls in any other way is left out. -/
abbrev Function (σ : Type) := List Value → σ → Except EvalError Value × σ

/-! ## Macro programs -/

/-- What a macro handler may ask about the evaluator it runs in. -/
inductive Query where
  /-- How deep evaluations may be nested. -/
  | limit
  /-- The names of the functions, sorted. -/
  | allowedOperators
  | supports (name : String)
  | isMacro (name : String)
deriving DecidableEq, Repr

def Query.Answer : Query → Type
  | .limit => Nat
  | .allowedOperators => List String
  | .supports _ => Bool
  | .isMacro _ => Bool

/-- A run of a macro handler, one request to the evaluator after the other. A
request for an evaluation is answered by its result, an error included, so a
handler decides itself whether to pass an error on. -/
inductive MacroProgram (σ α : Type) where
  | finish (result : Except EvalError α)
  /-- Evaluate a tree. -/
  | evaluate (tree : Value) (next : Except EvalError Value → MacroProgram σ α)
  /-- Evaluate an expression given by its elements. -/
  | evaluateItems (items : List Value) (next : Except EvalError Value → MacroProgram σ α)
  | readContext (next : σ → MacroProgram σ α)
  | writeContext (context : σ) (next : MacroProgram σ α)
  | ask (query : Query) (next : query.Answer → MacroProgram σ α)

/-- A lazy operator over a context of type `σ`. -/
abbrev Macro (σ : Type) := List Value → MacroProgram σ (List Value)

/-! ## The registry -/

/-- A handler as found under a name. -/
inductive Operator (σ : Type) where
  | function (handler : Function σ)
  | expander (handler : Macro σ)

structure Operators (σ : Type) where
  functions : Table (Function σ)
  macros : Table (Macro σ)

namespace Operators

variable {σ : Type}

/-- The handler under a name, macros first. -/
def resolve? (operators : Operators σ) (name : String) : Option (Operator σ) :=
  match operators.macros.find? name with
  | some handler => some (.expander handler)
  | none => (operators.functions.find? name).map .function

def contains (operators : Operators σ) (name : String) : Bool :=
  operators.macros.contains name || operators.functions.contains name

def isMacro (operators : Operators σ) (name : String) : Bool :=
  operators.macros.contains name

/-- The names of the functions, also of those that a macro shadows. -/
def functionNames (operators : Operators σ) : List String :=
  operators.functions.sortedNames

/-- Register a function, replacing any function of that name. -/
def insertFunction
    (operators : Operators σ)
    (name : String)
    (handler : Function σ) : Operators σ :=
  { operators with functions := operators.functions.insert name handler }

/-- Register a macro, replacing any macro of that name. -/
def insertMacro
    (operators : Operators σ)
    (name : String)
    (handler : Macro σ) : Operators σ :=
  { operators with macros := operators.macros.insert name handler }

/-- The registry with two tables merged on top. -/
def withOverrides
    (operators : Operators σ)
    (functions : Table (Function σ))
    (macros : Table (Macro σ)) : Operators σ :=
  { functions := operators.functions.merge functions
    macros := operators.macros.merge macros }

theorem resolve?_eq_expander_iff
    {operators : Operators σ} {name : String} {handler : Macro σ} :
    operators.resolve? name = some (.expander handler) ↔
      operators.macros.find? name = some handler := by
  unfold resolve?
  cases operators.macros.find? name <;> simp

theorem contains_eq_isSome_resolve? (operators : Operators σ) (name : String) :
    operators.contains name = (operators.resolve? name).isSome := by
  unfold contains resolve? Table.contains
  cases operators.macros.find? name <;> simp

theorem isMacro_iff_resolve? {operators : Operators σ} {name : String} :
    operators.isMacro name = true ↔
      ∃ handler, operators.resolve? name = some (.expander handler) := by
  simp only [resolve?_eq_expander_iff, isMacro, Table.contains, Option.isSome_iff_exists]

theorem resolve?_insertFunction_of_ne
    (operators : Operators σ) {name other : String} (different : name ≠ other)
    (handler : Function σ) :
    (operators.insertFunction name handler).resolve? other = operators.resolve? other := by
  simp only [resolve?, insertFunction, Table.find?_insert, if_neg different]

/-- A function under the name of a macro is not found. -/
theorem resolve?_insertFunction_of_isMacro
    {operators : Operators σ} {name : String} (shadowed : operators.isMacro name = true)
    (handler : Function σ) (other : String) :
    (operators.insertFunction name handler).resolve? other = operators.resolve? other := by
  by_cases same : name = other
  · obtain ⟨expander, found⟩ := Option.isSome_iff_exists.mp shadowed
    subst same
    simp only [resolve?, insertFunction, found]
  · exact resolve?_insertFunction_of_ne operators same handler

theorem resolve?_insertMacro
    (operators : Operators σ) (name other : String) (handler : Macro σ) :
    (operators.insertMacro name handler).resolve? other =
      if name = other then some (.expander handler) else operators.resolve? other := by
  simp only [resolve?, insertMacro, Table.find?_insert]
  by_cases same : name = other <;> simp [same]

end Operators

end RuleTree
