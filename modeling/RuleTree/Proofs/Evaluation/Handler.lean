import RuleTree.Builtins

/-!
Contract: how the run of a macro handler treats the errors it is given.

A handler passes errors on if, once an evaluation has given it an error, it asks for
no other evaluation and ends in that error; it may still tidy up the context. The
queries that a handler puts are limited by a predicate, as a handler that reads the
limit sees how deep it runs. A handler that passes all errors on lets every single one
through: once it is given that one it ends in it, whatever it does before the end.

Owns: these manners of handlers, of registries, and of the built-in macro.
-/

namespace RuleTree

variable {σ α : Type}

namespace MacroProgram

/-- The rest of a run asks for no evaluation and ends in the error. -/
def Raises (permitted : Query → Prop) (error : EvalError) : MacroProgram σ α → Prop
  | .finish result => result = .error error
  | .evaluate _ _ => False
  | .evaluateItems _ _ => False
  | .readContext next => ∀ context, (next context).Raises permitted error
  | .writeContext _ next => next.Raises permitted error
  | .ask query next => permitted query ∧ ∀ answer, (next answer).Raises permitted error

/-- A run that ends in every error that an evaluation gives it. -/
def PassesErrors (permitted : Query → Prop) : MacroProgram σ α → Prop
  | .finish _ => True
  | .evaluate _ next =>
    (∀ value, (next (.ok value)).PassesErrors permitted) ∧
      ∀ error, (next (.error error)).Raises permitted error
  | .evaluateItems _ next =>
    (∀ value, (next (.ok value)).PassesErrors permitted) ∧
      ∀ error, (next (.error error)).Raises permitted error
  | .readContext next => ∀ context, (next context).PassesErrors permitted
  | .writeContext _ next => next.PassesErrors permitted
  | .ask query next => permitted query ∧ ∀ answer, (next answer).PassesErrors permitted

/-- A run that puts permitted queries only. -/
def AsksOnly (permitted : Query → Prop) : MacroProgram σ α → Prop
  | .finish _ => True
  | .evaluate _ next => ∀ answer, (next answer).AsksOnly permitted
  | .evaluateItems _ next => ∀ answer, (next answer).AsksOnly permitted
  | .readContext next => ∀ context, (next context).AsksOnly permitted
  | .writeContext _ next => next.AsksOnly permitted
  | .ask query next => permitted query ∧ ∀ answer, (next answer).AsksOnly permitted

/-- However it is answered, the rest of a run ends in the error. -/
def EndsIn (error : EvalError) : MacroProgram σ α → Prop
  | .finish result => result = .error error
  | .evaluate _ next => ∀ answer, (next answer).EndsIn error
  | .evaluateItems _ next => ∀ answer, (next answer).EndsIn error
  | .readContext next => ∀ context, (next context).EndsIn error
  | .writeContext _ next => next.EndsIn error
  | .ask _ next => ∀ answer, (next answer).EndsIn error

/-- A run that ends in every fatal error that an evaluation gives it. -/
def LetsThrough (fatal : EvalError → Prop) : MacroProgram σ α → Prop
  | .finish _ => True
  | .evaluate _ next =>
    (∀ answer, (next answer).LetsThrough fatal) ∧
      ∀ error, fatal error → (next (.error error)).EndsIn error
  | .evaluateItems _ next =>
    (∀ answer, (next answer).LetsThrough fatal) ∧
      ∀ error, fatal error → (next (.error error)).EndsIn error
  | .readContext next => ∀ context, (next context).LetsThrough fatal
  | .writeContext _ next => next.LetsThrough fatal
  | .ask _ next => ∀ answer, (next answer).LetsThrough fatal

section Manners

variable {permitted : Query → Prop} {fatal : EvalError → Prop}

theorem asksOnly_true (program : MacroProgram σ α) : program.AsksOnly fun _ => True := by
  induction program with
  | finish result => trivial
  | evaluate tree next inductionHypothesis => exact inductionHypothesis
  | evaluateItems items next inductionHypothesis => exact inductionHypothesis
  | readContext next inductionHypothesis => exact inductionHypothesis
  | writeContext context next inductionHypothesis => exact inductionHypothesis
  | ask query next inductionHypothesis => exact ⟨trivial, inductionHypothesis⟩

/-- Where no error is fatal, every handler lets those that are through. -/
theorem letsThrough_false (program : MacroProgram σ α) : program.LetsThrough fun _ => False := by
  induction program with
  | finish result => trivial
  | evaluate tree next inductionHypothesis => exact ⟨inductionHypothesis, fun _ => False.elim⟩
  | evaluateItems items next inductionHypothesis => exact ⟨inductionHypothesis, fun _ => False.elim⟩
  | readContext next inductionHypothesis => exact inductionHypothesis
  | writeContext context next inductionHypothesis => exact inductionHypothesis
  | ask query next inductionHypothesis => exact inductionHypothesis

theorem Raises.asksOnly {program : MacroProgram σ α} {error : EvalError}
    (raises : program.Raises permitted error) : program.AsksOnly permitted := by
  induction program with
  | finish result => trivial
  | evaluate tree next _ => exact raises.elim
  | evaluateItems items next _ => exact raises.elim
  | readContext next inductionHypothesis =>
      exact fun context => inductionHypothesis context (raises context)
  | writeContext context next inductionHypothesis => exact inductionHypothesis raises
  | ask query next inductionHypothesis =>
      exact ⟨raises.1, fun answer => inductionHypothesis answer (raises.2 answer)⟩

theorem Raises.endsIn {program : MacroProgram σ α} {error : EvalError}
    (raises : program.Raises permitted error) : program.EndsIn error := by
  induction program with
  | finish result => exact raises
  | evaluate tree next _ => exact raises.elim
  | evaluateItems items next _ => exact raises.elim
  | readContext next inductionHypothesis =>
      exact fun context => inductionHypothesis context (raises context)
  | writeContext context next inductionHypothesis => exact inductionHypothesis raises
  | ask query next inductionHypothesis =>
      exact fun answer => inductionHypothesis answer (raises.2 answer)

theorem Raises.letsThrough {program : MacroProgram σ α} {error : EvalError}
    (raises : program.Raises permitted error) : program.LetsThrough fatal := by
  induction program with
  | finish result => trivial
  | evaluate tree next _ => exact raises.elim
  | evaluateItems items next _ => exact raises.elim
  | readContext next inductionHypothesis =>
      exact fun context => inductionHypothesis context (raises context)
  | writeContext context next inductionHypothesis => exact inductionHypothesis raises
  | ask query next inductionHypothesis =>
      exact fun answer => inductionHypothesis answer (raises.2 answer)

theorem PassesErrors.asksOnly {program : MacroProgram σ α}
    (passes : program.PassesErrors permitted) : program.AsksOnly permitted := by
  induction program with
  | finish result => trivial
  | evaluate tree next inductionHypothesis =>
      intro answer
      cases answer with
      | ok value => exact inductionHypothesis (.ok value) (passes.1 value)
      | error error => exact (passes.2 error).asksOnly
  | evaluateItems items next inductionHypothesis =>
      intro answer
      cases answer with
      | ok value => exact inductionHypothesis (.ok value) (passes.1 value)
      | error error => exact (passes.2 error).asksOnly
  | readContext next inductionHypothesis =>
      exact fun context => inductionHypothesis context (passes context)
  | writeContext context next inductionHypothesis => exact inductionHypothesis passes
  | ask query next inductionHypothesis =>
      exact ⟨passes.1, fun answer => inductionHypothesis answer (passes.2 answer)⟩

theorem PassesErrors.letsThrough {program : MacroProgram σ α}
    (passes : program.PassesErrors permitted) : program.LetsThrough fatal := by
  induction program with
  | finish result => trivial
  | evaluate tree next inductionHypothesis =>
      refine ⟨fun answer => ?_, fun error _ => (passes.2 error).endsIn⟩
      cases answer with
      | ok value => exact inductionHypothesis (.ok value) (passes.1 value)
      | error error => exact (passes.2 error).letsThrough
  | evaluateItems items next inductionHypothesis =>
      refine ⟨fun answer => ?_, fun error _ => (passes.2 error).endsIn⟩
      cases answer with
      | ok value => exact inductionHypothesis (.ok value) (passes.1 value)
      | error error => exact (passes.2 error).letsThrough
  | readContext next inductionHypothesis =>
      exact fun context => inductionHypothesis context (passes context)
  | writeContext context next inductionHypothesis => exact inductionHypothesis passes
  | ask query next inductionHypothesis =>
      exact fun answer => inductionHypothesis answer (passes.2 answer)

end Manners

end MacroProgram

/-- All macros of the registry put permitted queries only. -/
def Operators.MacrosAskOnly (permitted : Query → Prop) (operators : Operators σ) : Prop :=
  ∀ name handler, operators.resolve? name = some (.expander handler) →
    ∀ arguments, (handler arguments).AsksOnly permitted

/-- All macros of the registry end in every fatal error that an evaluation gives them. -/
def Operators.MacrosLetThrough (fatal : EvalError → Prop) (operators : Operators σ) : Prop :=
  ∀ name handler, operators.resolve? name = some (.expander handler) →
    ∀ arguments, (handler arguments).LetsThrough fatal

/-- All macros of the registry pass errors on and put permitted queries only. -/
def Operators.MacrosPassErrors (permitted : Query → Prop) (operators : Operators σ) : Prop :=
  ∀ name handler, operators.resolve? name = some (.expander handler) →
    ∀ arguments, (handler arguments).PassesErrors permitted

theorem Operators.MacrosPassErrors.insertMacro {permitted : Query → Prop}
    {operators : Operators σ} (passes : operators.MacrosPassErrors permitted)
    (name : String) {handler : Macro σ}
    (handlerPasses : ∀ arguments, (handler arguments).PassesErrors permitted) :
    (operators.insertMacro name handler).MacrosPassErrors permitted := by
  intro other found resolved
  rw [resolve?_insertMacro] at resolved
  split at resolved
  · cases resolved
    exact handlerPasses
  · exact passes other found resolved

theorem Operators.MacrosPassErrors.asksOnly {permitted : Query → Prop}
    {operators : Operators σ} (passes : operators.MacrosPassErrors permitted) :
    operators.MacrosAskOnly permitted :=
  fun name handler resolved arguments => (passes name handler resolved arguments).asksOnly

theorem Operators.MacrosPassErrors.letThrough {permitted : Query → Prop}
    {operators : Operators σ} (passes : operators.MacrosPassErrors permitted)
    (fatal : EvalError → Prop) : operators.MacrosLetThrough fatal :=
  fun name handler resolved arguments => (passes name handler resolved arguments).letsThrough

theorem Builtin.ifElse_passesErrors (permitted : Query → Prop) (arguments : List Value) :
    (Builtin.ifElse arguments : MacroProgram σ (List Value)).PassesErrors permitted :=
  ⟨fun _ => trivial, fun _ => rfl⟩

theorem Operators.builtin_macrosPassErrors (permitted : Query → Prop) :
    (Operators.builtin : Operators σ).MacrosPassErrors permitted := by
  intro name handler resolved
  rw [Operators.resolve?_eq_expander_iff, Operators.find?_macros_builtin] at resolved
  split at resolved
  · cases resolved
    exact Builtin.ifElse_passesErrors permitted
  · cases resolved

end RuleTree
