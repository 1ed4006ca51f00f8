import RuleTree.CommandLine.Bindings

/-!
Contract: what all functions of a registry have in common.

A property of function handlers holds of a registry if it holds of every function that
a name resolves to; so it is enough to look at what is registered, one handler after the
other. Three such properties are used: which errors a function makes up, that no limit error
is among them, and that it leaves the context alone. The operators of the command line have
all three, and only `matches` fails.

Owns: properties of all functions. Does not own: how macro handlers behave (`Handler`).
-/

namespace RuleTree

/-! ## Lookup -/

theorem Table.find?_insertAll {α : Type} {entries : List (String × α)} {table : Table α}
    {name : String} {value : α} (found : (table.insertAll entries).find? name = some value) :
    (name, value) ∈ entries ∨ table.find? name = some value := by
  induction entries generalizing table with
  | nil => exact .inr found
  | cons entry entries inductionHypothesis =>
      obtain member | earlier := inductionHypothesis found
      · exact .inl (List.mem_cons_of_mem entry member)
      · rw [find?_insert] at earlier
        split at earlier
        · rename_i same
          cases earlier
          exact .inl (same ▸ List.mem_cons_self)
        · exact .inr earlier

theorem Table.find?_ofList {α : Type} {entries : List (String × α)} {name : String} {value : α}
    (found : (ofList entries).find? name = some value) : (name, value) ∈ entries := by
  obtain member | earlier := find?_insertAll found
  · exact member
  · cases earlier

/-! ## Properties of all functions -/

namespace Operators

variable {σ : Type} {property : Function σ → Prop}

/-- Every function that a name resolves to has the property. -/
def EveryFunction (property : Function σ → Prop) (operators : Operators σ) : Prop :=
  ∀ name handler, operators.resolve? name = some (.function handler) → property handler

theorem find?_functions_of_resolve? {operators : Operators σ} {name : String}
    {handler : Function σ} (resolved : operators.resolve? name = some (.function handler)) :
    operators.functions.find? name = some handler := by
  unfold resolve? at resolved
  split at resolved
  · cases resolved
  · obtain ⟨_, found, same⟩ := Option.map_eq_some_iff.mp resolved
    cases same
    exact found

theorem EveryFunction.insertFunction {operators : Operators σ}
    (every : operators.EveryFunction property) (name : String) {handler : Function σ}
    (holds : property handler) :
    (operators.insertFunction name handler).EveryFunction property := by
  intro other found resolved
  unfold resolve? at resolved
  split at resolved
  · cases resolved
  · rename_i noMacro
    obtain ⟨_, registered, same⟩ := Option.map_eq_some_iff.mp resolved
    cases same
    rw [Operators.insertFunction, Table.find?_insert] at registered
    split at registered
    · cases registered
      exact holds
    · apply every other found
      unfold resolve?
      rw [Operators.insertFunction] at noMacro
      rw [noMacro, registered]
      rfl

theorem builtin_everyFunction (always : property Builtin.always)
    (identity : property Builtin.identity) (isTrue : property Builtin.isTrue)
    (wholeMatch : property Builtin.wholeMatch) :
    (Operators.builtin : Operators σ).EveryFunction property := by
  intro name handler resolved
  have member := Table.find?_ofList (find?_functions_of_resolve? resolved)
  simp only [List.mem_cons, Prod.mk.injEq, List.not_mem_nil, or_false] at member
  obtain ⟨-, rfl⟩ | ⟨-, rfl⟩ | ⟨-, rfl⟩ | ⟨-, rfl⟩ := member
  · exact always
  · exact identity
  · exact isTrue
  · exact wholeMatch

end Operators

/-! ## Errors -/

/-- The function answers with a value or with one of the errors. -/
def Function.RaisesOnly {σ : Type} (raised : EvalError → Prop) (handler : Function σ) : Prop :=
  ∀ arguments context error, (handler arguments context).1 = .error error → raised error

/-- What `matches` refuses: a number of arguments other than two, and a text that is no
pattern. -/
inductive MatchError : EvalError → Prop where
  | wrongCount {got : Nat} (other : got ≠ 2) : MatchError (.wrongCount "matches" 2 got)
  | invalidPattern (pattern : String) : MatchError (.invalidPattern pattern)

theorem error_of_matchesPattern {value pattern : Value} {error : EvalError}
    (failed : matchesPattern value pattern = .error error) : MatchError error := by
  unfold matchesPattern at failed
  dsimp only at failed
  split at failed
  · cases failed
  · cases failed
    exact .invalidPattern _

theorem Builtin.wholeMatch_raisesOnly {σ : Type} :
    Function.RaisesOnly MatchError (Builtin.wholeMatch : Function σ) := by
  intro arguments context error failed
  unfold wholeMatch at failed
  split at failed
  · rename_i value pattern
    cases matched : matchesPattern value pattern with
    | ok answer =>
        rw [matched] at failed
        cases failed
    | error raised =>
        rw [matched] at failed
        cases failed
        exact error_of_matchesPattern matched
  · rename_i notTwo
    cases failed
    refine .wrongCount fun two => ?_
    match arguments, two with
    | [value, pattern], _ => exact notTwo value pattern rfl

/-- No built-in function but `matches` fails. -/
theorem Operators.builtin_raisesOnly {σ : Type} :
    (Operators.builtin : Operators σ).EveryFunction (Function.RaisesOnly MatchError) := by
  apply builtin_everyFunction
  · exact fun _ _ _ failed => by cases failed
  · exact fun _ _ _ failed => by cases failed
  · exact fun _ _ _ failed => by cases failed
  · exact Builtin.wholeMatch_raisesOnly

theorem CommandLine.operators_raisesOnly :
    CommandLine.operators.EveryFunction (Function.RaisesOnly MatchError) :=
  Operators.builtin_raisesOnly.insertFunction "var" fun _ _ _ failed => by cases failed

/-- The function never answers with the error of a limit. -/
def Function.RaisesNoLimit {σ : Type} (handler : Function σ) : Prop :=
  ∀ arguments context reported,
    (handler arguments context).1 ≠ .error (.recursionLimitExceeded reported)

theorem Function.RaisesOnly.raisesNoLimit {σ : Type} {handler : Function σ}
    (only : handler.RaisesOnly MatchError) : handler.RaisesNoLimit :=
  fun arguments context _ limited => nomatch only arguments context _ limited

theorem Operators.builtin_raisesNoLimit {σ : Type} :
    (Operators.builtin : Operators σ).EveryFunction Function.RaisesNoLimit :=
  fun name handler found => (builtin_raisesOnly name handler found).raisesNoLimit

theorem CommandLine.operators_raisesNoLimit :
    CommandLine.operators.EveryFunction Function.RaisesNoLimit :=
  fun name handler found => (operators_raisesOnly name handler found).raisesNoLimit

/-! ## The context -/

/-- The function leaves the context as it is, whatever it answers. -/
def Function.KeepsContext {σ : Type} (handler : Function σ) : Prop :=
  ∀ arguments context, (handler arguments context).2 = context

theorem Builtin.wholeMatch_keepsContext {σ : Type} :
    Function.KeepsContext (Builtin.wholeMatch : Function σ) := by
  intro arguments context
  unfold wholeMatch
  split <;> rfl

theorem Operators.builtin_keepsContext {σ : Type} :
    (Operators.builtin : Operators σ).EveryFunction Function.KeepsContext :=
  builtin_everyFunction (fun _ _ => rfl) (fun _ _ => rfl) (fun _ _ => rfl)
    Builtin.wholeMatch_keepsContext

theorem CommandLine.operators_keepsContext :
    CommandLine.operators.EveryFunction Function.KeepsContext :=
  Operators.builtin_keepsContext.insertFunction "var" fun _ _ => rfl

end RuleTree
