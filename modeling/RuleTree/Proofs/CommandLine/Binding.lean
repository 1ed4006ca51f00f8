import Mathlib.Data.List.Basic
import RuleTree.CommandLine.Bindings

/-!
Contract: which texts are bindings.

A binding is split at its first equals sign, so a value may hold further ones
(`binding?_of_name`). What has no equals sign, or begins with it, is no binding, and all
else is one (`binding?_fails_iff`); a list of bindings fails exactly when one of them does
(`bindings?_fails_iff`).

Owns: the split of a binding, and which lists of bindings are read.
Does not own: what a value is as JSON (`Proofs.Json`).
-/

namespace RuleTree.CommandLine

/-! ## The first equals sign -/

theorem splitAtEquals_of_not_mem {chars : List Char} (plain : '=' ∉ chars) :
    splitAtEquals chars = (chars, none) := by
  induction chars with
  | nil => rfl
  | cons c chars inductionHypothesis =>
      obtain ⟨other, plainRest⟩ := not_or.mp (mt List.mem_cons.mpr plain)
      rw [splitAtEquals, if_neg (Ne.symm other), inductionHypothesis plainRest]

theorem splitAtEquals_append {name : List Char} (plain : '=' ∉ name) (value : List Char) :
    splitAtEquals (name ++ '=' :: value) = (name, some value) := by
  induction name with
  | nil => rfl
  | cons c name inductionHypothesis =>
      obtain ⟨other, plainRest⟩ := not_or.mp (mt List.mem_cons.mpr plain)
      rw [List.cons_append, splitAtEquals, if_neg (Ne.symm other), inductionHypothesis plainRest]

/-! ## One binding -/

/-- There is no equals sign, or no name before it. -/
def Misbound (pair : String) : Prop :=
  '=' ∉ pair.toList ∨ pair.toList.head? = some '='

/-- What stands behind the first equals sign is the value, whatever it holds. -/
theorem binding?_of_name {name : List Char} (named : name ≠ []) (plain : '=' ∉ name)
    (value : List Char) :
    binding? (String.ofList (name ++ '=' :: value)) =
      .ok (String.ofList name, bindingValue (String.ofList value)) := by
  rw [binding?, String.toList_ofList, splitAtEquals_append plain]
  cases name with
  | nil => exact absurd rfl named
  | cons c name => rfl

theorem binding?_fails_iff {pair : String} :
    (∃ error, binding? pair = .error error) ↔ Misbound pair := by
  by_cases plain : '=' ∈ pair.toList
  · obtain ⟨name, value, split, plainName⟩ := List.eq_append_cons_of_mem plain
    obtain rfl : pair = String.ofList (name ++ '=' :: value) := by
      rw [← split, String.ofList_toList]
    cases name with
    | nil =>
        refine iff_of_true ⟨.noName (String.ofList ('=' :: value)), ?_⟩ (.inr ?_)
        · rw [binding?, String.toList_ofList]
          rfl
        · rw [String.toList_ofList]
          rfl
    | cons c name =>
        have other : c ≠ '=' := fun same => plainName (same ▸ List.mem_cons_self)
        refine iff_of_false ?_ ?_
        · rintro ⟨error, failed⟩
          rw [binding?_of_name (List.cons_ne_nil _ _) plainName] at failed
          cases failed
        · rintro (absent | first)
          · exact absent plain
          · rw [String.toList_ofList, List.cons_append, List.head?_cons, Option.some.injEq] at first
            exact other first
  · refine iff_of_true ⟨.noValue pair, ?_⟩ (.inl plain)
    rw [binding?, splitAtEquals_of_not_mem plain]

/-! ## Lists of bindings -/

theorem bindingsFrom?_fails_iff {pairs : List String} (bindings : Bindings) :
    (∃ error, bindingsFrom? bindings pairs = .error error) ↔ ∃ pair ∈ pairs, Misbound pair := by
  induction pairs generalizing bindings with
  | nil => exact iff_of_false nofun nofun
  | cons pair pairs inductionHypothesis =>
      rw [List.exists_mem_cons_iff, ← binding?_fails_iff, bindingsFrom?]
      cases read : binding? pair with
      | error error => exact iff_of_true ⟨error, rfl⟩ (.inl ⟨error, rfl⟩)
      | ok bound =>
          rw [inductionHypothesis, or_iff_right]
          rintro ⟨error, ⟨⟩⟩

theorem bindings?_fails_iff {pairs : List String} :
    (∃ error, bindings? pairs = .error error) ↔ ∃ pair ∈ pairs, Misbound pair :=
  bindingsFrom?_fails_iff .empty

theorem exists_bindings? {pairs : List String} (wellBound : ∀ pair ∈ pairs, ¬ Misbound pair) :
    ∃ bindings, bindings? pairs = .ok bindings := by
  cases read : bindings? pairs with
  | ok bindings => exact ⟨bindings, rfl⟩
  | error error =>
      obtain ⟨pair, member, misbound⟩ := bindings?_fails_iff.mp ⟨error, read⟩
      exact absurd misbound (wellBound pair member)

end RuleTree.CommandLine
