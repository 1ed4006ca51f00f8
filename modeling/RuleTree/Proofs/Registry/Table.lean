import Mathlib.Data.List.Nodup
import RuleTree.Table

/-!
Contract: what several insertions make of a table.

The entry under a name is the last one that was put there (`find?_insertAll_eq`), and each
name is in the table once, so the order in which a table's entries are merged into another
one does not matter (`findIn_perm`). Two tables that have entries under the same
names give the same list of sorted names (`sortedNames_congr`).

Owns: repeated insertion, and the names of a table. Does not own: one insertion (`Table`).
-/

namespace RuleTree.Table

variable {α β : Type}

/-! ## Entries in a row -/

theorem findIn_append (name : String) (left right : List (String × α)) :
    findIn name (left ++ right) = (findIn name left).or (findIn name right) := by
  induction left with
  | nil => rfl
  | cons entry left inductionHypothesis =>
      obtain ⟨key, value⟩ := entry
      simp only [List.cons_append, findIn]
      split
      · rfl
      · exact inductionHypothesis

/-- The last of the entries under a name counts, and behind them what was there before. -/
theorem find?_insertAll_eq (table : Table α) (entries : List (String × α)) (name : String) :
    (table.insertAll entries).find? name =
      (findIn name entries.reverse).or (table.find? name) := by
  induction entries generalizing table with
  | nil => rfl
  | cons entry entries inductionHypothesis =>
      obtain ⟨key, value⟩ := entry
      calc ((table.insert key value).insertAll entries).find? name
        _ = (findIn name entries.reverse).or ((table.insert key value).find? name) :=
            inductionHypothesis (table.insert key value)
        _ = (findIn name entries.reverse).or
              ((findIn name [(key, value)]).or (table.find? name)) := by
            rw [find?_insert, findIn, findIn]
            split <;> rfl
        _ = (findIn name (entries.reverse ++ [(key, value)])).or (table.find? name) := by
            rw [findIn_append, Option.or_assoc]
        _ = (findIn name ((key, value) :: entries).reverse).or (table.find? name) := by
            rw [List.reverse_cons]

theorem find?_ofList_eq (entries : List (String × α)) (name : String) :
    (ofList entries).find? name = findIn name entries.reverse := by
  rw [ofList, find?_insertAll_eq]
  exact Option.or_none

theorem findIn_eq_some_iff {entries : List (String × α)}
    (unique : (entries.map Prod.fst).Nodup) {name : String} {value : α} :
    findIn name entries = some value ↔ (name, value) ∈ entries := by
  induction entries with
  | nil => simp [findIn]
  | cons entry entries inductionHypothesis =>
      obtain ⟨key, first⟩ := entry
      obtain ⟨fresh, others⟩ := List.nodup_cons.mp unique
      rw [findIn, List.mem_cons]
      by_cases here : key = name
      · subst here
        rw [if_pos rfl, Option.some.injEq, Prod.mk.injEq]
        constructor
        · rintro rfl
          exact .inl ⟨rfl, rfl⟩
        · rintro (⟨-, rfl⟩ | behind)
          · rfl
          · exact absurd (List.mem_map_of_mem behind) fresh
      · rw [if_neg here, inductionHypothesis others, Prod.mk.injEq]
        have elsewhere : ¬ (name = key ∧ value = first) := fun same => here same.1.symm
        rw [or_iff_right elsewhere]

/-- Where every name stands once, the order of the entries does not matter. -/
theorem findIn_perm {entries others : List (String × α)} (permuted : entries.Perm others)
    (unique : (entries.map Prod.fst).Nodup) (name : String) :
    findIn name entries = findIn name others := by
  have uniqueOthers : (others.map Prod.fst).Nodup := (permuted.map Prod.fst).nodup_iff.mp unique
  apply Option.ext
  intro value
  rw [findIn_eq_some_iff unique, findIn_eq_some_iff uniqueOthers, permuted.mem_iff]

/-! ## Names -/

theorem mem_names_iff (table : Table α) (name : String) :
    name ∈ table.names ↔ (table.find? name).isSome = true := by
  obtain ⟨entries⟩ := table
  show name ∈ entries.map Prod.fst ↔ (findIn name entries).isSome = true
  induction entries with
  | nil => simp [findIn]
  | cons entry entries inductionHypothesis =>
      obtain ⟨key, value⟩ := entry
      rw [List.map_cons, List.mem_cons, findIn]
      by_cases here : key = name
      · simp [here]
      · rw [if_neg here, ← inductionHypothesis, or_iff_right fun same => here same.symm]

theorem mem_sortedNames_iff (table : Table α) (name : String) :
    name ∈ table.sortedNames ↔ (table.find? name).isSome = true := by
  rw [sortedNames, List.mem_mergeSort, mem_names_iff]

theorem names_insert (table : Table α) (name : String) (value : α) :
    (table.insert name value).names =
      if name ∈ table.names then table.names else table.names ++ [name] := by
  obtain ⟨entries⟩ := table
  show (insertIn name value entries).map Prod.fst =
    if name ∈ entries.map Prod.fst then entries.map Prod.fst else entries.map Prod.fst ++ [name]
  induction entries with
  | nil => rfl
  | cons entry entries inductionHypothesis =>
      obtain ⟨key, old⟩ := entry
      by_cases here : key = name
      · simp [insertIn, here]
      · have behind : name ∈ key :: entries.map Prod.fst ↔ name ∈ entries.map Prod.fst :=
          List.mem_cons.trans (or_iff_right fun same => here same.symm)
        simp only [insertIn, if_neg here, List.map_cons, inductionHypothesis, behind]
        split <;> rfl

/-- Every name has one entry. -/
def Unique (table : Table α) : Prop :=
  table.names.Nodup

theorem unique_empty : (empty : Table α).Unique :=
  List.nodup_nil

theorem Unique.insert {table : Table α} (unique : table.Unique) (name : String) (value : α) :
    (table.insert name value).Unique := by
  unfold Unique
  rw [names_insert]
  split
  · exact unique
  · rename_i fresh
    refine List.nodup_append.mpr ⟨unique, List.nodup_singleton name, ?_⟩
    rintro other member _ added rfl
    exact fresh (List.mem_singleton.mp added ▸ member)

theorem Unique.insertAll {table : Table α} (unique : table.Unique)
    (entries : List (String × α)) : (table.insertAll entries).Unique := by
  induction entries generalizing table with
  | nil => exact unique
  | cons entry entries inductionHypothesis => exact inductionHypothesis (unique.insert _ _)

theorem unique_ofList (entries : List (String × α)) : (ofList entries).Unique :=
  unique_empty.insertAll entries

theorem Unique.nodup_sortedNames {table : Table α} (unique : table.Unique) :
    table.sortedNames.Nodup :=
  (List.mergeSort_perm table.names _).nodup_iff.mpr unique

theorem pairwise_sortedNames (table : Table α) :
    table.sortedNames.Pairwise (· ≤ ·) := by
  have sorted := @List.pairwise_mergeSort String (fun left right => decide (left ≤ right))
    (fun _ _ _ first second => decide_eq_true
      (String.le_trans (of_decide_eq_true first) (of_decide_eq_true second)))
    (fun left right => by simpa using String.le_total left right)
    table.names
  exact sorted.imp of_decide_eq_true

theorem Unique.strictly_sortedNames {table : Table α} (unique : table.Unique) :
    table.sortedNames.Pairwise (· < ·) := by
  refine (table.pairwise_sortedNames.and unique.nodup_sortedNames).imp ?_
  rintro left right ⟨ordered, different⟩
  exact String.not_le.mp fun reversed => different (String.le_antisymm ordered reversed)

/-- Sorted names do not show in which order they came into a table, nor what is under
them. -/
theorem sortedNames_congr {left : Table α} {right : Table β} (uniqueLeft : left.Unique)
    (uniqueRight : right.Unique)
    (same : ∀ name, (left.find? name).isSome = (right.find? name).isSome) :
    left.sortedNames = right.sortedNames := by
  have permuted : left.sortedNames.Perm right.sortedNames := by
    rw [List.perm_ext_iff_of_nodup uniqueLeft.nodup_sortedNames uniqueRight.nodup_sortedNames]
    intro name
    rw [mem_sortedNames_iff, mem_sortedNames_iff, same]
  exact permuted.eq_of_pairwise (fun _ _ _ _ => String.le_antisymm)
    left.pairwise_sortedNames right.pairwise_sortedNames

end RuleTree.Table
