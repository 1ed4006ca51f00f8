/-!
Contract: finite tables keyed by names.

A table keeps one entry per name; putting an entry under a name it holds replaces
the entry and leaves its place. `Table.find?` is the view that everything else is
stated through.
-/

namespace RuleTree

structure Table (α : Type) where
  entries : List (String × α)

namespace Table

variable {α : Type}

def empty : Table α := ⟨[]⟩

instance : Inhabited (Table α) := ⟨empty⟩

def findIn (name : String) : List (String × α) → Option α
  | [] => none
  | (key, value) :: rest => if key = name then some value else findIn name rest

def find? (table : Table α) (name : String) : Option α :=
  findIn name table.entries

def contains (table : Table α) (name : String) : Bool :=
  (table.find? name).isSome

def insertIn (name : String) (value : α) : List (String × α) → List (String × α)
  | [] => [(name, value)]
  | (key, old) :: rest =>
    if key = name then (key, value) :: rest else (key, old) :: insertIn name value rest

def insert (table : Table α) (name : String) (value : α) : Table α :=
  ⟨insertIn name value table.entries⟩

/-- Put the entries in order, a later one replacing an earlier one of its name. -/
def insertAll (table : Table α) (entries : List (String × α)) : Table α :=
  entries.foldl (fun table entry => table.insert entry.1 entry.2) table

def ofList (entries : List (String × α)) : Table α :=
  insertAll empty entries

/-- The table overridden by another one. -/
def merge (table overrides : Table α) : Table α :=
  table.insertAll overrides.entries

def names (table : Table α) : List String :=
  table.entries.map Prod.fst

/-- The names in the order of their code points. -/
def sortedNames (table : Table α) : List String :=
  table.names.mergeSort fun left right => decide (left ≤ right)

theorem findIn_insertIn (name other : String) (value : α) (entries : List (String × α)) :
    findIn other (insertIn name value entries) =
      if name = other then some value else findIn other entries := by
  induction entries with
  | nil => rfl
  | cons entry entries inductionHypothesis =>
      obtain ⟨key, old⟩ := entry
      by_cases here : key = name
      · simp only [insertIn, here, if_true, findIn]
        split <;> rfl
      · simp only [insertIn, here, if_false, findIn, inductionHypothesis]
        split
        · rename_i asked
          rw [if_neg (fun same => here (asked.trans same.symm))]
        · rfl

theorem find?_insert (table : Table α) (name other : String) (value : α) :
    (table.insert name value).find? other =
      if name = other then some value else table.find? other :=
  findIn_insertIn name other value table.entries

end Table

end RuleTree
