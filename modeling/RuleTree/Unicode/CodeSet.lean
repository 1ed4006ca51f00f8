/-!
Contract: sets of code points.

A set is the increasing list of the points where membership changes, starting from
"outside"; so the ranges `a`-`b`, `c`-`d` are the list `a, b+1, c, d+1`. Each Boolean
operation on sets is one sweep over the changes of both, `CodeSet.combine`.

Owns: membership, the Boolean operations, ranges, and reading ranges from text.
-/

namespace RuleTree

/-- Whether each member of the list is below the next one. -/
def increasing : List Nat → Bool
  | a :: b :: rest => decide (a < b) && increasing (b :: rest)
  | _ => true

structure CodeSet where
  changes : List Nat
  ordered : increasing changes = true
deriving DecidableEq

namespace CodeSet

/-- Membership, given whether the points before the first change are inside. -/
def insideFrom (inside : Bool) : List Nat → Nat → Bool
  | [], _ => inside
  | change :: rest, point => if point < change then inside else insideFrom (!inside) rest point

def contains (set : CodeSet) (point : Nat) : Bool :=
  insideFrom false set.changes point

/-- The set with these changes; the empty set when they are out of order. -/
def ofChanges (changes : List Nat) : CodeSet :=
  if ordered : increasing changes = true then ⟨changes, ordered⟩ else ⟨[], rfl⟩

def empty : CodeSet := ⟨[], rfl⟩

instance : Inhabited CodeSet := ⟨empty⟩

def isEmpty (set : CodeSet) : Bool :=
  set.changes.isEmpty

/-- The points from `first` to `last`. -/
def range (first last : Nat) : CodeSet :=
  ofChanges [first, last + 1]

def singleton (point : Nat) : CodeSet :=
  ⟨[point, point + 1], by simp [increasing]⟩

/-- The changes of a combined set. `left` and `right` tell whether the sweep is
inside each set; a change is kept when the combined membership changes. -/
def combineChanges (operation : Bool → Bool → Bool) :
    (fuel : Nat) → (left right : Bool) → List Nat → List Nat → List Nat
  | 0, _, _, _, _ => []
  | _ + 1, _, _, [], [] => []
  | fuel + 1, left, right, a :: as, [] =>
    let rest := combineChanges operation fuel (!left) right as []
    if operation left right = operation (!left) right then rest else a :: rest
  | fuel + 1, left, right, [], b :: bs =>
    let rest := combineChanges operation fuel left (!right) [] bs
    if operation left right = operation left (!right) then rest else b :: rest
  | fuel + 1, left, right, a :: as, b :: bs =>
    if a < b then
      let rest := combineChanges operation fuel (!left) right as (b :: bs)
      if operation left right = operation (!left) right then rest else a :: rest
    else if b < a then
      let rest := combineChanges operation fuel left (!right) (a :: as) bs
      if operation left right = operation left (!right) then rest else b :: rest
    else
      let rest := combineChanges operation fuel (!left) (!right) as bs
      if operation left right = operation (!left) (!right) then rest else a :: rest

/-- The set with membership `operation` of both memberships, for operations that
keep a point outside when it is outside of both sets. -/
def combine
    (operation : Bool → Bool → Bool)
    (left right : CodeSet) : CodeSet :=
  ofChanges (combineChanges operation (left.changes.length + right.changes.length)
    false false left.changes right.changes)

def union (left right : CodeSet) : CodeSet :=
  combine (· || ·) left right

def inter (left right : CodeSet) : CodeSet :=
  combine (· && ·) left right

def diff (left right : CodeSet) : CodeSet :=
  combine (fun inLeft inRight => inLeft && !inRight) left right

def symmDiff (left right : CodeSet) : CodeSet :=
  combine xor left right

/-- The code points that are characters. -/
def scalars : CodeSet :=
  ⟨[0, 0xD800, 0xE000, 0x110000], rfl⟩

def ascii : CodeSet :=
  ⟨[0, 0x80], rfl⟩

/-- The union of many sets, joined in balanced pairs. -/
def unionAll : (fuel : Nat) → List CodeSet → CodeSet
  | 0, _ => empty
  | _ + 1, [] => empty
  | _ + 1, [set] => set
  | fuel + 1, first :: second :: rest =>
    let half := rest.length / 2
    union (unionAll fuel (first :: rest.take half)) (unionAll fuel (second :: rest.drop half))

def ofList (sets : List CodeSet) : CodeSet :=
  unionAll sets.length sets

/-- The maximal ranges, each as first and last point; a range without an end is
left out. -/
def ranges (set : CodeSet) : List (Nat × Nat) :=
  pairs set.changes
where
  pairs : List Nat → List (Nat × Nat)
    | first :: last :: rest => (first, last - 1) :: pairs rest
    | _ => []

/-- The points from `first` to `last`, every `step`-th of them. -/
def progression (first last step : Nat) : List Nat :=
  (List.range ((last - first) / step + 1)).map fun index => first + index * step

/-! ## Ranges as text -/

def hexDigitValue (c : Char) : Nat :=
  if c.isDigit then c.toNat - '0'.toNat else c.toNat - 'a'.toNat + 10

/-- The points at which a range text changes membership. A number stands between
blanks or hyphens; after a hyphen it is the last point of a range, otherwise the
first one, and a first point that no hyphen follows is a range by itself. -/
def readChanges : (text : List Char) → (number : Option Nat) → (afterHyphen : Bool) →
    List Nat
  | [], none, _ => []
  | [], some number, afterHyphen =>
    if afterHyphen then [number + 1] else [number, number + 1]
  | c :: rest, number, afterHyphen =>
    if c = '-' then number.toList ++ readChanges rest none true
    else if c = ' ' ∨ c = '\n' then
      match number with
      | none => readChanges rest none afterHyphen
      | some number =>
        if afterHyphen then (number + 1) :: readChanges rest none false
        else number :: (number + 1) :: readChanges rest none false
    else readChanges rest (some (16 * number.getD 0 + hexDigitValue c)) afterHyphen

/-- The set written as increasing ranges that neither meet nor touch. -/
def ofText (text : String) : CodeSet :=
  ofChanges (readChanges text.toList none false)

end CodeSet

end RuleTree
