import RuleTree.Pattern.Expr

/-!
Contract: expressions in the simplified form that automata are built from.

Groups that do not capture are dissolved and literals side by side are joined.
Alternatives are flattened; alternatives of one character each become a set, and so
do alternatives that are sets. What all alternatives begin with is written once, in
front of what they differ in.

Owns: shapes, simplification, and what can be told about lengths and ends.
Does not own: the automata and their size (`Pattern.Size`).
-/

namespace RuleTree.Pattern

inductive Shape where
  | empty
  | literal (text : List Char)
  | chars (set : CodeSet)
  | assertion (condition : Assertion)
  | repetition (sub : Shape) (least : Nat) (most : Option Nat) (lazy : Bool)
  | capture (sub : Shape)
  | concat (items : List Shape)
  | alternation (branches : List Shape)

namespace Shape

/-! ## Sameness -/

mutual

/-- Whether two shapes are the same. Every group that captures is one of its own. -/
def same : Shape → Shape → Bool
  | .empty, .empty => true
  | .literal left, .literal right => left == right
  | .chars left, .chars right => decide (left = right)
  | .assertion left, .assertion right => decide (left = right)
  | .repetition left least most lazy, .repetition right least' most' lazy' =>
    least == least' && most == most' && lazy == lazy' && left.same right
  | .concat left, .concat right => sameLists left right
  | .alternation left, .alternation right => sameLists left right
  | _, _ => false

def sameLists : List Shape → List Shape → Bool
  | [], [] => true
  | left :: lefts, right :: rights => left.same right && sameLists lefts rights
  | _, _ => false

end

/-! ## Lengths -/

mutual

/-- Whether the empty text is all that can be matched. -/
def emptyOnly : Shape → Bool
  | .empty => true
  | .literal text => text.isEmpty
  | .chars _ => false
  | .assertion _ => true
  | .repetition sub _ _ _ => sub.emptyOnly
  | .capture sub => sub.emptyOnly
  | .concat items => allEmptyOnly items
  | .alternation branches => allEmptyOnly branches

def allEmptyOnly : List Shape → Bool
  | [] => true
  | shape :: shapes => shape.emptyOnly && allEmptyOnly shapes

end

mutual

/-- Whether every match has at least one character; none when a part matches nothing
at all. -/
def consumes? : Shape → Option Bool
  | .empty => some false
  | .literal text => some !text.isEmpty
  | .chars set => if set.isEmpty then none else some true
  | .assertion _ => some false
  | .repetition sub least _ _ => sub.consumes?.map fun consumes => consumes && least != 0
  | .capture sub => sub.consumes?
  | .concat items => (allConsume? items).map fun consume => consume.any id
  | .alternation branches => (allConsume? branches).map fun consume => consume.all id

def allConsume? : List Shape → Option (List Bool)
  | [] => some []
  | shape :: shapes => do
    let consumes ← shape.consumes?
    let others ← allConsume? shapes
    return consumes :: others

end

/-! ## Ends -/

mutual

/-- Whether a match has to begin with an assertion. -/
def beginsWith (condition : Assertion) : Shape → Bool
  | .assertion found => decide (found = condition)
  | .repetition sub least _ _ => least != 0 && sub.beginsWith condition
  | .capture sub => sub.beginsWith condition
  | .concat items => someBeginsWith condition items
  | .alternation branches => allBeginWith condition branches
  | _ => false

/-- The same for shapes one after the other, of which those up to the first one with
characters are at the beginning. -/
def someBeginsWith (condition : Assertion) : List Shape → Bool
  | [] => false
  | shape :: shapes =>
    shape.beginsWith condition || shape.emptyOnly && someBeginsWith condition shapes

def allBeginWith (condition : Assertion) : List Shape → Bool
  | [] => true
  | shape :: shapes => shape.beginsWith condition && allBeginWith condition shapes

end

mutual

/-- The shape of the reversed texts, as far as `beginsWith` is concerned. -/
def reverse : Shape → Shape
  | .repetition sub least most lazy => .repetition sub.reverse least most lazy
  | .capture sub => .capture sub.reverse
  | .concat items => .concat (reverseAll items).reverse
  | .alternation branches => .alternation (reverseAll branches)
  | .literal text => .literal text.reverse
  | shape => shape

def reverseAll : List Shape → List Shape
  | [] => []
  | shape :: shapes => shape.reverse :: reverseAll shapes

end

/-- Whether a match has to end with an assertion. -/
def endsWith (condition : Assertion) (shape : Shape) : Bool :=
  shape.reverse.beginsWith condition

/-! ## Simplification -/

def ofSet (set : CodeSet) : Shape :=
  let set := set.inter CodeSet.scalars
  match set.changes with
  | [first, last] => if last = first + 1 then .literal [Char.ofNat first] else .chars set
  | _ => .chars set

def items : Shape → List Shape
  | .empty => []
  | .concat items => items
  | shape => [shape]

def ofItems : List Shape → Shape
  | [] => .empty
  | [item] => item
  | items => .concat items

/-- Put an item in front of others, joining literals. -/
def push (item : Shape) (items : List Shape) : List Shape :=
  match item, items with
  | .literal first, .literal second :: items => .literal (first ++ second) :: items
  | item, items => item :: items

/-- One shape after the other. -/
def append (first second : Shape) : Shape :=
  ofItems (first.items.foldr push second.items)

/-- A repetition. Repeating what matches the empty text only is the same as having
it once or not at all. -/
def repeated (sub : Shape) (least : Nat) (most : Option Nat) (lazy : Bool) : Shape :=
  let least := if sub.emptyOnly then min least 1 else least
  let most := if sub.emptyOnly then some (min (most.getD 1) 1) else most
  match least, most with
  | 0, some 0 => .empty
  | 1, some 1 => sub
  | least, most => .repetition sub least most lazy

def branches : Shape → List Shape
  | .alternation branches => branches
  | shape => [shape]

/-- The set of a literal of one character. -/
def singleton? : Shape → Option CodeSet
  | .literal [c] => some (CodeSet.singleton c.toNat)
  | _ => none

def set? : Shape → Option CodeSet
  | .chars set => some set
  | _ => none

/-- Alternatives that amount to something simpler: a single one, or a set. -/
def merged? (branches : List Shape) : Option Shape :=
  match branches with
  | [branch] => some branch
  | branches =>
    match branches.mapM singleton? with
    | some sets => some (ofSet (CodeSet.ofList sets))
    | none => (branches.mapM set?).map fun sets => ofSet (CodeSet.ofList sets)

def concatItems? : Shape → Option (List Shape)
  | .concat items => some items
  | _ => none

def sharedItems : List Shape → List Shape → List Shape
  | left :: lefts, right :: rights =>
    if left.same right then left :: sharedItems lefts rights else []
  | _, _ => []

/-- What all alternatives begin with, and how each of them goes on. Only alternatives
of several items each are considered. -/
def factor? (branches : List Shape) : Option (List Shape × List Shape) :=
  match branches.mapM concatItems? with
  | some (first :: others) =>
    let shared := others.foldl sharedItems first
    if shared.isEmpty then none
    else
      some (shared, (first :: others).map fun items => ofItems (items.drop shared.length))
  | _ => none

/-- Alternatives with nothing in common at the beginning. -/
def ofDistinct (shapes : List Shape) : Shape :=
  let shapes := shapes.flatMap branches
  (merged? shapes).getD (.alternation shapes)

/-- Alternatives; without one nothing matches. -/
def ofBranches (shapes : List Shape) : Shape :=
  let shapes := shapes.flatMap branches
  match merged? shapes with
  | some shape => shape
  | none =>
    match factor? shapes with
    | some (shared, tails) => ofItems (shared.foldr push (ofDistinct tails).items)
    | none => .alternation shapes

end Shape

/-! ## Shapes of expressions -/

/-- The shapes of the alternatives of an expression. -/
def Expr.shapes : Expr → List Shape
  | .empty => [.empty]
  | .chars set => [.ofSet set]
  | .assertion condition => [.assertion condition]
  | .concat first second =>
    [(Shape.ofBranches first.shapes).append (Shape.ofBranches second.shapes)]
  | .alternation first second => Shape.ofBranches first.shapes :: second.shapes
  | .repetition sub least most lazy => [(Shape.ofBranches sub.shapes).repeated least most lazy]
  | .group true sub => [.capture (Shape.ofBranches sub.shapes)]
  | .group false sub => [Shape.ofBranches sub.shapes]

/-- The simplified form of an expression. -/
def Expr.shape (expr : Expr) : Shape :=
  Shape.ofBranches expr.shapes

end RuleTree.Pattern
