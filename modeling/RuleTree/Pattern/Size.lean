import RuleTree.Pattern.Shape
import RuleTree.Pattern.Utf8
import Std.Data.HashMap

/-!
Contract: how large the automata of an expression are, in bytes.

An expression is refused when the automaton that reads UTF-8 forwards, or the one
that reads it backwards, would take more than 10 MiB. States are made one by one and
numbered in this order. A state takes 32 bytes, with 8 more for each transition of a
branching state on bytes and 4 more for each way out of a branching state without
input. Counted repetitions copy what they repeat.

States for sets of characters beyond ASCII are shared where a table of those made
before knows them. Such a table has one place for each remainder of a hash that is
taken of state numbers too, and a new entry drives out the one at its place; so what
is shared depends on where the set stands.

Owns: the plan of an automaton, the count of its states, the limit.
-/

namespace RuleTree.Pattern

/-- The most an automaton may take: 10 MiB. -/
def sizeLimit : Nat := 10 * Nat.pow 2 20

inductive Direction where
  | forward
  | backward
deriving DecidableEq

/-! ## Plans -/

/-- The order in which the states of an automaton are made. -/
inductive Plan where
  /-- States that are made wherever the plan stands, and the bytes besides. -/
  | fixed (states extra : Nat)
  /-- The states that read a character of a set forwards. -/
  | tree (sequences : ByteTree)
  /-- The states that read a character of a set backwards. -/
  | chains (sequences : List (List ByteRange))
  | both (first second : Plan)
  | copies (count : Nat) (sub : Plan)

namespace Plan

def nothing : Plan := .fixed 0 0

def state : Plan := .fixed 1 0

/-- A state with so many ways out. -/
def branching (ways : Nat) : Plan := .fixed 1 (4 * ways)

def andThen : Plan → Plan → Plan
  | .fixed states extra, .fixed states' extra' => .fixed (states + states') (extra + extra')
  | .fixed states extra, .both (.fixed states' extra') rest =>
    .both (.fixed (states + states') (extra + extra')) rest
  | first, second => .both first second

def inOrder (plans : List Plan) : Plan :=
  plans.foldr andThen nothing

def times (count : Nat) : Plan → Plan
  | .fixed states extra => .fixed (count * states) (count * extra)
  | sub => .copies count sub

/-! ## Sets and literals -/

def ofSet (direction : Direction) (set : CodeSet) : Plan :=
  if (set.diff CodeSet.ascii).isEmpty then .fixed 2 (8 * set.ranges.length)
  else
    let sequences := setSequences set
    match direction with
    | .forward => .both state (.tree (ByteTree.ofSequences sequences))
    | .backward => .both (.fixed 2 (4 * sequences.length)) (.chains sequences)

def literalBytes (direction : Direction) (text : List Char) : List Nat :=
  let bytes := text.flatMap fun c => utf8Bytes c.toNat
  match direction with
  | .forward => bytes
  | .backward => bytes.reverse

/-- The texts that go on with a byte, without it. -/
def tailsAfter (byte : Nat) (texts : List (List Nat)) : List (List Nat) :=
  texts.filterMap fun text =>
    match text with
    | first :: rest => if first = byte then some rest else none
    | [] => none

/-- Cut a list of texts at the empty ones. -/
def cutAtEmpty : List (List Nat) → List (List (List Nat))
  | [] => [[]]
  | [] :: texts => [] :: cutAtEmpty texts
  | text :: texts =>
    match cutAtEmpty texts with
    | run :: runs => (text :: run) :: runs
    | [] => [[text]]

/-- A place in the automaton of some texts, from which they can be read. It has a
branching state and a state for every run of texts between two empty ones; the texts
that a byte begins go on at a place of their own, unless the byte is their end. An
empty text is a way to the end, and is one only once as long as nothing else stands
before it. -/
def place : (fuel : Nat) → List (List Nat) → Plan
  | 0, _ => nothing
  | fuel + 1, texts =>
    let runs := (cutAtEmpty texts).map fun run =>
      let bytes := (run.filterMap List.head?).eraseDups
      let below := inOrder (bytes.map fun byte =>
        let tails := tailsAfter byte run
        if tails.all List.isEmpty then nothing else place fuel tails)
      match bytes with
      | [] => nothing
      | [_] => below.andThen state
      | bytes => below.andThen (.fixed 1 (8 * bytes.length))
    let full := (cutAtEmpty texts).countP fun run => !run.isEmpty
    let leading := (texts.takeWhile List.isEmpty).length
    let ends := texts.countP List.isEmpty - (leading - 1)
    (inOrder runs).andThen (branching (full + ends))

/-- Alternatives that are texts: their end, and the place where they begin. -/
def ofTexts (texts : List (List Nat)) : Plan :=
  state.andThen (place (texts.flatten.length + 1) texts)

/-! ## Operations -/

def repetition (sub : Plan) (consumes : Bool) (least : Nat) (most : Option Nat) : Plan :=
  match least, most with
  | 0, some 1 => inOrder [branching 2, sub, state]
  | 0, none =>
    if consumes then (branching 2).andThen sub
    else inOrder [sub, branching 2, branching 2, state]
  | least, none => (sub.times least).andThen (branching 2)
  | least, some most =>
    if least = most then sub.times least
    else
      inOrder [if least = 0 then state else sub.times least, state,
        ((branching 2).andThen sub).times (most - least)]

/-- Alternatives. The states where they part and meet are made after the second
one. -/
def alternation (branches : List Plan) : Plan :=
  inOrder (branches.take 2 ++ [branching branches.length, state] ++ branches.drop 2)

end Plan

def Shape.literal? : Shape → Option (List Char)
  | .literal text => some text
  | _ => none

mutual

/-- The plan for a shape, without a state for the match. Groups are noted forwards
only, and a backward automaton is made from the end. -/
def Shape.plan (direction : Direction) : Shape → Plan
  | .empty => .state
  | .literal text => .fixed (Plan.literalBytes direction text).length 0
  | .chars set => .ofSet direction set
  | .assertion _ => .state
  | .repetition sub least most _ =>
    (sub.plan direction).repetition (sub.consumes? == some true) least most
  | .capture sub =>
    match direction with
    | .forward => Plan.inOrder [.state, sub.plan direction, .state]
    | .backward => sub.plan direction
  | .concat items =>
    match direction with
    | .forward => Plan.inOrder (Shape.plans direction items)
    | .backward => Plan.inOrder (Shape.plans direction items).reverse
  | .alternation branches =>
    match branches.mapM Shape.literal? with
    | some texts => .ofTexts (texts.map (Plan.literalBytes direction))
    | none => .alternation (Shape.plans direction branches)

def Shape.plans (direction : Direction) : List Shape → List Plan
  | [] => []
  | shape :: shapes => shape.plan direction :: Shape.plans direction shapes

end

/-- The plan for a whole automaton. Where the match need not lie at the end that is
read first, it begins with a loop over all bytes. -/
def Shape.wholePlan (direction : Direction) (shape : Shape) : Plan :=
  let loop : Plan := .fixed 3 16
  match direction with
  | .forward =>
    Plan.inOrder [if shape.beginsWith .textStart then .state else loop,
      .state, shape.plan .forward, .state, .state]
  | .backward =>
    Plan.inOrder [if shape.endsWith .textEnd then .state else loop,
      shape.plan .backward, .state]

/-! ## Counting states -/

/-- What has been made of an automaton. -/
structure Count where
  states : Nat
  extra : Nat

def Count.bytes (count : Count) : Nat :=
  32 * count.states + count.extra

/-- Mix a number into a hash. -/
def mix (hash : UInt64) (number : Nat) : UInt64 :=
  (hash ^^^ UInt64.ofNat number) * 1099511628211

def emptyHash : UInt64 := 14695981039346656037

/-! ### Forwards -/

/-- A transition of a state on bytes: the range and the number of the next state. -/
abbrev Transition := ByteRange × Nat

/-- The states made for a set so far, with the table of those that can be shared. -/
structure Sharing (Key : Type) where
  count : Count
  table : Std.HashMap Nat (Key × Nat)

def transitionsSlot (transitions : List Transition) : Nat :=
  (transitions.foldl (fun hash (range, next) =>
    mix (mix (mix hash range.first) range.last) next) emptyHash).toNat % 10000

/-- The number of the state with these transitions, which is made unless the table
has it. -/
def shareState (transitions : List Transition) (sharing : Sharing (List Transition)) :
    Nat × Sharing (List Transition) :=
  let slot := transitionsSlot transitions
  let made : Nat × Sharing (List Transition) :=
    let number := sharing.count.states
    (number,
      { count := ⟨number + 1, sharing.count.extra + 8 * transitions.length⟩
        table := sharing.table.insert slot (transitions, number) })
  match sharing.table[slot]? with
  | some (found, number) => if found = transitions then (number, sharing) else made
  | none => made

/-- The transitions of a place in a tree, the states below it being made first.
`target` is the number of the state after the character. -/
def ByteTree.transitions (target : Nat) :
    ByteTree → Sharing (List Transition) → List Transition × Sharing (List Transition)
  | .stop, sharing => ([], sharing)
  | .edge range below others, sharing =>
    let (next, sharing) :=
      match below with
      | .stop => (target, sharing)
      | .edge _ _ _ =>
        let (transitions, sharing) := below.transitions target sharing
        shareState transitions sharing
    let (rest, sharing) := others.transitions target sharing
    ((range, next) :: rest, sharing)

def countTree (tree : ByteTree) (count : Count) : Count :=
  let (transitions, sharing) := tree.transitions (count.states - 1) ⟨count, ∅⟩
  (shareState transitions sharing).2.count

/-! ### Backwards -/

def stepSlot (next : Nat) (range : ByteRange) : Nat :=
  (mix (mix (mix emptyHash next) range.first) range.last).toNat % 1000

/-- The number of the state that goes on a byte of the range to the state `next`. -/
def shareStep
    (next : Nat)
    (range : ByteRange)
    (sharing : Sharing (Nat × ByteRange)) : Nat × Sharing (Nat × ByteRange) :=
  let slot := stepSlot next range
  let made : Nat × Sharing (Nat × ByteRange) :=
    let number := sharing.count.states
    (number,
      { count := { sharing.count with states := number + 1 }
        table := sharing.table.insert slot ((next, range), number) })
  match sharing.table[slot]? with
  | some (found, number) => if found = (next, range) then (number, sharing) else made
  | none => made

def shareChain (next : Nat) : List ByteRange → Sharing (Nat × ByteRange) →
    Sharing (Nat × ByteRange)
  | [], sharing => sharing
  | range :: ranges, sharing =>
    let (number, sharing) := shareStep next range sharing
    shareChain number ranges sharing

def countChains (sequences : List (List ByteRange)) (count : Count) : Count :=
  (sequences.foldl (fun sharing sequence => shareChain (count.states - 1) sequence sharing)
    ⟨count, ∅⟩).count

/-! ### Plans -/

/-- Carry out a step a number of times, but stop beyond the limit. -/
def countCopies (step : Count → Count) : (times : Nat) → Count → Count
  | 0, count => count
  | times + 1, count =>
    if sizeLimit < count.bytes then count else countCopies step times (step count)

def Plan.count : Plan → Count → Count
  | .fixed states extra, count => ⟨count.states + states, count.extra + extra⟩
  | .tree sequences, count => countTree sequences count
  | .chains sequences, count => countChains sequences count
  | .both first second, count => second.count (first.count count)
  | .copies times sub, count => countCopies sub.count times count

/-- The bytes of a whole automaton, or a number beyond the limit. -/
def Shape.size (direction : Direction) (shape : Shape) : Nat :=
  ((shape.wholePlan direction).count ⟨0, 0⟩).bytes

/-- Whether both automata of an expression stay within the limit. -/
def Expr.fits (expr : Expr) : Bool :=
  let shape := expr.shape
  shape.size .forward ≤ sizeLimit && shape.size .backward ≤ sizeLimit

end RuleTree.Pattern
