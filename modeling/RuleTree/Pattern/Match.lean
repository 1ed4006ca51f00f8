import RuleTree.Pattern.Expr
import RuleTree.Unicode.Property

/-!
Contract: whether a regular expression matches somewhere in a text.

The places of a text with `n` characters are `0` to `n`, and a set of places is a
natural number with one bit for each. An expression maps a set of places to the
places where its matches that begin in the set can end. A set of characters shifts
the places by one, an assertion filters them, and a repetition collects places until
no new one turns up; so there is no backtracking.

Owns: assertions on a text, the sweep over places, the search.
-/

namespace RuleTree.Pattern

/-! ## Assertions -/

def isWordChar : WordKind → Char → Bool
  | .unicode, c => Unicode.wordCharacters.contains c.toNat
  | .ascii, c => c.isAlphanum || c == '_'

def isWordSide (kind : WordKind) (side : Option Char) : Bool :=
  (side.map (isWordChar kind)).getD false

/-- Whether an assertion holds between two neighbours, where a side without a
character is an end of the text. -/
def Assertion.holds (before after : Option Char) : Assertion → Bool
  | .textStart => before.isNone
  | .textEnd => after.isNone
  | .lineStart => before.isNone || before == some '\n'
  | .lineEnd => after.isNone || after == some '\n'
  | .crlfLineStart =>
    before.isNone || before == some '\n' || (before == some '\r' && after != some '\n')
  | .crlfLineEnd =>
    after.isNone || after == some '\r' || (after == some '\n' && before != some '\r')
  | .wordBoundary kind => isWordSide kind before != isWordSide kind after
  | .noWordBoundary kind => isWordSide kind before == isWordSide kind after
  | .wordStart kind => !isWordSide kind before && isWordSide kind after
  | .wordEnd kind => isWordSide kind before && !isWordSide kind after
  | .wordStartHalf kind => !isWordSide kind before
  | .wordEndHalf kind => !isWordSide kind after

/-! ## Sets of places -/

/-- The places before a character of the set. -/
def charPlaces (set : CodeSet) : List Char → Nat
  | [] => 0
  | c :: rest => (set.contains c.toNat).toNat + 2 * charPlaces set rest

/-- The places where an assertion holds, `before` being the last character passed. -/
def assertionPlaces (condition : Assertion) : (before : Option Char) → List Char → Nat
  | before, [] => (condition.holds before none).toNat
  | before, c :: rest =>
    (condition.holds before (some c)).toNat + 2 * assertionPlaces condition (some c) rest

def allPlaces (text : List Char) : Nat :=
  Nat.pow 2 (text.length + 1) - 1

/-! ## Sweeps -/

/-- An expression with its sets and assertions turned into places of one text. -/
inductive Sweep where
  | stay
  | step (places : Nat)
  | filter (places : Nat)
  | both (first second : Sweep)
  | either (first second : Sweep)
  | repeated (sub : Sweep) (least : Nat) (most : Option Nat)

/-- Repeat a sweep. Repeating without an upper end what is itself repeated, once
included, only needs one repetition. -/
def Sweep.loop (sub : Sweep) (least : Nat) (most : Option Nat) : Sweep :=
  match sub, most with
  | .repeated inner innerLeast innerMost, none =>
    if least ≤ 1 ∧ innerLeast ≤ 1 ∧ innerMost ≠ some 0 then
      .repeated inner (least * innerLeast) none
    else .repeated sub least none
  | sub, most => .repeated sub least most

/-- The sweep of an expression over a text. -/
def Expr.sweep (text : List Char) : Expr → Sweep
  | .empty => .stay
  | .chars set => .step (charPlaces set text)
  | .assertion condition => .filter (assertionPlaces condition none text)
  | .concat first second => .both (first.sweep text) (second.sweep text)
  | .alternation first second => .either (first.sweep text) (second.sweep text)
  | .repetition sub least most _ => (sub.sweep text).loop least most
  | .group _ sub => sub.sweep text

/-- Apply a map of places a number of times. Nothing changes any more once an
application has changed nothing. -/
def iterate (next : Nat → Nat) : (times : Nat) → Nat → Nat
  | 0, places => places
  | times + 1, places =>
    let image := next places
    if image = places then places else iterate next times image

/-- The places in `reached` and those that at most `rounds` applications lead to
from the places in `fresh`, which are the ones reached last. -/
def collect (next : Nat → Nat) : (rounds : Nat) → (reached fresh : Nat) → Nat
  | 0, reached, _ => reached
  | rounds + 1, reached, fresh =>
    let image := next fresh
    let new := image ^^^ (image &&& reached)
    if new = 0 then reached else collect next rounds (reached ||| new) new

/-- The places where matches that begin in `places` end. `length` is the number of
characters of the text. -/
def Sweep.run (length : Nat) : Sweep → Nat → Nat
  | .stay, places => places
  | .step through, places => (places &&& through) <<< 1
  | .filter through, places => places &&& through
  | .both first second, places => second.run length (first.run length places)
  | .either first second, places => first.run length places ||| second.run length places
  | .repeated sub least most, places =>
    let start := iterate (sub.run length) least places
    let rounds :=
      match most with
      | some most => most - least
      | none => length + 1
    collect (sub.run length) rounds start start

/-- Whether the expression matches somewhere in a text. -/
def Expr.occursIn (text : List Char) (expr : Expr) : Bool :=
  (expr.sweep text).run text.length (allPlaces text) != 0

end RuleTree.Pattern
