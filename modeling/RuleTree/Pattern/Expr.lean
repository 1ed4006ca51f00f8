import RuleTree.Unicode.CodeSet

/-!
Contract: regular expressions with all flags and names resolved.

An `Expr` is made of sets of characters, assertions about the characters on both
sides of a place, and the regular operations. Whether a repetition is lazy, where
groups are and which of them capture does not matter for whether a text matches; it
is kept since it counts for the size of an expression.
-/

namespace RuleTree.Pattern

/-- Which characters count as word characters for a boundary. -/
inductive WordKind where
  | unicode
  | ascii
deriving DecidableEq, Repr

inductive Assertion where
  | textStart
  | textEnd
  | lineStart
  | lineEnd
  /-- Line ends are line feeds, carriage returns and the pairs of both. -/
  | crlfLineStart
  | crlfLineEnd
  | wordBoundary (kind : WordKind)
  | noWordBoundary (kind : WordKind)
  | wordStart (kind : WordKind)
  | wordEnd (kind : WordKind)
  | wordStartHalf (kind : WordKind)
  | wordEndHalf (kind : WordKind)
deriving DecidableEq, Repr

inductive Expr where
  | empty
  | chars (set : CodeSet)
  | assertion (condition : Assertion)
  | concat (first second : Expr)
  | alternation (first second : Expr)
  /-- At least `least` times, and at most `most` times if that is given. -/
  | repetition (sub : Expr) (least : Nat) (most : Option Nat) (lazy : Bool)
  | group (captures : Bool) (sub : Expr)

namespace Expr

def ofChar (c : Char) : Expr :=
  .chars (CodeSet.singleton c.toNat)

/-- Expressions one after the other. -/
def ofItems : List Expr → Expr
  | [] => .empty
  | [item] => item
  | item :: items => .concat item (ofItems items)

/-- Alternatives; without one nothing matches. -/
def ofBranches : List Expr → Expr
  | [] => .chars CodeSet.empty
  | [branch] => branch
  | branch :: branches => .alternation branch (ofBranches branches)

end Expr

end RuleTree.Pattern
