/-!
Contract: regular expressions as written.

A `Term` keeps what the text of a pattern says, inline flags included; what the
flags mean for the parts they govern is settled later (`Pattern.Meaning`). The
height of a term is what the nesting limit is about.

Owns: terms, bracketed character classes, flags, height.
Does not own: reading (`Pattern.Reader`) or meaning.
-/

namespace RuleTree.Pattern

inductive Flag where
  | caseInsensitive
  | multiLine
  | dotAll
  | swapGreed
  | unicode
  | crlf
  | verbose
deriving DecidableEq, Repr

/-- One character of a flag list: a flag, or the mark after which flags are
switched off. -/
inductive FlagItem where
  | negation
  | flag (flag : Flag)
deriving DecidableEq, Repr

/-- Whether a flag list sets a flag, and to what. -/
def flagSetting? (items : List FlagItem) (flag : Flag) : Option Bool :=
  go true items
where
  go (value : Bool) : List FlagItem → Option Bool
    | [] => none
    | .negation :: rest => go false rest
    | .flag found :: rest => if found = flag then some value else go value rest

inductive AssertionSign where
  | lineStart
  | lineEnd
  | textStart
  | textEnd
  | wordBoundary
  | noWordBoundary
  | wordStart
  | wordEnd
  | wordStartHalf
  | wordEndHalf
deriving DecidableEq, Repr

/-- A single character. `asByte` marks the ones written as two hexadecimal digits,
which may stand for a byte. -/
structure Literal where
  char : Char
  asByte : Bool
deriving DecidableEq, Repr

/-- The classes `\d`, `\s` and `\w`. -/
inductive ShorthandClass where
  | digit
  | space
  | word
deriving DecidableEq, Repr

/-- The classes that only brackets hold, such as `[:alpha:]`. -/
inductive AsciiClass where
  | alnum | alpha | ascii | blank | cntrl | digit | graph
  | lower | print | punct | space | upper | word | xdigit
deriving DecidableEq, Repr

/-- How a property of characters is named. -/
inductive PropertyName where
  | letter (name : Char)
  | named (name : String)
  | valued (property value : String) (differs : Bool)
deriving DecidableEq, Repr

/-- What stands for one character or one place, inside brackets and outside. -/
inductive Atom where
  | literal (literal : Literal)
  | shorthand (kind : ShorthandClass) (negated : Bool)
  | property (name : PropertyName) (negated : Bool)
  | assertion (sign : AssertionSign)
  | dot
deriving DecidableEq, Repr

inductive SetOperation where
  | intersection
  | difference
  | symmetricDifference
deriving DecidableEq, Repr

/-- The contents of a bracketed class. -/
inductive ClassTerm where
  | literal (literal : Literal)
  | range (first last : Literal)
  | ascii (kind : AsciiClass) (negated : Bool)
  | shorthand (kind : ShorthandClass) (negated : Bool)
  | property (name : PropertyName) (negated : Bool)
  | bracketed (negated : Bool) (contents : ClassTerm)
  | union (items : List ClassTerm)
  | operation (operation : SetOperation) (left right : ClassTerm)

/-- Items side by side; a single one stands for itself. -/
def ClassTerm.ofItems : List ClassTerm → ClassTerm
  | [item] => item
  | items => .union items

inductive GroupSign where
  | capture
  | flags (items : List FlagItem)
deriving DecidableEq, Repr

inductive Term where
  | empty
  /-- Flags for the rest of the enclosing group. -/
  | flags (items : List FlagItem)
  | atom (atom : Atom)
  | bracketed (negated : Bool) (contents : ClassTerm)
  /-- At least `least` times, and at most `most` times if that is given. -/
  | repetition (sub : Term) (least : Nat) (most : Option Nat) (lazy : Bool)
  | group (sign : GroupSign) (sub : Term)
  | alternation (branches : List Term)
  | concat (items : List Term)

/-- Terms one after the other; a single one stands for itself. -/
def Term.ofItems : List Term → Term
  | [] => .empty
  | [item] => item
  | items => .concat items

/-- Alternatives; a single one stands for itself. -/
def Term.ofBranches : List Term → Term
  | [] => .empty
  | [branch] => branch
  | branches => .alternation branches

/-! ## Height -/

mutual

def ClassTerm.height : ClassTerm → Nat
  | .bracketed _ contents => contents.height + 1
  | .union [] => 0
  | .union items => ClassTerm.maxHeight items + 1
  | .operation _ left right => max left.height right.height + 1
  | _ => 0

def ClassTerm.maxHeight : List ClassTerm → Nat
  | [] => 0
  | item :: items => max item.height (ClassTerm.maxHeight items)

end

mutual

/-- How deep classes, repetitions, groups, alternations and concatenations are
nested. -/
def Term.height : Term → Nat
  | .bracketed _ contents => contents.height + 1
  | .repetition sub _ _ _ => sub.height + 1
  | .group _ sub => sub.height + 1
  | .alternation branches => Term.maxHeight branches + 1
  | .concat items => Term.maxHeight items + 1
  | _ => 0

def Term.maxHeight : List Term → Nat
  | [] => 0
  | item :: items => max item.height (Term.maxHeight items)

end

end RuleTree.Pattern
