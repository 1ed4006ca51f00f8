import RuleTree.Pattern.Expr
import RuleTree.Pattern.Term
import RuleTree.Unicode.Casing
import RuleTree.Unicode.Property

/-!
Contract: the expression that a term stands for.

Flags apply from where they are set to the end of the enclosing group, alternatives
that follow included. Without the flag `u` only ASCII can be told apart, so every
class that would reach beyond it is refused; a property that does not exist is
refused as well.

Owns: what flags, class names and properties mean, and these refusals.
Does not own: the grammar (`Pattern.Reader`) or matching (`Pattern.Match`).
-/

namespace RuleTree.Pattern

/-- The flags that bear on the meaning of a term. -/
structure Flags where
  caseInsensitive : Bool := false
  multiLine : Bool := false
  dotAll : Bool := false
  unicode : Bool := true
  crlf : Bool := false
deriving DecidableEq, Repr

/-- The flags after a flag list; those it does not mention stay. -/
def Flags.apply (flags : Flags) (items : List FlagItem) : Flags :=
  { caseInsensitive := (flagSetting? items .caseInsensitive).getD flags.caseInsensitive
    multiLine := (flagSetting? items .multiLine).getD flags.multiLine
    dotAll := (flagSetting? items .dotAll).getD flags.dotAll
    unicode := (flagSetting? items .unicode).getD flags.unicode
    crlf := (flagSetting? items .crlf).getD flags.crlf }

/-! ## Sets of characters -/

def ofPoints (ranges : List (Nat × Nat)) : CodeSet :=
  CodeSet.ofList (ranges.map fun range => CodeSet.range range.1 range.2)

def asciiClassSet : AsciiClass → CodeSet
  | .alnum => ofPoints [(0x30, 0x39), (0x41, 0x5A), (0x61, 0x7A)]
  | .alpha => ofPoints [(0x41, 0x5A), (0x61, 0x7A)]
  | .ascii => CodeSet.ascii
  | .blank => ofPoints [(0x09, 0x09), (0x20, 0x20)]
  | .cntrl => ofPoints [(0x00, 0x1F), (0x7F, 0x7F)]
  | .digit => ofPoints [(0x30, 0x39)]
  | .graph => ofPoints [(0x21, 0x7E)]
  | .lower => ofPoints [(0x61, 0x7A)]
  | .print => ofPoints [(0x20, 0x7E)]
  | .punct => ofPoints [(0x21, 0x2F), (0x3A, 0x40), (0x5B, 0x60), (0x7B, 0x7E)]
  | .space => ofPoints [(0x09, 0x0D), (0x20, 0x20)]
  | .upper => ofPoints [(0x41, 0x5A)]
  | .word => ofPoints [(0x30, 0x39), (0x41, 0x5A), (0x5F, 0x5F), (0x61, 0x7A)]
  | .xdigit => ofPoints [(0x30, 0x39), (0x41, 0x46), (0x61, 0x66)]

def shorthandSet (unicode : Bool) : ShorthandClass → CodeSet
  | .digit => if unicode then Unicode.decimalDigits else asciiClassSet .digit
  | .space => if unicode then Unicode.whiteSpace else asciiClassSet .space
  | .word => if unicode then Unicode.wordCharacters else asciiClassSet .word

/-- All characters that are not in a set. -/
def negate (set : CodeSet) : CodeSet :=
  CodeSet.scalars.diff set

def closeUnderCase (flags : Flags) (set : CodeSet) : CodeSet :=
  if !flags.caseInsensitive then set
  else if flags.unicode then Unicode.closeUnderCase set
  else Unicode.closeUnderAsciiCase set

/-- Without the flag `u` a class may hold ASCII only. -/
def admit? (flags : Flags) (set : CodeSet) : Option CodeSet :=
  if flags.unicode || (set.diff CodeSet.ascii).isEmpty then some set else none

/-- Close a class under case and then negate it, in this order. -/
def foldAndNegate? (flags : Flags) (negated : Bool) (set : CodeSet) : Option CodeSet :=
  let closed := closeUnderCase flags set
  admit? flags (if negated then negate closed else closed)

def admittedShorthand? (flags : Flags) (kind : ShorthandClass) (negated : Bool) : Option CodeSet :=
  let set := shorthandSet flags.unicode kind
  admit? flags (if negated then negate set else set)

def propertySet? (flags : Flags) (name : PropertyName) (negated : Bool) : Option CodeSet :=
  if !flags.unicode then none
  else
    match name with
    | .letter letter =>
      (Unicode.named? (String.ofList [letter])).bind (foldAndNegate? flags negated)
    | .named name => (Unicode.named? name).bind (foldAndNegate? flags negated)
    | .valued property value differs =>
      (Unicode.valued? property value).bind (foldAndNegate? flags (negated != differs))

/-- A literal, which must not stand for a byte beyond ASCII when the flag `u` is
off. -/
def literal? (flags : Flags) (literal : Literal) : Option Char :=
  if !flags.unicode && literal.asByte && 0x80 ≤ literal.char.toNat then none
  else some literal.char

/-- A literal as a member of a class. -/
def classLiteral? (flags : Flags) (literal : Literal) : Option Char :=
  if !flags.unicode && 0x80 ≤ literal.char.toNat then none else some literal.char

def applyOperation : SetOperation → CodeSet → CodeSet → CodeSet
  | .intersection => CodeSet.inter
  | .difference => CodeSet.diff
  | .symmetricDifference => CodeSet.symmDiff

mutual

/-- The set that the contents of a class stand for. Operands of an operation are
closed under case before it. -/
def classSet? (flags : Flags) : ClassTerm → Option CodeSet
  | .literal literal => (classLiteral? flags literal).map fun c => CodeSet.singleton c.toNat
  | .range first last => do
    let first ← classLiteral? flags first
    let last ← classLiteral? flags last
    return CodeSet.range first.toNat last.toNat
  | .ascii kind negated => foldAndNegate? flags negated (asciiClassSet kind)
  | .shorthand kind negated => admittedShorthand? flags kind negated
  | .property name negated => propertySet? flags name negated
  | .bracketed negated contents =>
    (classSet? flags contents).bind (foldAndNegate? flags negated)
  | .union items => unionSet? flags items
  | .operation operation left right => do
    let left ← classSet? flags left
    let right ← classSet? flags right
    return applyOperation operation (closeUnderCase flags left) (closeUnderCase flags right)

def unionSet? (flags : Flags) : List ClassTerm → Option CodeSet
  | [] => some CodeSet.empty
  | item :: items => do
    let set ← classSet? flags item
    let rest ← unionSet? flags items
    return set.union rest

end

/-! ## Expressions -/

/-- Any character but the ones that end a line. -/
def dot? (flags : Flags) : Option CodeSet :=
  if !flags.unicode then none
  else if flags.dotAll then some CodeSet.scalars
  else if flags.crlf then some (negate (ofPoints [(0x0A, 0x0A), (0x0D, 0x0D)]))
  else some (negate (CodeSet.singleton 0x0A))

def assertionOf (flags : Flags) : AssertionSign → Assertion
  | .lineStart =>
    if !flags.multiLine then .textStart
    else if flags.crlf then .crlfLineStart
    else .lineStart
  | .lineEnd =>
    if !flags.multiLine then .textEnd
    else if flags.crlf then .crlfLineEnd
    else .lineEnd
  | .textStart => .textStart
  | .textEnd => .textEnd
  | .wordBoundary => .wordBoundary words
  | .noWordBoundary => .noWordBoundary words
  | .wordStart => .wordStart words
  | .wordEnd => .wordEnd words
  | .wordStartHalf => .wordStartHalf words
  | .wordEndHalf => .wordEndHalf words
where
  words : WordKind := if flags.unicode then .unicode else .ascii

/-- A character, with those that differ from it in case where that does not
matter. -/
def charExpr (flags : Flags) (c : Char) : Expr :=
  if flags.caseInsensitive then
    .chars (closeUnderCase flags (CodeSet.singleton c.toNat))
  else .ofChar c

def atomExpr? (flags : Flags) : Atom → Option Expr
  | .literal literal => (literal? flags literal).map (charExpr flags)
  | .shorthand kind negated => (admittedShorthand? flags kind negated).map .chars
  | .property name negated => (propertySet? flags name negated).map .chars
  | .assertion sign => some (.assertion (assertionOf flags sign))
  | .dot => (dot? flags).map .chars

mutual

/-- The expression of a term, and the flags after it. -/
def expr? (flags : Flags) : Term → Option (Expr × Flags)
  | .empty => some (.empty, flags)
  | .flags items => some (.empty, flags.apply items)
  | .atom atom => (atomExpr? flags atom).map fun expr => (expr, flags)
  | .bracketed negated contents => do
    let set ← classSet? flags contents
    let set ← foldAndNegate? flags negated set
    return (.chars set, flags)
  | .repetition sub least most lazy => do
    let (sub, flags) ← expr? flags sub
    return (.repetition sub least most lazy, flags)
  | .group .capture sub => do
    let (sub, _) ← expr? flags sub
    return (.group true sub, flags)
  | .group (.flags items) sub => do
    let (sub, _) ← expr? (flags.apply items) sub
    return (.group false sub, flags)
  | .alternation branches => do
    let (branches, flags) ← exprs? flags branches
    return (.ofBranches branches, flags)
  | .concat items => do
    let (items, flags) ← exprs? flags items
    return (.ofItems items, flags)

def exprs? (flags : Flags) : List Term → Option (List Expr × Flags)
  | [] => some ([], flags)
  | term :: terms => do
    let (expr, flags) ← expr? flags term
    let (exprs, flags) ← exprs? flags terms
    return (expr :: exprs, flags)

end

/-- The expression of a whole pattern, read with the flags that are on from the
start. -/
def Term.expr? (term : Term) : Option Expr :=
  (Pattern.expr? {} term).map Prod.fst

end RuleTree.Pattern
