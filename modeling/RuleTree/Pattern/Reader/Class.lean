import RuleTree.Pattern.Reader.Escape

/-!
Contract: bracketed classes of characters.

Brackets may be nested. The classes that are open stand on a stack, and each step
reads one item, operator or bracket into the innermost one. Operators bind weaker
than items side by side and all alike, from the left.
-/

namespace RuleTree.Pattern

/-- A bracketed class whose closing bracket has not been read. -/
structure OpenClass where
  negated : Bool
  /-- The operation whose right operand is being read, and its left operand. -/
  pending : Option (SetOperation × ClassTerm)
  /-- The items of that operand so far, last one first. -/
  reversedItems : List ClassTerm

namespace OpenClass

def add (opened : OpenClass) (item : ClassTerm) : OpenClass :=
  { opened with reversedItems := item :: opened.reversedItems }

/-- All that has been read, operations applied from the left. -/
def contents (opened : OpenClass) : ClassTerm :=
  let items := ClassTerm.ofItems opened.reversedItems.reverse
  match opened.pending with
  | none => items
  | some (operation, left) => .operation operation left items

def operate (opened : OpenClass) (operation : SetOperation) : OpenClass :=
  { opened with pending := some (operation, opened.contents), reversedItems := [] }

end OpenClass

def asciiClass? : String → Option AsciiClass
  | "alnum" => some .alnum
  | "alpha" => some .alpha
  | "ascii" => some .ascii
  | "blank" => some .blank
  | "cntrl" => some .cntrl
  | "digit" => some .digit
  | "graph" => some .graph
  | "lower" => some .lower
  | "print" => some .print
  | "punct" => some .punct
  | "space" => some .space
  | "upper" => some .upper
  | "word" => some .word
  | "xdigit" => some .xdigit
  | _ => none

/-- A class by its name between `[:` and `:]`, the first bracket having been read.
Whatever is no such class is left to be read as brackets within brackets. -/
def asciiName? : List Char → Option (ClassTerm × List Char)
  | ':' :: rest =>
    let (negated, rest) :=
      match rest with
      | '^' :: rest => (true, rest)
      | _ => (false, rest)
    let name := rest.takeWhile (· != ':')
    match rest.dropWhile (· != ':') with
    | ':' :: ']' :: rest =>
      (asciiClass? (String.ofList name)).map fun kind => (.ascii kind negated, rest)
    | _ => none
  | _ => none

/-- Leading hyphens of a class are literals. -/
def leadingHyphens (verbose : Bool) :
    (steps : Nat) → OpenClass → List Char → OpenClass × List Char
  | 0, opened, source => (opened, source)
  | steps + 1, opened, source =>
    match source with
    | '-' :: rest =>
      leadingHyphens verbose steps (opened.add (.literal ⟨'-', false⟩)) (skip verbose rest)
    | _ => (opened, source)

/-- The beginning of a class after its bracket: a caret that negates it, hyphens,
and a closing bracket if it comes first, which is a literal. -/
def openClass (verbose : Bool) (source : List Char) : OpenClass × List Char :=
  let source := skip verbose source
  let (negated, source) :=
    match source with
    | '^' :: rest => (true, skip verbose rest)
    | _ => (false, source)
  let (opened, source) := leadingHyphens verbose source.length ⟨negated, none, []⟩ source
  match opened.reversedItems, source with
  | [], ']' :: rest => (opened.add (.literal ⟨']', false⟩), skip verbose rest)
  | _, _ => (opened, source)

/-- One character or escape inside a class. -/
def classAtom? (verbose : Bool) : List Char → Option (Atom × List Char)
  | [] => none
  | '\\' :: rest => escape? verbose rest
  | c :: rest => some (.literal ⟨c, false⟩, rest)

/-- An atom as an item of a class; places are none. -/
def classItem? : Atom → Option ClassTerm
  | .literal literal => some (.literal literal)
  | .shorthand kind negated => some (.shorthand kind negated)
  | .property name negated => some (.property name negated)
  | .assertion _ => none
  | .dot => none

/-- An item or a range of a class. A hyphen makes a range unless a closing bracket
or another hyphen comes next. -/
def classRange? (verbose : Bool) (source : List Char) : Option (ClassTerm × List Char) := do
  let (first, source) ← classAtom? verbose source
  let source := skip verbose source
  match source with
  | [] => none
  | c :: rest =>
    let ahead := peek? verbose rest
    if c != '-' || ahead == some ']' || ahead == some '-' then
      let item ← classItem? first
      return (item, source)
    else
      let (last, source) ← classAtom? verbose (skip verbose rest)
      match first, last with
      | .literal first, .literal last =>
        if first.char ≤ last.char then return (.range first last, source) else none
      | _, _ => none

/-- Read a class to its end, the innermost open one first and those around it after
it. -/
def classFrom? (verbose : Bool) :
    (steps : Nat) → (inner : OpenClass) → (outer : List OpenClass) → List Char →
      Option (Term × List Char)
  | 0, _, _, _ => none
  | steps + 1, inner, outer, source =>
    match skip verbose source with
    | [] => none
    | '[' :: rest =>
      match asciiName? rest with
      | some (item, rest) => classFrom? verbose steps (inner.add item) outer rest
      | none =>
        let (opened, rest) := openClass verbose rest
        classFrom? verbose steps opened (inner :: outer) rest
    | ']' :: rest =>
      match outer with
      | [] => some (.bracketed inner.negated inner.contents, rest)
      | next :: outer =>
        classFrom? verbose steps
          (next.add (.bracketed inner.negated inner.contents)) outer rest
    | '&' :: '&' :: rest => classFrom? verbose steps (inner.operate .intersection) outer rest
    | '-' :: '-' :: rest => classFrom? verbose steps (inner.operate .difference) outer rest
    | '~' :: '~' :: rest =>
      classFrom? verbose steps (inner.operate .symmetricDifference) outer rest
    | source =>
      match classRange? verbose source with
      | some (item, rest) => classFrom? verbose steps (inner.add item) outer rest
      | none => none

/-- A class whose first bracket has been read. -/
def class? (verbose : Bool) (source : List Char) : Option (Term × List Char) :=
  let (opened, rest) := openClass verbose source
  classFrom? verbose (source.length + 1) opened [] rest

end RuleTree.Pattern
