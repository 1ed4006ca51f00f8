import RuleTree.Pattern.Reader.Class
import RuleTree.Pattern.Reader.Group

/-!
Contract: reading the text of a regular expression as a term.

The reader goes through the text once, from left to right. Each step reads one item
into the innermost open group, so what a text does inside a group does not depend on
what is around it.

Owns: the grammar, and with it what is refused as no regular expression.
Does not own: the limits on nesting and size, and the names of properties.
-/

namespace RuleTree.Pattern

/-! ## Repetitions -/

/-- A repetition as read, with the text after it. -/
structure Counts where
  least : Nat
  most : Option Nat
  lazy : Bool
  rest : List Char

/-- A question mark after a repetition makes it lazy, which does not change what can
be matched. -/
def Counts.ofBounds (least : Nat) (most : Option Nat) (source : List Char) : Counts :=
  match source with
  | '?' :: rest => ⟨least, most, true, rest⟩
  | rest => ⟨least, most, false, rest⟩

/-- What follows an opening brace: a count, or a range of counts. -/
def counts? (verbose : Bool) (source : List Char) : Option Counts := do
  let (least, rest) ← count? verbose (skip verbose source)
  match rest with
  | '\x7d' :: rest => return .ofBounds least (some least) (skip verbose rest)
  | ',' :: rest =>
    match skip verbose rest with
    | [] => none
    | '\x7d' :: rest => return .ofBounds least none (skip verbose rest)
    | rest =>
      let (most, rest) ← count? verbose rest
      match rest with
      | '\x7d' :: rest =>
        if least ≤ most then return .ofBounds least (some most) (skip verbose rest) else none
      | _ => none
  | _ => none

/-- Repeat the item read last. -/
def ReaderState.repeated?
    (state : ReaderState)
    (counts : Counts) : Option (ReaderState × List Char) :=
  (state.repeatLast? counts.least counts.most counts.lazy).map fun state =>
    (state, counts.rest)

/-! ## The whole pattern -/

/-- Read one item that begins with `c`. -/
def step? (state : ReaderState) (c : Char) (rest : List Char) :
    Option (ReaderState × List Char) :=
  match c with
  | '(' => openGroup? state rest
  | ')' => state.closeGroup?.map fun state => (state, rest)
  | '|' => some ({ state with inner := state.inner.branch }, rest)
  | '[' => (class? state.verbose rest).map fun (term, rest) => (state.add term, rest)
  | '?' => state.repeated? (.ofBounds 0 (some 1) rest)
  | '*' => state.repeated? (.ofBounds 0 none rest)
  | '+' => state.repeated? (.ofBounds 1 none rest)
  | '\x7b' => (counts? state.verbose rest).bind state.repeated?
  | '\\' => (escape? state.verbose rest).map fun (atom, rest) => (state.add (.atom atom), rest)
  | '.' => some (state.add (.atom .dot), rest)
  | '^' => some (state.add (.atom (.assertion .lineStart)), rest)
  | '$' => some (state.add (.atom (.assertion .lineEnd)), rest)
  | c => some (state.add (.atom (.literal ⟨c, false⟩)), rest)

/-- Read items to the end of the text. Every item has at least one character, so as
many steps as there are characters suffice. -/
def readFrom? : (steps : Nat) → ReaderState → List Char → Option ReaderState
  | steps, state, source =>
    match steps, skip state.verbose source with
    | _, [] => some state
    | 0, _ :: _ => none
    | steps + 1, c :: rest =>
      match step? state c rest with
      | some (state, rest) => readFrom? steps state rest
      | none => none

/-- The term of a state in which no group is open. -/
def ReaderState.finish? (state : ReaderState) : Option Term :=
  if state.outer.isEmpty then some state.inner.contents else none

/-- Read a text as a regular expression. -/
def read? (source : List Char) : Option Term :=
  (readFrom? source.length .start source).bind ReaderState.finish?

end RuleTree.Pattern
