import RuleTree.Pattern.Reader.Spacing
import RuleTree.Pattern.Term
import RuleTree.Unicode.LetterTable

/-!
Contract: groups, and the state of a reader that is inside some of them.

The groups that are open stand on a stack; alternatives, items and repetitions
change the innermost one only. Skipping may be switched inside a group and is put
back at its end.
-/

namespace RuleTree.Pattern

/-! ## Open groups -/

/-- A group whose end has not been read; the whole pattern is one as well. -/
structure OpenGroup where
  sign : GroupSign
  /-- Whether skipping was on around the group. -/
  verboseOutside : Bool
  /-- The finished alternatives, last one first. -/
  reversedBranches : List Term
  /-- The items of the current alternative, last one first. -/
  reversedItems : List Term

namespace OpenGroup

def start (sign : GroupSign) (verboseOutside : Bool) : OpenGroup :=
  ⟨sign, verboseOutside, [], []⟩

def add (group : OpenGroup) (item : Term) : OpenGroup :=
  { group with reversedItems := item :: group.reversedItems }

def branch (group : OpenGroup) : OpenGroup :=
  { group with
    reversedBranches := Term.ofItems group.reversedItems.reverse :: group.reversedBranches
    reversedItems := [] }

/-- All that has been read of the group. -/
def contents (group : OpenGroup) : Term :=
  Term.ofBranches
    (Term.ofItems group.reversedItems.reverse :: group.reversedBranches).reverse

/-- Repeat the last item. There has to be one, and flags are none. -/
def repeatLast?
    (group : OpenGroup)
    (least : Nat)
    (most : Option Nat)
    (lazy : Bool) : Option OpenGroup :=
  match group.reversedItems with
  | [] => none
  | .empty :: _ => none
  | .flags _ :: _ => none
  | last :: items =>
    some { group with reversedItems := .repetition last least most lazy :: items }

end OpenGroup

/-- Where the reader is: the innermost group, the groups around it, whether skipping
is on, and the group names so far. -/
structure ReaderState where
  inner : OpenGroup
  outer : List OpenGroup
  verbose : Bool
  names : List String

namespace ReaderState

def start : ReaderState :=
  ⟨.start .capture false, [], false, []⟩

def add (state : ReaderState) (item : Term) : ReaderState :=
  { state with inner := state.inner.add item }

def openGroup (state : ReaderState) (sign : GroupSign) (verbose : Bool) : ReaderState :=
  { state with
    inner := .start sign state.verbose
    outer := state.inner :: state.outer
    verbose := verbose }

def closeGroup? (state : ReaderState) : Option ReaderState :=
  match state.outer with
  | [] => none
  | next :: outer =>
    some { state with
      inner := next.add (.group state.inner.sign state.inner.contents)
      outer := outer
      verbose := state.inner.verboseOutside }

def repeatLast?
    (state : ReaderState)
    (least : Nat)
    (most : Option Nat)
    (lazy : Bool) : Option ReaderState :=
  (state.inner.repeatLast? least most lazy).map fun inner => { state with inner := inner }

end ReaderState

/-! ## What follows an opening parenthesis -/

def flagOf? : Char → Option Flag
  | 'i' => some .caseInsensitive
  | 'm' => some .multiLine
  | 's' => some .dotAll
  | 'U' => some .swapGreed
  | 'u' => some .unicode
  | 'R' => some .crlf
  | 'x' => some .verbose
  | _ => none

/-- Flags up to a closing parenthesis or a colon, which is returned too. No item
stands twice, and a flag follows the mark that switches off. -/
def flags? : (reversed : List FlagItem) → List Char → Option (List FlagItem × Char × List Char)
  | _, [] => none
  | reversed, c :: rest =>
    if c = ':' ∨ c = ')' then
      if reversed.head? = some .negation then none
      else some (reversed.reverse, c, rest)
    else
      match if c = '-' then some FlagItem.negation else (flagOf? c).map FlagItem.flag with
      | none => none
      | some item => if reversed.contains item then none else flags? (item :: reversed) rest

def lettersBeyondAscii : CodeSet := CodeSet.ofText Unicode.letterRanges

def numbersBeyondAscii : CodeSet := CodeSet.ofText Unicode.numberRanges

def isNameStart (c : Char) : Bool :=
  c == '_' || c.isAlpha || lettersBeyondAscii.contains c.toNat

def isNameChar (c : Char) : Bool :=
  isNameStart c || c.isDigit || c == '.' || c == '[' || c == ']'
    || numbersBeyondAscii.contains c.toNat

/-- A group name up to its closing angle bracket. -/
def groupName? (source : List Char) : Option (String × List Char) :=
  let name := source.takeWhile (· != '>')
  match name, source.dropWhile (· != '>') with
  | first :: others, _ :: rest =>
    if isNameStart first && others.all isNameChar then some (String.ofList name, rest) else none
  | _, _ => none

/-- Look-around is not part of the dialect. -/
def isLookAround : List Char → Bool
  | '?' :: '=' :: _ => true
  | '?' :: '!' :: _ => true
  | '?' :: '<' :: '=' :: _ => true
  | '?' :: '<' :: '!' :: _ => true
  | _ => false

/-- Open a group with a name that no other group has. -/
def openNamed? (state : ReaderState) (source : List Char) :
    Option (ReaderState × List Char) := do
  let (name, rest) ← groupName? source
  if state.names.contains name then none
  else
    let opened := state.openGroup .capture state.verbose
    return ({ opened with names := name :: state.names }, rest)

/-- Open a group after its parenthesis, or set flags for the group it stands in. -/
def openGroup? (state : ReaderState) (source : List Char) :
    Option (ReaderState × List Char) :=
  let source := skip state.verbose source
  if isLookAround source then none
  else
    match source with
    | '?' :: 'P' :: '<' :: rest => openNamed? state rest
    | '?' :: '<' :: rest => openNamed? state rest
    | '?' :: rest =>
      match flags? [] rest with
      | none => none
      | some (items, close, rest) =>
        let verbose := (flagSetting? items .verbose).getD state.verbose
        if close = ')' then
          if items.isEmpty then none
          else some ({ state.add (.flags items) with verbose := verbose }, rest)
        else some (state.openGroup (.flags items) verbose, rest)
    | rest => some (state.openGroup .capture state.verbose, rest)

end RuleTree.Pattern
