import RuleTree.Unicode.CaseTable
import RuleTree.Unicode.CodeSet

/-!
Contract: the lower-case form of a text, and the classes of characters that differ
in case only.

Lower-casing maps each character by itself with two exceptions: `İ` becomes an `i`
with a dot above, and `Σ` at the end of a word becomes `ς`. A `Σ` ends a word when,
case-ignorable characters skipped, a cased character stands before it and none
stands after it.
-/

namespace RuleTree.Unicode

/-! ## Single characters -/

/-- The image of a code point under the first row that holds it. -/
def caseImage (rows : List CaseRow) (point : Nat) : Nat :=
  match rows.find? fun row =>
      row.first ≤ point && point ≤ row.last && (point - row.first) % row.step == 0 with
  | some row => ((point : Int) + row.offset).toNat
  | none => point

/-- The lower case of a character by itself. ASCII needs no table. -/
def lowerChar (c : Char) : Char :=
  if c.toNat < 0x80 then c.toLower else Char.ofNat (caseImage lowerRows c.toNat)

/-! ## Texts -/

def casedBeyondAscii : CodeSet := CodeSet.ofText casedRanges

def caseIgnorableBeyondAscii : CodeSet := CodeSet.ofText caseIgnorableRanges

def isCased (c : Char) : Bool :=
  if c.toNat < 0x80 then c.isAlpha else casedBeyondAscii.contains c.toNat

def isCaseIgnorable (c : Char) : Bool :=
  if c.toNat < 0x80 then c == '\'' || c == '.' || c == ':' || c == '^' || c == '\x60'
  else caseIgnorableBeyondAscii.contains c.toNat

/-- Whether the first character that is not case-ignorable is cased. -/
def startsCased (text : List Char) : Bool :=
  ((text.dropWhile isCaseIgnorable).head?.map isCased).getD false

/-- The lower case of a character between the characters before it, nearest first,
and those after it. -/
def lowerInContext (before : List Char) (c : Char) (after : List Char) : List Char :=
  if c = 'Σ' then [if startsCased before && !startsCased after then 'ς' else 'σ']
  else if c = 'İ' then ['i', '\u0307']
  else [lowerChar c]

def lowerFrom (before : List Char) : List Char → List Char
  | [] => []
  | c :: after => lowerInContext before c after ++ lowerFrom (c :: before) after

def lower (text : List Char) : List Char :=
  lowerFrom [] text

/-! ## Case classes -/

/-- Every code point that a folding row moves, with its representative. -/
def foldPairs : List (Nat × Nat) :=
  foldRows.flatMap fun row =>
    (CodeSet.progression row.first row.last row.step).map fun point =>
      (point, ((point : Int) + row.offset).toNat)

/-- The set with all characters that differ in case from one of its members. -/
def closeUnderCase (set : CodeSet) : CodeSet :=
  let representatives := CodeSet.ofList
    ((foldPairs.filter fun pair => set.contains pair.1).map fun pair =>
      CodeSet.singleton pair.2)
  let targets := set.union representatives
  let members := CodeSet.ofList
    ((foldPairs.filter fun pair => targets.contains pair.2).map fun pair =>
      CodeSet.singleton pair.1)
  targets.union members

/-- The same for ASCII letters only. -/
def closeUnderAsciiCase (set : CodeSet) : CodeSet :=
  let mates := (List.range 26).flatMap fun index =>
    (if set.contains (0x41 + index) then [CodeSet.singleton (0x61 + index)] else [])
      ++ (if set.contains (0x61 + index) then [CodeSet.singleton (0x41 + index)] else [])
  set.union (CodeSet.ofList mates)

end RuleTree.Unicode
