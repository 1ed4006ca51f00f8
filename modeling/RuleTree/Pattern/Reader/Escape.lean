import RuleTree.Pattern.Reader.Spacing
import RuleTree.Pattern.Term

/-!
Contract: escapes, that is, what follows a backslash in a pattern, and the numbers
that escapes and repetitions are written with.

Every function takes the text from where it stands and gives what it has read with
the rest of the text, or nothing where the text is no regular expression.
-/

namespace RuleTree.Pattern

/-! ## Numbers -/

def digitsToNat (base : Nat) (digits : List Char) : Nat :=
  digits.foldl (fun value digit => base * value + CodeSet.hexDigitValue digit.toLower) 0

/-- A decimal count below `2 ^ 32`, white space around it allowed. -/
def count? (verbose : Bool) (source : List Char) : Option (Nat × List Char) :=
  let (digits, rest) := spanSkipping verbose Char.isDigit false [] (source.dropWhile isSpace)
  let value := digitsToNat 10 digits
  if digits.isEmpty || Nat.pow 2 32 ≤ value then none
  else some (value, rest.dropWhile isSpace)

def isHexDigit (c : Char) : Bool :=
  c.isDigit || ('a' ≤ c && c ≤ 'f') || ('A' ≤ c && c ≤ 'F')

/-- The character with a number, when there is one. -/
def charOfNat? (value : Nat) : Option Char :=
  if Nat.isValidChar value then some (Char.ofNat value) else none

/-- Exactly `length` hexadecimal digits, with skipping after each. -/
def hexDigits? (verbose : Bool) : (length : Nat) → List Char → Option (List Char × List Char)
  | 0, source => some ([], source)
  | length + 1, c :: rest =>
    if isHexDigit c then
      (hexDigits? verbose length (skip verbose rest)).map fun (digits, rest) =>
        (c :: digits, rest)
    else none
  | _ + 1, [] => none

/-- The number of a character after `\x`, `\u` or `\U`: `length` digits, or any
number of digits in braces. -/
def hexChar? (verbose : Bool) (length : Nat) (source : List Char) :
    Option (Literal × List Char) := do
  match skip verbose source with
  | '\x7b' :: rest =>
    let (digits, rest) ← untilBrace? verbose false [] rest
    if digits.isEmpty || !digits.all isHexDigit then none
    else
      let c ← charOfNat? (digitsToNat 16 digits)
      return (⟨c, false⟩, skip verbose rest)
  | source =>
    let (digits, rest) ← hexDigits? verbose length source
    let c ← charOfNat? (digitsToNat 16 digits)
    return (⟨c, length == 2⟩, rest)

/-! ## Escapes -/

/-- Split at the first place where `mark` stands. -/
def splitAtMark? (mark : List Char) : List Char → Option (List Char × List Char)
  | [] => none
  | c :: rest =>
    if mark.isPrefixOf (c :: rest) then some ([], (c :: rest).drop mark.length)
    else (splitAtMark? mark rest).map fun (before, after) => (c :: before, after)

/-- A name in braces, perhaps with a value. -/
def propertyName (text : List Char) : PropertyName :=
  match splitAtMark? ['!', '='] text with
  | some (name, value) => .valued (String.ofList name) (String.ofList value) true
  | none =>
    match splitAtMark? [':'] text <|> splitAtMark? ['='] text with
    | some (name, value) => .valued (String.ofList name) (String.ofList value) false
    | none => .named (String.ofList text)

/-- What follows `\p` or `\P`: one letter, or a name in braces. -/
def property? (verbose : Bool) (source : List Char) : Option (PropertyName × List Char) :=
  match skip verbose source with
  | [] => none
  | '\x7b' :: rest =>
    (untilBrace? verbose false [] rest).map fun (text, rest) => (propertyName text, rest)
  | '\\' :: _ => none
  | c :: rest => some (.letter c, skip verbose rest)

/-- What follows `\b`: a special boundary in braces, or nothing. Braces that do not
begin with a letter or a hyphen are left for a repetition. -/
def boundary? (verbose : Bool) (source : List Char) :
    Option (AssertionSign × List Char) :=
  let isNameChar (c : Char) : Bool := c.isAlpha || c == '-'
  match source with
  | '\x7b' :: rest =>
    match skip verbose rest with
    | [] => none
    | c :: _ =>
      if !isNameChar c then some (.wordBoundary, source)
      else
        let (name, rest) := spanSkipping verbose isNameChar false [] (skip verbose rest)
        match rest with
        | '\x7d' :: rest =>
          match String.ofList name with
          | "start" => some (.wordStart, rest)
          | "end" => some (.wordEnd, rest)
          | "start-half" => some (.wordStartHalf, rest)
          | "end-half" => some (.wordEndHalf, rest)
          | _ => none
        | _ => none
  | _ => some (.wordBoundary, source)

/-- A character that stands for itself after a backslash: ASCII other than letters,
digits and the angle brackets. -/
def isEscapable (c : Char) : Bool :=
  c.toNat < 0x80 && !c.isAlphanum && c != '<' && c != '>'

/-- What follows a backslash. -/
def escape? (verbose : Bool) : List Char → Option (Atom × List Char)
  | [] => none
  | c :: rest =>
    let literal (value : Char) : Option (Atom × List Char) :=
      some (.literal ⟨value, false⟩, rest)
    let hex (length : Nat) : Option (Atom × List Char) :=
      (hexChar? verbose length rest).map fun (value, rest) => (.literal value, rest)
    let property (negated : Bool) : Option (Atom × List Char) :=
      (property? verbose rest).map fun (name, rest) => (.property name negated, rest)
    match c with
    | 'x' => hex 2
    | 'u' => hex 4
    | 'U' => hex 8
    | 'p' => property false
    | 'P' => property true
    | 'd' => some (.shorthand .digit false, rest)
    | 's' => some (.shorthand .space false, rest)
    | 'w' => some (.shorthand .word false, rest)
    | 'D' => some (.shorthand .digit true, rest)
    | 'S' => some (.shorthand .space true, rest)
    | 'W' => some (.shorthand .word true, rest)
    | 'a' => literal '\x07'
    | 'f' => literal '\x0c'
    | 't' => literal '\t'
    | 'n' => literal '\n'
    | 'r' => literal '\r'
    | 'v' => literal '\x0b'
    | 'A' => some (.assertion .textStart, rest)
    | 'z' => some (.assertion .textEnd, rest)
    | 'b' => (boundary? verbose rest).map fun (sign, rest) => (.assertion sign, rest)
    | 'B' => some (.assertion .noWordBoundary, rest)
    | '<' => some (.assertion .wordStart, rest)
    | '>' => some (.assertion .wordEnd, rest)
    | c => if isEscapable c then literal c else none

end RuleTree.Pattern
