import RuleTree.Json.Basic
import RuleTree.Number.Layout

/-!
Contract: reading strict JSON text.

The reader takes one document with blanks around it and nothing else. It refuses a
nesting of arrays and objects deeper than its limit, surrogate escapes that do not
pair up, characters below U+0020 inside strings, and numbers whose nearest 64-bit
number is an infinity.

A number is read as the 64-bit number nearest to it. That is an assumption about the
package behind the program, which promises no more than its best effort for long
fractions and large exponents.

Recursion is on a step count that `read?` sets from the length of the text: each
character accounts for at most two steps.
-/

namespace RuleTree.Json

/-- A parsed piece of the text and the rest of it. -/
abbrev Reader (α : Type) := List Char → Option (α × List Char)

def isBlank (c : Char) : Bool :=
  c = ' ' || c = '\t' || c = '\n' || c = '\r'

def skipBlanks (source : List Char) : List Char :=
  source.dropWhile isBlank

/-! ## Numbers -/

/-- The digits before the point: a zero stands alone. -/
def spanWhole? : Reader (List Char) := fun source =>
  let (digits, rest) := spanDigits source
  match digits with
  | [] => none
  | '0' :: _ :: _ => none
  | digits => some (digits, rest)

/-- The digits after the point; none when there is no point. -/
def spanFraction? : Reader (Option (List Char)) := fun source =>
  match source with
  | '.' :: rest =>
    let (digits, rest) := spanDigits rest
    if digits.isEmpty then none else some (some digits, rest)
  | _ => some (none, source)

/-- A literal without point and exponent is an integer. A zero with a minus sign
is not, since integers have one zero only. -/
def numberOf
    (negative : Bool)
    (whole : List Char)
    (decimals : Option (List Char))
    (power : Option Int) : Option Json :=
  let digits := digitsValue (whole ++ decimals.getD [])
  let exponent := power.getD 0 - (decimals.getD []).length
  let nearest := Number.ofDecimal negative digits exponent
  if !nearest.isFinite then none
  else if decimals.isNone && power.isNone && !(negative && digits == 0) then
    some (.integer (if negative then -(digits : Int) else digits))
  else some (.fraction nearest)

def number? : Reader Json := fun source => do
  let (negative, source) :=
    match source with
    | '-' :: rest => (true, rest)
    | _ => (false, source)
  let (whole, source) ← spanWhole? source
  let (decimals, source) ← spanFraction? source
  let (power, source) ← spanExponent? source
  let value ← numberOf negative whole decimals power
  return (value, source)

/-! ## Strings -/

def hexValue? (c : Char) : Option Nat :=
  if c.isDigit then some (c.toNat - '0'.toNat)
  else if 'a' ≤ c ∧ c ≤ 'f' then some (c.toNat - 'a'.toNat + 10)
  else if 'A' ≤ c ∧ c ≤ 'F' then some (c.toNat - 'A'.toNat + 10)
  else none

/-- Four hexadecimal digits. -/
def codeUnit? : Reader Nat
  | a :: b :: c :: d :: rest => do
    let a ← hexValue? a
    let b ← hexValue? b
    let c ← hexValue? c
    let d ← hexValue? d
    return (((a * 16 + b) * 16 + c) * 16 + d, rest)
  | _ => none

/-- The character after `\u`: one code unit, or a high and a low surrogate with
another `\u` between them. -/
def unicodeEscape? : Reader Char := fun source => do
  let (unit, source) ← codeUnit? source
  if 0xD800 ≤ unit ∧ unit < 0xDC00 then
    match source with
    | '\\' :: 'u' :: rest =>
      let (low, rest) ← codeUnit? rest
      if 0xDC00 ≤ low ∧ low < 0xE000 then
        return (Char.ofNat (0x10000 + (unit - 0xD800) * 0x400 + (low - 0xDC00)), rest)
      else none
    | _ => none
  else if 0xDC00 ≤ unit ∧ unit < 0xE000 then none
  else return (Char.ofNat unit, source)

/-- The character after a backslash. -/
def escape? : Reader Char
  | '"' :: rest => some ('"', rest)
  | '\\' :: rest => some ('\\', rest)
  | '/' :: rest => some ('/', rest)
  | 'b' :: rest => some ('\x08', rest)
  | 'f' :: rest => some ('\x0c', rest)
  | 'n' :: rest => some ('\n', rest)
  | 'r' :: rest => some ('\r', rest)
  | 't' :: rest => some ('\t', rest)
  | 'u' :: rest => unicodeEscape? rest
  | _ => none

/-- The characters of a string up to its closing mark, added to `reversed`. -/
def stringChars? : (steps : Nat) → (reversed : List Char) → Reader (List Char)
  | 0, _, _ => none
  | steps + 1, reversed, source =>
    match source with
    | [] => none
    | '"' :: rest => some (reversed.reverse, rest)
    | '\\' :: rest =>
      match escape? rest with
      | some (c, rest) => stringChars? steps (c :: reversed) rest
      | none => none
    | c :: rest =>
      if c.toNat < 0x20 then none else stringChars? steps (c :: reversed) rest

/-- A string whose opening mark has been read. -/
def string? : Reader String := fun source =>
  (stringChars? (source.length + 1) [] source).map fun (chars, rest) =>
    (String.ofList chars, rest)

/-! ## Documents -/

mutual

/-- One value, `depth` levels of nesting being left. -/
def value? : (steps : Nat) → (depth : Nat) → Reader Json
  | 0, _, _ => none
  | steps + 1, depth, source =>
    match skipBlanks source with
    | 'n' :: 'u' :: 'l' :: 'l' :: rest => some (.null, rest)
    | 't' :: 'r' :: 'u' :: 'e' :: rest => some (.boolean true, rest)
    | 'f' :: 'a' :: 'l' :: 's' :: 'e' :: rest => some (.boolean false, rest)
    | '"' :: rest => (string? rest).map fun (value, rest) => (.string value, rest)
    | '[' :: rest =>
      if depth = 0 then none
      else
        match skipBlanks rest with
        | ']' :: rest => some (.array [], rest)
        | rest =>
          (items? steps (depth - 1) rest).map fun (items, rest) => (.array items, rest)
    | '\x7b' :: rest =>
      if depth = 0 then none
      else
        match skipBlanks rest with
        | '\x7d' :: rest => some (.object [], rest)
        | rest =>
          (members? steps (depth - 1) rest).map fun (members, rest) =>
            (.object members, rest)
    | source => number? source

/-- The items of an array from the first one to the closing bracket. -/
def items? : (steps : Nat) → (depth : Nat) → Reader (List Json)
  | 0, _, _ => none
  | steps + 1, depth, source => do
    let (item, source) ← value? steps depth source
    match skipBlanks source with
    | ',' :: rest =>
      let (items, rest) ← items? steps depth rest
      return (item :: items, rest)
    | ']' :: rest => return ([item], rest)
    | _ => none

/-- The members of an object from the first name to the closing brace. -/
def members? : (steps : Nat) → (depth : Nat) → Reader (List (String × Json))
  | 0, _, _ => none
  | steps + 1, depth, source =>
    match skipBlanks source with
    | '"' :: rest => do
      let (name, source) ← string? rest
      match skipBlanks source with
      | ':' :: rest =>
        let (value, source) ← value? steps depth rest
        match skipBlanks source with
        | ',' :: rest =>
          let (members, rest) ← members? steps depth rest
          return ((name, value) :: members, rest)
        | '\x7d' :: rest => return ([(name, value)], rest)
        | _ => none
      | _ => none
    | _ => none

end

/-- Read a whole text, with at most `depth` nested arrays and objects. -/
def read? (depth : Nat) (text : String) : Option Json :=
  let source := text.toList
  match value? (2 * source.length + 2) depth source with
  | some (document, rest) => if (skipBlanks rest).isEmpty then some document else none
  | none => none

end RuleTree.Json
