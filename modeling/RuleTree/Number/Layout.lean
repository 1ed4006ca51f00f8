import RuleTree.Number.Shortest

/-!
Contract: the written forms of numbers.

Two layouts of the same shortest digits are used. The plain layout never has an
exponent and is the string form of a number; the document layout, for JSON text,
keeps a fraction part on integral numbers and turns to an exponent for very large
and very small ones. Reading accepts a sign, digits with an optional point, and an
optional exponent.
-/

namespace RuleTree

namespace Decimal

def digitChars (decimal : Decimal) : List Char :=
  Nat.toDigits 10 decimal.digits

/-- Digits padded with zeros, with a point only before a fraction. -/
def plain (decimal : Decimal) : List Char :=
  let digits := decimal.digitChars
  match decimal.exponent with
  | .ofNat up => digits ++ List.replicate up '0'
  | .negSucc down =>
    let places := down + 1
    if places < digits.length then
      digits.take (digits.length - places) ++ '.' :: digits.drop (digits.length - places)
    else
      '0' :: '.' :: (List.replicate (places - digits.length) '0' ++ digits)

/-- One digit, the others as a fraction, and the power of ten with its sign. -/
def scientific (decimal : Decimal) : List Char :=
  let fraction := decimal.digitChars.drop 1
  let power := decimal.leadingExponent
  decimal.digitChars.take 1
    ++ (if fraction.isEmpty then [] else '.' :: fraction)
    ++ 'e' :: (if power < 0 then '-' else '+') :: Nat.toDigits 10 power.natAbs

/-- The document layout: plain while the first digit stands for a power of ten
from `10 ^ -5` to `10 ^ 15`, integral values ending in `.0`; else scientific. -/
def document (decimal : Decimal) : List Char :=
  if -5 ≤ decimal.leadingExponent ∧ decimal.leadingExponent ≤ 15 then
    if 0 ≤ decimal.exponent then decimal.plain ++ ['.', '0'] else decimal.plain
  else decimal.scientific

end Decimal

/-- The decimal numeral of an integer. -/
def integerNumeral (value : Int) : List Char :=
  (if value < 0 then ['-'] else []) ++ Nat.toDigits 10 value.natAbs

namespace Number

def withSign (negative : Bool) (digits : List Char) : List Char :=
  if negative then '-' :: digits else digits

/-- The string form: integral numbers below `10 ^ 15` as integers, so that
negative zero has no sign; all other finite numbers in the plain layout. -/
def text (number : Number) : List Char :=
  match number with
  | .nan => "NaN".toList
  | .infinite negative => withSign negative "Infinity".toList
  | .finite negative position =>
    match number.shortInteger? with
    | some value => integerNumeral value
    | none => withSign negative (shortest .up position).plain

/-- The text of a finite number that a document keeps as a fraction. -/
def documentText (negative : Bool) (position : Nat) : List Char :=
  withSign negative (shortest .even position).document

end Number

/-! ## Reading -/

/-- The value of a run of digits. -/
def digitsValue (digits : List Char) : Nat :=
  digits.foldl (fun value digit => 10 * value + (digit.toNat - '0'.toNat)) 0

/-- A run of digits at the front, and what follows it. -/
def spanDigits (source : List Char) : List Char × List Char :=
  (source.takeWhile Char.isDigit, source.dropWhile Char.isDigit)

/-- A sign at the front: whether it is a minus, and what follows it. -/
def spanSign : List Char → Bool × List Char
  | '-' :: rest => (true, rest)
  | '+' :: rest => (false, rest)
  | source => (false, source)

/-- An exponent at the front, with what follows it: none when it is missing,
and a failure when the mark stands without digits. -/
def spanExponent? (source : List Char) : Option (Option Int × List Char) :=
  match source with
  | mark :: rest =>
    if mark = 'e' ∨ mark = 'E' then
      let (negative, rest) := spanSign rest
      let (digits, rest) := spanDigits rest
      if digits.isEmpty then none
      else
        let power : Int := digitsValue digits
        some (some (if negative then -power else power), rest)
    else some (none, source)
  | [] => some (none, [])

/-- Read a whole text as a number: `NaN`, `inf` or `infinity` in any case, or a
decimal with digits before or after the point. -/
def Number.ofText? (source : List Char) : Option Number :=
  let (negative, unsigned) := spanSign source
  match String.ofList (unsigned.map Char.toLower) with
  | "nan" => some .nan
  | "inf" | "infinity" => some (.infinite negative)
  | _ =>
    let (whole, rest) := spanDigits unsigned
    let (fraction, rest) :=
      match rest with
      | '.' :: rest => spanDigits rest
      | _ => ([], rest)
    if (whole ++ fraction).isEmpty then none
    else
      match spanExponent? rest with
      | some (power, []) =>
        some (ofDecimal negative (digitsValue (whole ++ fraction))
          (power.getD 0 - fraction.length))
      | _ => none

end RuleTree
