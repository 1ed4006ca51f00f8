import RuleTree.Number.Rounding

/-!
Contract: the shortest decimal that reads back to a magnitude.

For one digit, then two, and so on, the two neighbours of the magnitude on the
grid of decimals with that many digits are tried. The first grid with a neighbour
that reads back wins; of two such neighbours the nearer one is taken. Seventeen
digits always suffice.

Owns: the choice of digits. Does not own: their layout (`Number.Layout`).
-/

namespace RuleTree

/-- `digits * 10 ^ exponent`. -/
structure Decimal where
  digits : Nat
  exponent : Int
deriving DecidableEq, Repr

/-- Which of two equally near decimals is taken. -/
inductive TieRule where
  /-- The one with the even last digit. -/
  | even
  /-- The larger one. -/
  | up
deriving DecidableEq, Repr

namespace Decimal

/-- How many digits are written. -/
def length (decimal : Decimal) : Nat :=
  (Nat.toDigits 10 decimal.digits).length

/-- The power of ten of the first digit. -/
def leadingExponent (decimal : Decimal) : Int :=
  decimal.exponent + decimal.length - 1

/-- Drop trailing zeros of the digits, at most `fuel` of them. -/
def trimZeros : (fuel : Nat) → Decimal → Decimal
  | 0, decimal => decimal
  | fuel + 1, decimal =>
    if decimal.digits ≠ 0 ∧ decimal.digits % 10 = 0 then
      trimZeros fuel ⟨decimal.digits / 10, decimal.exponent + 1⟩
    else decimal

/-- The same value with no zero at the end of its digits. -/
def trim (decimal : Decimal) : Decimal :=
  trimZeros decimal.length decimal

end Decimal

namespace Number

/-- `units` as a ratio of whole numbers in which one is `10 ^ exponent`. -/
def gridRatio (value : Nat) : (exponent : Int) → Nat × Nat
  | .ofNat up => (value, Nat.pow 10 up * unitsPerOne)
  | .negSucc down => (value * Nat.pow 10 (down + 1), unitsPerOne)

/-- Whether `digits * 10 ^ exponent` is read as the magnitude at `position`. -/
def readsAs (position : Nat) (digits : Nat) (exponent : Int) : Bool :=
  decimalPosition digits exponent == position

/-- The better neighbour of the magnitude at `position` among the multiples of
`10 ^ exponent`, if one of the two reads back. -/
def neighbour?
    (tie : TieRule)
    (position : Nat)
    (exponent : Int) : Option Nat :=
  let (numerator, denominator) := gridRatio (units position) exponent
  let below := numerator / denominator
  let twice := 2 * (numerator % denominator)
  let preferBelow :=
    twice < denominator ∨
      (twice = denominator ∧ tie = TieRule.even ∧ below % 2 = 0)
  let (first, second) := if preferBelow then (below, below + 1) else (below + 1, below)
  if readsAs position first exponent then some first
  else if readsAs position second exponent then some second
  else none

/-- The power of ten of the first digit of the magnitude at `position`. -/
def leadingExponent (position : Nat) : Int :=
  let value := units position
  if unitsPerOne ≤ value then
    ((Nat.toDigits 10 (value / unitsPerOne)).length : Int) - 1
  else
    -((Nat.toDigits 10 ((unitsPerOne - 1) / value)).length : Int)

/-- Search the grids of `count`, `count + 1`, ... digits, `fuel` of them. -/
def shortestFrom
    (tie : TieRule)
    (position : Nat) : (fuel count : Nat) → Option Decimal
  | 0, _ => none
  | fuel + 1, count =>
    let exponent := leadingExponent position - count + 1
    match neighbour? tie position exponent with
    | some digits => some (Decimal.trim ⟨digits, exponent⟩)
    | none => shortestFrom tie position fuel (count + 1)

/-- The shortest decimal that reads back to the magnitude at `position`; zero
for the magnitude zero. -/
def shortest (tie : TieRule) (position : Nat) : Decimal :=
  if position = 0 then ⟨0, 0⟩
  else (shortestFrom tie position 17 1).getD ⟨0, 0⟩

end Number

end RuleTree
