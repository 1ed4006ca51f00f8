import RuleTree.Number.Basic

/-!
Contract: the nearest number to an exact value, ties to the even position.

`Number.nearestPosition` rounds a ratio of units. Everything else reduces to it:
integers, decimals `digits * 10 ^ exponent`, and the sum of two numbers.

A position is even exactly when the last bit of the significand is zero, so the
usual rule "ties to even" is a rule about positions.
-/

namespace RuleTree

/-- The integer nearest to `numerator / denominator`, a half going to the even
neighbour. -/
def roundHalfEven (numerator denominator : Nat) : Nat :=
  let quotient := numerator / denominator
  let twice := 2 * (numerator % denominator)
  if twice < denominator then quotient
  else if denominator < twice then quotient + 1
  else quotient + quotient % 2

namespace Number

/-- The position nearest to `numerator / denominator` units.

Between `2 ^ (52 + k)` and `2 ^ (53 + k)` units the magnitudes are the multiples
of `2 ^ k`, and the position of `q * 2 ^ k` is `k * 2 ^ 52 + q`. Values from the
middle above the largest magnitude on get a position out of range. -/
def nearestPosition (numerator denominator : Nat) : Nat :=
  let spacing := Nat.log2 (numerator / denominator) - 52
  spacing * Nat.pow 2 52 + roundHalfEven numerator (denominator * Nat.pow 2 spacing)

/-- The nearest number to `± numerator / denominator` units. -/
def ofUnits
    (negative : Bool)
    (numerator denominator : Nat) : Number :=
  ofPosition negative (nearestPosition numerator denominator)

def ofInt (value : Int) : Number :=
  ofUnits (decide (value < 0)) (value.natAbs * unitsPerOne) 1

/-- The position nearest to `digits * 10 ^ exponent`. -/
def decimalPosition (digits : Nat) (exponent : Int) : Nat :=
  match exponent with
  | .ofNat up => nearestPosition (digits * Nat.pow 10 up * unitsPerOne) 1
  | .negSucc down => nearestPosition (digits * unitsPerOne) (Nat.pow 10 (down + 1))

/-- The nearest number to `± digits * 10 ^ exponent`.

The value has at most `length` digits before its exponent, so beyond `10 ^ 310`
it is an infinity and below `10 ^ -330` a zero whatever the digits are; those
cases are answered without forming the power. -/
def ofDecimal
    (negative : Bool)
    (digits : Nat)
    (exponent : Int) : Number :=
  if digits = 0 then ofPosition negative 0
  else
    let length := (Nat.toDigits 10 digits).length
    if exponent + length < -330 then ofPosition negative 0
    else if 310 < exponent + length then .infinite negative
    else ofPosition negative (decimalPosition digits exponent)

/-- The sum, rounded once. Opposite infinities have none, and an exact zero sum
is negative only when both terms are. -/
def add : Number → Number → Number
  | .nan, _ => .nan
  | _, .nan => .nan
  | .infinite left, .infinite right => if left = right then .infinite left else .nan
  | .infinite left, .finite _ _ => .infinite left
  | .finite _ _, .infinite right => .infinite right
  | .finite left i, .finite right j =>
    let total := signedUnits left i + signedUnits right j
    let negative := if total = 0 then left && right else decide (total < 0)
    ofUnits negative total.natAbs 1

end Number

end RuleTree
