/-!
Contract: the numbers of a rule tree, 64-bit binary floating point, as exact data.

A finite number is a sign and a position in the increasing list of the finite
magnitudes, so the next number up is the next position. `Number.units` gives the
magnitude back as a whole number of units of `2 ^ -1074`, the smallest positive
magnitude; every comparison and every rounding is arithmetic on those units.

Owns: the type, its exact value, equality, and the order of the finite numbers.
Does not own: rounding (`Number.Rounding`) or any written form.
-/

namespace RuleTree

/-- Zero and the positive finite magnitudes: 2047 exponents of `2 ^ 52` each. -/
def Number.magnitudes : Nat := 2047 * Nat.pow 2 52

inductive Number where
  | nan
  | infinite (negative : Bool)
  | finite (negative : Bool) (position : Fin Number.magnitudes)
deriving DecidableEq, Repr

namespace Number

/-- How many units make one. It has 324 digits, so nothing computes with it by
unfolding. -/
@[irreducible] def unitsPerOne : Nat := Nat.pow 2 1074

/-- The magnitude at a position, in units. It is defined at every position, so
the first magnitude out of range, `2 ^ 1024`, has a value as well. -/
def units (position : Nat) : Nat :=
  let perExponent := Nat.pow 2 52
  if position < perExponent then position
  else (perExponent + position % perExponent) * Nat.pow 2 (position / perExponent - 1)

def zero : Number := .finite false ⟨0, by decide⟩

instance : Inhabited Number := ⟨zero⟩

/-- The finite number at `position` of the given sign, or the infinity of that
sign when no magnitude stands there. -/
def ofPosition (negative : Bool) (position : Nat) : Number :=
  if inRange : position < magnitudes then .finite negative ⟨position, inRange⟩
  else .infinite negative

def isFinite : Number → Bool
  | .finite _ _ => true
  | _ => false

/-- The exact value of a finite number, in units. -/
def signedUnits (negative : Bool) (position : Nat) : Int :=
  if negative then -(units position : Int) else (units position : Int)

/-- Numeric equality: the two zeros are equal, and nothing equals NaN. -/
def equal : Number → Number → Bool
  | .infinite left, .infinite right => left == right
  | .finite left i, .finite right j => i == j && (left == right || i.val == 0)
  | _, _ => false

/-- The integer that a finite number equals, when it equals one. -/
def toInt? : Number → Option Int
  | .finite negative position =>
    if units position % unitsPerOne = 0 then
      let magnitude : Int := (units position / unitsPerOne : Nat)
      some (if negative then -magnitude else magnitude)
    else none
  | _ => none

/-- The largest integers are no longer written digit by digit: `10 ^ 15`. -/
def integerBound : Nat := Nat.pow 10 15

/-- The integer to write a number as, for the integral numbers below `10 ^ 15`. -/
def shortInteger? (number : Number) : Option Int :=
  number.toInt?.filter fun value => value.natAbs < integerBound

end Number

end RuleTree
