import RuleTree.Proofs.Number.Rounding

/-!
Contract: rounding gives the nearest finite number, ties to even.

The grid on which a value is rounded holds every magnitude of its spacing or of a wider one,
and the magnitudes of the finer spacings lie below the grid's least significand. So an
integer that is nearest on the grid is nearest among all magnitudes
(`nearestPosition_nearest`), which makes the rounded number the nearest one to the exact
value, whatever the signs (`nearest_ofUnits`). Integers below `2 ^ 1024 - 2 ^ 970` stay in
range (`nearest_ofInt`).

Owns: the exact value of a number and what it is to be nearest to one.
Does not own: values that are close to a magnitude (`Proofs.Number.Rounding`).
-/

namespace RuleTree

/-! ## The nearest integer -/

theorem roundHalfEven_le {numerator denominator bound : Nat}
    (below : numerator < bound * denominator) :
    roundHalfEven numerator denominator ≤ bound := by
  have quotient : numerator / denominator < bound := Nat.div_lt_of_lt_mul (Nat.mul_comm _ _ ▸ below)
  unfold roundHalfEven
  simp only
  split_ifs <;> omega

/-- A ratio is at most one half off the integer it is rounded to, and that integer is even
if it is one half. -/
theorem roundHalfEven_half {denominator : Nat} (positive : 0 < denominator) (numerator : Nat) :
    let rounded := roundHalfEven numerator denominator
    2 * (rounded * denominator) ≤ 2 * numerator + denominator ∧
      2 * numerator ≤ 2 * (rounded * denominator) + denominator ∧
      (2 * (rounded * denominator) = 2 * numerator + denominator ∨
        2 * numerator = 2 * (rounded * denominator) + denominator → rounded % 2 = 0) := by
  have parts : numerator / denominator * denominator + numerator % denominator = numerator :=
    Nat.div_add_mod' numerator denominator
  have remainder : numerator % denominator < denominator := Nat.mod_lt numerator positive
  unfold roundHalfEven
  generalize numerator / denominator = quotient at *
  generalize numerator % denominator = rest at *
  have next : (quotient + 1) * denominator = quotient * denominator + denominator :=
    Nat.succ_mul quotient denominator
  simp only
  split_ifs with low high
  · omega
  · rw [next]
    omega
  · rcases Nat.mod_two_eq_zero_or_one quotient with even | odd
    · rw [even, Nat.add_zero]
      omega
    · rw [odd, next]
      omega

/-- No integer is nearer to a ratio than the one it is rounded to, and where another one is
as near, that one is even. -/
theorem roundHalfEven_nearest {denominator : Nat} (positive : 0 < denominator)
    (numerator other : Nat) :
    let rounded := roundHalfEven numerator denominator
    let distance := fun product : Nat => ((numerator : ℤ) - product).natAbs
    distance (rounded * denominator) ≤ distance (other * denominator) ∧
      (distance (rounded * denominator) = distance (other * denominator) →
        other = rounded ∨ rounded % 2 = 0) := by
  intro rounded distance
  obtain ⟨above, below, tie⟩ := roundHalfEven_half positive numerator
  rcases Nat.lt_trichotomy other (roundHalfEven numerator denominator) with less | same | more
  · have apart : other * denominator + denominator ≤
        roundHalfEven numerator denominator * denominator := by
      rw [← Nat.succ_mul]
      exact Nat.mul_le_mul_right denominator less
    simp only [rounded, distance]
    omega
  · simp only [rounded, distance, same, le_refl, true_or, implies_true, and_self]
  · have apart : roundHalfEven numerator denominator * denominator + denominator ≤
        other * denominator := by
      rw [← Nat.succ_mul]
      exact Nat.mul_le_mul_right denominator more
    simp only [rounded, distance]
    omega

namespace Number

/-! ## The nearest magnitude -/

/-- On the grid of a spacing, a magnitude is its significand times the spacing, also at the
upper end, where the next grid starts. -/
theorem units_of_significand {spacing significand : Nat} (bounded : significand ≤ 2 ^ 53)
    (normal : spacing = 0 ∨ 2 ^ 52 ≤ significand) :
    units (spacing * 2 ^ 52 + significand) = significand * 2 ^ spacing := by
  unfold units
  simp only [Nat.pow_eq]
  split_ifs with small
  · obtain rfl : spacing = 0 := by omega
    simp
  · rcases Nat.lt_or_ge significand (2 ^ 53) with inside | atEnd
    · have remainder : (spacing * 2 ^ 52 + significand) % 2 ^ 52 = significand - 2 ^ 52 := by omega
      have quotient : (spacing * 2 ^ 52 + significand) / 2 ^ 52 - 1 = spacing := by omega
      rw [remainder, quotient, Nat.add_sub_of_le (by omega)]
    · obtain rfl : significand = 2 ^ 53 := by omega
      have remainder : (spacing * 2 ^ 52 + 2 ^ 53) % 2 ^ 52 = 0 := by omega
      have quotient : (spacing * 2 ^ 52 + 2 ^ 53) / 2 ^ 52 - 1 = spacing + 1 := by omega
      rw [remainder, quotient, Nat.pow_succ]
      omega

/-- Every ratio lies among the significands of one spacing, with those of the finer
spacings below it. -/
theorem exists_spacing {denominator : Nat} (positive : 0 < denominator) (numerator : Nat) :
    ∃ spacing, (spacing = 0 ∨ 2 ^ 52 * (denominator * 2 ^ spacing) ≤ numerator) ∧
      numerator < 2 ^ 53 * (denominator * 2 ^ spacing) ∧
      nearestPosition numerator denominator =
        spacing * 2 ^ 52 + roundHalfEven numerator (denominator * 2 ^ spacing) := by
  have whole := Nat.div_mul_le_self numerator denominator
  have beyond : numerator < (numerator / denominator + 1) * denominator :=
    Nat.lt_mul_of_div_lt (Nat.lt_succ_self _) positive
  refine ⟨Nat.log2 (numerator / denominator) - 52, ?_, ?_, rfl⟩
  · by_cases small : Nat.log2 (numerator / denominator) ≤ 52
    · exact .inl (Nat.sub_eq_zero_of_le small)
    · right
      have nonzero : numerator / denominator ≠ 0 := by
        intro zero
        rw [zero, Nat.log2_zero] at small
        omega
      calc 2 ^ 52 * (denominator * 2 ^ (Nat.log2 (numerator / denominator) - 52))
          = 2 ^ (52 + (Nat.log2 (numerator / denominator) - 52)) * denominator := by
            rw [Nat.pow_add]
            ring
        _ = 2 ^ Nat.log2 (numerator / denominator) * denominator := by
            rw [Nat.add_sub_of_le (by omega)]
        _ ≤ numerator / denominator * denominator :=
            Nat.mul_le_mul_right _ (Nat.log2_self_le nonzero)
        _ ≤ numerator := whole
  · calc numerator
        < (numerator / denominator + 1) * denominator := beyond
      _ ≤ 2 ^ (Nat.log2 (numerator / denominator) + 1) * denominator :=
          Nat.mul_le_mul_right _ Nat.lt_log2_self
      _ ≤ 2 ^ (53 + (Nat.log2 (numerator / denominator) - 52)) * denominator :=
          Nat.mul_le_mul_right _ (Nat.pow_le_pow_right (by decide) (by omega))
      _ = 2 ^ 53 * (denominator * 2 ^ (Nat.log2 (numerator / denominator) - 52)) := by
          rw [Nat.pow_add]
          ring

/-- No magnitude is nearer to a ratio than the one at the nearest position, and where one
of another value is as near, that position is even. -/
theorem nearestPosition_nearest {denominator : Nat} (positive : 0 < denominator)
    (numerator other : Nat) :
    let nearest := nearestPosition numerator denominator
    let distance := fun position => ((numerator : ℤ) - (units position * denominator : Nat)).natAbs
    distance nearest ≤ distance other ∧
      (distance nearest = distance other → units other = units nearest ∨ nearest % 2 = 0) := by
  obtain ⟨spacing, least, most, rounding⟩ := exists_spacing positive numerator
  obtain ⟨otherSpacing, otherSignificand, -, otherUnits, otherBounded, -⟩ :=
    exists_significand other
  have stepPositive : 0 < denominator * 2 ^ spacing := by positivity
  have onGrid := roundHalfEven_nearest stepPositive numerator
  have bounded := roundHalfEven_le most
  have normal : spacing = 0 ∨ 2 ^ 52 ≤ roundHalfEven numerator (denominator * 2 ^ spacing) := by
    refine least.imp_right fun least => ?_
    exact le_trans ((Nat.le_div_iff_mul_le stepPositive).2 least) (div_le_roundHalfEven _ _)
  have value := units_of_significand bounded normal
  rw [← rounding] at value
  have parity : nearestPosition numerator denominator % 2 =
      roundHalfEven numerator (denominator * 2 ^ spacing) % 2 := by
    rw [rounding]
    omega
  generalize roundHalfEven numerator (denominator * 2 ^ spacing) = rounded at *
  generalize nearestPosition numerator denominator = nearest at *
  have gridValue : ∀ significand, significand * 2 ^ spacing * denominator =
      significand * (denominator * 2 ^ spacing) := fun significand => by ring
  simp only [value, otherUnits, gridValue, parity]
  rcases Nat.lt_or_ge otherSpacing spacing with finer | coarser
  · -- The magnitudes of finer spacings lie below the grid's least significand.
    have floor := least.resolve_left (by omega)
    have gap : otherSignificand * 2 ^ otherSpacing * denominator <
        2 ^ 52 * (denominator * 2 ^ spacing) := by
      obtain ⟨extra, rfl⟩ := Nat.exists_eq_add_of_lt finer
      calc otherSignificand * 2 ^ otherSpacing * denominator
          < 2 ^ 53 * 2 ^ otherSpacing * denominator := by gcongr
        _ = 2 ^ 52 * (denominator * 2 ^ (otherSpacing + 1)) := by ring
        _ ≤ 2 ^ 52 * (denominator * 2 ^ (otherSpacing + extra + 1)) := by
          gcongr <;> omega
    have := onGrid (2 ^ 52)
    simp only at this
    omega
  · -- The magnitudes of this spacing and of coarser ones are on the grid.
    obtain ⟨extra, rfl⟩ := Nat.exists_eq_add_of_le coarser
    have onIt : otherSignificand * 2 ^ (spacing + extra) =
        otherSignificand * 2 ^ extra * 2 ^ spacing := by ring
    rw [onIt, gridValue]
    obtain ⟨near, tie⟩ := onGrid (otherSignificand * 2 ^ extra)
    refine ⟨near, fun same => ?_⟩
    exact (tie same).imp_left fun same => by rw [same]

/-! ## The nearest number -/

/-- A magnitude with a sign. -/
def signed (negative : Bool) (magnitude : Nat) : ℤ :=
  if negative then -magnitude else magnitude

theorem signed_mul (negative : Bool) (magnitude factor : Nat) :
    signed negative magnitude * factor = signed negative (magnitude * factor) := by
  cases negative
  · exact (Int.natCast_mul magnitude factor).symm
  · exact (Int.neg_mul _ _).trans (congrArg Neg.neg (Int.natCast_mul magnitude factor).symm)

theorem natAbs_signed (negative : Bool) (magnitude : Nat) :
    (signed negative magnitude).natAbs = magnitude := by
  cases negative
  · exact Int.natAbs_natCast magnitude
  · exact (Int.natAbs_neg _).trans (Int.natAbs_natCast magnitude)

/-- An integer is its magnitude with its sign. -/
theorem signed_natAbs (value : ℤ) : signed (decide (value < 0)) value.natAbs = value := by
  unfold signed
  split_ifs with negative
  · have below : value < 0 := of_decide_eq_true negative
    omega
  · have above : ¬ value < 0 := by simpa using negative
    omega

theorem signed_zero (negative : Bool) : signed negative 0 = 0 := by cases negative <;> rfl

/-- The exact value of a finite number. -/
def rational? : Number → Option ℚ
  | .finite negative position => some (signedUnits negative position / unitsPerOne)
  | _ => none

theorem rational?_finite (negative : Bool) (position : Fin magnitudes) :
    rational? (.finite negative position) =
      some (signed negative (units position) / unitsPerOne : ℚ) :=
  rfl

/-- Whether the last bit of the significand is zero. -/
def IsEven : Number → Prop
  | .finite _ position => position.val % 2 = 0
  | _ => False

/-- The finite number `number` is nearest to an exact value: no other finite number is
nearer, and where one of another value is as near, `number` is the even one. -/
def Nearest (exact : ℚ) (number : Number) : Prop :=
  ∃ value, number.rational? = some value ∧ ∀ other otherValue, rational? other = some otherValue →
    |exact - value| ≤ |exact - otherValue| ∧
      (|exact - value| = |exact - otherValue| → otherValue = value ∨ number.IsEven)

/-- A finite number is nearest to its own value. -/
theorem nearest_self {number : Number} {value : ℚ} (exact : number.rational? = some value) :
    Nearest value number := by
  refine ⟨value, exact, fun other otherValue _ => ?_⟩
  rw [sub_self, abs_zero]
  refine ⟨abs_nonneg _, fun same => .inl ?_⟩
  exact (sub_eq_zero.1 (abs_eq_zero.1 same.symm)).symm

/-- How far two signed magnitudes are apart. -/
def distance (negative : Bool) (magnitude : Nat) (otherNegative : Bool) (other : Nat) : Nat :=
  (signed negative magnitude - signed otherNegative other).natAbs

theorem distance_same_sign (negative : Bool) (magnitude other : Nat) :
    distance negative magnitude negative other = ((magnitude : ℤ) - other).natAbs := by
  cases negative with
  | false => rfl
  | true =>
    simp only [distance, signed, if_true]
    omega

theorem distance_opposite_sign {negative otherNegative : Bool} (opposite : otherNegative ≠ negative)
    (magnitude other : Nat) :
    distance negative magnitude otherNegative other = magnitude + other := by
  obtain rfl : otherNegative = !negative := Bool.eq_not_of_ne opposite
  cases negative <;>
    simp only [distance, signed, Bool.not_true, Bool.not_false, if_true, Bool.false_eq_true,
      if_false] <;> omega

section OfUnits

variable {exact : ℚ} {negative : Bool} {numerator denominator : Nat} (positive : 0 < denominator)
  (ratio : exact * (unitsPerOne * denominator) = (signed negative numerator : ℤ))

include positive ratio

/-- The distance of a number from a ratio of units is a whole number of parts. -/
theorem abs_sub_eq_distance {sign : Bool} {position : Fin magnitudes} {value : ℚ}
    (here : rational? (.finite sign position) = some value) :
    |exact - value| * (unitsPerOne * denominator) =
      distance negative numerator sign (units position * denominator) := by
  obtain rfl : (signed sign (units position) : ℚ) / unitsPerOne = value := Option.some.inj here
  have oneNonzero := cast_unitsPerOne_pos.ne'
  have scaled : (signed sign (units position) : ℚ) / unitsPerOne * (unitsPerOne * denominator) =
      (signed sign (units position * denominator) : ℤ) := by
    rw [← mul_assoc, div_mul_cancel₀ _ oneNonzero, ← signed_mul]
    push_cast
    rfl
  have scale : (0 : ℚ) ≤ unitsPerOne * denominator := by positivity
  calc |exact - signed sign (units position) / unitsPerOne| * (unitsPerOne * denominator)
      = |(exact - signed sign (units position) / unitsPerOne) * (unitsPerOne * denominator)| := by
        rw [abs_mul, abs_of_nonneg scale]
    _ = |((signed negative numerator - signed sign (units position * denominator) : ℤ) : ℚ)| := by
        rw [sub_mul, ratio, scaled, Int.cast_sub]
    _ = distance negative numerator sign (units position * denominator) := by
        rw [distance, Nat.cast_natAbs, Int.cast_abs]

/-- The number that a ratio of units is rounded to is nearest to it, if it is in range. -/
theorem nearest_ofUnits (inRange : nearestPosition numerator denominator < magnitudes) :
    Nearest exact (ofUnits negative numerator denominator) := by
  have scale : (0 : ℚ) < unitsPerOne * denominator := by
    have := unitsPerOne_pos
    positivity
  rw [ofUnits, ofPosition, dif_pos inRange]
  refine ⟨signed negative (units (nearestPosition numerator denominator)) / unitsPerOne, rfl,
    fun other otherValue there => ?_⟩
  have here := abs_sub_eq_distance positive ratio
    (rational?_finite negative ⟨nearestPosition numerator denominator, inRange⟩)
  dsimp only at here
  cases other with
  | finite sign position =>
    have away := abs_sub_eq_distance positive ratio there
    rw [rational?_finite, Option.some.injEq] at there
    obtain ⟨near, tie⟩ := nearestPosition_nearest positive numerator position
    simp only at near tie
    rw [← mul_le_mul_iff_left₀ scale, ← mul_left_inj' scale.ne', here, away, Nat.cast_le,
      Nat.cast_inj, distance_same_sign]
    by_cases same : sign = negative
    · subst same
      rw [distance_same_sign]
      refine ⟨near, fun tied => (tie tied).imp_left fun sameUnits => ?_⟩
      rw [← there, sameUnits]
    · rw [distance_opposite_sign same]
      refine ⟨by omega, fun tied => (tie (by omega)).imp_left fun sameUnits => ?_⟩
      -- A number of the other sign and of the same magnitude is as near only if it is zero.
      have toZero := (nearestPosition_nearest positive numerator 0).1
      simp only at toZero
      rw [units_zero, Nat.zero_mul] at toZero
      rw [sameUnits] at tied
      have isZero : units (nearestPosition numerator denominator) = 0 := by
        have : units (nearestPosition numerator denominator) * denominator = 0 := by omega
        exact (Nat.mul_eq_zero.1 this).resolve_right positive.ne'
      rw [← there, sameUnits, isZero, signed_zero, signed_zero]
  | _ => cases there

end OfUnits

/-! ## Integers -/

/-- Half the distance between the largest finite magnitudes, which are `2 ^ 971` apart. It has
292 digits, so nothing computes with it by unfolding. -/
@[irreducible] def halfSpacing : Nat := Nat.pow 2 970

theorem halfSpacing_pos : 0 < halfSpacing := by
  unfold halfSpacing
  simp only [Nat.pow_eq]
  positivity

/-- The middle between the largest finite magnitude and `2 ^ 1024`: integers from there on
are rounded to an infinity. -/
def rangeEnd : Nat := (2 ^ 54 - 1) * halfSpacing

theorem pow_spacing_eq (extra : Nat) :
    2 ^ (970 + (1074 + extra)) = halfSpacing * (unitsPerOne * 2 ^ extra) := by
  have split : ∀ half one, 2 ^ (half + (one + extra)) = 2 ^ half * (2 ^ one * 2 ^ extra) :=
    fun half one => by rw [Nat.pow_add, Nat.pow_add]
  rw [split]
  unfold halfSpacing unitsPerOne
  simp only [Nat.pow_eq]

theorem units_of_magnitudes_le {position : Nat} (beyond : magnitudes ≤ position) :
    2 ^ 54 * (halfSpacing * unitsPerOne) ≤ units position := by
  obtain ⟨spacing, significand, rfl, value, bounded, normal⟩ := exists_significand position
  simp only [magnitudes, Nat.pow_eq] at beyond
  have least : 2 ^ 52 ≤ significand := normal.resolve_left (by omega)
  obtain ⟨extra, wide⟩ := Nat.exists_eq_add_of_le (show 2046 ≤ spacing by omega)
  have spacingIs : spacing = 970 + (1074 + (2 + extra)) := by omega
  rw [value, spacingIs, pow_spacing_eq, Nat.pow_add, ← Nat.mul_assoc halfSpacing]
  generalize halfSpacing * unitsPerOne = half
  calc 2 ^ 54 * half
      = 2 ^ 52 * (half * (2 ^ 2 * 1)) := by omega
    _ ≤ significand * (half * (2 ^ 2 * 2 ^ extra)) := by
      gcongr
      exact Nat.one_le_two_pow

/-- The largest finite magnitude. -/
theorem units_largest : units (magnitudes - 1) = (2 ^ 54 - 2) * (halfSpacing * unitsPerOne) := by
  have largest : magnitudes - 1 = 2045 * 2 ^ 52 + (2 ^ 53 - 1) := by decide
  have spacingIs : 2045 = 970 + (1074 + 1) := rfl
  rw [largest, units_of_significand (by omega) (by omega), spacingIs, pow_spacing_eq,
    ← Nat.mul_assoc halfSpacing]
  omega

/-- Ratios below the end of the range are rounded to a position in range. -/
theorem nearestPosition_lt_magnitudes {numerator denominator : Nat} (positive : 0 < denominator)
    (small : numerator < rangeEnd * unitsPerOne * denominator) :
    nearestPosition numerator denominator < magnitudes := by
  by_contra outside
  have beyond := Nat.mul_le_mul_right denominator (units_of_magnitudes_le (not_lt.1 outside))
  have nearer := (nearestPosition_nearest positive numerator (magnitudes - 1)).1
  simp only [units_largest] at nearer
  rw [rangeEnd, Nat.mul_assoc _ halfSpacing, Nat.mul_assoc] at small
  rw [Nat.mul_assoc] at beyond nearer
  generalize halfSpacing * unitsPerOne * denominator = half at *
  omega

/-- An integer in range is converted to the nearest finite number. -/
theorem nearest_ofInt {value : ℤ} (small : value.natAbs < rangeEnd) :
    Nearest value (ofInt value) := by
  have below : value.natAbs * unitsPerOne < rangeEnd * unitsPerOne * 1 := by
    rw [Nat.mul_one]
    exact Nat.mul_lt_mul_of_pos_right small unitsPerOne_pos
  refine nearest_ofUnits Nat.one_pos ?_ (nearestPosition_lt_magnitudes Nat.one_pos below)
  rw [← signed_mul, signed_natAbs]
  push_cast
  ring

end Number

end RuleTree
