import Mathlib.Algebra.Order.Field.Power
import Mathlib.Data.Rat.Cast.Order
import Mathlib.Tactic.FieldSimp
import Mathlib.Tactic.Linarith
import Mathlib.Tactic.Positivity
import Mathlib.Tactic.Ring
import RuleTree.Number.Rounding

/-!
Contract: what rounding to a position does with values near a magnitude.

A value that is off a magnitude by less than one part in `2 ^ 54` is rounded to it
(`nearestPosition_of_close`): half the distance to either neighbour is at least that.
Rounding depends on the ratio alone (`nearestPosition_congr`), and reading a decimal is
rounding its exact value, the answers that are given without forming a power of ten
included (`ofDecimal_eq`).

Owns: rounding near magnitudes, and the exact value of a decimal.
Does not own: which decimal is near a magnitude (`Proofs.Number.Shortest`).
-/

namespace RuleTree

/-! ## Rounding to an integer -/

theorem roundHalfEven_mul_left {factor : Nat} (positive : 0 < factor)
    (numerator denominator : Nat) :
    roundHalfEven (factor * numerator) (factor * denominator) =
      roundHalfEven numerator denominator := by
  unfold roundHalfEven
  rw [Nat.mul_div_mul_left _ _ positive, Nat.mul_mod_mul_left, Nat.mul_left_comm 2 factor]
  simp only [Nat.mul_lt_mul_left positive]

theorem div_le_roundHalfEven (numerator denominator : Nat) :
    numerator / denominator ≤ roundHalfEven numerator denominator := by
  unfold roundHalfEven
  simp only
  split_ifs <;> omega

/-- A ratio that is less than one half off an integer is rounded to it. -/
theorem roundHalfEven_of_close {numerator denominator nearest : Nat}
    (above : 2 * numerator < 2 * (nearest * denominator) + denominator)
    (below : 2 * (nearest * denominator) < 2 * numerator + denominator) :
    roundHalfEven numerator denominator = nearest := by
  have positive : 0 < denominator := by
    rcases Nat.eq_zero_or_pos denominator with rfl | positive
    · simp at above below
    · exact positive
  have parts := Nat.div_add_mod numerator denominator
  have remainder := Nat.mod_lt numerator positive
  unfold roundHalfEven
  generalize numerator / denominator = quotient at *
  generalize numerator % denominator = rest at *
  have least : quotient ≤ nearest := by
    by_contra beyond
    nlinarith
  have most : nearest ≤ quotient + 1 := by
    by_contra beyond
    nlinarith
  -- The nearest integer is the quotient or the next one; on either side the remainder is
  -- strictly in the half that leads to it.
  obtain rfl | rfl : nearest = quotient ∨ nearest = quotient + 1 := by omega
  · have lowHalf : 2 * rest < denominator := by nlinarith
    rw [if_pos lowHalf]
  · have highHalf : denominator < 2 * rest := by nlinarith
    rw [if_neg (by omega), if_pos highHalf]

namespace Number

/-! ## Magnitudes and their spacing -/

theorem unitsPerOne_pos : 0 < unitsPerOne := by
  unfold unitsPerOne
  simp only [Nat.pow_eq]
  positivity

theorem cast_unitsPerOne_pos : (0 : ℚ) < unitsPerOne := by
  exact_mod_cast unitsPerOne_pos

/-- Every magnitude is a significand below `2 ^ 53` times a spacing, and above the
smallest spacing the significand is at least `2 ^ 52`. -/
theorem exists_significand (position : Nat) :
    ∃ spacing significand, position = spacing * 2 ^ 52 + significand ∧
      units position = significand * 2 ^ spacing ∧ significand < 2 ^ 53 ∧
      (spacing = 0 ∨ 2 ^ 52 ≤ significand) := by
  by_cases small : position < 2 ^ 52
  · refine ⟨0, position, by omega, ?_, by omega, .inl rfl⟩
    simp only [units, Nat.pow_eq, if_pos small, Nat.pow_zero, Nat.mul_one]
  · refine ⟨position / 2 ^ 52 - 1, 2 ^ 52 + position % 2 ^ 52, by omega, ?_, by omega,
      .inr (by omega)⟩
    simp only [units, Nat.pow_eq, if_neg small]

theorem units_eq_zero {position : Nat} : units position = 0 ↔ position = 0 := by
  obtain ⟨spacing, significand, rfl, value, -, normal⟩ := exists_significand position
  rw [value, Nat.mul_eq_zero]
  have : (2 : Nat) ^ spacing ≠ 0 := by positivity
  omega

@[simp] theorem units_zero : units 0 = 0 := units_eq_zero.2 rfl

/-- The spacing that belongs to the whole part of a value. -/
theorem log2_sub_eq {whole spacing : Nat} (least : spacing = 0 ∨ 2 ^ (52 + spacing) ≤ whole)
    (most : whole < 2 ^ (53 + spacing)) : Nat.log2 whole - 52 = spacing := by
  rcases Nat.eq_zero_or_pos whole with rfl | positive
  · rcases least with rfl | least
    · rfl
    · have : 0 < 2 ^ (52 + spacing) := by positivity
      omega
  have upper : Nat.log2 whole < 53 + spacing := (Nat.log2_lt positive.ne').2 most
  rcases least with rfl | least
  · omega
  · have lower : 52 + spacing ≤ Nat.log2 whole := (Nat.le_log2 positive.ne').2 least
    omega

/-- Rounding on the grid of the spacing that the value lies in. -/
theorem nearestPosition_of_spacing {numerator denominator spacing : Nat}
    (positive : 0 < denominator)
    (least : spacing = 0 ∨ 2 ^ (52 + spacing) * denominator ≤ numerator)
    (most : numerator < 2 ^ (53 + spacing) * denominator) :
    nearestPosition numerator denominator =
      spacing * 2 ^ 52 + roundHalfEven numerator (denominator * 2 ^ spacing) := by
  have wholeLeast : spacing = 0 ∨ 2 ^ (52 + spacing) ≤ numerator / denominator :=
    least.imp_right (Nat.le_div_iff_mul_le positive).2
  have wholeMost : numerator / denominator < 2 ^ (53 + spacing) :=
    (Nat.div_lt_iff_lt_mul positive).2 most
  simp only [nearestPosition, log2_sub_eq wholeLeast wholeMost, Nat.pow_eq]

/-! ## Rounding to a position -/

theorem nearestPosition_mul_left {factor : Nat} (positive : 0 < factor)
    (numerator denominator : Nat) :
    nearestPosition (factor * numerator) (factor * denominator) =
      nearestPosition numerator denominator := by
  unfold nearestPosition
  simp only [Nat.mul_div_mul_left _ _ positive, Nat.mul_assoc factor,
    roundHalfEven_mul_left positive]

/-- Rounding depends on the ratio alone. -/
theorem nearestPosition_congr {numerator denominator numerator' denominator' : Nat}
    (positive : 0 < denominator) (positive' : 0 < denominator')
    (same : numerator * denominator' = numerator' * denominator) :
    nearestPosition numerator denominator = nearestPosition numerator' denominator' :=
  calc nearestPosition numerator denominator
      = nearestPosition (denominator' * numerator) (denominator' * denominator) :=
        (nearestPosition_mul_left positive' _ _).symm
    _ = nearestPosition (denominator * numerator') (denominator * denominator') := by
        rw [Nat.mul_comm denominator' numerator, same, Nat.mul_comm numerator',
          Nat.mul_comm denominator']
    _ = nearestPosition numerator' denominator' := nearestPosition_mul_left positive _ _

/-- A value that is off a magnitude by less than one part in `2 ^ 54` is rounded to it. -/
theorem nearestPosition_of_close {numerator denominator position : Nat}
    (above : numerator * 2 ^ 54 < units position * denominator * (2 ^ 54 + 1))
    (below : units position * denominator * (2 ^ 54 - 1) < numerator * 2 ^ 54) :
    nearestPosition numerator denominator = position := by
  have positive : 0 < denominator := by
    rcases Nat.eq_zero_or_pos denominator with rfl | positive
    · simp at above
    · exact positive
  obtain ⟨spacing, significand, rfl, value, bounded, normal⟩ := exists_significand position
  -- `step` is the spacing, and `centre` the magnitude, in parts of the denominator.
  set step := denominator * 2 ^ spacing with stepIs
  have centre : units (spacing * 2 ^ 52 + significand) * denominator = significand * step := by
    rw [value, stepIs]
    ring
  rw [centre] at above below
  have centreBounded : significand * step + step ≤ 2 ^ 53 * step := by nlinarith
  have ceiling : 2 ^ (53 + spacing) * denominator = 2 ^ 53 * step := by
    rw [stepIs]
    ring
  by_cases inside : spacing = 0 ∨ 2 ^ 52 * step ≤ numerator
  · have least : spacing = 0 ∨ 2 ^ (52 + spacing) * denominator ≤ numerator := by
      refine inside.imp_right fun least => le_of_eq_of_le ?_ least
      rw [stepIs]
      ring
    have rounded : roundHalfEven numerator step = significand :=
      roundHalfEven_of_close (by omega) (by omega)
    rw [nearestPosition_of_spacing positive least (by omega), ← stepIs, rounded]
  · -- Only the least significand of a spacing has values next to it that lie in the
    -- spacing below, and there the magnitude is `2 ^ 53` steps.
    obtain ⟨spacingPositive, outside⟩ := not_or.1 inside
    have leastNormal : 2 ^ 52 ≤ significand := normal.resolve_left spacingPositive
    have leastSignificand : significand = 2 ^ 52 := by
      by_contra different
      have : (2 ^ 52 + 1) * step ≤ significand * step :=
        Nat.mul_le_mul_right step (by omega)
      omega
    subst leastSignificand
    obtain ⟨finer, rfl⟩ := Nat.exists_eq_succ_of_ne_zero spacingPositive
    set fineStep := denominator * 2 ^ finer with fineStepIs
    have halved : step = 2 * fineStep := by
      rw [stepIs, fineStepIs, Nat.pow_succ]
      ring
    have fineFloor : 2 ^ (52 + finer) * denominator = 2 ^ 52 * fineStep := by
      rw [fineStepIs]
      ring
    have fineCeiling : 2 ^ (53 + finer) * denominator = 2 ^ 53 * fineStep := by
      rw [fineStepIs]
      ring
    have floor : finer = 0 ∨ 2 ^ (52 + finer) * denominator ≤ numerator := .inr (by omega)
    have rounded : roundHalfEven numerator fineStep = 2 ^ 53 :=
      roundHalfEven_of_close (by omega) (by omega)
    rw [nearestPosition_of_spacing positive floor (by omega), ← fineStepIs, rounded]
    omega

/-- A value below half of the smallest magnitude is rounded to zero. -/
theorem nearestPosition_eq_zero {numerator denominator : Nat}
    (small : 2 * numerator < denominator) : nearestPosition numerator denominator = 0 := by
  have most : numerator < 2 ^ (53 + 0) * denominator := by omega
  have rounded : roundHalfEven numerator denominator = 0 :=
    roundHalfEven_of_close (by omega) (by omega)
  rw [nearestPosition_of_spacing (by omega) (.inl rfl) most, Nat.pow_zero, Nat.mul_one, rounded,
    Nat.zero_mul]

/-- A magnitude is rounded to itself. -/
theorem nearestPosition_units (position : Nat) : nearestPosition (units position) 1 = position := by
  rcases Nat.eq_zero_or_pos (units position) with zero | positive
  · rw [zero, nearestPosition_eq_zero (by decide), units_eq_zero.1 zero]
  · exact nearestPosition_of_close (by omega) (by omega)

/-- From `2 ^ 1024` on the position is out of range. -/
theorem magnitudes_le_nearestPosition {numerator denominator : Nat} (positive : 0 < denominator)
    (large : 2 ^ 1024 * unitsPerOne * denominator ≤ numerator) :
    magnitudes ≤ nearestPosition numerator denominator := by
  -- The exponent of the unit is named, since powers as large are not to be evaluated.
  obtain ⟨low, unit⟩ : ∃ low, low = 1074 := ⟨_, rfl⟩
  have bound : 2 ^ 1024 * unitsPerOne = 2 ^ (1024 + low) := by
    unfold unitsPerOne
    rw [← unit, Nat.pow_add, Nat.pow_eq]
  have whole : 2 ^ (1024 + low) ≤ numerator / denominator :=
    bound ▸ (Nat.le_div_iff_mul_le positive).2 large
  have wholePositive : numerator / denominator ≠ 0 :=
    (lt_of_lt_of_le (by positivity) whole).ne'
  have exponent : 1024 + low ≤ Nat.log2 (numerator / denominator) :=
    (Nat.le_log2 wholePositive).2 whole
  obtain ⟨spacing, spacingIs⟩ : ∃ spacing, Nat.log2 (numerator / denominator) = 52 + spacing :=
    Nat.exists_eq_add_of_le (by omega)
  have significand : 2 ^ 52 ≤ roundHalfEven numerator (denominator * 2 ^ spacing) := by
    refine le_trans ?_ (div_le_roundHalfEven _ _)
    rw [Nat.le_div_iff_mul_le (by positivity)]
    calc 2 ^ 52 * (denominator * 2 ^ spacing)
        = 2 ^ (52 + spacing) * denominator := by ring
      _ ≤ numerator / denominator * denominator :=
        Nat.mul_le_mul_right _ (spacingIs ▸ Nat.log2_self_le wholePositive)
      _ ≤ numerator := Nat.div_mul_le_self _ _
  simp only [nearestPosition, spacingIs, Nat.add_sub_cancel_left, magnitudes, Nat.pow_eq]
  have : 2046 ≤ spacing := by omega
  omega

/-! ## Decimals -/

/-- The exact value of a decimal, in units. -/
def decimalUnits (digits : Nat) (exponent : Int) : ℚ :=
  digits * 10 ^ exponent * unitsPerOne

/-- Rounding a decimal is rounding a ratio of that value. -/
theorem exists_ratio (digits : Nat) (exponent : Int) :
    ∃ numerator denominator, 0 < denominator ∧
      decimalPosition digits exponent = nearestPosition numerator denominator ∧
      (numerator : ℚ) = decimalUnits digits exponent * denominator := by
  cases exponent with
  | ofNat up =>
    refine ⟨digits * 10 ^ up * unitsPerOne, 1, Nat.one_pos, rfl, ?_⟩
    rw [decimalUnits, Int.ofNat_eq_natCast, zpow_natCast]
    push_cast
    ring
  | negSucc down =>
    refine ⟨digits * unitsPerOne, 10 ^ (down + 1), by positivity, rfl, ?_⟩
    rw [decimalUnits, zpow_negSucc]
    push_cast
    field_simp

theorem decimalPosition_integer (digits : Nat) :
    decimalPosition digits 0 = nearestPosition (digits * unitsPerOne) 1 := by
  change nearestPosition (digits * 1 * unitsPerOne) 1 = _
  rw [Nat.mul_one]

theorem decimalPosition_congr {digits digits' : Nat} {exponent exponent' : Int}
    (same : decimalUnits digits exponent = decimalUnits digits' exponent') :
    decimalPosition digits exponent = decimalPosition digits' exponent' := by
  obtain ⟨numerator, denominator, positive, nearest, ratio⟩ := exists_ratio digits exponent
  obtain ⟨numerator', denominator', positive', nearest', ratio'⟩ := exists_ratio digits' exponent'
  rw [nearest, nearest']
  apply nearestPosition_congr positive positive'
  have cross : (numerator : ℚ) * denominator' = numerator' * denominator := by
    rw [ratio, ratio', same]
    ring
  exact_mod_cast cross

/-- A decimal that is off a magnitude by less than one part in `2 ^ 54` is read as it. -/
theorem decimalPosition_of_close {digits position : Nat} {exponent : Int}
    (close : |decimalUnits digits exponent - units position| * 2 ^ 54 < units position) :
    decimalPosition digits exponent = position := by
  obtain ⟨numerator, denominator, positive, nearest, ratio⟩ := exists_ratio digits exponent
  have scale : (0 : ℚ) < denominator := by exact_mod_cast positive
  rw [← lt_div_iff₀ (by positivity), abs_lt] at close
  obtain ⟨below, above⟩ := close
  have most : (numerator : ℚ) * 2 ^ 54 < units position * denominator * (2 ^ 54 + 1) := by
    rw [ratio]
    nlinarith
  have least :
      (units position : ℚ) * denominator * (2 ^ 54 - 1 : Nat) < numerator * 2 ^ 54 := by
    rw [ratio]
    norm_num
    nlinarith
  rw [nearest]
  apply nearestPosition_of_close
  · exact_mod_cast most
  · exact_mod_cast least

/-- A decimal below `10 ^ -331`, which is less than half of the smallest magnitude, is read
as zero. -/
theorem decimalPosition_eq_zero {digits : Nat} {exponent : Int}
    (small : (digits : ℚ) * 10 ^ exponent < (10 ^ 331)⁻¹) :
    decimalPosition digits exponent = 0 := by
  obtain ⟨numerator, denominator, positive, nearest, ratio⟩ := exists_ratio digits exponent
  have half : 2 * unitsPerOne ≤ 10 ^ 331 := by decide +kernel
  have halfUnits : 2 * (unitsPerOne : ℚ) ≤ 10 ^ 331 := by exact_mod_cast half
  have scale : (0 : ℚ) < denominator := by exact_mod_cast positive
  have onePositive := cast_unitsPerOne_pos
  have belowHalf : 2 * (numerator : ℚ) < denominator :=
    calc 2 * (numerator : ℚ)
        = digits * 10 ^ exponent * (2 * unitsPerOne * denominator) := by
          rw [ratio, decimalUnits]
          ring
      _ < (10 ^ 331)⁻¹ * (2 * unitsPerOne * denominator) := by gcongr
      _ ≤ (10 ^ 331)⁻¹ * (10 ^ 331 * denominator) := by gcongr
      _ = denominator := inv_mul_cancel_left₀ (by positivity) _
  rw [nearest]
  apply nearestPosition_eq_zero
  exact_mod_cast belowHalf

theorem magnitudes_le_decimalPosition {digits : Nat} {exponent : Int}
    (large : 2 ^ 1024 ≤ (digits : ℚ) * 10 ^ exponent) :
    magnitudes ≤ decimalPosition digits exponent := by
  obtain ⟨numerator, denominator, positive, nearest, ratio⟩ := exists_ratio digits exponent
  have beyond : 2 ^ 1024 * (unitsPerOne : ℚ) * denominator ≤ numerator := by
    rw [ratio, decimalUnits]
    gcongr
  rw [nearest]
  apply magnitudes_le_nearestPosition positive
  exact_mod_cast beyond

/-! ## Reading a decimal -/

theorem lt_ten_pow_length (digits : Nat) : digits < 10 ^ (Nat.toDigits 10 digits).length :=
  (Nat.length_toDigits_le_iff (by decide) Nat.length_toDigits_pos).1 le_rfl

theorem ten_pow_length_le {digits : Nat} (nonzero : digits ≠ 0) :
    10 ^ ((Nat.toDigits 10 digits).length - 1) ≤ digits := by
  by_contra below
  rcases Nat.eq_zero_or_pos ((Nat.toDigits 10 digits).length - 1) with single | several
  · rw [single] at below
    omega
  · have := (Nat.length_toDigits_le_iff (by decide) several).2 (not_le.1 below)
    omega

/-- The length of its digits bounds a decimal from above. -/
theorem decimal_lt_ten_zpow (digits : Nat) (exponent : Int) :
    (digits : ℚ) * 10 ^ exponent < 10 ^ (exponent + (Nat.toDigits 10 digits).length) := by
  have bound : (digits : ℚ) < 10 ^ (Nat.toDigits 10 digits).length := by
    exact_mod_cast lt_ten_pow_length digits
  rw [zpow_add₀ (by norm_num), zpow_natCast, mul_comm]
  gcongr

/-- It bounds a decimal that is not zero from below. -/
theorem ten_zpow_le_decimal {digits : Nat} (nonzero : digits ≠ 0) (exponent : Int) :
    10 ^ (exponent + ((Nat.toDigits 10 digits).length - 1 : Nat)) ≤
      (digits : ℚ) * 10 ^ exponent := by
  have bound : (10 : ℚ) ^ ((Nat.toDigits 10 digits).length - 1) ≤ digits := by
    exact_mod_cast ten_pow_length_le nonzero
  rw [zpow_add₀ (by norm_num), zpow_natCast, mul_comm]
  gcongr

/-- Reading a decimal is rounding it, also where the length of the digits alone decides. -/
theorem ofDecimal_eq (negative : Bool) (digits : Nat) (exponent : Int) :
    ofDecimal negative digits exponent =
      ofPosition negative (decimalPosition digits exponent) := by
  unfold ofDecimal
  set length := (Nat.toDigits 10 digits).length
  simp only
  split_ifs with zero small large
  · rw [zero, decimalPosition_eq_zero (by simp)]
  · have tiny : (digits : ℚ) * 10 ^ exponent < (10 ^ 331)⁻¹ :=
      calc (digits : ℚ) * 10 ^ exponent
          < 10 ^ (exponent + length) := decimal_lt_ten_zpow digits exponent
        _ ≤ 10 ^ (-331 : Int) := zpow_le_zpow_right₀ (by norm_num) (by omega)
        _ = (10 ^ 331)⁻¹ := by rw [zpow_neg]; rfl
    rw [decimalPosition_eq_zero tiny]
  · have outOfRange : 2 ^ 1024 ≤ 10 ^ 310 := by decide +kernel
    have huge : 2 ^ 1024 ≤ (digits : ℚ) * 10 ^ exponent :=
      calc (2 : ℚ) ^ 1024
          ≤ 10 ^ 310 := by exact_mod_cast outOfRange
        _ = 10 ^ (310 : Int) := rfl
        _ ≤ 10 ^ (exponent + (length - 1 : Nat)) := zpow_le_zpow_right₀ (by norm_num) (by omega)
        _ ≤ digits * 10 ^ exponent := ten_zpow_le_decimal zero exponent
    have beyond := magnitudes_le_decimalPosition huge
    rw [ofPosition, dif_neg (by omega)]
  · rfl

end Number

end RuleTree
