import RuleTree.Number.Shortest
import RuleTree.Proofs.Number.Rounding

/-!
Contract: the shortest decimal of a magnitude reads back to it.

On the grid of seventeen digits the nearer neighbour of a magnitude is off by half a step,
which is less than one part in `2 ^ 54` since `2 ^ 53 < 10 ^ 16` (`exists_seventeenth`); so
the search never ends without a decimal, and what it finds reads back (`shortest_reads`).
Which of several decimals is found plays no part.

Owns: that the search succeeds, and with what. Does not own: the written forms.
-/

namespace RuleTree

namespace Decimal

/-- The exact value, in units. -/
def units (decimal : Decimal) : ℚ :=
  Number.decimalUnits decimal.digits decimal.exponent

@[simp] theorem units_trimZeros (fuel : Nat) (decimal : Decimal) :
    (decimal.trimZeros fuel).units = decimal.units := by
  induction fuel generalizing decimal with
  | zero => rfl
  | succ fuel inductionHypothesis =>
    unfold trimZeros
    split_ifs with trailing
    · have digits : (decimal.digits : ℚ) = (decimal.digits / 10 : Nat) * 10 := by
        exact_mod_cast (Nat.div_mul_cancel (Nat.dvd_of_mod_eq_zero trailing.2)).symm
      rw [inductionHypothesis]
      simp only [units, Number.decimalUnits]
      rw [digits, zpow_add_one₀ (by norm_num)]
      ring
    · rfl

@[simp] theorem units_trim (decimal : Decimal) : decimal.trim.units = decimal.units :=
  units_trimZeros _ _

end Decimal

namespace Number

/-! ## Grids -/

/-- A ratio is off its nearest integer by one half at most. -/
theorem abs_sub_ratio_le {numerator denominator nearest : Nat} (positive : 0 < denominator)
    (above : 2 * numerator ≤ 2 * (nearest * denominator) + denominator)
    (below : 2 * (nearest * denominator) ≤ 2 * numerator + denominator) :
    |(nearest : ℚ) - numerator / denominator| ≤ 1 / 2 := by
  have scale : (0 : ℚ) < denominator := by exact_mod_cast positive
  have aboveRatio : 2 * (numerator : ℚ) ≤ 2 * (nearest * denominator) + denominator := by
    exact_mod_cast above
  have belowRatio : 2 * (nearest * denominator) ≤ 2 * (numerator : ℚ) + denominator := by
    exact_mod_cast below
  have least : (nearest : ℚ) - 1 / 2 ≤ numerator / denominator := by
    rw [le_div_iff₀ scale]
    linarith
  have most : (numerator : ℚ) / denominator ≤ nearest + 1 / 2 := by
    rw [div_le_iff₀ scale]
    linarith
  rw [abs_le]
  constructor <;> linarith

theorem gridRatio_pos (value : Nat) (exponent : Int) : 0 < (gridRatio value exponent).2 := by
  have onePositive := unitsPerOne_pos
  cases exponent with
  | ofNat up =>
    simp only [gridRatio, Nat.pow_eq]
    positivity
  | negSucc down => exact onePositive

theorem gridRatio_eq (value : Nat) (exponent : Int) :
    ((gridRatio value exponent).1 : ℚ) / (gridRatio value exponent).2 * 10 ^ exponent *
      unitsPerOne = value := by
  have onePositive := cast_unitsPerOne_pos
  cases exponent with
  | ofNat up =>
    simp only [gridRatio, Int.ofNat_eq_natCast, zpow_natCast, Nat.pow_eq]
    push_cast
    field_simp
  | negSucc down =>
    simp only [gridRatio, zpow_negSucc, Nat.pow_eq]
    push_cast
    field_simp

theorem neighbour?_reads {tie : TieRule} {position digits : Nat} {exponent : Int}
    (found : neighbour? tie position exponent = some digits) :
    decimalPosition digits exponent = position := by
  simp only [neighbour?, readsAs, beq_iff_eq] at found
  -- Which of the two is tried first makes no difference: either is returned only if it reads.
  split at found
  all_goals
    split_ifs at found with firstReads secondReads
    · cases found
      exact firstReads
    · cases found
      exact secondReads

section FineGrid

variable {position : Nat} {exponent : Int}
  (fine : 10 ^ exponent * unitsPerOne * 2 ^ 53 < (units position : ℚ))

include fine

/-- On a grid whose half step is less than one part in `2 ^ 54` of the magnitude, its
nearest neighbour reads back. -/
theorem readsAs_of_fine {digits : Nat}
    (above : 2 * (gridRatio (units position) exponent).1 ≤
      2 * (digits * (gridRatio (units position) exponent).2) +
        (gridRatio (units position) exponent).2)
    (below : 2 * (digits * (gridRatio (units position) exponent).2) ≤
      2 * (gridRatio (units position) exponent).1 + (gridRatio (units position) exponent).2) :
    readsAs position digits exponent = true := by
  have half := abs_sub_ratio_le (gridRatio_pos _ _) above below
  have value := gridRatio_eq (units position) exponent
  generalize ((gridRatio (units position) exponent).1 : ℚ) /
    (gridRatio (units position) exponent).2 = ratio at half value
  have step : (0 : ℚ) ≤ 10 ^ exponent * unitsPerOne := by positivity
  rw [readsAs, beq_iff_eq]
  apply decimalPosition_of_close
  calc |decimalUnits digits exponent - units position| * 2 ^ 54
      = |(digits - ratio) * (10 ^ exponent * unitsPerOne)| * 2 ^ 54 := by
        rw [decimalUnits, ← value]
        ring_nf
    _ = |(digits : ℚ) - ratio| * (10 ^ exponent * unitsPerOne) * 2 ^ 54 := by
        rw [abs_mul, abs_of_nonneg step]
    _ ≤ 1 / 2 * (10 ^ exponent * unitsPerOne) * 2 ^ 54 := by gcongr
    _ = 10 ^ exponent * unitsPerOne * 2 ^ 53 := by ring
    _ < units position := fine

theorem exists_neighbour (tie : TieRule) :
    ∃ digits, neighbour? tie position exponent = some digits := by
  have positive := gridRatio_pos (units position) exponent
  have reads := @readsAs_of_fine position exponent fine
  unfold neighbour?
  generalize gridRatio (units position) exponent = ratio at *
  obtain ⟨numerator, denominator⟩ := ratio
  simp only at *
  have parts := Nat.div_add_mod numerator denominator
  have remainder := Nat.mod_lt numerator positive
  generalize numerator / denominator = below at *
  generalize numerator % denominator = rest at *
  by_cases prefer : 2 * rest < denominator ∨
      2 * rest = denominator ∧ tie = TieRule.even ∧ below % 2 = 0
  · have low : 2 * rest ≤ denominator := by omega
    have nearer : readsAs position below exponent = true := by
      apply reads <;> nlinarith
    rw [if_pos prefer]
    exact ⟨below, if_pos nearer⟩
  · have high : denominator ≤ 2 * rest := by omega
    have nearer : readsAs position (below + 1) exponent = true := by
      apply reads <;> nlinarith
    rw [if_neg prefer]
    exact ⟨below + 1, if_pos nearer⟩

end FineGrid

/-! ## The search -/

theorem ten_zpow_leadingExponent_le {position : Nat} (nonzero : position ≠ 0) :
    10 ^ leadingExponent position * (unitsPerOne : ℚ) ≤ units position := by
  have valuePositive : 0 < units position := Nat.pos_of_ne_zero (units_eq_zero.not.2 nonzero)
  have onePositive := unitsPerOne_pos
  unfold leadingExponent
  simp only
  split_ifs with integral
  · -- The whole part has that many digits, so it is at least a power of ten less by one.
    have whole : units position / unitsPerOne ≠ 0 := (Nat.div_pos integral onePositive).ne'
    have bound := (Nat.le_div_iff_mul_le onePositive).1 (ten_pow_length_le whole)
    have length : ((Nat.toDigits 10 (units position / unitsPerOne)).length : Int) - 1 =
        ((Nat.toDigits 10 (units position / unitsPerOne)).length - 1 : Nat) := by
      have : 0 < (Nat.toDigits 10 (units position / unitsPerOne)).length :=
        Nat.length_toDigits_pos
      omega
    rw [length, zpow_natCast]
    exact_mod_cast bound
  · -- The whole part of the inverse has that many digits, so it is below that power of ten.
    have bound := (Nat.div_lt_iff_lt_mul valuePositive).1
      (lt_ten_pow_length ((unitsPerOne - 1) / units position))
    rw [zpow_neg, zpow_natCast, inv_mul_le_iff₀ (by positivity)]
    exact_mod_cast Nat.le_of_pred_lt bound

theorem shortestFrom_reads {tie : TieRule} {position fuel count : Nat} {decimal : Decimal}
    (found : shortestFrom tie position fuel count = some decimal) :
    decimalPosition decimal.digits decimal.exponent = position := by
  induction fuel generalizing count with
  | zero => simp only [shortestFrom, reduceCtorEq] at found
  | succ fuel inductionHypothesis =>
    rw [shortestFrom] at found
    split at found
    · next digits neighbour =>
      cases found
      exact (decimalPosition_congr (Decimal.units_trim ⟨digits, _⟩)).trans
        (neighbour?_reads neighbour)
    · exact inductionHypothesis found

theorem exists_shortestFrom {tie : TieRule} {position fuel count target : Nat}
    (fine : ∃ digits, neighbour? tie position (leadingExponent position - target + 1) = some digits)
    (least : count ≤ target) (most : target < count + fuel) :
    ∃ decimal, shortestFrom tie position fuel count = some decimal := by
  induction fuel generalizing count with
  | zero => omega
  | succ fuel inductionHypothesis =>
    rw [shortestFrom]
    split
    · exact ⟨_, rfl⟩
    · next missing =>
      have later : count ≠ target := by
        rintro rfl
        simp_all
      exact inductionHypothesis (by omega) (by omega)

/-- With seventeen digits the step is at most one part in `10 ^ 16` of the magnitude. -/
theorem exists_seventeenth (tie : TieRule) {position : Nat} (nonzero : position ≠ 0) :
    ∃ digits,
      neighbour? tie position (leadingExponent position - (17 : Nat) + 1) = some digits := by
  have onePositive := cast_unitsPerOne_pos
  have grid : (10 : ℚ) ^ (leadingExponent position - (17 : Nat) + 1) * 10 ^ 16 =
      10 ^ leadingExponent position := by
    rw [← zpow_natCast 10 16, ← zpow_add₀ (by norm_num)]
    congr 1
    omega
  apply exists_neighbour
  calc (10 : ℚ) ^ (leadingExponent position - (17 : Nat) + 1) * unitsPerOne * 2 ^ 53
      < (10 : ℚ) ^ (leadingExponent position - (17 : Nat) + 1) * unitsPerOne * 10 ^ 16 := by
        gcongr
        norm_num
    _ = (10 : ℚ) ^ leadingExponent position * unitsPerOne := by
        rw [← grid]
        ring
    _ ≤ units position := ten_zpow_leadingExponent_le nonzero

/-- The shortest decimal of a magnitude is read as that magnitude. -/
theorem shortest_reads (tie : TieRule) (position : Nat) :
    decimalPosition (shortest tie position).digits (shortest tie position).exponent = position := by
  unfold shortest
  split_ifs with zero
  · rw [zero, decimalPosition_eq_zero (by simp)]
  · obtain ⟨decimal, found⟩ : ∃ decimal, shortestFrom tie position 17 1 = some decimal :=
      exists_shortestFrom (exists_seventeenth tie zero) (by decide) (by decide)
    rw [found]
    exact shortestFrom_reads found

theorem shortest_digits_ne_zero (tie : TieRule) {position : Nat} (nonzero : position ≠ 0) :
    (shortest tie position).digits ≠ 0 := by
  intro zero
  have reads := shortest_reads tie position
  rw [zero, decimalPosition_eq_zero (by simp)] at reads
  exact nonzero reads.symm

end Number

end RuleTree
