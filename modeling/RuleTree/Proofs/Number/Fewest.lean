import RuleTree.Proofs.Number.Nearest
import RuleTree.Proofs.Number.Shortest

/-!
Contract: the shortest decimal of a magnitude has the fewest digits of all that read back.

Rounding keeps the order of values, so whatever lies between a magnitude and a decimal that
is read as it is read as it too (`decimalPosition_between`). A decimal of `count` digits that
is read as a magnitude therefore leads to one on the grid that the search tries for `count`
(`exists_on_grid`), and from there to a neighbour of the magnitude, which the search does not
pass over (`shortest_fewest`). Below `10 ^ 15` there is only one decimal on a grid to find
for an integer, as the grid is wider than the spacing of the numbers: the integer itself
(`integer_on_grid`).

Owns: how many digits it takes to tell a number. Does not own: what is written
(`Proofs.Number.StringForm`).
-/

namespace RuleTree

namespace Number

/-! ## Rounding keeps the order -/

theorem units_lt_units_succ (position : Nat) : units position < units (position + 1) := by
  obtain ⟨spacing, significand, rfl, value, bounded, normal⟩ := exists_significand position
  have next : units (spacing * 2 ^ 52 + (significand + 1)) = (significand + 1) * 2 ^ spacing :=
    units_of_significand bounded (by omega)
  rw [value, Nat.add_assoc, next]
  exact Nat.mul_lt_mul_of_pos_right (Nat.lt_succ_self significand) (by positivity)

theorem units_strictMono : StrictMono units :=
  strictMono_nat_of_lt_succ units_lt_units_succ

/-- A greater ratio is rounded to no lesser position. -/
theorem nearestPosition_mono {numerator denominator numerator' denominator' : Nat}
    (positive : 0 < denominator) (positive' : 0 < denominator')
    (ordered : numerator * denominator' ≤ numerator' * denominator) :
    nearestPosition numerator denominator ≤ nearestPosition numerator' denominator' := by
  by_contra crossed
  have unitsCrossed := units_strictMono (Nat.lt_of_not_le crossed)
  -- Each is as near to its own position as to the other's, so both are in the middle.
  have near := (nearestPosition_nearest positive numerator
    (nearestPosition numerator' denominator')).1
  have near' := (nearestPosition_nearest positive' numerator'
    (nearestPosition numerator denominator)).1
  dsimp only at near near'
  have same : numerator * denominator' = numerator' * denominator := by
    apply Nat.le_antisymm ordered
    generalize units (nearestPosition numerator denominator) = high at *
    generalize units (nearestPosition numerator' denominator') = low at *
    have apart : low * denominator < high * denominator :=
      Nat.mul_lt_mul_of_pos_right unitsCrossed positive
    have apart' : low * denominator' < high * denominator' :=
      Nat.mul_lt_mul_of_pos_right unitsCrossed positive'
    have least : (low + high) * denominator ≤ 2 * numerator := by
      rw [Nat.add_mul]
      omega
    have most : 2 * numerator' ≤ (low + high) * denominator' := by
      rw [Nat.add_mul]
      omega
    have product : 2 * (numerator' * denominator) ≤ 2 * (numerator * denominator') :=
      calc 2 * (numerator' * denominator)
          = 2 * numerator' * denominator := by ring
        _ ≤ (low + high) * denominator' * denominator := Nat.mul_le_mul_right _ most
        _ = (low + high) * denominator * denominator' := by ring
        _ ≤ 2 * numerator * denominator' := Nat.mul_le_mul_right _ least
        _ = 2 * (numerator * denominator') := by ring
    omega
  exact crossed (nearestPosition_congr positive positive' same).le

/-! ## Decimals and magnitudes -/

section Decimal

variable {digits digits' position : Nat} {exponent exponent' : Int}

theorem decimalPosition_mono
    (ordered : decimalUnits digits exponent ≤ decimalUnits digits' exponent') :
    decimalPosition digits exponent ≤ decimalPosition digits' exponent' := by
  obtain ⟨numerator, denominator, positive, nearest, ratio⟩ := exists_ratio digits exponent
  obtain ⟨numerator', denominator', positive', nearest', ratio'⟩ := exists_ratio digits' exponent'
  rw [nearest, nearest']
  apply nearestPosition_mono positive positive'
  have cross : (numerator : ℚ) * denominator' ≤ numerator' * denominator := by
    rw [ratio, ratio', mul_assoc, mul_assoc, mul_comm (denominator : ℚ)]
    gcongr
  exact_mod_cast cross

theorem decimalPosition_le_of_le_units (below : decimalUnits digits exponent ≤ units position) :
    decimalPosition digits exponent ≤ position := by
  obtain ⟨numerator, denominator, positive, nearest, ratio⟩ := exists_ratio digits exponent
  have cross : (numerator : ℚ) * (1 : Nat) ≤ units position * denominator := by
    rw [ratio, Nat.cast_one, mul_one]
    gcongr
  calc decimalPosition digits exponent
      = nearestPosition numerator denominator := nearest
    _ ≤ nearestPosition (units position) 1 :=
        nearestPosition_mono positive Nat.one_pos (by exact_mod_cast cross)
    _ = position := nearestPosition_units position

theorem le_decimalPosition_of_units_le (above : units position ≤ decimalUnits digits exponent) :
    position ≤ decimalPosition digits exponent := by
  obtain ⟨numerator, denominator, positive, nearest, ratio⟩ := exists_ratio digits exponent
  have cross : (units position : ℚ) * denominator ≤ numerator * (1 : Nat) := by
    rw [ratio, Nat.cast_one, mul_one]
    gcongr
  calc position
      = nearestPosition (units position) 1 := (nearestPosition_units position).symm
    _ ≤ nearestPosition numerator denominator :=
        nearestPosition_mono Nat.one_pos positive (by exact_mod_cast cross)
    _ = decimalPosition digits exponent := nearest.symm

/-- What lies between a magnitude and a decimal that is read as it is read as it too. -/
theorem decimalPosition_between (reads : decimalPosition digits exponent = position)
    (between : decimalUnits digits exponent ≤ decimalUnits digits' exponent' ∧
        decimalUnits digits' exponent' ≤ units position ∨
      units position ≤ decimalUnits digits' exponent' ∧
        decimalUnits digits' exponent' ≤ decimalUnits digits exponent) :
    decimalPosition digits' exponent' = position := by
  rcases between with ⟨above, below⟩ | ⟨above, below⟩
  · apply Nat.le_antisymm (decimalPosition_le_of_le_units below)
    exact reads ▸ decimalPosition_mono above
  · refine Nat.le_antisymm ?_ (le_decimalPosition_of_units_le above)
    exact reads ▸ decimalPosition_mono below

theorem decimalPosition_zero_digits (exponent : Int) : decimalPosition 0 exponent = 0 :=
  decimalPosition_eq_zero (by simp)

end Decimal

/-! ## The grid of a number of digits -/

/-- The leading exponent is no less than that of the magnitude's first digit. -/
theorem units_lt_ten_zpow {position : Nat} (nonzero : position ≠ 0) :
    (units position : ℚ) < 10 ^ (leadingExponent position + 1) * unitsPerOne := by
  have valuePositive : 0 < units position := Nat.pos_of_ne_zero (units_eq_zero.not.2 nonzero)
  have onePositive := unitsPerOne_pos
  unfold leadingExponent
  simp only
  split_ifs with integral
  · have bound := (Nat.div_lt_iff_lt_mul onePositive).1
      (lt_ten_pow_length (units position / unitsPerOne))
    rw [Int.sub_add_cancel, zpow_natCast]
    exact_mod_cast bound
  · -- The whole part of the inverse is no less than its leading power of ten.
    have inverse : (unitsPerOne - 1) / units position ≠ 0 :=
      (Nat.div_pos (by omega) valuePositive).ne'
    have bound := (Nat.le_div_iff_mul_le valuePositive).1 (ten_pow_length_le inverse)
    have positive : 0 < (Nat.toDigits 10 ((unitsPerOne - 1) / units position)).length :=
      Nat.length_toDigits_pos
    generalize (Nat.toDigits 10 ((unitsPerOne - 1) / units position)).length = length at *
    have exponent : -(length : Int) + 1 = -((length - 1 : Nat) : Int) := by omega
    rw [exponent, zpow_neg, zpow_natCast, lt_inv_mul_iff₀ (by positivity)]
    exact_mod_cast Nat.lt_of_le_pred onePositive bound

/-- A multiple of a power of ten is a multiple of each lower one. -/
theorem decimalUnits_shift (digits shift : Nat) (exponent : Int) :
    decimalUnits (digits * 10 ^ shift) exponent = decimalUnits digits (exponent + shift) := by
  unfold decimalUnits
  rw [zpow_add₀ (by norm_num), zpow_natCast]
  push_cast
  ring

/-- A decimal below the power of ten after the leading one has no more digits than its grid
is for. -/
theorem lt_of_decimalUnits_lt_leading {digits count : Nat} {leading : Int}
    (small : decimalUnits digits (leading - count + 1) < 10 ^ (leading + 1) * unitsPerOne) :
    digits < 10 ^ count := by
  have split : (10 : ℚ) ^ (leading + 1) = 10 ^ count * 10 ^ (leading - count + 1) := by
    rw [← zpow_natCast 10 count, ← zpow_add₀ (by norm_num)]
    congr 1
    omega
  rw [decimalUnits, split] at small
  have scaled := lt_of_mul_lt_mul_right small (Nat.cast_nonneg _)
  exact_mod_cast lt_of_mul_lt_mul_right scaled (by positivity)

theorem ne_zero_of_decimalPosition {digits : Nat} {exponent : Int}
    (nonzero : decimalPosition digits exponent ≠ 0) : digits ≠ 0 := by
  rintro rfl
  exact nonzero (decimalPosition_zero_digits exponent)

/-- A decimal of `count` digits that is no less than a power of ten has no digits below the
step of the grid for `count` digits from that power on. -/
theorem exists_multiple_of_large {digits count : Nat} {exponent leading : Int}
    (few : digits < 10 ^ count)
    (large : 10 ^ leading * (unitsPerOne : ℚ) ≤ decimalUnits digits exponent) :
    ∃ multiple, decimalUnits multiple (leading - count + 1) = decimalUnits digits exponent := by
  have onePositive := cast_unitsPerOne_pos
  have scaled : (digits : ℚ) * 10 ^ exponent < 10 ^ (exponent + count) := by
    rw [zpow_add₀ (by norm_num), zpow_natCast, mul_comm]
    gcongr
    exact_mod_cast few
  have bound : (10 : ℚ) ^ leading < 10 ^ (exponent + count) :=
    (le_of_mul_le_mul_right large onePositive).trans_lt scaled
  have power := (zpow_lt_zpow_iff_right₀ (by norm_num)).1 bound
  obtain ⟨shift, shiftIs⟩ := Int.exists_add_of_le (show leading - count + 1 ≤ exponent by omega)
  exact ⟨digits * 10 ^ shift, by rw [decimalUnits_shift, ← shiftIs]⟩

section Grid

variable {position digits count : Nat} {exponent : Int} (nonzero : position ≠ 0)
  (reads : decimalPosition digits exponent = position) (few : digits < 10 ^ count)

include nonzero reads few

/-- If a decimal of `count` digits is read as a magnitude, a multiple of the step of the grid
for `count` digits is. -/
theorem exists_on_grid :
    ∃ multiple, decimalPosition multiple (leadingExponent position - count + 1) = position := by
  rcases le_or_gt (10 ^ leadingExponent position * (unitsPerOne : ℚ))
      (decimalUnits digits exponent) with large | small
  · obtain ⟨multiple, same⟩ := exists_multiple_of_large few large
    exact ⟨multiple, (decimalPosition_congr same).trans reads⟩
  · -- The leading power of ten lies between the decimal and the magnitude.
    have leading := ten_zpow_leadingExponent_le nonzero
    have power : decimalUnits 1 (leadingExponent position) =
        10 ^ leadingExponent position * unitsPerOne := by
      rw [decimalUnits, Nat.cast_one, one_mul]
    have one : 1 < 10 ^ count := by
      refine Nat.one_lt_pow ?_ (by decide)
      rintro rfl
      exact ne_zero_of_decimalPosition (reads ▸ nonzero) (Nat.lt_one_iff.1 few)
    obtain ⟨multiple, same⟩ := exists_multiple_of_large one power.ge
    refine ⟨multiple, (decimalPosition_congr same).trans ?_⟩
    exact decimalPosition_between reads (.inl ⟨small.le.trans power.ge, power.trans_le leading⟩)

end Grid

/-! ## The search -/

section Neighbour

variable {tie : TieRule} {position digits : Nat} {exponent : Int}

/-- The magnitude lies between its two neighbours on a grid. -/
theorem grid_bounds (position : Nat) (exponent : Int) :
    let below := (gridRatio (units position) exponent).1 / (gridRatio (units position) exponent).2
    decimalUnits below exponent ≤ units position ∧
      (units position : ℚ) < decimalUnits (below + 1) exponent := by
  have value := gridRatio_eq (units position) exponent
  have positive := gridRatio_pos (units position) exponent
  generalize gridRatio (units position) exponent = ratio at *
  obtain ⟨numerator, denominator⟩ := ratio
  simp only at *
  have scale : (0 : ℚ) < denominator := by exact_mod_cast positive
  have onePositive := cast_unitsPerOne_pos
  have low : ((numerator / denominator : Nat) : ℚ) ≤ numerator / denominator := by
    rw [le_div_iff₀ scale]
    exact_mod_cast Nat.div_mul_le_self numerator denominator
  have high : (numerator : ℚ) / denominator < (numerator / denominator + 1 : Nat) := by
    rw [div_lt_iff₀ scale]
    exact_mod_cast Nat.lt_mul_of_div_lt (Nat.lt_succ_self _) positive
  rw [← value]
  unfold decimalUnits
  constructor <;> gcongr

/-- If a multiple of the step is read as the magnitude, one of the two neighbours is. -/
theorem exists_neighbour_of_reads (reads : decimalPosition digits exponent = position) :
    ∃ found, neighbour? tie position exponent = some found := by
  obtain ⟨low, high⟩ := grid_bounds position exponent
  have either : decimalPosition ((gridRatio (units position) exponent).1 /
        (gridRatio (units position) exponent).2) exponent = position ∨
      decimalPosition ((gridRatio (units position) exponent).1 /
        (gridRatio (units position) exponent).2 + 1) exponent = position := by
    generalize (gridRatio (units position) exponent).1 /
      (gridRatio (units position) exponent).2 = below at *
    rcases Nat.lt_or_ge below digits with above | within
    · refine .inr (decimalPosition_between reads (.inr ⟨high.le, ?_⟩))
      unfold decimalUnits
      gcongr
      omega
    · refine .inl (decimalPosition_between reads (.inl ⟨?_, low⟩))
      unfold decimalUnits
      gcongr
  simp only [neighbour?, readsAs, beq_iff_eq]
  split
  all_goals
    split_ifs with firstReads secondReads
    · exact ⟨_, rfl⟩
    · exact ⟨_, rfl⟩
    · simp_all

/-- A neighbour on the grid for `count` digits has that many digits, or is the next power
of ten. -/
theorem neighbour?_le {count : Nat} (nonzero : position ≠ 0)
    (found : neighbour? tie position (leadingExponent position - count + 1) = some digits) :
    digits ≤ 10 ^ count := by
  have low := (grid_bounds position (leadingExponent position - count + 1)).1
  have below := lt_of_decimalUnits_lt_leading (low.trans_lt (units_lt_ten_zpow nonzero))
  simp only [neighbour?] at found
  split at found
  all_goals
    split_ifs at found with firstReads secondReads
    · cases found
      omega
    · cases found
      omega

end Neighbour

end Number

namespace Decimal

theorem trimZeros_digits_le (fuel : Nat) (decimal : Decimal) :
    (decimal.trimZeros fuel).digits ≤ decimal.digits := by
  induction fuel generalizing decimal with
  | zero => exact le_rfl
  | succ fuel inductionHypothesis =>
    unfold trimZeros
    split_ifs
    · exact (inductionHypothesis _).trans (Nat.div_le_self _ _)
    · exact le_rfl

theorem trimZeros_digits_mod {fuel : Nat} {decimal : Decimal} (nonzero : decimal.digits ≠ 0)
    (enough : decimal.digits < 10 ^ fuel) : (decimal.trimZeros fuel).digits % 10 ≠ 0 := by
  induction fuel generalizing decimal with
  | zero => exact absurd (Nat.lt_one_iff.1 enough) nonzero
  | succ fuel inductionHypothesis =>
    unfold trimZeros
    split_ifs with trailing
    · refine inductionHypothesis ?_ ?_
      · change decimal.digits / 10 ≠ 0
        omega
      · change decimal.digits / 10 < 10 ^ fuel
        rw [Nat.pow_succ] at enough
        omega
    · exact fun zero => trailing ⟨nonzero, zero⟩

/-- No zero is left at the end of the digits. -/
theorem trim_digits_mod {decimal : Decimal} (nonzero : decimal.digits ≠ 0) :
    decimal.trim.digits % 10 ≠ 0 :=
  trimZeros_digits_mod nonzero (Number.lt_ten_pow_length decimal.digits)

/-- A power of ten is trimmed to one digit. -/
theorem trim_digits_lt {decimal : Decimal} {count : Nat} (nonzero : decimal.digits ≠ 0)
    (positive : 0 < count) (bounded : decimal.digits ≤ 10 ^ count) :
    decimal.trim.digits < 10 ^ count := by
  have most : decimal.trim.digits ≤ 10 ^ count := (trimZeros_digits_le _ _).trans bounded
  have noZero := trim_digits_mod nonzero
  have multiple : 10 ^ count % 10 = 0 :=
    Nat.mod_eq_zero_of_dvd (dvd_pow_self 10 positive.ne')
  apply lt_of_le_of_ne most
  intro same
  exact noZero (same ▸ multiple)

end Decimal

namespace Number

/-- The search ends on the first grid with a neighbour that reads back. -/
theorem shortestFrom_fewest {tie : TieRule} {position fuel count : Nat} {decimal : Decimal}
    (nonzero : position ≠ 0) (positive : 0 < count)
    (found : shortestFrom tie position fuel count = some decimal) :
    decimal.digits % 10 ≠ 0 ∧ ∃ taken, taken < count + fuel ∧ decimal.digits < 10 ^ taken ∧
      ∀ other, count ≤ other →
        (∃ digits, neighbour? tie position (leadingExponent position - other + 1) = some digits) →
        taken ≤ other := by
  induction fuel generalizing count with
  | zero => simp only [shortestFrom, reduceCtorEq] at found
  | succ fuel inductionHypothesis =>
    rw [shortestFrom] at found
    split at found
    · next digits neighbour =>
      have digitsNonzero : digits ≠ 0 :=
        ne_zero_of_decimalPosition (neighbour?_reads neighbour ▸ nonzero)
      cases found
      refine ⟨Decimal.trim_digits_mod digitsNonzero, count, by omega, ?_, fun _ least _ => least⟩
      exact Decimal.trim_digits_lt digitsNonzero positive (neighbour?_le nonzero neighbour)
    · next missing =>
      obtain ⟨noZero, taken, within, few, first⟩ := inductionHypothesis (Nat.succ_pos count) found
      refine ⟨noZero, taken, by omega, few, fun other least neighbour => ?_⟩
      rcases Nat.eq_or_lt_of_le least with rfl | later
      · rw [missing] at neighbour
        obtain ⟨_, ⟨⟩⟩ := neighbour
      · exact first other later neighbour

theorem shortestFrom_shortest (tie : TieRule) {position : Nat} (nonzero : position ≠ 0) :
    shortestFrom tie position 17 1 = some (shortest tie position) := by
  obtain ⟨decimal, found⟩ : ∃ decimal, shortestFrom tie position 17 1 = some decimal :=
    exists_shortestFrom (exists_seventeenth tie nonzero) (by decide) (by decide)
  rw [shortest, if_neg nonzero, found, Option.getD_some]

/-- The digits of the shortest decimal do not end in zero. -/
theorem shortest_digits_mod (tie : TieRule) {position : Nat} (nonzero : position ≠ 0) :
    (shortest tie position).digits % 10 ≠ 0 :=
  (shortestFrom_fewest nonzero Nat.one_pos (shortestFrom_shortest tie nonzero)).1

/-- **The shortest decimal has the fewest digits.** -/
theorem shortest_fewest (tie : TieRule) {position digits count : Nat} {exponent : Int}
    (nonzero : position ≠ 0) (reads : decimalPosition digits exponent = position)
    (few : digits < 10 ^ count) : (shortest tie position).digits < 10 ^ count := by
  obtain ⟨-, taken, -, bound, first⟩ :=
    shortestFrom_fewest nonzero Nat.one_pos (shortestFrom_shortest tie nonzero)
  obtain ⟨multiple, onGrid⟩ := exists_on_grid nonzero reads few
  have countPositive : 1 ≤ count := by
    apply Nat.pos_of_ne_zero
    rintro rfl
    have := ne_zero_of_decimalPosition (reads ▸ nonzero)
    rw [Nat.pow_zero] at few
    omega
  have least := first count countPositive (exists_neighbour_of_reads onGrid)
  exact bound.trans_le (Nat.pow_le_pow_right (by decide) least)

/-! ## Integers below `10 ^ 15` -/

/-- A ratio is off the magnitude that it is rounded to by at most one part in `2 ^ 53`. -/
theorem nearestPosition_close {numerator denominator : Nat} (positive : 0 < denominator)
    (normal : 2 ^ 52 ≤ units (nearestPosition numerator denominator)) :
    ((numerator : ℤ) - (units (nearestPosition numerator denominator) * denominator : Nat)).natAbs *
        2 ^ 53 ≤
      units (nearestPosition numerator denominator) * denominator := by
  obtain ⟨spacing, least, most, rounding⟩ := exists_spacing positive numerator
  have stepPositive : 0 < denominator * 2 ^ spacing := by positivity
  have significandLeast : spacing = 0 ∨
      2 ^ 52 ≤ roundHalfEven numerator (denominator * 2 ^ spacing) := by
    refine least.imp_right fun least => ?_
    exact le_trans ((Nat.le_div_iff_mul_le stepPositive).2 least) (div_le_roundHalfEven _ _)
  have value := units_of_significand (roundHalfEven_le most) significandLeast
  obtain ⟨above, below, -⟩ := roundHalfEven_half stepPositive numerator
  rw [← rounding] at value
  rw [value] at normal ⊢
  generalize roundHalfEven numerator (denominator * 2 ^ spacing) = significand at *
  have product : significand * 2 ^ spacing * denominator =
      significand * (denominator * 2 ^ spacing) := by ring
  have steps : 2 ^ 52 * (denominator * 2 ^ spacing) ≤
      significand * (denominator * 2 ^ spacing) := by
    rcases significandLeast with rfl | large
    · rw [Nat.pow_zero, Nat.mul_one] at normal ⊢
      exact Nat.mul_le_mul_right denominator normal
    · exact Nat.mul_le_mul_right _ large
  rw [product]
  omega

theorem decimalPosition_close {digits position : Nat} {exponent : Int}
    (normal : 2 ^ 52 ≤ units position) (reads : decimalPosition digits exponent = position) :
    |decimalUnits digits exponent - units position| * 2 ^ 53 ≤ units position := by
  obtain ⟨numerator, denominator, positive, nearest, ratio⟩ := exists_ratio digits exponent
  have scale : (0 : ℚ) < denominator := by exact_mod_cast positive
  rw [nearest] at reads
  have close := nearestPosition_close positive (reads.symm ▸ normal)
  rw [reads] at close
  have cast : (((numerator : ℤ) - (units position * denominator : Nat)).natAbs : ℚ) =
      |decimalUnits digits exponent - units position| * denominator := by
    rw [Nat.cast_natAbs, Int.cast_abs]
    push_cast
    rw [ratio, ← sub_mul, abs_mul, abs_of_pos scale]
  have closeRational :
      (((numerator : ℤ) - (units position * denominator : Nat)).natAbs : ℚ) * 2 ^ 53 ≤
        units position * denominator := by
    exact_mod_cast close
  rw [cast, mul_right_comm] at closeRational
  exact le_of_mul_le_mul_right closeRational scale

/-- Whole numbers of steps, fewer than `2 ^ 53`, that are that close are one. -/
theorem eq_of_decimalUnits_close {found sought : Nat} {exponent : Int} (few : sought < 2 ^ 53)
    (close : |decimalUnits found exponent - decimalUnits sought exponent| * 2 ^ 53 ≤
      decimalUnits sought exponent) : found = sought := by
  have stepPositive : (0 : ℚ) < 10 ^ exponent * unitsPerOne := by
    have := unitsPerOne_pos
    positivity
  have distance : |(found : ℚ) - sought| * 2 ^ 53 ≤ sought := by
    refine le_of_mul_le_mul_right (le_of_eq_of_le ?_ (close.trans_eq ?_)) stepPositive
    · simp only [decimalUnits, mul_assoc]
      rw [← sub_mul, abs_mul, abs_of_pos stepPositive]
      ring
    · rw [decimalUnits, mul_assoc]
  have cast : (((found : ℤ) - sought).natAbs : ℚ) = |(found : ℚ) - sought| := by
    rw [Nat.cast_natAbs, Int.cast_abs]
    push_cast
    rfl
  rw [← cast] at distance
  have apart : ((found : ℤ) - sought).natAbs * 2 ^ 53 ≤ sought := by exact_mod_cast distance
  omega

section Integer

variable {position integer : Nat} (value : units position = integer * unitsPerOne)
  (small : integer < 10 ^ 15) (nonzero : position ≠ 0)

include value

theorem decimalUnits_integer : decimalUnits integer 0 = units position := by
  rw [decimalUnits, zpow_zero, mul_one, value]
  push_cast
  rfl

include nonzero

theorem integer_pos : 0 < integer := by
  apply Nat.pos_of_ne_zero
  rintro rfl
  rw [Nat.zero_mul] at value
  exact nonzero (units_eq_zero.1 value)

/-- The numbers at one and above have all bits of the significand. -/
theorem units_integer_normal : 2 ^ 52 ≤ units position := by
  have powers : ∀ exponent, 52 ≤ exponent → 2 ^ 52 ≤ Nat.pow 2 exponent :=
    fun _ => Nat.pow_le_pow_right (by decide)
  have oneLarge : 2 ^ 52 ≤ unitsPerOne := by
    unfold unitsPerOne
    exact powers 1074 (by decide)
  rw [value]
  exact oneLarge.trans (Nat.le_mul_of_pos_left unitsPerOne (integer_pos value nonzero))

include small

/-- The leading exponent of an integer below `10 ^ 15`. -/
theorem leadingExponent_integer :
    ∃ leading : Nat, leadingExponent position = leading ∧ leading ≤ 14 ∧
      integer < 10 ^ (leading + 1) := by
  have onePositive := cast_unitsPerOne_pos
  have least := ten_zpow_leadingExponent_le nonzero
  have most := units_lt_ten_zpow nonzero
  rw [value, Nat.cast_mul] at least most
  have least := le_of_mul_le_mul_right least onePositive
  have most := lt_of_mul_lt_mul_right most onePositive.le
  have positive : (1 : ℚ) ≤ integer := by exact_mod_cast integer_pos value nonzero
  have bound : (integer : ℚ) < 10 ^ (15 : ℤ) := by exact_mod_cast small
  have above := (zpow_lt_zpow_iff_right₀ (by norm_num)).1 (least.trans_lt bound)
  have below : (0 : ℤ) < leadingExponent position + 1 := by
    rw [← zpow_lt_zpow_iff_right₀ (show (1 : ℚ) < 10 by norm_num), zpow_zero]
    exact positive.trans_lt most
  obtain ⟨leading, leadingIs⟩ := Int.eq_ofNat_of_zero_le (Int.lt_add_one_iff.1 below)
  rw [leadingIs] at above most
  refine ⟨leading, leadingIs, by omega, ?_⟩
  exact_mod_cast most

/-- On a grid for fifteen digits or fewer, only the integer itself is read as it. -/
theorem integer_on_grid {multiple count : Nat} (few : count ≤ 15)
    (reads : decimalPosition multiple (leadingExponent position - count + 1) = position) :
    decimalUnits multiple (leadingExponent position - count + 1) = units position := by
  obtain ⟨leading, leadingIs, most, bounded⟩ := leadingExponent_integer value small nonzero
  have normal := units_integer_normal value nonzero
  have close := decimalPosition_close normal reads
  -- Both are whole numbers of steps of the grid for fifteen digits, on which an integer of
  -- fifteen digits has less than `2 ^ 53` steps.
  have onGrid : decimalUnits multiple (leadingExponent position - count + 1) =
      decimalUnits (multiple * 10 ^ (15 - count)) (leading - 14) := by
    rw [decimalUnits_shift, leadingIs]
    congr 1
    omega
  have integerOnGrid : (units position : ℚ) =
      decimalUnits (integer * 10 ^ (14 - leading)) (leading - 14) := by
    rw [decimalUnits_shift, ← decimalUnits_integer value]
    congr 1
    omega
  have steps : integer * 10 ^ (14 - leading) < 10 ^ 15 :=
    calc integer * 10 ^ (14 - leading)
        < 10 ^ (leading + 1) * 10 ^ (14 - leading) :=
          Nat.mul_lt_mul_of_pos_right bounded (by positivity)
      _ = 10 ^ 15 := by
          rw [← Nat.pow_add]
          congr 1
          omega
  rw [onGrid, integerOnGrid] at close ⊢
  rw [eq_of_decimalUnits_close (steps.trans (by norm_num)) close]

/-- An integer below `10 ^ 15` has no more digits than any decimal that is read as it. -/
theorem integer_fewest {digits count : Nat} {exponent : Int}
    (reads : decimalPosition digits exponent = position) (few : digits < 10 ^ count) :
    ∃ fewer power, fewer < 10 ^ count ∧ decimalUnits fewer power = units position := by
  rcases le_or_gt count 15 with short | long
  · obtain ⟨multiple, onGrid⟩ := exists_on_grid nonzero reads few
    have same := integer_on_grid value small nonzero short onGrid
    exact ⟨multiple, _,
      lt_of_decimalUnits_lt_leading (same.trans_lt (units_lt_ten_zpow nonzero)), same⟩
  · exact ⟨integer, 0, small.trans_le (Nat.pow_le_pow_right (by decide) long.le),
      decimalUnits_integer value⟩

end Integer

end Number

end RuleTree
