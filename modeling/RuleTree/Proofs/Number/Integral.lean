import Mathlib.Data.Nat.Log
import RuleTree.Proofs.Number.StringForm

/-!
Contract: integers keep their value and their order as numbers.

Nearest numbers are in the order of the values they are nearest to
(`rational?_le_of_nearest`), and an integer up to `2 ^ 53` is a number itself, so it is
converted to its own value (`rational?_ofInt`). The shortest decimal of an integral number has
no digit behind the point (`shortest_exponent_nonneg`), whichever path writes it, so its string
form is the numeral of an integer that is converted to it (`exists_numeral`); up to `2 ^ 53`
there is only one such integer (`text_ofInt`).

Owns: conversion of integers, and the string form of integral numbers.
Does not own: which number is nearest (`Nearest`), and other string forms (`StringForm`).
-/

namespace RuleTree

namespace Number

/-! ## Conversion keeps the order -/

/-- Of two values in order, the nearest numbers are in that order. -/
theorem rational?_le_of_nearest {exact exact' : ℚ} {left right : Number}
    (first : Nearest exact left) (second : Nearest exact' right) (ordered : exact ≤ exact') :
    ∃ low high, left.rational? = some low ∧ right.rational? = some high ∧ low ≤ high := by
  obtain ⟨low, leftIs, leftNearest⟩ := id first
  obtain ⟨high, rightIs, rightNearest⟩ := id second
  refine ⟨low, high, leftIs, rightIs, ?_⟩
  by_contra crossed
  -- Both values can only be the middle between the two numbers.
  have above : low + high ≤ 2 * exact := by
    have near := (leftNearest right high rightIs).1
    rcases abs_cases (exact - low) with ⟨distance, sign⟩ | ⟨distance, sign⟩ <;>
      rcases abs_cases (exact - high) with ⟨distance', sign'⟩ | ⟨distance', sign'⟩ <;> linarith
  have below : 2 * exact' ≤ low + high := by
    have near := (rightNearest left low leftIs).1
    rcases abs_cases (exact' - low) with ⟨distance, sign⟩ | ⟨distance, sign⟩ <;>
      rcases abs_cases (exact' - high) with ⟨distance', sign'⟩ | ⟨distance', sign'⟩ <;> linarith
  obtain rfl : exact = exact' := by linarith
  have same := rational?_eq_of_nearest first second
  rw [leftIs, rightIs, Option.some.injEq] at same
  exact crossed same.le

/-- The integers of 64 bits are within the range of the numbers. -/
theorem lt_rangeEnd {magnitude : Nat} (small : magnitude ≤ 2 ^ 63) : magnitude < rangeEnd := by
  have powers : ∀ exponent, 64 ≤ exponent → 2 ^ 64 ≤ Nat.pow 2 exponent :=
    fun _ => Nat.pow_le_pow_right (by decide)
  have spacing : 2 ^ 64 ≤ halfSpacing := by
    unfold halfSpacing
    exact powers 970 (by decide)
  unfold rangeEnd
  omega

theorem rational?_ofInt_mono {value other : ℤ} (inRange : value.natAbs < rangeEnd)
    (otherInRange : other.natAbs < rangeEnd) (ordered : value ≤ other) :
    ∃ low high, (ofInt value).rational? = some low ∧ (ofInt other).rational? = some high ∧
      low ≤ high := by
  apply rational?_le_of_nearest (nearest_ofInt inRange) (nearest_ofInt otherInRange)
  exact_mod_cast ordered

/-! ## Integers that are numbers -/

/-- A positive integer up to `2 ^ 53` has a significand, with zeros behind it. -/
theorem exists_shift {integer : Nat} (positive : 0 < integer) (small : integer ≤ 2 ^ 53) :
    ∃ shift ≤ 52, 2 ^ 52 ≤ integer * 2 ^ shift ∧ integer * 2 ^ shift ≤ 2 ^ 53 := by
  rcases Nat.eq_or_lt_of_le small with rfl | below
  · exact ⟨0, by omega, by omega, by omega⟩
  · have length : integer.log2 < 53 := (Nat.log2_lt positive.ne').mpr below
    refine ⟨52 - integer.log2, Nat.sub_le _ _, ?_, ?_⟩
    · calc 2 ^ 52
          = 2 ^ integer.log2 * 2 ^ (52 - integer.log2) := by
            rw [← Nat.pow_add, Nat.add_sub_cancel' (by omega)]
        _ ≤ integer * 2 ^ (52 - integer.log2) :=
            Nat.mul_le_mul_right _ (Nat.log2_self_le positive.ne')
    · calc integer * 2 ^ (52 - integer.log2)
          ≤ 2 ^ (integer.log2 + 1) * 2 ^ (52 - integer.log2) :=
            Nat.mul_le_mul_right _ Nat.lt_log2_self.le
        _ = 2 ^ 53 := by
            rw [← Nat.pow_add, Nat.add_right_comm, Nat.add_sub_cancel' (by omega)]

theorem exists_units_integer {integer : Nat} (small : integer ≤ 2 ^ 53) :
    ∃ position, units position = integer * unitsPerOne := by
  rcases Nat.eq_zero_or_pos integer with rfl | positive
  · exact ⟨0, by simp⟩
  · obtain ⟨shift, within, normal, bounded⟩ := exists_shift positive small
    obtain ⟨spacing, total⟩ := Nat.exists_eq_add_of_le (within.trans (show 52 ≤ 1074 by decide))
    have one : unitsPerOne = 2 ^ shift * 2 ^ spacing := by
      unfold unitsPerOne
      rw [total]
      exact Nat.pow_add 2 shift spacing
    refine ⟨spacing * 2 ^ 52 + integer * 2 ^ shift, ?_⟩
    rw [units_of_significand bounded (.inr normal), one, Nat.mul_assoc]

/-- An integer up to `2 ^ 53` is converted to its own value. -/
theorem rational?_ofInt {value : ℤ} (small : value.natAbs ≤ 2 ^ 53) :
    (ofInt value).rational? = some (value : ℚ) := by
  obtain ⟨position, exactly⟩ := exists_units_integer small
  have onePositive := unitsPerOne_pos
  have oneNonzero := cast_unitsPerOne_pos.ne'
  have inRange : position < magnitudes := by
    rw [← nearestPosition_units position, exactly]
    apply nearestPosition_lt_magnitudes Nat.one_pos
    rw [Nat.mul_one]
    exact Nat.mul_lt_mul_of_pos_right (lt_rangeEnd (by omega)) onePositive
  have sign := signed_mul (decide (value < 0)) value.natAbs unitsPerOne
  rw [signed_natAbs, ← exactly] at sign
  rw [ofInt, ofUnits, ← exactly, nearestPosition_units, ofPosition, dif_pos inRange,
    rational?_finite, ← sign, Int.cast_mul, Int.cast_natCast, mul_div_cancel_right₀ _ oneNonzero]

/-- Below `2 ^ 53` no other integer is converted to the same value. -/
theorem eq_of_rational?_ofInt {value other : ℤ} (small : value.natAbs < 2 ^ 53)
    (inRange : other.natAbs < rangeEnd) (same : (ofInt other).rational? = some (value : ℚ)) :
    other = value := by
  have next : ∀ neighbour : ℤ, neighbour.natAbs ≤ 2 ^ 53 → neighbour.natAbs < rangeEnd :=
    fun neighbour near => lt_rangeEnd (by omega)
  rcases lt_trichotomy other value with less | equal | more
  · obtain ⟨low, high, lowIs, highIs, ordered⟩ :=
      rational?_ofInt_mono inRange (next (value - 1) (by omega)) (Int.le_sub_one_of_lt less)
    rw [same, Option.some.injEq] at lowIs
    rw [rational?_ofInt (by omega), Option.some.injEq] at highIs
    rw [← lowIs, ← highIs, Int.cast_le] at ordered
    omega
  · exact equal
  · obtain ⟨low, high, lowIs, highIs, ordered⟩ :=
      rational?_ofInt_mono (next (value + 1) (by omega)) inRange (Int.add_one_le_of_lt more)
    rw [rational?_ofInt (by omega), Option.some.injEq] at lowIs
    rw [same, Option.some.injEq] at highIs
    rw [← lowIs, ← highIs, Int.cast_le] at ordered
    omega

/-! ## The shortest decimal of an integral number -/

/-- With a digit behind the point, a decimal is at most the power of ten with one digit less. -/
theorem decimalUnits_le_of_fraction {digits power : Nat} {exponent : ℤ} (fraction : exponent < 0)
    (few : digits < 10 ^ (power + 1)) :
    decimalUnits digits exponent ≤ decimalUnits 1 power := by
  have tenth : (10 : ℚ) ^ exponent ≤ 10 ^ (-1 : ℤ) :=
    zpow_le_zpow_right₀ (by norm_num) (by omega)
  have bound : (digits : ℚ) * 10 ^ exponent ≤ 10 ^ power :=
    calc (digits : ℚ) * 10 ^ exponent
        ≤ 10 ^ (power + 1) * 10 ^ (-1 : ℤ) := by
          gcongr
          exact_mod_cast few.le
      _ = 10 ^ power := by
          rw [pow_succ, zpow_neg_one, mul_assoc, mul_inv_cancel₀ (by norm_num), mul_one]
  unfold decimalUnits
  rw [Nat.cast_one, one_mul, zpow_natCast]
  gcongr

/-- The shortest decimal of an integral number has no digit behind the point. If it had one,
the power of ten below the integer would lie between the two, and one digit tells that. -/
theorem shortest_exponent_nonneg {tie : TieRule} {position integer : Nat}
    (value : units position = integer * unitsPerOne) (large : 1 < integer) :
    0 ≤ (shortest tie position).exponent := by
  have onePositive := cast_unitsPerOne_pos
  have nonzero : position ≠ 0 := by
    rintro rfl
    rw [units_zero, eq_comm, Nat.mul_eq_zero] at value
    rcases value with zero | zero
    · omega
    · exact unitsPerOne_pos.ne' zero
  have integerReads : decimalPosition integer 0 = position := by
    rw [decimalPosition_integer, ← value, nearestPosition_units]
  have reads := shortest_reads tie position
  have fewest : ∀ {digits exponent count}, decimalPosition digits exponent = position →
      digits < 10 ^ count → (shortest tie position).digits < 10 ^ count :=
    shortest_fewest tie nonzero
  generalize (shortest tie position).digits = digits at *
  generalize (shortest tie position).exponent = exponent at *
  by_contra negative
  have fraction : exponent < 0 := not_le.mp negative
  have single : digits < 10 ^ (0 + 1) := by
    have power : decimalPosition 1 (Nat.log 10 integer) = position := by
      have few := fewest integerReads (Nat.lt_pow_succ_log_self (by decide) integer)
      refine decimalPosition_between reads (.inl ⟨decimalUnits_le_of_fraction fraction few, ?_⟩)
      rw [decimalUnits, Nat.cast_one, one_mul, zpow_natCast, value, Nat.cast_mul]
      gcongr
      exact_mod_cast Nat.pow_log_le_self 10 (by omega)
    exact fewest power (by decide)
  -- One digit behind the point is less than one, too far from any other integer.
  have close := decimalPosition_close (units_integer_normal value nonzero) reads
  have small := decimalUnits_le_of_fraction fraction single
  rw [abs_sub_comm] at close
  have distance := le_abs_self (units position - decimalUnits digits exponent)
  have exactly : (2 : ℚ) * unitsPerOne ≤ units position := by
    exact_mod_cast value ▸ Nat.mul_le_mul_right unitsPerOne large
  have one : decimalUnits 1 (0 : Nat) = unitsPerOne := by simp [decimalUnits]
  linarith

end Number

/-! ## Numerals -/

/-- Zeros behind the numeral of an integer multiply it by ten each. -/
theorem toDigits_mul_ten_pow {value : Nat} (nonzero : value ≠ 0) (up : Nat) :
    Nat.toDigits 10 (value * 10 ^ up) = Nat.toDigits 10 value ++ List.replicate up '0' := by
  induction up with
  | zero => simp
  | succ up inductionHypothesis =>
      have positive : 0 < value * 10 ^ up := by positivity
      have next := Nat.toDigits_append_toDigits (by decide) positive (show 0 < 10 by decide)
      have product : value * 10 ^ (up + 1) = 10 * (value * 10 ^ up) + 0 := by ring
      rw [product, ← next, inductionHypothesis, List.replicate_succ', List.append_assoc]
      rfl

theorem integerNumeral_signed {magnitude : Nat} (nonzero : magnitude ≠ 0) (negative : Bool) :
    integerNumeral (Number.signed negative magnitude) =
      Number.withSign negative (Nat.toDigits 10 magnitude) := by
  rw [integerNumeral, Number.natAbs_signed]
  cases negative with
  | false => simp [Number.signed, Number.withSign]
  | true => simp [Number.signed, Number.withSign, Nat.pos_of_ne_zero nonzero]

/-- A numeral is what integers are written as. -/
theorem ofList_integerNumeral (value : ℤ) :
    String.ofList (integerNumeral value) = toString value := by
  cases value with
  | ofNat magnitude => rfl
  | negSucc magnitude =>
      rw [integerNumeral, if_pos (Int.negSucc_lt_zero magnitude), String.ofList_append]
      rfl

/-- A decimal without digits behind the point is laid out as the numeral of its value. -/
theorem Decimal.plain_integral {decimal : Decimal} {up : Nat} (nonzero : decimal.digits ≠ 0)
    (exponent : decimal.exponent = up) :
    decimal.plain = Nat.toDigits 10 (decimal.digits * 10 ^ up) := by
  rw [toDigits_mul_ten_pow nonzero]
  simp only [plain, exponent, digitChars]

namespace Number

theorem ofInt_signed {magnitude : Nat} (nonzero : magnitude ≠ 0) (negative : Bool) :
    ofInt (signed negative magnitude) = ofPosition negative (decimalPosition magnitude 0) := by
  have sign : decide (signed negative magnitude < 0) = negative := by
    cases negative <;> simp [signed, Nat.pos_of_ne_zero nonzero]
  rw [ofInt, ofUnits, sign, natAbs_signed, decimalPosition_integer]

theorem units_of_integral {negative : Bool} {position : Fin magnitudes} {value : ℤ}
    (integral : (Number.finite negative position).rational? = some (value : ℚ)) :
    units position = value.natAbs * unitsPerOne := by
  have oneNonzero := cast_unitsPerOne_pos.ne'
  rw [rational?_finite, Option.some.injEq, div_eq_iff oneNonzero] at integral
  have exactly : signed negative (units position) = value * unitsPerOne := by
    exact_mod_cast integral
  rw [← natAbs_signed negative (units position), exactly, Int.natAbs_mul, Int.natAbs_natCast]

theorem decimalPosition_lt_magnitudes_of_integer {magnitude : Nat} :
    decimalPosition magnitude 0 < magnitudes ↔ magnitude < rangeEnd := by
  rw [decimalPosition_lt_magnitudes_iff, decimalUnits, zpow_zero, mul_one,
    mul_lt_mul_iff_left₀ cast_unitsPerOne_pos, Nat.cast_lt]

/-- The shortest digits of an integral number, with the zeros behind them, are the numeral of an
integer that is converted to it. -/
theorem exists_numeral_shortest {negative : Bool} {position : Fin magnitudes} {value : ℤ}
    (integral : (Number.finite negative position).rational? = some (value : ℚ))
    (short : (Number.finite negative position).shortInteger? = none) :
    ∃ numeral : ℤ, withSign negative (shortest .up position).plain = integerNumeral numeral ∧
      (ofInt numeral).rational? = some (value : ℚ) ∧ numeral.natAbs < rangeEnd := by
  have large : 10 ^ 15 ≤ value.natAbs := by
    by_contra small
    have written := shortInteger?_eq_some_iff.mpr ⟨integral, by omega⟩
    exact nomatch short.symm.trans written
  have exponentSign : 0 ≤ (shortest .up position).exponent :=
    shortest_exponent_nonneg (units_of_integral integral) (by omega)
  obtain ⟨up, exponent⟩ := Int.eq_ofNat_of_zero_le exponentSign
  have nonzero := shortest_digits_ne_zero .up (position_ne_zero_of_fractional short)
  have layout := Decimal.plain_integral nonzero exponent
  have reads := shortest_reads .up position
  rw [exponent] at reads
  have written : (shortest .up position).digits * 10 ^ up ≠ 0 := by positivity
  have rounded : decimalPosition ((shortest .up position).digits * 10 ^ up) 0 = position := by
    rw [decimalPosition_congr (decimalUnits_shift _ up 0), zero_add]
    exact reads
  refine ⟨signed negative ((shortest .up position).digits * 10 ^ up), ?_, ?_, ?_⟩
  · rw [integerNumeral_signed written, ← layout]
  · rw [ofInt_signed written, rounded, ofPosition, dif_pos position.isLt]
    exact integral
  · rw [natAbs_signed]
    exact decimalPosition_lt_magnitudes_of_integer.mp (rounded.trans_lt position.isLt)

/-- **The string form of an integral number is the numeral of an integer that is converted to
it**, on both paths. -/
theorem exists_numeral {number : Number} {value : ℤ}
    (integral : number.rational? = some (value : ℚ)) :
    ∃ numeral : ℤ, number.text = integerNumeral numeral ∧
      (ofInt numeral).rational? = some (value : ℚ) ∧ numeral.natAbs < rangeEnd := by
  cases number with
  | finite negative position =>
      rw [text]
      cases short : (Number.finite negative position).shortInteger? with
      | some written =>
          obtain ⟨exact, small⟩ := shortInteger?_eq_some_iff.mp short
          rw [integral, Option.some_inj, Int.cast_inj] at exact
          subst exact
          exact ⟨value, rfl, rational?_ofInt (by omega), lt_rangeEnd (by omega)⟩
      | none => exact exists_numeral_shortest integral short
  | _ => cases integral

/-- The string form of an integer up to `2 ^ 53` is its numeral. -/
theorem text_ofInt {value : ℤ} (small : value.natAbs ≤ 2 ^ 53) :
    (ofInt value).text = integerNumeral value := by
  -- The next integer after `2 ^ 53` is converted to the same value, but is farther from it.
  have largest : (ofInt (2 ^ 53)).text = integerNumeral (2 ^ 53) := by decide +kernel
  have least : (ofInt (-2 ^ 53)).text = integerNumeral (-2 ^ 53) := by decide +kernel
  by_cases below : value.natAbs < 2 ^ 53
  · have integral := rational?_ofInt small
    obtain ⟨numeral, written, same, inRange⟩ := exists_numeral integral
    rw [written, eq_of_rational?_ofInt below inRange same]
  · obtain rfl | rfl : value = 2 ^ 53 ∨ value = -2 ^ 53 := by omega
    · exact largest
    · exact least

end Number

/-! ## Documents of integers -/

/-- The numeral of an integer in range is read as the integer. -/
theorem Json.read?_numeral {value : ℤ} (inRange : value.natAbs < Number.rangeEnd) (depth : Nat) :
    Json.read? depth (toString value) = some (.integer value) := by
  have bounded := Number.decimalPosition_lt_magnitudes_of_integer.mpr inRange
  have number := Literal.number?_ofInt endsLiteral_nil bounded
  obtain ⟨first, others, chars, numeric⟩ := (Literal.ofInt value).exists_chars_eq
  rw [List.append_nil, chars] at number
  rw [← ofList_integerNumeral, ← Literal.ofInt_chars, chars, read?]
  simp only [String.toList_ofList, value?_number numeric, number]
  rfl

namespace Value

theorem number?_ofInt_bind (value : ℤ) :
    (ofInt value).number?.bind Number.rational? = (Number.ofInt value).rational? := by
  rw [ofInt, number?, Option.bind_some]

/-- **Integers keep their value and their order.**

An integer of 64 bits is converted to the nearest number, and its numeral, read as JSON at any
depth, decodes to the same value. Up to `2 ^ 53` the string form of that value is the numeral
again, and below `10 ^ 15` its document is the integer. Of two integers in order the converted
numbers are in that order. -/
theorem integers_keep_value (integer : Int64) :
    (∃ number, ofInt integer.toInt = .number number ∧ number.Nearest integer.toInt) ∧
    (∀ depth, ∃ document, Json.read? depth (toString integer.toInt) = some document ∧
      decode document = .ok (ofInt integer.toInt)) ∧
    decode (.integer integer.toInt) = .ok (ofInt integer.toInt) ∧
    (integer.toInt.natAbs ≤ 2 ^ 53 → (ofInt integer.toInt).text = toString integer.toInt) ∧
    (integer.toInt.natAbs < 10 ^ 15 → (ofInt integer.toInt).encode = .integer integer.toInt) ∧
    ∀ other : Int64, integer ≤ other → ∃ low high,
      (ofInt integer.toInt).number?.bind Number.rational? = some low ∧
      (ofInt other.toInt).number?.bind Number.rational? = some high ∧ low ≤ high := by
  have inRange : ∀ integer : Int64, integer.toInt.natAbs < Number.rangeEnd := by
    intro integer
    have least := integer.le_toInt
    have most := integer.toInt_lt
    exact Number.lt_rangeEnd (by omega)
  refine ⟨⟨_, rfl, Number.nearest_ofInt (inRange integer)⟩, ?_, rfl, ?_, ?_, ?_⟩
  · intro depth
    exact ⟨_, Json.read?_numeral (inRange integer) depth, rfl⟩
  · intro small
    rw [ofInt, text, chars, Number.text_ofInt small, ofList_integerNumeral]
  · intro small
    apply Number.encode_eq_integer_iff.mpr
    exact ⟨Number.rational?_ofInt (by omega), small⟩
  · intro other ordered
    rw [number?_ofInt_bind, number?_ofInt_bind]
    apply Number.rational?_ofInt_mono (inRange integer) (inRange other)
    exact Int64.le_iff_toInt_le.mp ordered

/-- The last integer that keeps its numeral, and the last that is encoded as an integer. -/
theorem integers_keep_value_ends :
    (ofInt (9007199254740992 : Int64).toInt).text = "9007199254740992" ∧
      (ofInt (-999999999999999 : Int64).toInt).encode = .integer (-999999999999999) := by
  have last : (9007199254740992 : Int64).toInt = 9007199254740992 := by decide
  have lastShort : (-999999999999999 : Int64).toInt = -999999999999999 := by decide
  obtain ⟨-, -, -, numeral, -⟩ := integers_keep_value 9007199254740992
  obtain ⟨-, -, -, -, encoding, -⟩ := integers_keep_value (-999999999999999)
  constructor
  · rw [numeral (by rw [last]; decide), last]
    decide +kernel
  · rw [encoding (by rw [lastShort]; decide), lastShort]

end Value

end RuleTree
