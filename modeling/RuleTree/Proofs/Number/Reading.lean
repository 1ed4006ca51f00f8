import RuleTree.Proofs.Json.Literal
import RuleTree.Proofs.Number.Fewest

/-!
Contract: which decimals are read as a number.

Two numbers that are both nearest to one exact value would have even positions and an odd one
between them, which would be nearer; so they have the same value (`rational?_eq_of_nearest`),
and a literal is read as a number in just one way: by rounding its value
(`Json.Literal.position_of_reads`). The values that are out of range start in the middle
above the largest finite magnitude (`decimalPosition_lt_magnitudes_iff`), and what is read of
the text of a literal is the rounded number (`ofText?_chars`).

Owns: the exact value of a literal and what it is read as. Does not own: which literals are
written (`Proofs.Number.StringForm`).
-/

namespace RuleTree

namespace Number

/-! ## Only one value is nearest -/

/-- The exact value, in units, at a place among all finite numbers by their size. -/
def unitsAt (place : ℤ) : ℤ :=
  signed (decide (place < 0)) (units place.natAbs)

theorem unitsAt_signed (negative : Bool) (position : Nat) :
    unitsAt (signed negative position) = signed negative (units position) := by
  rcases Nat.eq_zero_or_pos position with rfl | positive
  · rw [signed_zero, units_zero, signed_zero]
    rfl
  · rw [unitsAt, natAbs_signed]
    congr 1
    cases negative <;> simp [signed, positive]

theorem unitsAt_lt_iff {left right : ℤ} : unitsAt left < unitsAt right ↔ left < right := by
  refine (strictMono_int_of_lt_succ fun place => ?_).lt_iff_lt
  cases place with
  | ofNat position =>
    have next := units_lt_units_succ position
    change unitsAt (signed false position) < unitsAt (signed false (position + 1))
    rw [unitsAt_signed, unitsAt_signed]
    exact Int.ofNat_lt.2 next
  | negSucc position =>
    have next := units_lt_units_succ position
    have up : Int.negSucc position + 1 = signed true position := by
      simp only [signed, if_true]
      omega
    rw [up]
    change unitsAt (signed true (position + 1)) < unitsAt (signed true position)
    rw [unitsAt_signed, unitsAt_signed]
    exact Int.neg_lt_neg (Int.ofNat_lt.2 next)

theorem unitsAt_inj {left right : ℤ} : unitsAt left = unitsAt right ↔ left = right := by
  refine ⟨fun same => le_antisymm ?_ ?_, congrArg unitsAt⟩
  · exact not_lt.1 fun above => (unitsAt_lt_iff.2 above).ne' same
  · exact not_lt.1 fun below => (unitsAt_lt_iff.2 below).ne same

theorem exists_rational?_at (place : ℤ) (inRange : place.natAbs < magnitudes) :
    ∃ number, rational? number = some (unitsAt place / unitsPerOne : ℚ) :=
  ⟨.finite (decide (place < 0)) ⟨place.natAbs, inRange⟩, rfl⟩

theorem exists_place {number : Number} {value : ℚ} (here : number.rational? = some value) :
    ∃ place, value = (unitsAt place / unitsPerOne : ℚ) ∧ place.natAbs < magnitudes ∧
      (number.IsEven → place % 2 = 0) := by
  cases number with
  | finite negative position =>
    refine ⟨signed negative position, ?_, (natAbs_signed _ _).trans_lt position.isLt, ?_⟩
    · rw [unitsAt_signed]
      exact (Option.some.inj here).symm
    · intro even
      change position.val % 2 = 0 at even
      cases negative <;> simp only [signed, if_true, Bool.false_eq_true, if_false] <;> omega
  | _ => cases here

/-- Between two even numbers there is a number. -/
theorem exists_between_even {left right : Number} {leftValue rightValue : ℚ}
    (leftIs : left.rational? = some leftValue) (rightIs : right.rational? = some rightValue)
    (leftEven : left.IsEven) (rightEven : right.IsEven) (ordered : leftValue < rightValue) :
    ∃ middle value, rational? middle = some value ∧ leftValue < value ∧ value < rightValue := by
  obtain ⟨leftPlace, rfl, leftRange, leftEven'⟩ := exists_place leftIs
  obtain ⟨rightPlace, rfl, rightRange, rightEven'⟩ := exists_place rightIs
  have leftParity := leftEven' leftEven
  have rightParity := rightEven' rightEven
  have scale := cast_unitsPerOne_pos
  rw [div_lt_div_iff_of_pos_right scale, Int.cast_lt, unitsAt_lt_iff] at ordered
  have above : leftPlace < leftPlace + 1 := by omega
  have below : leftPlace + 1 < rightPlace := by omega
  obtain ⟨middle, middleIs⟩ := exists_rational?_at (leftPlace + 1) (by omega)
  refine ⟨middle, _, middleIs, ?_, ?_⟩
  · rw [div_lt_div_iff_of_pos_right scale, Int.cast_lt, unitsAt_lt_iff]
    exact above
  · rw [div_lt_div_iff_of_pos_right scale, Int.cast_lt, unitsAt_lt_iff]
    exact below

/-- A value in the middle between two numbers has neither nearest if another is between. -/
theorem not_nearest_of_between {exact leftValue rightValue value : ℚ} {left middle : Number}
    (nearest : Nearest exact left) (leftIs : left.rational? = some leftValue)
    (middleIs : middle.rational? = some value) (above : leftValue < value)
    (below : value < rightValue) (tied : |exact - leftValue| = |exact - rightValue|) : False := by
  obtain ⟨_, leftIs', closest⟩ := nearest
  obtain rfl := Option.some.inj (leftIs.symm.trans leftIs')
  have closer := (closest middle value middleIs).1
  have half : exact - leftValue = rightValue - exact := by
    rcases abs_eq_abs.1 tied with same | opposite <;> linarith
  have positive : 0 < exact - leftValue := by linarith
  rw [abs_of_pos positive, le_abs] at closer
  rcases closer with closer | closer <;> linarith

theorem rational?_eq_of_nearest {exact : ℚ} {left right : Number}
    (first : Nearest exact left) (second : Nearest exact right) :
    left.rational? = right.rational? := by
  obtain ⟨leftValue, leftIs, leftNearest⟩ := id first
  obtain ⟨rightValue, rightIs, rightNearest⟩ := id second
  have tied : |exact - leftValue| = |exact - rightValue| :=
    le_antisymm (leftNearest right rightValue rightIs).1 (rightNearest left leftValue leftIs).1
  rw [leftIs, rightIs, Option.some.injEq]
  rcases (leftNearest right rightValue rightIs).2 tied with same | leftEven
  · exact same.symm
  rcases (rightNearest left leftValue leftIs).2 tied.symm with same | rightEven
  · exact same
  rcases lt_trichotomy leftValue rightValue with less | same | more
  · obtain ⟨middle, value, middleIs, above, below⟩ :=
      exists_between_even leftIs rightIs leftEven rightEven less
    exact (not_nearest_of_between first leftIs middleIs above below tied).elim
  · exact same
  · obtain ⟨middle, value, middleIs, above, below⟩ :=
      exists_between_even rightIs leftIs rightEven leftEven more
    exact (not_nearest_of_between second rightIs middleIs above below tied.symm).elim

/-! ## Decimals in range -/

/-- A decimal is rounded to a finite number below the end of the range. -/
theorem decimalPosition_lt_magnitudes_iff {digits : Nat} {exponent : Int} :
    decimalPosition digits exponent < magnitudes ↔
      decimalUnits digits exponent < rangeEnd * unitsPerOne := by
  constructor
  · intro inRange
    by_contra beyond
    have endUnits : decimalUnits rangeEnd 0 = rangeEnd * unitsPerOne := by
      rw [decimalUnits, zpow_zero, mul_one]
    have outside : magnitudes ≤ decimalPosition rangeEnd 0 := by decide +kernel
    have ordered := decimalPosition_mono (endUnits.trans_le (not_lt.1 beyond))
    omega
  · intro below
    obtain ⟨numerator, denominator, positive, nearest, ratio⟩ := exists_ratio digits exponent
    rw [nearest]
    apply nearestPosition_lt_magnitudes positive
    have scaled : (numerator : ℚ) < rangeEnd * unitsPerOne * denominator := by
      rw [ratio]
      gcongr
    exact_mod_cast scaled

end Number

namespace Json.Literal

/-! ## The value of a literal -/

/-- The exact value. -/
def value (literal : Literal) : ℚ :=
  Number.signed literal.negative literal.digits * 10 ^ literal.exponent

/-- The literal is in range and nearest to the number. -/
def Reads (literal : Literal) (number : Number) : Prop :=
  |literal.value| < Number.rangeEnd ∧ Number.Nearest literal.value number

open Number (unitsPerOne unitsPerOne_pos decimalPosition decimalUnits magnitudes)

variable (literal : Literal)

theorem abs_value_mul :
    |literal.value| * unitsPerOne = decimalUnits literal.digits literal.exponent := by
  have magnitude :
      |((Number.signed literal.negative literal.digits : ℤ) : ℚ)| = literal.digits := by
    rw [← Int.cast_abs, Int.abs_eq_natAbs, Number.natAbs_signed, Int.cast_natCast]
  rw [value, abs_mul, magnitude, abs_of_pos (show (0 : ℚ) < 10 ^ literal.exponent by positivity),
    decimalUnits]

theorem abs_value_lt_iff : |literal.value| < Number.rangeEnd ↔
    decimalPosition literal.digits literal.exponent < magnitudes := by
  have scale := Number.cast_unitsPerOne_pos
  rw [Number.decimalPosition_lt_magnitudes_iff, ← abs_value_mul, mul_lt_mul_iff_left₀ scale]

/-- Rounding gives the nearest number. -/
theorem nearest_ofPosition
    (inRange : decimalPosition literal.digits literal.exponent < magnitudes) :
    Number.Nearest literal.value
      (.ofPosition literal.negative (decimalPosition literal.digits literal.exponent)) := by
  obtain ⟨numerator, denominator, positive, nearest, ratio⟩ :=
    Number.exists_ratio literal.digits literal.exponent
  rw [nearest] at inRange ⊢
  refine Number.nearest_ofUnits positive ?_ inRange
  rw [← mul_assoc]
  cases sign : literal.negative with
  | false =>
    simp only [value, sign, Number.signed, Bool.false_eq_true, if_false, Int.cast_natCast, ratio,
      decimalUnits]
  | true =>
    simp only [value, sign, Number.signed, if_true, Int.cast_neg, Int.cast_natCast, ratio,
      decimalUnits, neg_mul]

theorem reads_of_position {position : Fin magnitudes}
    (rounded : decimalPosition literal.digits literal.exponent = position) :
    literal.Reads (.finite literal.negative position) := by
  have inRange : decimalPosition literal.digits literal.exponent < magnitudes :=
    rounded ▸ position.isLt
  have nearest := literal.nearest_ofPosition inRange
  rw [Number.ofPosition, dif_pos inRange] at nearest
  obtain rfl : ⟨_, inRange⟩ = position := Fin.ext rounded
  exact ⟨literal.abs_value_lt_iff.2 inRange, nearest⟩

/-- A literal that is read as a number is rounded to it. -/
theorem position_of_reads {negative : Bool} {position : Fin magnitudes}
    (reads : literal.Reads (.finite negative position)) :
    decimalPosition literal.digits literal.exponent = position := by
  have inRange := literal.abs_value_lt_iff.1 reads.1
  have same := Number.rational?_eq_of_nearest (literal.nearest_ofPosition inRange) reads.2
  have oneNonzero := Number.cast_unitsPerOne_pos.ne'
  rw [Number.ofPosition, dif_pos inRange, Number.rational?_finite, Number.rational?_finite,
    Option.some.injEq, div_left_inj' oneNonzero, Int.cast_inj] at same
  have magnitude := congrArg Int.natAbs same
  rw [Number.natAbs_signed, Number.natAbs_signed] at magnitude
  exact Number.units_strictMono.injective magnitude

/-! ## Reading the text of a literal -/

theorem toLower_of_isDigit {c : Char} (digit : c.isDigit = true) : c.toLower = c := by
  have most : c.toNat ≤ 57 := (Char.isDigit_iff_toNat.1 digit).2
  have small : ¬ (c.val ≥ 'A'.val ∧ c.val ≤ 'Z'.val) := by
    rintro ⟨capital, -⟩
    have least : 65 ≤ c.toNat := UInt32.le_iff_toNat_le.1 capital
    omega
  exact dif_neg small

theorem spanSign_withSign {negative : Bool} {first : Char} {others : List Char}
    (digit : first.isDigit = true) :
    spanSign (Number.withSign negative (first :: others)) = (negative, first :: others) := by
  cases negative with
  | true => rfl
  | false =>
    have noMinus : first ≠ '-' := by rintro rfl; cases digit
    have noPlus : first ≠ '+' := by rintro rfl; cases digit
    simp [Number.withSign, spanSign, noMinus, noPlus]

/-- A text that starts with a digit is none of the words for NaN and the infinities. -/
theorem ofList_toLower_ne {first letter : Char} {others letters : List Char}
    (digit : first.isDigit = true) (word : letter.isDigit = false) :
    String.ofList ((first :: others).map Char.toLower) ≠ String.ofList (letter :: letters) := by
  intro same
  have heads := List.cons.inj (String.ofList_inj.1 same)
  rw [toLower_of_isDigit digit] at heads
  rw [heads.1, word] at digit
  cases digit

/-- A literal is read as its value rounded. -/
theorem ofText?_chars : Number.ofText? literal.chars =
    some (.ofDecimal literal.negative literal.digits literal.exponent) := by
  obtain ⟨first, others, whole, -⟩ := literal.whole_leads
  have digit : first.isDigit = true := literal.whole_digits first (whole ▸ List.mem_cons_self)
  have ends : EndsLiteral [] := nofun
  have powerStops := powerChars_stops ends literal.power
  have powerRead := spanExponent?_powerChars ends literal.power
  rw [List.append_nil] at powerStops powerRead
  have wholeRead := spanDigits_append literal.whole_digits
    (decimalsChars_stops literal.decimals powerStops)
  have unsigned : spanSign literal.chars = (literal.negative, literal.whole ++
      (decimalsChars literal.decimals ++ powerChars literal.power)) := by
    rw [chars, whole, List.cons_append, spanSign_withSign digit]
  have nonempty : literal.whole ≠ [] := by
    rw [whole]
    exact List.cons_ne_nil first others
  simp only [Number.ofText?, unsigned]
  split
  · next word =>
    rw [whole] at word
    exact absurd word (ofList_toLower_ne digit rfl)
  · next word =>
    rw [whole] at word
    exact absurd word (ofList_toLower_ne digit rfl)
  · next word =>
    rw [whole] at word
    exact absurd word (ofList_toLower_ne digit rfl)
  · rw [wholeRead]
    cases given : literal.decimals with
    | none =>
      have noPoint : ∀ rest, powerChars literal.power ≠ '.' :: rest := by
        intro rest point
        exact (powerStops '.' (by rw [point]; rfl)).2 rfl
      simp only [decimalsChars, List.nil_append]
      simp [powerRead, Literal.digits, exponent, given, nonempty]
    | some decimals =>
      have decimalsRead := spanDigits_append (literal.decimals_digits decimals given).2
        fun next member => (powerStops next member).1
      simp [powerRead, Literal.digits, exponent, given, decimalsChars, decimalsRead, nonempty]

end Json.Literal

end RuleTree
