import Mathlib.Data.List.DropRight
import RuleTree.Proofs.Json.Conversion
import RuleTree.Proofs.Number.Reading
import RuleTree.Proofs.Value.Equality

/-!
Contract: the string form of a number is plain, is read back, and is shortest.

The plain layout has three shapes: digits and zeros, a point between the digits, and zeros
between the point and the digits (`Decimal.exists_plainLiteral`). With the integers of the
other path that makes a literal without a power of ten for every finite number
(`Number.exists_writesPlain`). A literal with fewer significant digits that is read as the
number would lead to a decimal of the number's own value with fewer digits, and the
significant digits of a literal are the fewest of its value
(`Json.Literal.significant_length_le`).

Owns: the law of the string form. Does not own: how many digits it takes
(`Proofs.Number.Fewest`) or what a literal is read as (`Proofs.Number.Reading`).
-/

namespace RuleTree

open Json (Literal)

/-! ## Significant digits -/

theorem digit_value {digit : Char} (isDigit : digit.isDigit = true) :
    digitsValue [digit] < 10 ∧ (digitsValue [digit] = 0 → digit = '0') := by
  obtain ⟨least, most⟩ : 48 ≤ digit.toNat ∧ digit.toNat ≤ 57 := Char.isDigit_iff_toNat.1 isDigit
  have value : digitsValue [digit] = digit.toNat - 48 := by
    change 10 * 0 + (digit.toNat - 48) = digit.toNat - 48
    omega
  rw [value]
  refine ⟨by omega, fun zero => ?_⟩
  have same : digit.toNat = '0'.toNat := by
    change digit.toNat = 48
    omega
  exact Char.toNat_inj.1 same

theorem digitsValue_lt {digits : List Char} (all : ∀ digit ∈ digits, digit.isDigit = true) :
    digitsValue digits < 10 ^ digits.length := by
  induction digits with
  | nil => exact Nat.one_pos
  | cons digit digits inductionHypothesis =>
    have rest := inductionHypothesis fun other member => all other (List.mem_cons_of_mem _ member)
    have first := (digit_value (all digit List.mem_cons_self)).1
    calc digitsValue ([digit] ++ digits)
        = digitsValue [digit] * 10 ^ digits.length + digitsValue digits := digitsValue_append _ _
      _ < (digitsValue [digit] + 1) * 10 ^ digits.length := by
          rw [Nat.succ_mul]
          exact Nat.add_lt_add_left rest _
      _ ≤ 10 * 10 ^ digits.length := Nat.mul_le_mul_right _ first
      _ = 10 ^ (digits.length + 1) := (Nat.pow_succ').symm

/-- The digits from the first to the last that is not zero. -/
def significantDigits (digits : List Char) : List Char :=
  (digits.dropWhile (· == '0')).rdropWhile (· == '0')

/-- Digits are their significant digits between zeros. -/
theorem exists_zeros (digits : List Char) :
    ∃ front back, digits =
      List.replicate front '0' ++ (significantDigits digits ++ List.replicate back '0') := by
  have zeros : ∀ run : List Char, (∀ digit ∈ run, (digit == '0') = true) →
      run = List.replicate run.length '0' := fun run all =>
    List.eq_replicate_of_mem fun digit member => beq_iff_eq.1 (all digit member)
  refine ⟨(digits.takeWhile (· == '0')).length,
    ((digits.dropWhile (· == '0')).rtakeWhile (· == '0')).length, ?_⟩
  rw [← zeros _ fun digit => List.mem_takeWhile_imp, ← zeros _ fun digit => List.mem_rtakeWhile_imp,
    significantDigits, List.rdropWhile_append_rtakeWhile, List.takeWhile_append_dropWhile]

theorem mem_of_mem_significantDigits {digits : List Char} {digit : Char}
    (member : digit ∈ significantDigits digits) : digit ∈ digits := by
  have front : significantDigits digits <+: digits.dropWhile (· == '0') :=
    List.rdropWhile_prefix _ _
  exact (List.dropWhile_suffix _).subset (front.subset member)

/-- Digits without zeros in front start with no zero. -/
theorem head?_dropWhile_zero (digits : List Char) :
    (digits.dropWhile (· == '0')).head? ≠ some '0' := by
  intro zero
  have head := List.head?_dropWhile_not (· == '0') digits
  rw [zero] at head
  cases head

theorem head?_significantDigits (digits : List Char) :
    (significantDigits digits).head? ≠ some '0' := by
  intro zero
  obtain ⟨rest, whole⟩ : significantDigits digits <+: digits.dropWhile (· == '0') :=
    List.rdropWhile_prefix _ _
  apply head?_dropWhile_zero digits
  rw [← whole, List.head?_append, zero, Option.some_or]

theorem getLast?_significantDigits (digits : List Char) :
    (significantDigits digits).getLast? ≠ some '0' := by
  rw [significantDigits, List.rdropWhile, List.getLast?_reverse]
  exact head?_dropWhile_zero _

section SignificantDigits

variable {digits : List Char} (all : ∀ digit ∈ digits, digit.isDigit = true)
  (nonempty : significantDigits digits ≠ [])

include all nonempty

theorem ten_pow_le_significantDigits :
    10 ^ ((significantDigits digits).length - 1) ≤ digitsValue (significantDigits digits) := by
  obtain ⟨first, others, run⟩ := List.exists_cons_of_ne_nil nonempty
  have isDigit : first.isDigit = true :=
    all first (mem_of_mem_significantDigits (run ▸ List.mem_cons_self))
  have noZero : first ≠ '0' := by
    rintro rfl
    exact head?_significantDigits digits (by rw [run, List.head?_cons])
  have leads : 1 ≤ digitsValue [first] :=
    Nat.one_le_iff_ne_zero.2 fun zero => noZero ((digit_value isDigit).2 zero)
  rw [run]
  calc 10 ^ ((first :: others).length - 1)
      ≤ digitsValue [first] * 10 ^ others.length := Nat.le_mul_of_pos_left _ leads
    _ ≤ digitsValue [first] * 10 ^ others.length + digitsValue others := Nat.le_add_right _ _
    _ = digitsValue ([first] ++ others) := (digitsValue_append _ _).symm

theorem significantDigits_mod : digitsValue (significantDigits digits) % 10 ≠ 0 := by
  obtain ⟨others, last, run⟩ : ∃ others last, significantDigits digits = others ++ [last] :=
    ⟨_, _, (List.dropLast_append_getLast nonempty).symm⟩
  have isDigit : last.isDigit = true :=
    all last (mem_of_mem_significantDigits (by rw [run]; simp))
  obtain ⟨single, isZero⟩ := digit_value isDigit
  have noZero : digitsValue [last] ≠ 0 := by
    intro zero
    apply getLast?_significantDigits digits
    rw [run, List.getLast?_append, List.getLast?_singleton, Option.some_or, isZero zero]
  rw [run, digitsValue_append, List.length_singleton, Nat.pow_one]
  omega

end SignificantDigits

namespace Number

theorem decimalUnits_left_inj {digits digits' : Nat} {exponent : Int} :
    decimalUnits digits exponent = decimalUnits digits' exponent ↔ digits = digits' := by
  have onePositive := unitsPerOne_pos
  have step : (10 : ℚ) ^ exponent * unitsPerOne ≠ 0 := by positivity
  rw [decimalUnits, decimalUnits, mul_assoc, mul_assoc, mul_left_inj' step, Nat.cast_inj]

/-- Of the decimals of one value, one that does not end in zero has the least digits. -/
theorem le_of_decimalUnits_eq {digits digits' : Nat} {exponent exponent' : Int}
    (noZero : digits % 10 ≠ 0)
    (same : decimalUnits digits exponent = decimalUnits digits' exponent') : digits ≤ digits' := by
  rcases le_total exponent' exponent with coarser | finer
  · obtain ⟨shift, rfl⟩ := Int.exists_add_of_le coarser
    rw [← decimalUnits_shift, decimalUnits_left_inj] at same
    rw [← same]
    exact Nat.le_mul_of_pos_right digits (by positivity)
  · obtain ⟨shift, rfl⟩ := Int.exists_add_of_le finer
    rw [← decimalUnits_shift, decimalUnits_left_inj] at same
    cases shift with
    | zero => rw [same, Nat.pow_zero, Nat.mul_one]
    | succ shift =>
      rw [same, Nat.pow_succ, ← Nat.mul_assoc, Nat.mul_mod_left] at noZero
      exact absurd rfl noZero

end Number

namespace Json.Literal

open Number (decimalUnits decimalUnits_shift)

variable (literal : Literal)

/-- The digits that tell the value. -/
def significant : List Char :=
  significantDigits (literal.whole ++ literal.decimals.getD [])

theorem isDigit_of_mem_digits : ∀ digit ∈ literal.whole ++ literal.decimals.getD [],
    digit.isDigit = true := by
  intro digit member
  rcases List.mem_append.1 member with member | member
  · exact literal.whole_digits digit member
  · cases given : literal.decimals with
    | none =>
      rw [given] at member
      cases member
    | some decimals =>
      rw [given] at member
      exact (literal.decimals_digits decimals given).2 digit member

/-- The value of a literal is its significant digits times a power of ten. -/
theorem exists_significant_value :
    ∃ power, digitsValue literal.significant < 10 ^ literal.significant.length ∧
      decimalUnits (digitsValue literal.significant) power =
        decimalUnits literal.digits literal.exponent := by
  obtain ⟨front, back, parts⟩ := exists_zeros (literal.whole ++ literal.decimals.getD [])
  have digits : literal.digits = digitsValue literal.significant * 10 ^ back := by
    rw [Literal.digits, parts]
    simp [digitsValue_append, significant]
  refine ⟨literal.exponent + back, digitsValue_lt fun digit member => ?_, ?_⟩
  · exact literal.isDigit_of_mem_digits digit (mem_of_mem_significantDigits member)
  · rw [digits, decimalUnits_shift]

/-- No decimal of the same value has fewer digits. -/
theorem significant_length_le {digits count : Nat} {exponent : Int}
    (same : decimalUnits digits exponent = decimalUnits literal.digits literal.exponent)
    (few : digits < 10 ^ count) : literal.significant.length ≤ count := by
  by_contra more
  have nonempty : literal.significant ≠ [] := by
    intro empty
    rw [empty] at more
    exact more (Nat.zero_le count)
  have least := ten_pow_le_significantDigits literal.isDigit_of_mem_digits nonempty
  have noZero := significantDigits_mod literal.isDigit_of_mem_digits nonempty
  obtain ⟨power, -, value⟩ := literal.exists_significant_value
  change 10 ^ (literal.significant.length - 1) ≤ digitsValue literal.significant at least
  change digitsValue literal.significant % 10 ≠ 0 at noZero
  generalize digitsValue literal.significant = sought at *
  have longer : 10 ^ count ≤ 10 ^ (literal.significant.length - 1) :=
    Nat.pow_le_pow_right (by decide) (by omega)
  have most := Number.le_of_decimalUnits_eq noZero (value.trans same.symm)
  omega

end Json.Literal

/-! ## The plain layout as a literal -/

/-- No power of ten, and no zero at the end of the decimals. -/
def Json.Literal.IsPlain (literal : Literal) : Prop :=
  literal.power = none ∧ ∀ decimals ∈ literal.decimals, decimals.getLast? ≠ some '0'

theorem Json.Literal.noDecimals_digits : ∀ digits ∈ (none : Option (List Char)),
    digits ≠ [] ∧ ∀ digit ∈ digits, digit.isDigit = true := by
  rintro _ ⟨⟩

namespace Decimal

/-- Digits and zeros before no point. -/
def wholeLiteral (decimal : Decimal) (negative : Bool) (nonzero : decimal.digits ≠ 0) (up : Nat) :
    Literal :=
  { decimal.integralLiteral negative nonzero up with
    decimals := none
    decimals_digits := Literal.noDecimals_digits }

section PlainLiteral

variable {decimal : Decimal} (noZero : decimal.digits % 10 ≠ 0)

include noZero

theorem getLast?_digitChars : decimal.digitChars.getLast? ≠ some '0' := by
  rw [digitChars, Nat.toDigits_eq_if (by decide)]
  split_ifs with single
  · rw [List.getLast?_singleton, ne_eq, Option.some_inj, Nat.digitChar_eq_zero]
    omega
  · rw [List.getLast?_append, List.getLast?_singleton, Option.some_or, ne_eq, Option.some_inj,
      Nat.digitChar_eq_zero]
    exact noZero

/-- The plain layout is a literal of the same value, and a plain one. -/
theorem exists_plainLiteral (negative : Bool) :
    ∃ literal : Literal, literal.negative = negative ∧
      literal.chars = Number.withSign negative decimal.plain ∧
      Number.decimalUnits literal.digits literal.exponent = decimal.units ∧ literal.IsPlain := by
  have nonzero : decimal.digits ≠ 0 := fun zero => noZero (by rw [zero])
  rcases lt_or_ge decimal.exponent 0 with fraction | integral
  · obtain ⟨down, exponent⟩ := Int.eq_negSucc_of_lt_zero fraction
    simp only [plain, exponent]
    split_ifs with inside
    · obtain ⟨sign, chars, value, -⟩ :=
        decimal.pointLiteral_writes negative nonzero down.succ_pos inside exponent
      refine ⟨_, sign, chars, value, rfl, ?_⟩
      rintro decimals ⟨⟩
      rw [List.getLast?_drop, if_neg (by omega)]
      exact getLast?_digitChars noZero
    · obtain ⟨sign, chars, value, -⟩ :=
        decimal.smallLiteral_writes negative (not_lt.1 inside) exponent
      refine ⟨_, sign, chars, value, rfl, ?_⟩
      rintro decimals ⟨⟩
      have nonempty : decimal.digitChars ≠ [] := Nat.toDigits_ne_nil
      rw [List.getLast?_append_of_ne_nil _ nonempty]
      exact getLast?_digitChars noZero
  · obtain ⟨up, exponent⟩ := Int.eq_ofNat_of_zero_le integral
    refine ⟨decimal.wholeLiteral negative nonzero up, rfl, ?_, ?_, rfl, by rintro _ ⟨⟩⟩
    · simp [wholeLiteral, integralLiteral, Literal.chars, Literal.decimalsChars,
        Literal.powerChars, plain, exponent]
    · have digits : (decimal.wholeLiteral negative nonzero up).digits =
          decimal.digits * 10 ^ up := by
        simp [wholeLiteral, integralLiteral, Literal.digits, digitsValue_append]
      have power : (decimal.wholeLiteral negative nonzero up).exponent = 0 := rfl
      rw [digits, power, Number.decimalUnits_shift, units, exponent, zero_add]

end PlainLiteral

end Decimal

namespace Number

/-! ## The string form -/

/-- What there is to know of the literal that is written for a number. -/
structure WritesPlain (number : Number) (position : Nat) (literal : Literal) : Prop where
  text_eq : number.text = literal.chars
  plain : literal.IsPlain
  reads : decimalPosition literal.digits literal.exponent = position
  sign : ofPosition literal.negative position = number.canonical
  fewest : ∀ {digits exponent count}, decimalPosition digits exponent = position →
    digits < 10 ^ count → literal.significant.length ≤ count

theorem writesPlain_integer {negative : Bool} {position : Fin magnitudes} {value : ℤ}
    (short : (Number.finite negative position).shortInteger? = some value) :
    WritesPlain (.finite negative position) position (Literal.ofInt value) := by
  obtain ⟨integral, -⟩ := units_of_shortInteger? short
  have small := (shortInteger?_eq_some_iff.1 short).2
  have digits : (Literal.ofInt value).digits = value.natAbs := by
    simp [Literal.ofInt, Literal.digits]
  have power : (Literal.ofInt value).exponent = 0 := rfl
  have written : decimalUnits (Literal.ofInt value).digits (Literal.ofInt value).exponent =
      units position := by
    rw [digits, power, decimalUnits_integer integral]
  refine ⟨?_, ⟨rfl, by rintro _ ⟨⟩⟩, ?_, ?_, fun {digits exponent count} reads few => ?_⟩
  · rw [Literal.ofInt_chars, text, short]
  · rw [digits, power, decimalPosition_integer, ← integral, nearestPosition_units]
  · rw [canonical_finite, ← ofInt_of_shortInteger? short, ofInt, ofUnits, ← integral,
      nearestPosition_units]
    rfl
  · by_cases zero : position.val = 0
    · have noDigits : decimalUnits 0 0 =
          decimalUnits (Literal.ofInt value).digits (Literal.ofInt value).exponent := by
        rw [written, zero, units_zero, decimalUnits, Nat.cast_zero, zero_mul, zero_mul]
      exact (Literal.ofInt value).significant_length_le noDigits (by positivity)
    · obtain ⟨fewer, shift, bound, same⟩ := integer_fewest integral small zero reads few
      exact (Literal.ofInt value).significant_length_le (same.trans written.symm) bound

theorem exists_writesPlain (negative : Bool) (position : Fin magnitudes) :
    ∃ literal, WritesPlain (.finite negative position) position literal := by
  cases short : (Number.finite negative position).shortInteger? with
  | some value => exact ⟨_, writesPlain_integer short⟩
  | none =>
    have nonzero := position_ne_zero_of_fractional short
    obtain ⟨literal, sign, chars, value, plain⟩ :=
      Decimal.exists_plainLiteral (shortest_digits_mod .up nonzero) negative
    refine ⟨literal, ?_, plain, ?_, ?_, fun reads few => ?_⟩
    · rw [chars, text, short]
    · exact (decimalPosition_congr value).trans (shortest_reads .up position)
    · rw [sign, canonical_finite, if_neg nonzero, ofPosition, dif_pos position.isLt]
    · exact literal.significant_length_le value.symm (shortest_fewest .up nonzero reads few)

/-- What is written for a finite number is read as it, and no zero has a sign then. -/
theorem ofText?_text (negative : Bool) (position : Fin magnitudes) :
    ofText? (text (.finite negative position)) =
      some (Number.finite negative position).canonical := by
  obtain ⟨literal, chars, -, reads, sign, -⟩ := exists_writesPlain negative position
  rw [chars, literal.ofText?_chars, ofDecimal_eq, reads, sign]

/-- Numbers with one string form are equal, and the other way round. -/
theorem text_eq_iff (negative otherNegative : Bool) (position otherPosition : Fin magnitudes) :
    text (.finite negative position) = text (.finite otherNegative otherPosition) ↔
      equal (.finite negative position) (.finite otherNegative otherPosition) = true := by
  rw [equal_iff]
  constructor
  · intro same
    refine ⟨nofun, Option.some.inj ?_⟩
    rw [← ofText?_text, ← ofText?_text, same]
  · rintro ⟨-, same⟩
    rw [← text_canonical, same, text_canonical]

/-- An integer that is written as one is that number and fits 64 bits. -/
theorem shortInteger?_exact {number : Number} {value : ℤ}
    (short : number.shortInteger? = some value) :
    number.rational? = some (value : ℚ) ∧ -2 ^ 63 ≤ value ∧ value < 2 ^ 63 := by
  obtain ⟨exact, small⟩ := shortInteger?_eq_some_iff.1 short
  exact ⟨exact, by omega, by omega⟩

end Number

namespace Value

open Number (magnitudes)

/-- **The string form of a finite number is plain, is read back, and is shortest.** -/
theorem text_plain_exact_shortest (negative : Bool) (position : Fin magnitudes) :
    (∃ literal : Literal, text (.number (.finite negative position)) = .ofList literal.chars ∧
      literal.IsPlain ∧ literal.Reads (Number.finite negative position).canonical ∧
      ∀ other : Literal, other.Reads (Number.finite negative position).canonical →
        literal.significant.length ≤ other.significant.length) ∧
    Number.ofText? (text (.number (.finite negative position))).toList =
      some (Number.finite negative position).canonical ∧
    (∀ integer, Number.shortInteger? (.finite negative position) = some integer →
      Number.rational? (.finite negative position) = some (integer : ℚ) ∧
        -2 ^ 63 ≤ integer ∧ integer < 2 ^ 63) ∧
    ∀ otherNegative otherPosition,
      text (.number (.finite negative position)) =
          text (.number (.finite otherNegative otherPosition)) ↔
        Number.equal (.finite negative position) (.finite otherNegative otherPosition) = true := by
  simp only [text, chars, String.toList_ofList, String.ofList_inj]
  refine ⟨?_, Number.ofText?_text negative position, fun integer => Number.shortInteger?_exact,
    fun otherNegative otherPosition => Number.text_eq_iff _ _ _ _⟩
  obtain ⟨literal, written, plain, reads, sign, fewest⟩ :=
    Number.exists_writesPlain negative position
  have canonical : (Number.finite negative position).canonical =
      .finite literal.negative position := by
    rw [← sign, Number.ofPosition, dif_pos position.isLt]
  rw [canonical]
  refine ⟨literal, written, plain, literal.reads_of_position reads, fun other otherReads => ?_⟩
  obtain ⟨power, bound, value⟩ := other.exists_significant_value
  have position := (Number.decimalPosition_congr value).trans (other.position_of_reads otherReads)
  exact fewest position bound

end Value

end RuleTree
