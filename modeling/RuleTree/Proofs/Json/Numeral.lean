import RuleTree.Json.Printer
import RuleTree.Proofs.Json.Literal
import RuleTree.Proofs.Number.Shortest
import RuleTree.Value.Json

/-!
Contract: printed numbers read back.

The document layout has four shapes: digits and zeros before `.0`, a point between the
digits, zeros between the point and the digits, and a digit with a fraction and a power of
ten. Each is a literal whose value is the decimal's (`exists_documentLiteral`), and the
shortest decimal of a magnitude is read as that magnitude, so a number comes back as the
document that was printed for it (`Number.exists_literal`) and that document decodes to the
number, up to the sign of zero (`Number.decode_encode`).

Owns: the literals the printer writes.
Does not own: the reading of literals (`Proofs.Json.Literal`).
-/

namespace RuleTree

open Json (Literal EndsLiteral)

/-! ## The document layout as a literal -/

namespace Decimal

theorem isDigit_of_mem_digitChars {decimal : Decimal} {digit : Char}
    (member : digit ∈ decimal.digitChars) : digit.isDigit = true :=
  isDigit_of_mem_toDigits member

theorem isDigit_of_mem_zeros {count : Nat} {digit : Char}
    (member : digit ∈ List.replicate count '0') : digit.isDigit = true := by
  rw [List.eq_of_mem_replicate member]
  decide

@[simp] theorem digitsValue_digitChars (decimal : Decimal) :
    digitsValue decimal.digitChars = decimal.digits :=
  digitsValue_toDigits _

/-- What a literal has to be to stand for a decimal with the given sign and text. -/
structure WrittenBy (decimal : Decimal) (negative : Bool) (chars : List Char)
    (literal : Literal) : Prop where
  negative_eq : literal.negative = negative
  chars_eq : literal.chars = Number.withSign negative chars
  units_eq : Number.decimalUnits literal.digits literal.exponent = decimal.units
  fractional : literal.decimals.isSome ∨ literal.power.isSome

section Shapes

variable (decimal : Decimal) (negative : Bool) (nonzero : decimal.digits ≠ 0)

/-- Digits and zeros before `.0`. -/
def integralLiteral (up : Nat) : Literal where
  negative
  whole := decimal.digitChars ++ List.replicate up '0'
  decimals := some ['0']
  power := none
  whole_digits := by
    intro digit member
    rcases List.mem_append.1 member with member | member
    · exact isDigit_of_mem_digitChars member
    · exact isDigit_of_mem_zeros member
  whole_leads := by
    obtain ⟨first, others, numeral, leads⟩ := exists_leading_digit nonzero
    refine ⟨first, others ++ List.replicate up '0', ?_, fun zero => absurd zero leads⟩
    rw [digitChars, numeral, List.cons_append]
  decimals_digits := by
    rintro digits ⟨⟩
    simp

/-- A point before the last `places` digits. -/
def pointLiteral (places : Nat) (placesPositive : 0 < places)
    (inside : places < decimal.digitChars.length) : Literal where
  negative
  whole := decimal.digitChars.take (decimal.digitChars.length - places)
  decimals := some (decimal.digitChars.drop (decimal.digitChars.length - places))
  power := none
  whole_digits := fun _ member => isDigit_of_mem_digitChars (List.mem_of_mem_take member)
  whole_leads := by
    obtain ⟨first, others, numeral, leads⟩ := exists_leading_digit nonzero
    obtain ⟨kept, keptIs⟩ : ∃ kept, decimal.digitChars.length - places = kept + 1 :=
      ⟨decimal.digitChars.length - places - 1, by omega⟩
    refine ⟨first, others.take kept, ?_, fun zero => absurd zero leads⟩
    rw [keptIs, digitChars, numeral, List.take_succ_cons]
  decimals_digits := by
    rintro digits ⟨⟩
    refine ⟨?_, fun _ member => isDigit_of_mem_digitChars (List.mem_of_mem_drop member)⟩
    rw [ne_eq, List.drop_eq_nil_iff]
    omega

/-- Zeros between the point and the digits. -/
def smallLiteral (places : Nat) : Literal where
  negative
  whole := ['0']
  decimals := some (List.replicate (places - decimal.digitChars.length) '0' ++ decimal.digitChars)
  power := none
  whole_digits := by simp
  whole_leads := ⟨'0', [], rfl, fun _ => rfl⟩
  decimals_digits := by
    rintro digits ⟨⟩
    refine ⟨fun empty => Nat.toDigits_ne_nil (List.append_eq_nil_iff.1 empty).2, ?_⟩
    intro digit member
    rcases List.mem_append.1 member with member | member
    · exact isDigit_of_mem_zeros member
    · exact isDigit_of_mem_digitChars member

/-- One digit, the others as decimals, and a power of ten. -/
def scientificLiteral : Literal where
  negative
  whole := decimal.digitChars.take 1
  decimals :=
    if (decimal.digitChars.drop 1).isEmpty then none else some (decimal.digitChars.drop 1)
  power := some decimal.leadingExponent
  whole_digits := fun _ member => isDigit_of_mem_digitChars (List.mem_of_mem_take member)
  whole_leads := by
    obtain ⟨first, others, numeral, -⟩ := exists_leading_digit nonzero
    exact ⟨first, [], by rw [digitChars, numeral]; rfl, fun _ => rfl⟩
  decimals_digits := by
    intro digits given
    split_ifs at given with empty
    · cases given
    · cases given
      refine ⟨fun isEmpty => empty (List.isEmpty_iff.2 isEmpty), ?_⟩
      exact fun _ member => isDigit_of_mem_digitChars (List.mem_of_mem_drop member)

theorem integralLiteral_writes {up : Nat} (exponent : decimal.exponent = up) :
    decimal.WrittenBy negative (decimal.digitChars ++ List.replicate up '0' ++ ['.', '0'])
      (decimal.integralLiteral negative nonzero up) := by
  refine ⟨rfl, ?_, ?_, .inl rfl⟩
  · simp [integralLiteral, Literal.chars, Literal.decimalsChars, Literal.powerChars]
  · have digits : (decimal.integralLiteral negative nonzero up).digits =
        decimal.digits * 10 ^ up * 10 := by
      simp [integralLiteral, Literal.digits, digitsValue_append, Nat.pow_succ, Nat.mul_assoc]
    have power : (decimal.integralLiteral negative nonzero up).exponent = -1 := rfl
    rw [digits, power, units, exponent]
    simp only [Number.decimalUnits, zpow_natCast]
    push_cast
    ring

theorem pointLiteral_writes {places : Nat} (placesPositive : 0 < places)
    (inside : places < decimal.digitChars.length) (exponent : decimal.exponent = -places) :
    decimal.WrittenBy negative
      (decimal.digitChars.take (decimal.digitChars.length - places) ++
        '.' :: decimal.digitChars.drop (decimal.digitChars.length - places))
      (decimal.pointLiteral negative nonzero places placesPositive inside) := by
  refine ⟨rfl, ?_, ?_, .inl rfl⟩
  · simp [pointLiteral, Literal.chars, Literal.decimalsChars, Literal.powerChars]
  · have digits : (decimal.pointLiteral negative nonzero places placesPositive inside).digits =
        decimal.digits := by
      simp [pointLiteral, Literal.digits]
    have power : (decimal.pointLiteral negative nonzero places placesPositive inside).exponent =
        decimal.exponent := by
      simp [pointLiteral, Literal.exponent, exponent]
      omega
    rw [digits, power, units]

theorem smallLiteral_writes {places : Nat} (few : decimal.digitChars.length ≤ places)
    (exponent : decimal.exponent = -places) :
    decimal.WrittenBy negative
      ('0' :: '.' ::
        (List.replicate (places - decimal.digitChars.length) '0' ++ decimal.digitChars))
      (decimal.smallLiteral negative places) := by
  refine ⟨rfl, ?_, ?_, .inl rfl⟩
  · simp [smallLiteral, Literal.chars, Literal.decimalsChars, Literal.powerChars]
  · have digits : (decimal.smallLiteral negative places).digits = decimal.digits := by
      simp [smallLiteral, Literal.digits, digitsValue_append]
    have power : (decimal.smallLiteral negative places).exponent = decimal.exponent := by
      simp [smallLiteral, Literal.exponent, exponent]
      omega
    rw [digits, power, units]

theorem scientificLiteral_writes :
    decimal.WrittenBy negative decimal.scientific
      (decimal.scientificLiteral negative nonzero) := by
  obtain ⟨first, others, numeral, -⟩ := exists_leading_digit nonzero
  have run : decimal.digitChars = first :: others := numeral
  refine ⟨rfl, ?_, ?_, .inr rfl⟩
  · simp only [scientificLiteral, scientific, Literal.chars, Literal.powerChars]
    split_ifs <;> simp [Literal.decimalsChars]
  · have decimals : (decimal.scientificLiteral negative nonzero).decimals.getD [] = others := by
      cases others <;> simp [scientificLiteral, run]
    have digits : (decimal.scientificLiteral negative nonzero).digits = decimal.digits := by
      rw [Literal.digits, decimals, ← digitsValue_digitChars decimal, run]
      simp [scientificLiteral, run]
    have power : (decimal.scientificLiteral negative nonzero).exponent = decimal.exponent := by
      have length : decimal.length = others.length + 1 := by
        rw [Decimal.length, numeral, List.length_cons]
      rw [Literal.exponent, decimals]
      simp only [scientificLiteral, leadingExponent, length, Option.getD_some]
      omega
    rw [digits, power, units]

include nonzero in
theorem exists_documentLiteral :
    ∃ literal, decimal.WrittenBy negative decimal.document literal := by
  unfold document
  split_ifs with near integral
  · obtain ⟨up, exponent⟩ := Int.eq_ofNat_of_zero_le integral
    have text : decimal.plain = decimal.digitChars ++ List.replicate up '0' := by
      simp only [plain, exponent]
    rw [text]
    exact ⟨_, decimal.integralLiteral_writes negative nonzero exponent⟩
  · obtain ⟨down, exponent⟩ := Int.eq_negSucc_of_lt_zero (not_le.1 integral)
    simp only [plain, exponent]
    split_ifs with inside
    · exact ⟨_, decimal.pointLiteral_writes negative nonzero down.succ_pos inside exponent⟩
    · exact ⟨_, decimal.smallLiteral_writes negative (not_lt.1 inside) exponent⟩
  · exact ⟨_, decimal.scientificLiteral_writes negative nonzero⟩

end Shapes

end Decimal

/-! ## Integers as literals -/

def Json.Literal.ofInt (value : Int) : Literal where
  negative := decide (value < 0)
  whole := Nat.toDigits 10 value.natAbs
  decimals := none
  power := none
  whole_digits := fun _ => isDigit_of_mem_toDigits
  whole_leads := by
    by_cases zero : value.natAbs = 0
    · exact ⟨'0', [], by rw [zero]; rfl, fun _ => rfl⟩
    · obtain ⟨first, others, numeral, leads⟩ := exists_leading_digit zero
      exact ⟨first, others, numeral, fun isZero => absurd isZero leads⟩
  decimals_digits := by
    rintro digits ⟨⟩

namespace Json.Literal

theorem ofInt_chars (value : Int) : (ofInt value).chars = integerNumeral value := by
  by_cases negative : value < 0 <;>
    simp [ofInt, chars, decimalsChars, powerChars, Number.withSign, integerNumeral, negative]

theorem number?_ofInt {value : Int} {rest : List Char} (ends : EndsLiteral rest)
    (inRange : Number.decimalPosition value.natAbs 0 < Number.magnitudes) :
    number? ((ofInt value).chars ++ rest) = some (.integer value, rest) := by
  have magnitude : (ofInt value).digits = value.natAbs := by
    simp [ofInt, digits]
  have oneZero : (ofInt value).negative = true → (ofInt value).digits ≠ 0 := by
    intro negative
    have : value < 0 := of_decide_eq_true negative
    omega
  have signed : (if (ofInt value).negative then -(value.natAbs : Int) else value.natAbs) =
      value := by
    split_ifs with negative
    · have : value < 0 := of_decide_eq_true negative
      omega
    · have : ¬ value < 0 := fun below => negative (decide_eq_true below)
      omega
  rw [number?_integer _ ends rfl rfl oneZero (magnitude ▸ inRange), magnitude, signed]

end Json.Literal

/-! ## Numbers as documents -/

namespace Number

theorem magnitudes_pos : 0 < magnitudes := by decide

def negativeZero : Number := .finite true ⟨0, magnitudes_pos⟩

/-- What a document keeps of a number: one zero, and null for NaN and the infinities. -/
def documented (number : Number) : Value :=
  if !number.isFinite then .null
  else if number = negativeZero then .number zero
  else .number number

theorem documented_finite (negative : Bool) (position : Fin magnitudes) :
    (Number.finite negative position).documented =
      .number (if position.val = 0 then zero else .finite negative position) := by
  have finite : (Number.finite negative position).isFinite = true := rfl
  by_cases isZero : position.val = 0
  · obtain rfl : position = ⟨0, magnitudes_pos⟩ := Fin.ext isZero
    cases negative <;> rfl
  · have different : Number.finite negative position ≠ negativeZero := by
      rintro ⟨⟩
      exact isZero rfl
    simp [documented, finite, different, isZero]

section ShortInteger

variable {negative : Bool} {position : Fin magnitudes} {value : Int}
  (short : (Number.finite negative position).shortInteger? = some value)

include short

theorem units_of_shortInteger? : units position = value.natAbs * unitsPerOne ∧
    value = if negative then -(value.natAbs : Int) else value.natAbs := by
  obtain ⟨integral, -⟩ := Option.filter_eq_some_iff.1 short
  simp only [toInt?] at integral
  split at integral
  · next whole =>
    have exactly := Nat.div_mul_cancel (Nat.dvd_of_mod_eq_zero whole)
    generalize units position / unitsPerOne = quotient at integral exactly
    cases negative <;> cases integral <;> simp [← exactly]
  · cases integral

/-- The integer written for a number is the number again, up to the sign of zero. -/
theorem ofInt_of_shortInteger? :
    ofInt value = if position.val = 0 then zero else .finite negative position := by
  obtain ⟨integral, sign⟩ := units_of_shortInteger? short
  rw [ofInt, ofUnits, ← integral, nearestPosition_units, ofPosition, dif_pos position.isLt]
  have sameZero : position.val = 0 ↔ value = 0 := by
    rw [← units_eq_zero, integral, Nat.mul_eq_zero, Int.natAbs_eq_zero,
      or_iff_left unitsPerOne_pos.ne']
  split_ifs with isZero
  · obtain rfl : position = ⟨0, magnitudes_pos⟩ := Fin.ext isZero
    rw [sameZero.1 isZero]
    rfl
  · have nonzero := sameZero.not.1 isZero
    cases negative with
    | true =>
      change value = -(value.natAbs : Int) at sign
      rw [decide_eq_true (by omega)]
    | false =>
      change value = (value.natAbs : Int) at sign
      rw [decide_eq_false (by omega)]

end ShortInteger

/-- Both zeros are written as the integer. -/
theorem shortInteger?_zero (negative : Bool) :
    (Number.finite negative ⟨0, magnitudes_pos⟩).shortInteger? = some 0 := by
  simp [shortInteger?, toInt?, integerBound, Option.filter_some]

theorem position_ne_zero_of_fractional {negative : Bool} {position : Fin magnitudes}
    (fractional : (Number.finite negative position).shortInteger? = none) :
    position.val ≠ 0 := by
  intro isZero
  obtain rfl : position = ⟨0, magnitudes_pos⟩ := Fin.ext isZero
  rw [shortInteger?_zero] at fractional
  cases fractional

theorem encode_of_not_finite {number : Number} (infinite : ¬ number.isFinite = true) :
    number.encode = .null := by
  cases number with
  | finite => exact absurd rfl infinite
  | _ => rfl

theorem exists_of_finite {number : Number} (finite : number.isFinite) :
    ∃ negative position, number = .finite negative position := by
  cases number with
  | finite negative position => exact ⟨negative, position, rfl⟩
  | _ => cases finite

/-- The document of a finite number is printed as a literal that is read back as it. -/
theorem exists_literal {number : Number} (finite : number.isFinite) :
    ∃ literal : Literal, number.encode.printChars = literal.chars ∧
      ∀ {rest}, EndsLiteral rest →
        Json.number? (literal.chars ++ rest) = some (number.encode, rest) := by
  obtain ⟨negative, position, rfl⟩ := exists_of_finite finite
  unfold encode
  split
  · next value short =>
    obtain ⟨integral, -⟩ := units_of_shortInteger? short
    have inRange : decimalPosition value.natAbs 0 < magnitudes := by
      rw [decimalPosition_integer, ← integral, nearestPosition_units]
      exact position.isLt
    refine ⟨Literal.ofInt value, (Literal.ofInt_chars value).symm, fun ends => ?_⟩
    exact Literal.number?_ofInt ends inRange
  · next fractional =>
    have nonzero := shortest_digits_ne_zero .even (position_ne_zero_of_fractional fractional)
    obtain ⟨literal, sign, chars, value, hasFraction⟩ :=
      (shortest .even position).exists_documentLiteral negative nonzero
    have rounded : decimalPosition literal.digits literal.exponent = position :=
      (decimalPosition_congr value).trans (shortest_reads .even position)
    rw [if_pos finite]
    refine ⟨literal, chars.symm, fun ends => ?_⟩
    rw [literal.number?_fraction ends hasFraction rounded, sign]

/-- What the document of a number decodes to. -/
theorem decode_encode (number : Number) :
    Value.decode number.encode = .ok number.documented := by
  cases number with
  | finite negative position =>
    rw [documented_finite]
    unfold encode
    split
    · next value short => rw [← ofInt_of_shortInteger? short, Value.decode, Value.ofInt]
    · next fractional =>
      rw [if_neg (position_ne_zero_of_fractional fractional)]
      rfl
  | _ => rfl

/-- A number and what a document keeps of it have the same document. -/
theorem encode_documented (number : Number) : number.documented.encode = number.encode := by
  cases number with
  | finite negative position =>
    rw [documented_finite]
    by_cases isZero : position.val = 0
    · obtain rfl : position = ⟨0, magnitudes_pos⟩ := Fin.ext isZero
      rw [if_pos rfl, Value.encode, encode, encode, zero, shortInteger?_zero, shortInteger?_zero]
    · rw [if_neg isZero, Value.encode]
  | _ => rfl

end Number

end RuleTree
