import RuleTree.Json.Printer
import RuleTree.Json.Reader
import RuleTree.Proofs.Number.Rounding

/-!
Contract: the reader takes a number literal apart into its parts.

`Literal` is the grammar of numbers by parts: digits without a leading zero, and optional
decimals and power of ten. A literal is read up to the first character that cannot continue
it (`number?_chars`): as a fraction when it has decimals or a power of ten, as an integer
otherwise.

Owns: number literals and their reading.
Does not own: which literals the printer writes (`Proofs.Json.Numeral`).
-/

namespace RuleTree

/-! ## Runs of digits -/

theorem digitsValue_append (left right : List Char) :
    digitsValue (left ++ right) = digitsValue left * 10 ^ right.length + digitsValue right := by
  change Nat.ofDigitChars 10 (left ++ right) 0 =
    Nat.ofDigitChars 10 left 0 * 10 ^ right.length + Nat.ofDigitChars 10 right 0
  rw [Nat.ofDigitChars_append, Nat.ofDigitChars_eq_ofDigitChars_zero, Nat.mul_comm]

@[simp] theorem digitsValue_toDigits (value : Nat) : digitsValue (Nat.toDigits 10 value) = value :=
  Nat.ofDigitChars_ten_toDigits

@[simp] theorem digitsValue_replicate_zero (count : Nat) :
    digitsValue (List.replicate count '0') = 0 :=
  Nat.ofDigitChars_replicate_zero

@[simp] theorem digitsValue_nil : digitsValue [] = 0 := rfl

@[simp] theorem digitsValue_zero_cons (digits : List Char) :
    digitsValue ('0' :: digits) = digitsValue digits :=
  rfl

theorem isDigit_of_mem_toDigits {value : Nat} {digit : Char}
    (member : digit ∈ Nat.toDigits 10 value) : digit.isDigit = true :=
  Nat.isDigit_of_mem_toDigits (by decide) (by decide) member

/-- The numeral of a positive number has no leading zero. -/
theorem exists_leading_digit {value : Nat} (nonzero : value ≠ 0) :
    ∃ first others, Nat.toDigits 10 value = first :: others ∧ first ≠ '0' := by
  induction value using Nat.strong_induction_on with
  | _ value inductionHypothesis =>
    rw [Nat.toDigits_eq_if (by decide)]
    split_ifs with single
    · exact ⟨_, [], rfl, fun zero => nonzero (Nat.digitChar_eq_zero.1 zero)⟩
    · obtain ⟨first, others, numeral, leads⟩ :=
        inductionHypothesis (value / 10) (by omega) (by omega)
      exact ⟨first, others ++ [_], by rw [numeral]; rfl, leads⟩

theorem spanDigits_append {digits rest : List Char} (all : ∀ digit ∈ digits, digit.isDigit = true)
    (stops : ∀ next ∈ rest.head?, next.isDigit = false) :
    spanDigits (digits ++ rest) = (digits, rest) := by
  have ends : rest.takeWhile Char.isDigit = [] ∧ rest.dropWhile Char.isDigit = rest := by
    cases rest with
    | nil => exact ⟨rfl, rfl⟩
    | cons next rest =>
      have stop : next.isDigit = false := stops next rfl
      simp [stop]
  rw [spanDigits, List.takeWhile_append_of_pos all, List.dropWhile_append_of_pos all, ends.1,
    ends.2, List.append_nil]

namespace Json

/-! ## Literals -/

/-- A number literal by its parts. -/
structure Literal where
  negative : Bool
  whole : List Char
  decimals : Option (List Char)
  power : Option Int
  whole_digits : ∀ digit ∈ whole, digit.isDigit = true
  /-- A zero stands alone. -/
  whole_leads : ∃ first others, whole = first :: others ∧ (first = '0' → others = [])
  decimals_digits : ∀ digits ∈ decimals, digits ≠ [] ∧ ∀ digit ∈ digits, digit.isDigit = true

/-- What may follow a literal: nothing, or a character that does not continue it. -/
def EndsLiteral (rest : List Char) : Prop :=
  ∀ next ∈ rest.head?, next.isDigit = false ∧ next ≠ '.' ∧ next ≠ 'e' ∧ next ≠ 'E'

namespace Literal

def decimalsChars : Option (List Char) → List Char
  | none => []
  | some digits => '.' :: digits

def powerChars : Option Int → List Char
  | none => []
  | some power => 'e' :: (if power < 0 then '-' else '+') :: Nat.toDigits 10 power.natAbs

def chars (literal : Literal) : List Char :=
  Number.withSign literal.negative
    (literal.whole ++ (decimalsChars literal.decimals ++ powerChars literal.power))

/-- All digits of a literal as one number. -/
def digits (literal : Literal) : Nat :=
  digitsValue (literal.whole ++ literal.decimals.getD [])

/-- The power of ten that the last digit stands for. -/
def exponent (literal : Literal) : Int :=
  literal.power.getD 0 - (literal.decimals.getD []).length

/-- A literal starts with its sign or with a digit. -/
theorem exists_chars_eq (literal : Literal) :
    ∃ first others, literal.chars = first :: others ∧ (first = '-' ∨ first.isDigit = true) := by
  obtain ⟨first, others, whole, -⟩ := literal.whole_leads
  have digit := literal.whole_digits first (whole ▸ List.mem_cons_self)
  unfold chars Number.withSign
  split_ifs
  · exact ⟨_, _, rfl, .inl rfl⟩
  · exact ⟨first, _, by rw [whole]; rfl, .inr digit⟩

theorem printable_of_isDigit {c : Char} (digit : c.isDigit = true) : 0x20 ≤ c.toNat := by
  have bounds : 48 ≤ c.val.toNat ∧ c.val.toNat ≤ 57 := by
    simpa [Char.isDigit, UInt32.le_iff_toNat_le] using digit
  exact Nat.le_trans (by decide) bounds.1

theorem chars_printable (literal : Literal) : Printable literal.chars := by
  have whole : Printable literal.whole :=
    fun c member => printable_of_isDigit (literal.whole_digits c member)
  have decimals : Printable (decimalsChars literal.decimals) := by
    cases given : literal.decimals with
    | none => exact nofun
    | some digits =>
      have all := (literal.decimals_digits digits given).2
      exact .cons (by decide) fun c member => printable_of_isDigit (all c member)
  have power : Printable (powerChars literal.power) := by
    cases literal.power with
    | none => exact nofun
    | some power =>
      refine .cons (by decide) (.cons ?_ fun c member => ?_)
      · split_ifs <;> decide
      · exact printable_of_isDigit (isDigit_of_mem_toDigits member)
  have unsigned := whole.append (decimals.append power)
  unfold chars Number.withSign
  split_ifs
  · exact .cons (by decide) unsigned
  · exact unsigned

/-! ## Reading the parts -/

section Reading

variable {rest : List Char} (ends : EndsLiteral rest)

include ends

theorem spanExponent?_powerChars (power : Option Int) :
    spanExponent? (powerChars power ++ rest) = some (power, rest) := by
  cases power with
  | none =>
    cases rest with
    | nil => rfl
    | cons next rest =>
      obtain ⟨-, -, small, capital⟩ := ends next rfl
      simp [powerChars, spanExponent?, small, capital]
  | some power =>
    have digits : spanDigits (Nat.toDigits 10 power.natAbs ++ rest) =
        (Nat.toDigits 10 power.natAbs, rest) :=
      spanDigits_append (fun _ => isDigit_of_mem_toDigits) fun next member => (ends next member).1
    have nonempty : (Nat.toDigits 10 power.natAbs).isEmpty = false := by
      simp [Nat.toDigits_ne_nil]
    by_cases negative : power < 0
    · simp [powerChars, spanExponent?, spanSign, negative, digits, nonempty, abs_of_neg]
    · simp [powerChars, spanExponent?, spanSign, negative, digits, nonempty, not_lt.1]

theorem powerChars_stops (power : Option Int) :
    ∀ next ∈ (powerChars power ++ rest).head?, next.isDigit = false ∧ next ≠ '.' := by
  cases power with
  | none => exact fun next member => ⟨(ends next member).1, (ends next member).2.1⟩
  | some power =>
    rintro next ⟨⟩
    decide

end Reading

theorem spanFraction?_decimalsChars {decimals : Option (List Char)} {rest : List Char}
    (wellFormed : ∀ digits ∈ decimals, digits ≠ [] ∧ ∀ digit ∈ digits, digit.isDigit = true)
    (stops : ∀ next ∈ rest.head?, next.isDigit = false ∧ next ≠ '.') :
    spanFraction? (decimalsChars decimals ++ rest) = some (decimals, rest) := by
  cases decimals with
  | none =>
    cases rest with
    | nil => rfl
    | cons next rest =>
      have noPoint : next ≠ '.' := (stops next rfl).2
      simp only [decimalsChars, List.nil_append, spanFraction?]
      split
      · next point => exact absurd (List.cons.inj point).1 noPoint
      · rfl
  | some digits =>
    obtain ⟨nonempty, all⟩ := wellFormed digits rfl
    have taken := spanDigits_append all fun next member => (stops next member).1
    simp [decimalsChars, spanFraction?, taken, nonempty]

theorem decimalsChars_stops (decimals : Option (List Char)) {rest : List Char}
    (stops : ∀ next ∈ rest.head?, next.isDigit = false ∧ next ≠ '.') :
    ∀ next ∈ (decimalsChars decimals ++ rest).head?, next.isDigit = false := by
  cases decimals with
  | none => exact fun next member => (stops next member).1
  | some digits =>
    rintro next ⟨⟩
    decide

theorem spanWhole?_whole (literal : Literal) {rest : List Char}
    (stops : ∀ next ∈ rest.head?, next.isDigit = false) :
    spanWhole? (literal.whole ++ rest) = some (literal.whole, rest) := by
  obtain ⟨first, others, whole, leads⟩ := literal.whole_leads
  have taken := spanDigits_append literal.whole_digits stops
  rw [whole] at taken ⊢
  simp only [spanWhole?, taken]
  split
  · next empty => cases empty
  · next zero =>
    obtain ⟨isZero, more⟩ := List.cons.inj zero
    rw [leads isZero] at more
    cases more
  · rfl

/-- The reader takes a literal apart into what it was put together from. -/
theorem number?_chars (literal : Literal) {rest : List Char} (ends : EndsLiteral rest) :
    number? (literal.chars ++ rest) =
      (numberOf literal.negative literal.whole literal.decimals literal.power).map (·, rest) := by
  have digit : '-'.isDigit = false := by decide
  obtain ⟨first, others, whole, -⟩ := literal.whole_leads
  have firstDigit : first.isDigit = true :=
    literal.whole_digits first (whole ▸ List.mem_cons_self)
  have noSign : first ≠ '-' := by
    rintro rfl
    simp [digit] at firstDigit
  have powerStops := powerChars_stops ends literal.power
  have wholeRead := spanWhole?_whole literal (decimalsChars_stops literal.decimals powerStops)
  have decimalsRead := spanFraction?_decimalsChars literal.decimals_digits powerStops
  have powerRead := spanExponent?_powerChars ends literal.power
  cases sign : literal.negative with
  | true =>
    simp [number?, chars, sign, Number.withSign, wholeRead, decimalsRead, powerRead,
      Option.map_eq_bind]
  | false =>
    rw [whole, List.cons_append] at wholeRead
    simp [number?, chars, sign, Number.withSign, whole, noSign, wholeRead, decimalsRead, powerRead,
      Option.map_eq_bind]

/-! ## What a literal stands for -/

theorem numberOf_parts (literal : Literal) :
    numberOf literal.negative literal.whole literal.decimals literal.power =
      if !(Number.ofDecimal literal.negative literal.digits literal.exponent).isFinite then none
      else if literal.decimals.isNone && literal.power.isNone &&
          !(literal.negative && literal.digits == 0) then
        some (.integer (if literal.negative then -(literal.digits : Int) else literal.digits))
      else
        some (.fraction (Number.ofDecimal literal.negative literal.digits literal.exponent)) :=
  rfl

section Value

variable (literal : Literal) {rest : List Char} (ends : EndsLiteral rest)

include ends

/-- With decimals or a power of ten, a literal in range is the number it is rounded to. -/
theorem number?_fraction (fractional : literal.decimals.isSome ∨ literal.power.isSome)
    {position : Fin Number.magnitudes}
    (rounded : Number.decimalPosition literal.digits literal.exponent = position) :
    number? (literal.chars ++ rest) =
      some (.fraction (.finite literal.negative position), rest) := by
  have nearest : Number.ofDecimal literal.negative literal.digits literal.exponent =
      .finite literal.negative position := by
    rw [Number.ofDecimal_eq, rounded, Number.ofPosition, dif_pos position.isLt]
  have notInteger : (literal.decimals.isNone && literal.power.isNone) = false := by
    rw [← Option.not_isSome, ← Option.not_isSome]
    rcases fractional with given | given <;> simp [given]
  rw [number?_chars literal ends, numberOf_parts, nearest, notInteger]
  rfl

/-- Without them it is an integer, except a zero with a minus sign. -/
theorem number?_integer (noDecimals : literal.decimals = none) (noPower : literal.power = none)
    (oneZero : literal.negative = true → literal.digits ≠ 0)
    (inRange : Number.decimalPosition literal.digits 0 < Number.magnitudes) :
    number? (literal.chars ++ rest) =
      some (.integer (if literal.negative then -(literal.digits : Int) else literal.digits),
        rest) := by
  have finite : (Number.ofDecimal literal.negative literal.digits literal.exponent).isFinite := by
    have : literal.exponent = 0 := by simp [exponent, noDecimals, noPower]
    rw [Number.ofDecimal_eq, this, Number.ofPosition, dif_pos inRange]
    rfl
  have unsignedZero : (literal.negative && literal.digits == 0) = false := by
    cases sign : literal.negative with
    | true => simp [oneZero sign]
    | false => rfl
  rw [number?_chars literal ends, numberOf_parts, finite, unsignedZero, noDecimals, noPower]
  rfl

end Value

end Literal

end Json

end RuleTree
