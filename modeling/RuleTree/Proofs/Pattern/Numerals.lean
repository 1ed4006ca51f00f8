import RuleTree.Proofs.Number.Integral
import RuleTree.Proofs.Pattern.Words

/-!
Contract: an integral number, as a pattern, matches the numbers that are equal to it.

The string form of an integral number is the numeral of an integer on both paths, and a numeral
has no character of the grammar and no letter (`of_mem_integerNumeral`). So such a pattern is one
word that matches itself alone (`matchesWhole?_integerNumeral`), and lower-casing makes no other
text the same (`lower_eq_integerNumeral_iff`). The finite numbers of that string form are the
equal ones, and the string forms of the others have letters (`text_eq_integral_iff`).

Owns: integral numbers as patterns. Does not own: which words a pattern matches
(`Proofs.Pattern.Words`), and the string form of a number (`Proofs.Number`).
-/

namespace RuleTree

/-! ## Numerals as words -/

section Numeral

variable {numeral : ℤ}

/-- A numeral is written in ASCII, without letters and without characters of the grammar. -/
theorem of_mem_integerNumeral {c : Char} (member : c ∈ integerNumeral numeral) :
    c.toNat < 0x80 ∧ ¬c.isAlpha = true ∧ c ∉ Pattern.metaCharacters := by
  rw [integerNumeral, List.mem_append] at member
  rcases member with sign | digit
  · split_ifs at sign
    · rw [List.mem_singleton.mp sign]
      decide
    · cases sign
  · have isDigit := isDigit_of_mem_toDigits digit
    obtain ⟨least, most⟩ : 48 ≤ c.toNat ∧ c.toNat ≤ 57 := Char.isDigit_iff_toNat.mp isDigit
    refine ⟨by omega, ?_, ?_⟩
    · simp only [Char.isAlpha, Char.isUpper, Char.isLower, Bool.or_eq_true, Bool.and_eq_true,
        decide_eq_true_eq, ge_iff_le, UInt32.le_iff_toNat_le]
      show ¬(65 ≤ c.toNat ∧ c.toNat ≤ 90 ∨ 97 ≤ c.toNat ∧ c.toNat ≤ 122)
      omega
    · intro isMeta
      have noDigits : Pattern.metaCharacters.all (fun other => !other.isDigit) = true := by decide
      have noDigit := List.all_eq_true.mp noDigits c isMeta
      rw [isDigit] at noDigit
      cases noDigit

theorem integerNumeral_ne_nil : integerNumeral numeral ≠ [] := by
  have digits : Nat.toDigits 10 numeral.natAbs ≠ [] := Nat.toDigits_ne_nil
  simp [integerNumeral, digits]

theorem length_integerNumeral_le {count : Nat} (positive : 0 < count)
    (bounded : numeral.natAbs < 10 ^ count) : (integerNumeral numeral).length ≤ count + 1 := by
  have digits := (Nat.length_toDigits_le_iff (by decide) positive).mpr bounded
  rw [integerNumeral, List.length_append, Nat.add_comm]
  apply Nat.add_le_add digits
  split_ifs <;> simp

/-- The numerals of integers within range are far shorter than a pattern may be. -/
theorem short_integerNumeral (inRange : numeral.natAbs < Number.rangeEnd) :
    (integerNumeral numeral).length ≤ 2 ^ 16 := by
  have powers : ∀ high low, 2 ^ high * Nat.pow 2 low ≤ 10 ^ (high + low) := by
    intro high low
    rw [pow_add]
    exact Nat.mul_le_mul (Nat.pow_le_pow_left (by decide) high)
      (Nat.pow_le_pow_left (by decide) low)
  -- The exponent of the spacing is named, since powers as large are not to be evaluated.
  obtain ⟨low, spacing⟩ : ∃ low, low = 970 := ⟨_, rfl⟩
  have bound : Number.rangeEnd ≤ 10 ^ (54 + low) := by
    apply le_trans ?_ (powers 54 low)
    unfold Number.rangeEnd Number.halfSpacing
    rw [← spacing]
    exact Nat.mul_le_mul_right _ (Nat.sub_le _ _)
  have length := length_integerNumeral_le (by omega) (inRange.trans_le bound)
  omega

/-- No text but the numeral itself is lower-cased to it. -/
theorem lower_eq_integerNumeral_iff {text : List Char} :
    Unicode.lower text = integerNumeral numeral ↔ text = integerNumeral numeral := by
  apply Unicode.lower_eq_iff_of_noLetters
  · exact fun c member => (of_mem_integerNumeral member).1
  · exact fun c member => (of_mem_integerNumeral member).2.1

theorem matchesWhole?_integerNumeral (inRange : numeral.natAbs < Number.rangeEnd)
    (text : List Char) :
    Pattern.matchesWhole? (integerNumeral numeral) text =
      some (decide (text = integerNumeral numeral)) := by
  apply Pattern.matchesWhole?_word integerNumeral_ne_nil
  · exact fun c member => (of_mem_integerNumeral member).1
  · exact fun c member => (of_mem_integerNumeral member).2.2
  · exact short_integerNumeral inRange

end Numeral

/-! ## Numbers with one string form -/

namespace Number

/-- A number is equal to a finite one when its value is the same. -/
theorem equal_iff_rational? {left right : Number} {value : ℚ}
    (exact : right.rational? = some value) :
    left.equal right = true ↔ left.rational? = some value := by
  cases right with
  | finite otherNegative otherPosition =>
      cases left with
      | finite negative position =>
          have oneNonzero := cast_unitsPerOne_pos.ne'
          rw [← exact, rational?_finite, rational?_finite, Option.some_inj,
            div_left_inj' oneNonzero, Int.cast_inj, ← unitsAt_signed, ← unitsAt_signed,
            unitsAt_inj]
          cases negative <;> cases otherNegative <;> simp [equal, signed, Fin.ext_iff] <;> omega
      | _ => simp [equal, rational?]
  | _ => cases exact

/-- The string form of an integral number is that of the numbers equal to it. -/
theorem text_eq_integral_iff {number other : Number} {value : ℤ}
    (integral : other.rational? = some (value : ℚ)) :
    number.text = other.text ↔ number.equal other = true := by
  obtain ⟨numeral, written, -⟩ := exists_numeral integral
  have noLetters : ∀ c ∈ other.text, ¬c.isAlpha = true := by
    rw [written]
    exact fun c member => (of_mem_integerNumeral member).2.1
  cases other with
  | finite otherNegative otherPosition =>
      cases number with
      | finite negative position => exact text_eq_iff _ _ _ _
      | nan =>
          apply iff_of_false
          · intro same
            rw [← same] at noLetters
            exact noLetters 'N' (by decide) rfl
          · nofun
      | infinite negative =>
          apply iff_of_false
          · intro same
            rw [← same] at noLetters
            exact noLetters 'I' (by cases negative <;> decide) rfl
          · nofun
  | _ => cases integral

end Number

namespace Builtin

variable {σ : Type}

/-- **Matching a number against an integral number asks whether they are equal.** The answer is
true for the numbers of the same value, of which zero has two, and false for all others, NaN and
the infinities included. -/
theorem wholeMatch_integral {pattern : Number} {value : ℤ}
    (integral : pattern.rational? = some (value : ℚ)) (number : Number) (context : σ) :
    wholeMatch [.number number, .number pattern] context =
        (.ok (.boolean (number.equal pattern)), context) ∧
      (number.equal pattern = true ↔ number.rational? = some (value : ℚ)) := by
  obtain ⟨numeral, written, -, inRange⟩ := Number.exists_numeral integral
  have form : ∀ other : Number, (Value.number other).operandChars = other.text := fun _ => rfl
  have lowered : Unicode.lower pattern.text = integerNumeral numeral :=
    lower_eq_integerNumeral_iff.mpr written
  have answer : decide (Unicode.lower number.text = integerNumeral numeral) =
      number.equal pattern := by
    rw [Bool.eq_iff_iff, decide_eq_true_iff, lower_eq_integerNumeral_iff, ← written,
      Number.text_eq_integral_iff integral]
  refine ⟨?_, Number.equal_iff_rational? integral⟩
  rw [wholeMatch, matchesPattern, form, form, lowered, matchesWhole?_integerNumeral inRange, answer]
  rfl

/-- On both sides of the switch between the forms, and for the zero that has a sign. -/
theorem wholeMatch_integral_switch :
    (Number.ofInt (10 ^ 15)).rational? = some ((10 ^ 15 : ℤ) : ℚ) ∧
      (Number.ofInt 0).rational? = some ((0 : ℤ) : ℚ) ∧
      wholeMatch [.number (.ofInt (10 ^ 15)), .number (.ofInt (10 ^ 15))] () =
        (.ok (.boolean true), ()) ∧
      wholeMatch [.number (.ofInt (10 ^ 15 - 1)), .number (.ofInt (10 ^ 15))] () =
        (.ok (.boolean false), ()) ∧
      wholeMatch [.number Number.negativeZero, .number (.ofInt 0)] () =
        (.ok (.boolean true), ()) := by
  have large : (Number.ofInt (10 ^ 15)).rational? = some ((10 ^ 15 : ℤ) : ℚ) :=
    Number.rational?_ofInt (by decide)
  have zero : (Number.ofInt 0).rational? = some ((0 : ℤ) : ℚ) :=
    Number.rational?_ofInt (by decide)
  have itself : (Number.ofInt (10 ^ 15)).equal (.ofInt (10 ^ 15)) = true := by decide +kernel
  have below : (Number.ofInt (10 ^ 15 - 1)).equal (.ofInt (10 ^ 15)) = false := by decide +kernel
  have zeros : Number.negativeZero.equal (.ofInt 0) = true := by decide +kernel
  refine ⟨large, zero, ?_, ?_, ?_⟩
  · rw [(wholeMatch_integral large _ ()).1, itself]
  · rw [(wholeMatch_integral large _ ()).1, below]
  · rw [(wholeMatch_integral zero _ ()).1, zeros]

end Builtin

end RuleTree
