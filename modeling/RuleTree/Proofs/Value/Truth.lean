import RuleTree.Proofs.Number.StringForm
import RuleTree.Proofs.Unicode.Lowering

/-!
Contract: which values mean true.

Only the boolean and the word do, the word in any case of its letters: the string form of a
number starts with a sign, a digit or a capital letter of a name, and that of a list with a
bracket (`Value.readsTrue_iff`). Lower-casing by all of Unicode gives the same texts the form
of the word, because no letter of it comes from beyond ASCII (`Value.lower_eq_true_iff`).

Owns: the meaning of true. Does not own: the operators that ask for it.
-/

namespace RuleTree

namespace Value

/-- The boolean true, or a text with the letters of the word, each small or capital. -/
def MeansTrue : Value → Prop
  | .boolean value => value = true
  | .string text =>
    List.Forall₂ (fun c letter => c = letter ∨ c = letter.toUpper) text.toList "true".toList
  | _ => False

theorem toLower_eq_iff {c letter : Char} (small : letter.isLower = true) :
    c.toLower = letter ↔ c = letter ∨ c = letter.toUpper := by
  have fixed : letter.toLower = letter :=
    Char.toLower_eq_of_not_isUpper (Char.not_isUpper_of_isLower small)
  constructor
  · rintro rfl
    by_cases upper : c.isUpper = true
    · right
      rw [Char.toUpper_toLower_eq_toUpper,
        Char.toUpper_eq_of_not_isLower (Char.not_isLower_of_isUpper upper)]
    · exact .inl (Char.toLower_eq_of_not_isUpper upper).symm
  · rintro (rfl | rfl)
    · exact fixed
    · rw [Char.toLower_toUpper_eq_toLower, fixed]

theorem map_toLower_eq_iff {text word : List Char}
    (small : ∀ letter ∈ word, letter.isLower = true) :
    text.map Char.toLower = word ↔
      List.Forall₂ (fun c letter => c = letter ∨ c = letter.toUpper) text word := by
  induction word generalizing text with
  | nil => rw [List.map_eq_nil_iff, List.forall₂_nil_right_iff]
  | cons letter word inductionHypothesis =>
    obtain ⟨smallHere, smallRest⟩ := List.forall_mem_cons.1 small
    cases text with
    | nil => exact iff_of_false nofun nofun
    | cons c text =>
      rw [List.map_cons, List.cons_eq_cons, List.forall₂_cons, toLower_eq_iff smallHere,
        inductionHypothesis smallRest]

theorem letters_of_true : ∀ letter ∈ "true".toList,
    letter.isLower = true ∧ letter.toNat < 0x80 ∧ letter ≠ 'k' := by
  have letters : "true".toList = ['t', 'r', 'u', 'e'] := rfl
  simp only [letters, List.forall_mem_cons, List.not_mem_nil, false_imp_iff, implies_true, and_true]
  decide

/-- A text that starts with anything else than the first letter is not the word. -/
theorem map_toLower_ne {first : Char} {others : List Char} (different : first.toLower ≠ 't') :
    (first :: others).map Char.toLower ≠ "true".toList := by
  intro same
  exact different (List.cons.inj same).1

theorem map_toLower_number_ne (number : Number) :
    number.text.map Char.toLower ≠ "true".toList := by
  cases number with
  | nan => decide
  | infinite negative => cases negative <;> decide
  | finite negative position =>
    obtain ⟨literal, written, -⟩ := Number.exists_writesPlain negative position
    obtain ⟨first, others, chars, starts⟩ := literal.exists_chars_eq
    rw [written, chars]
    apply map_toLower_ne
    rcases starts with rfl | digit
    · decide
    · rw [Json.Literal.toLower_of_isDigit digit]
      rintro rfl
      cases digit

/-- **A value reads as true exactly when it means true.** -/
theorem readsTrue_iff (value : Value) : value.readsTrue = true ↔ value.MeansTrue := by
  rw [readsTrue, beq_iff_eq]
  cases value with
  | null => exact iff_of_false (by decide) id
  | boolean value => cases value <;> simp [operandChars, chars, MeansTrue]
  | number value => exact iff_of_false (map_toLower_number_ne value) id
  | string text => exact map_toLower_eq_iff fun letter member => (letters_of_true letter member).1
  | list items => exact iff_of_false (map_toLower_ne (by decide)) id

instance (value : Value) : Decidable value.MeansTrue :=
  decidable_of_iff _ value.readsTrue_iff

/-- Lower-casing gives just the texts that mean true the form of the word. -/
theorem lower_eq_true_iff (value : Value) :
    Unicode.lower value.operandChars = "true".toList ↔ value.MeansTrue := by
  rw [Unicode.lower_eq_iff fun letter member => (letters_of_true letter member).2,
    ← readsTrue_iff, readsTrue, beq_iff_eq]

/-- No character that only looks like a letter of the word stands for it. -/
theorem ascii_of_meansTrue {value : Value} (meansTrue : value.MeansTrue) :
    ∀ c ∈ value.operandChars, c.toNat < 0x80 := by
  intro c member
  have lowered : value.operandChars.map Char.toLower = "true".toList :=
    beq_iff_eq.1 (value.readsTrue_iff.2 meansTrue)
  have small := (letters_of_true c.toLower (lowered ▸ List.mem_map_of_mem member)).2.1
  by_contra beyond
  rw [Unicode.toLower_beyondAscii (not_lt.1 beyond)] at small
  exact beyond small

end Value

end RuleTree
