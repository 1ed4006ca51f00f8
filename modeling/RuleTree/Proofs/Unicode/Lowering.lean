import Mathlib
import RuleTree.Unicode.Casing

/-!
Contract: what lower-casing does to ASCII, and where it may be cut.

The rows of the table send no character beyond ASCII into it but the Kelvin sign, to `k`
(`lowerChar_beyondAscii`). So a character of the lower-case form that is ASCII but no letter
stood in the text (`mem_of_mem_lowerFrom`), and a text has an ASCII form without `k` only if
it is ASCII itself (`lower_eq_iff`). A character that is neither cased nor case-ignorable
ends every word, so that the parts before and after it are lower-cased each by itself
(`lower_separated`).

Owns: facts about the lower-case form of texts. Does not own: what is compared with it.

Mathlib is imported as a whole for what is known about the case of ASCII letters
(`Char.toLower_toUpper_eq_toLower` and the lemmas beside it), which no single module of it
hands on.
-/

namespace RuleTree.Unicode

/-! ## Single characters -/

/-- The row of the ASCII letters, the row of the Kelvin sign, or a row with images that are
characters beyond ASCII. -/
def CaseRow.StaysBeyondAscii (row : CaseRow) : Prop :=
  row.last < 0x80 ∨ (row.first = row.last ∧ (row.first : Int) + row.offset = 'k'.toNat) ∨
    (0x80 ≤ (row.first : Int) + row.offset ∧ (row.last : Int) + row.offset < 0xD800) ∨
    (0xE000 ≤ (row.first : Int) + row.offset ∧ (row.last : Int) + row.offset < 0x110000)

instance (row : CaseRow) : Decidable row.StaysBeyondAscii :=
  inferInstanceAs (Decidable (_ ∨ _))

theorem lowerRows_stay : ∀ row ∈ lowerRows, row.StaysBeyondAscii := by
  decide +kernel

theorem toNat_ofNat {point : Nat} (valid : point < 0xD800 ∨ 0xE000 ≤ point ∧ point < 0x110000) :
    (Char.ofNat point).toNat = point := by
  have isValid : point.isValidChar := by
    rcases valid with small | ⟨large, bounded⟩
    · exact .inl small
    · exact .inr ⟨large, bounded⟩
  rw [Char.ofNat, dif_pos isValid]
  rfl

/-- A character beyond ASCII stays there, but for the Kelvin sign. -/
theorem lowerChar_beyondAscii {c : Char} (beyond : 0x80 ≤ c.toNat) :
    lowerChar c = 'k' ∨ 0x80 ≤ (lowerChar c).toNat := by
  rw [lowerChar, if_neg (by omega), caseImage]
  split
  · next row found =>
    have holds := List.find?_some found
    simp only [Bool.and_eq_true, decide_eq_true_eq] at holds
    obtain ⟨⟨least, most⟩, -⟩ := holds
    rcases lowerRows_stay row (List.mem_of_find?_eq_some found) with
      ascii | ⟨single, kelvin⟩ | low | high
    · omega
    · left
      have image : ((c.toNat : Int) + row.offset).toNat = 'k'.toNat := by omega
      rw [image, Char.ofNat_toNat]
    · right
      rw [toNat_ofNat (by omega)]
      omega
    · right
      rw [toNat_ofNat (by omega)]
      omega
  · right
    rw [Char.ofNat_toNat]
    exact beyond

theorem toLower_beyondAscii {c : Char} (beyond : 0x80 ≤ c.toNat) : c.toLower = c := by
  apply Char.toLower_eq_of_not_isUpper
  intro upper
  have most : c.toNat ≤ 90 := UInt32.le_iff_toNat_le.1 (of_decide_eq_true upper).2
  omega

/-- A lower-case form that is no letter is the character itself. -/
theorem toLower_eq_of_not_isAlpha {c : Char} (noLetter : ¬ c.toLower.isAlpha = true) :
    c.toLower = c := by
  apply Char.toLower_eq_of_not_isUpper
  rw [Char.isAlpha_toLower_eq_isAlpha, Char.isAlpha, Bool.or_eq_true, not_or] at noLetter
  exact noLetter.1

theorem lowerInContext_ascii {c : Char} (ascii : c.toNat < 0x80) (before after : List Char) :
    lowerInContext before c after = [c.toLower] := by
  have noSigma : c ≠ 'Σ' := by
    rintro rfl
    revert ascii
    decide
  have noDot : c ≠ 'İ' := by
    rintro rfl
    revert ascii
    decide
  rw [lowerInContext, if_neg noSigma, if_neg noDot, lowerChar, if_pos ascii]

/-- What is ASCII in the form of a character beyond ASCII is one of two letters. -/
theorem mem_lowerInContext_beyondAscii {c image : Char} {before after : List Char}
    (beyond : 0x80 ≤ c.toNat) (member : image ∈ lowerInContext before c after) :
    image = 'i' ∨ image = 'k' ∨ 0x80 ≤ image.toNat := by
  unfold lowerInContext at member
  split_ifs at member
  · rw [List.mem_singleton.1 member]
    decide
  · rw [List.mem_singleton.1 member]
    decide
  · rcases List.mem_pair.1 member with rfl | rfl <;> decide
  · rw [List.mem_singleton.1 member]
    exact .inr (lowerChar_beyondAscii beyond)

theorem exists_mem_lowerInContext {c : Char} (beyond : 0x80 ≤ c.toNat) (before after : List Char) :
    ∃ image ∈ lowerInContext before c after, image = 'k' ∨ 0x80 ≤ image.toNat := by
  unfold lowerInContext
  split_ifs
  · exact ⟨_, List.mem_singleton_self _, .inr (by decide)⟩
  · exact ⟨_, List.mem_singleton_self _, .inr (by decide)⟩
  · exact ⟨'\u0307', by simp, .inr (by decide)⟩
  · exact ⟨_, List.mem_singleton_self _, lowerChar_beyondAscii beyond⟩

/-! ## ASCII texts -/

theorem lowerFrom_ascii {text : List Char} (ascii : ∀ c ∈ text, c.toNat < 0x80)
    (before : List Char) : lowerFrom before text = text.map Char.toLower := by
  induction text generalizing before with
  | nil => rfl
  | cons c text inductionHypothesis =>
    rw [lowerFrom, lowerInContext_ascii (ascii c List.mem_cons_self),
      inductionHypothesis fun other member => ascii other (List.mem_cons_of_mem c member)]
    rfl

/-- What is ASCII in a lower-case form, but no letter, stood in the text. -/
theorem mem_of_mem_lowerFrom {text before : List Char} {image : Char} (ascii : image.toNat < 0x80)
    (noLetter : ¬ image.isAlpha = true) (member : image ∈ lowerFrom before text) :
    image ∈ text := by
  induction text generalizing before with
  | nil => exact member
  | cons c text inductionHypothesis =>
    rw [lowerFrom, List.mem_append] at member
    rcases member with here | later
    · rcases Nat.lt_or_ge c.toNat 0x80 with small | beyond
      · rw [lowerInContext_ascii small, List.mem_singleton] at here
        subst here
        rw [toLower_eq_of_not_isAlpha noLetter]
        exact List.mem_cons_self
      · exfalso
        rcases mem_lowerInContext_beyondAscii beyond here with rfl | rfl | large
        · exact noLetter (by decide)
        · exact noLetter (by decide)
        · omega
    · exact List.mem_cons_of_mem c (inductionHypothesis later)

/-- A text with a character beyond ASCII has one in its lower-case form, or a `k`. -/
theorem exists_mem_lowerFrom {text : List Char} {c : Char} (member : c ∈ text)
    (beyond : 0x80 ≤ c.toNat) (before : List Char) :
    ∃ image ∈ lowerFrom before text, image = 'k' ∨ 0x80 ≤ image.toNat := by
  induction text generalizing before with
  | nil => cases member
  | cons first text inductionHypothesis =>
    simp only [lowerFrom, List.mem_append]
    rcases List.mem_cons.1 member with rfl | later
    · obtain ⟨image, here, outside⟩ := exists_mem_lowerInContext beyond before text
      exact ⟨image, .inl here, outside⟩
    · obtain ⟨image, there, outside⟩ := inductionHypothesis later (first :: before)
      exact ⟨image, .inr there, outside⟩

/-- **A text is an ASCII word in lower case if it is one in the case of ASCII letters.** Only
a `k` could come from elsewhere. -/
theorem lower_eq_iff {text word : List Char}
    (ascii : ∀ letter ∈ word, letter.toNat < 0x80 ∧ letter ≠ 'k') :
    lower text = word ↔ text.map Char.toLower = word := by
  by_cases asciiText : ∀ c ∈ text, c.toNat < 0x80
  · rw [lower, lowerFrom_ascii asciiText]
  · push Not at asciiText
    obtain ⟨c, member, beyond⟩ := asciiText
    apply iff_of_false
    · rintro rfl
      obtain ⟨image, there, outside⟩ := exists_mem_lowerFrom member beyond []
      obtain ⟨small, noKelvin⟩ := ascii image there
      rcases outside with kelvin | large
      · exact noKelvin kelvin
      · omega
    · rintro rfl
      have small := (ascii _ (List.mem_map_of_mem member)).1
      rw [toLower_beyondAscii beyond] at small
      omega

theorem map_toLower_eq_self {word : List Char}
    (noLetters : ∀ c ∈ word, ¬c.toLower.isAlpha = true) : word.map Char.toLower = word := by
  have same : ∀ c ∈ word, c.toLower = id c := by
    intro c member
    exact toLower_eq_of_not_isAlpha (noLetters c member)
  rw [List.map_congr_left same, List.map_id]

/-- Lower-casing gives the form of a word without letters to that word alone. -/
theorem lower_eq_iff_of_noLetters {text word : List Char}
    (ascii : ∀ c ∈ word, c.toNat < 0x80) (noLetters : ∀ c ∈ word, ¬c.isAlpha = true) :
    lower text = word ↔ text = word := by
  have noKelvin : ∀ c ∈ word, c.toNat < 0x80 ∧ c ≠ 'k' := by
    intro c member
    refine ⟨ascii c member, ?_⟩
    rintro rfl
    exact noLetters 'k' member rfl
  rw [lower_eq_iff noKelvin]
  constructor
  · intro lowered
    have kept : text.map Char.toLower = text := by
      apply map_toLower_eq_self
      intro c member
      apply noLetters
      rw [← lowered]
      exact List.mem_map_of_mem member
    rw [← kept, lowered]
  · rintro rfl
    apply map_toLower_eq_self
    intro c member
    rw [Char.isAlpha_toLower_eq_isAlpha]
    exact noLetters c member

/-! ## Separators -/

section Separator

variable {separator : Char} (ascii : separator.toNat < 0x80)
  (lowered : separator.toLower = separator)
  (uncased : isCased separator = false) (notIgnorable : isCaseIgnorable separator = false)

include uncased notIgnorable in
theorem startsCased_separator (text far : List Char) :
    startsCased (text ++ separator :: far) = startsCased text := by
  induction text with
  | nil => simp [startsCased, uncased, notIgnorable]
  | cons c text inductionHypothesis =>
    by_cases ignorable : isCaseIgnorable c = true
    · simpa [startsCased, ignorable] using inductionHypothesis
    · simp [startsCased, ignorable]

include uncased notIgnorable in
/-- What stands before a separator is not looked at. -/
theorem lowerFrom_before (text before far : List Char) :
    lowerFrom (before ++ separator :: far) text = lowerFrom before text := by
  induction text generalizing before with
  | nil => rfl
  | cons c text inductionHypothesis =>
    have rest := inductionHypothesis (c :: before)
    rw [List.cons_append] at rest
    rw [lowerFrom, lowerFrom, rest, lowerInContext, lowerInContext,
      startsCased_separator uncased notIgnorable]

include ascii lowered uncased notIgnorable

theorem lowerFrom_separator (text before after : List Char) :
    lowerFrom before (text ++ separator :: after) =
      lowerFrom before text ++ separator :: lower after := by
  induction text generalizing before with
  | nil =>
    have rest := lowerFrom_before uncased notIgnorable after [] before
    rw [List.nil_append] at rest
    rw [List.nil_append, lowerFrom, lowerFrom, lowerInContext_ascii ascii, lowered, rest, lower]
    rfl
  | cons c text inductionHypothesis =>
    rw [List.cons_append, lowerFrom, lowerFrom, inductionHypothesis, lowerInContext, lowerInContext,
      startsCased_separator uncased notIgnorable, List.append_assoc]

/-- **Parts between separators are lower-cased each by itself.** -/
theorem lower_separated (words : List (List Char)) :
    lower ([separator].intercalate words) = [separator].intercalate (words.map lower) := by
  induction words with
  | nil => rfl
  | cons word words inductionHypothesis =>
    cases words with
    | nil => simp [List.intercalate]
    | cons next words =>
      simp only [List.map_cons, List.intercalate_cons_cons, List.append_assoc,
        List.singleton_append] at inductionHypothesis ⊢
      rw [← inductionHypothesis]
      exact lowerFrom_separator ascii lowered uncased notIgnorable word [] _

end Separator

end RuleTree.Unicode
