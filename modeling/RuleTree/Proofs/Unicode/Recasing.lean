import RuleTree.Builtins
import RuleTree.Proofs.Unicode.Lowering

/-!
Contract: what the lower-case form of a text does not tell.

No row of the table moves what a row moves code points to (`lowerRows_clear`), and no form is
one of the two characters that the table does not decide. So lower-casing leaves a lower-case
form as it is (`lower_lower`). The case of ASCII letters is not seen at all, as both cases of a
letter are cased and not case-ignorable (`lower_map_toLower`). Matching looks at lower-case
forms alone (`Builtin.wholeMatch_recased`).

Owns: texts with one lower-case form. Does not own: the rows of the table (`Unicode.Lowering`).
-/

namespace RuleTree.Unicode

/-! ## The table -/

/-- The code point that the row moves another one to. -/
def CaseRow.image (row : CaseRow) (point : Nat) : Nat :=
  ((point : Int) + row.offset).toNat

/-- The row moves the code point. -/
def CaseRow.Holds (row : CaseRow) (point : Nat) : Prop :=
  row.first ≤ point ∧ point ≤ row.last ∧ (point - row.first) % row.step = 0

/-- The images of the one row stand below the other one, above it, or between its points. -/
def CaseRow.clears (row other : CaseRow) : Bool :=
  Nat.blt (row.image row.last) other.first || Nat.blt other.last (row.image row.first) ||
    (Nat.beq other.step 2 && (Nat.beq row.step 2 || Nat.beq row.first row.last) &&
      !Nat.beq (row.image row.first % 2) (other.first % 2))

theorem lowerRows_clear :
    (lowerRows.all fun row => lowerRows.all fun other => row.clears other) = true := by
  decide +kernel

/-- No row goes below zero, and none to `İ`, which has no row. -/
theorem lowerRows_bounds : ∀ row ∈ lowerRows, 0 ≤ (row.first : Int) + row.offset ∧
    (row.image row.last < 'İ'.toNat ∨ 'İ'.toNat < row.image row.first) := by
  decide +kernel

theorem CaseRow.image_mem_bounds {row : CaseRow} {point : Nat} (holds : row.Holds point) :
    row.image row.first ≤ row.image point ∧ row.image point ≤ row.image row.last := by
  obtain ⟨least, most, -⟩ := holds
  simp only [image]
  omega

theorem CaseRow.not_holds_image {row other : CaseRow} {point : Nat}
    (positive : 0 ≤ (row.first : Int) + row.offset)
    (clears : row.clears other = true) (holds : row.Holds point) :
    ¬ other.Holds (row.image point) := by
  have bounds := image_mem_bounds holds
  obtain ⟨least, most, onStep⟩ := holds
  rintro ⟨otherLeast, otherMost, otherStep⟩
  simp only [CaseRow.clears, Bool.or_eq_true, Bool.and_eq_true, Bool.not_eq_true', Nat.blt_eq,
    Nat.beq_eq, ← Bool.not_eq_true] at clears
  rcases clears with (below | above) | ⟨⟨everySecond, spaced⟩, apart⟩
  · omega
  · omega
  · rw [everySecond] at otherStep
    simp only [image] at *
    rcases spaced with alike | single
    · rw [alike] at onStep
      omega
    · omega

/-! ## Single characters -/

theorem caseImage_eq_self {rows : List CaseRow} {point : Nat}
    (apart : ∀ row ∈ rows, ¬ row.Holds point) : caseImage rows point = point := by
  have none : rows.find? (fun row =>
      row.first ≤ point && point ≤ row.last && (point - row.first) % row.step == 0) = none := by
    simpa [CaseRow.Holds, and_assoc] using apart
  rw [caseImage, none]

/-- A code point stays, or one of the rows moves it. -/
theorem caseImage_moves (rows : List CaseRow) (point : Nat) :
    caseImage rows point = point ∨
      ∃ row ∈ rows, row.Holds point ∧ caseImage rows point = row.image point := by
  rw [caseImage]
  split
  · next row found =>
    have holds := List.find?_some found
    simp only [Bool.and_eq_true, decide_eq_true_eq, beq_iff_eq] at holds
    exact .inr ⟨row, List.mem_of_find?_eq_some found, ⟨holds.1.1, holds.1.2, holds.2⟩, rfl⟩
  · exact .inl rfl

theorem caseImage_caseImage (point : Nat) :
    caseImage lowerRows (caseImage lowerRows point) = caseImage lowerRows point := by
  rcases caseImage_moves lowerRows point with stays | ⟨row, member, holds, moved⟩
  · rw [stays, stays]
  · rw [moved]
    apply caseImage_eq_self
    intro other otherMember
    have clears := List.all_eq_true.1 (List.all_eq_true.1 lowerRows_clear row member) other
      otherMember
    exact CaseRow.not_holds_image (lowerRows_bounds row member).1 clears holds

theorem caseImage_ne_dotted {point : Nat} (other : point ≠ 'İ'.toNat) :
    caseImage lowerRows point ≠ 'İ'.toNat := by
  rcases caseImage_moves lowerRows point with stays | ⟨row, member, holds, moved⟩
  · rwa [stays]
  · have outside := (lowerRows_bounds row member).2
    have bounds := CaseRow.image_mem_bounds holds
    omega

/-- The image of a character is a character. -/
theorem toNat_lowerChar {c : Char} (beyond : 0x80 ≤ c.toNat) :
    (lowerChar c).toNat = caseImage lowerRows c.toNat := by
  rw [lowerChar, if_neg (by omega)]
  apply toNat_ofNat
  rcases caseImage_moves lowerRows c.toNat with stays | ⟨row, member, holds, moved⟩
  · rw [stays]
    have valid : c.toNat.isValidChar := c.valid
    rcases valid with small | ⟨above, bounded⟩ <;> omega
  · rw [moved, CaseRow.image]
    obtain ⟨least, most, -⟩ := holds
    rcases lowerRows_stay row member with ascii | ⟨single, kelvin⟩ | low | high
    · omega
    · have letter : 'k'.toNat = 107 := rfl
      omega
    · omega
    · omega

theorem lowerChar_ascii {c : Char} (ascii : c.toNat < 0x80) : lowerChar c = c.toLower := by
  rw [lowerChar, if_pos ascii]

theorem ascii_of_isAlpha {c : Char} (letter : c.isAlpha = true) : c.toNat < 0x80 := by
  simp only [Char.isAlpha, Char.isUpper, Char.isLower, Bool.or_eq_true, Bool.and_eq_true,
    decide_eq_true_eq, UInt32.le_iff_toNat_le] at letter
  have inRange : c.val.toNat ≤ 122 := letter.elim (fun upper => upper.2.trans (by decide)) And.right
  exact Nat.lt_of_le_of_lt inRange (by decide)

/-- A character that is no letter of ASCII has one case only. -/
theorem toLower_of_not_isAlpha {c : Char} (noLetter : ¬ c.isAlpha = true) : c.toLower = c :=
  toLower_eq_of_not_isAlpha (by rwa [Char.isAlpha_toLower_eq_isAlpha])

theorem toLower_ascii {c : Char} (ascii : c.toNat < 0x80) : c.toLower.toNat < 0x80 := by
  by_cases letter : c.isAlpha = true
  · apply ascii_of_isAlpha
    rwa [Char.isAlpha_toLower_eq_isAlpha]
  · rwa [toLower_of_not_isAlpha letter]

theorem lowerChar_lowerChar (c : Char) : lowerChar (lowerChar c) = lowerChar c := by
  rcases Nat.lt_or_ge c.toNat 0x80 with ascii | beyond
  · rw [lowerChar_ascii ascii, lowerChar_ascii (toLower_ascii ascii),
      Char.toLower_toLower_eq_toLower]
  · rcases lowerChar_beyondAscii beyond with kelvin | large
    · rw [kelvin]
      decide
    · rw [← Char.toNat_inj, toNat_lowerChar large, toNat_lowerChar beyond, caseImage_caseImage]

/-! ## Lower-case forms -/

/-- The character stands for itself in every context. -/
def StaysLower (c : Char) : Prop :=
  c ≠ 'Σ' ∧ c ≠ 'İ' ∧ lowerChar c = c

instance (c : Char) : Decidable (StaysLower c) :=
  inferInstanceAs (Decidable (_ ∧ _))

theorem staysLower_lowerChar {c : Char} (other : c ≠ 'İ') : StaysLower (lowerChar c) := by
  refine ⟨?_, ?_, lowerChar_lowerChar c⟩
  · -- The capital sigma has a row, so it is no image.
    intro sigma
    have twice := lowerChar_lowerChar c
    rw [sigma] at twice
    revert twice
    decide
  · intro dotted
    rcases Nat.lt_or_ge c.toNat 0x80 with ascii | beyond
    · have small := toLower_ascii ascii
      rw [← lowerChar_ascii ascii, dotted] at small
      revert small
      decide
    · have image := toNat_lowerChar beyond
      rw [dotted] at image
      exact caseImage_ne_dotted (fun same => other (Char.toNat_inj.1 same)) image.symm

theorem mem_lowerInContext_staysLower {c image : Char} {before after : List Char}
    (member : image ∈ lowerInContext before c after) : StaysLower image := by
  unfold lowerInContext at member
  split_ifs at member with sigma final dotted
  · rw [List.mem_singleton.1 member]
    decide
  · rw [List.mem_singleton.1 member]
    decide
  · rcases List.mem_pair.1 member with rfl | rfl <;> decide
  · rw [List.mem_singleton.1 member]
    exact staysLower_lowerChar dotted

theorem mem_lowerFrom_staysLower {text before : List Char} {image : Char}
    (member : image ∈ lowerFrom before text) : StaysLower image := by
  induction text generalizing before with
  | nil => cases member
  | cons c text inductionHypothesis =>
    rw [lowerFrom, List.mem_append] at member
    exact member.elim mem_lowerInContext_staysLower inductionHypothesis

theorem lowerFrom_of_staysLower {text : List Char} (stays : ∀ c ∈ text, StaysLower c)
    (before : List Char) : lowerFrom before text = text := by
  induction text generalizing before with
  | nil => rfl
  | cons c text inductionHypothesis =>
    obtain ⟨⟨noSigma, noDot, fixed⟩, others⟩ := List.forall_mem_cons.1 stays
    rw [lowerFrom, lowerInContext, if_neg noSigma, if_neg noDot, fixed, inductionHypothesis others]
    rfl

/-- **Lower-casing a second time changes nothing.** -/
theorem lower_lower (text : List Char) : lower (lower text) = lower text :=
  lowerFrom_of_staysLower (fun _ => mem_lowerFrom_staysLower) []

/-! ## The case of ASCII letters -/

/-- The same character, or an ASCII letter in one of its cases. -/
def SameButAsciiCase (c other : Char) : Prop :=
  other = c ∨ other = c.toLower ∨ other = c.toUpper

theorem SameButAsciiCase.toLower_eq {c other : Char} (same : SameButAsciiCase c other) :
    other.toLower = c.toLower := by
  rcases same with rfl | rfl | rfl
  · rfl
  · exact Char.toLower_toLower_eq_toLower c
  · exact Char.toLower_toUpper_eq_toLower c

theorem isCased_toLower (c : Char) : isCased c.toLower = isCased c := by
  by_cases letter : c.isAlpha = true
  · have ascii := ascii_of_isAlpha letter
    rw [isCased, isCased, if_pos ascii, if_pos (toLower_ascii ascii),
      Char.isAlpha_toLower_eq_isAlpha]
  · rw [toLower_of_not_isAlpha letter]

theorem not_isCaseIgnorable_of_isAlpha {c : Char} (letter : c.isAlpha = true) :
    isCaseIgnorable c = false := by
  rw [isCaseIgnorable, if_pos (ascii_of_isAlpha letter), Bool.eq_false_iff]
  intro ignorable
  simp only [Bool.or_eq_true, beq_iff_eq] at ignorable
  rcases ignorable with (((rfl | rfl) | rfl) | rfl) | rfl <;> cases letter

theorem isCaseIgnorable_toLower (c : Char) : isCaseIgnorable c.toLower = isCaseIgnorable c := by
  by_cases letter : c.isAlpha = true
  · rw [not_isCaseIgnorable_of_isAlpha letter, not_isCaseIgnorable_of_isAlpha]
    rwa [Char.isAlpha_toLower_eq_isAlpha]
  · rw [toLower_of_not_isAlpha letter]

theorem startsCased_map_toLower (text : List Char) :
    startsCased (text.map Char.toLower) = startsCased text := by
  induction text with
  | nil => rfl
  | cons c text inductionHypothesis =>
    by_cases ignorable : isCaseIgnorable c = true
    · simpa [startsCased, isCaseIgnorable_toLower, ignorable] using inductionHypothesis
    · simp [startsCased, isCaseIgnorable_toLower, isCased_toLower, ignorable]

/-- Neither the case of a letter nor that of its neighbours is seen. -/
theorem lowerInContext_map_toLower (before : List Char) (c : Char) (after : List Char) :
    lowerInContext (before.map Char.toLower) c.toLower (after.map Char.toLower) =
      lowerInContext before c after := by
  by_cases letter : c.isAlpha = true
  · have ascii := ascii_of_isAlpha letter
    rw [lowerInContext_ascii ascii, lowerInContext_ascii (toLower_ascii ascii),
      Char.toLower_toLower_eq_toLower]
  · rw [toLower_of_not_isAlpha letter, lowerInContext, lowerInContext, startsCased_map_toLower,
      startsCased_map_toLower]

theorem lowerFrom_map_toLower (before text : List Char) :
    lowerFrom (before.map Char.toLower) (text.map Char.toLower) = lowerFrom before text := by
  induction text generalizing before with
  | nil => rfl
  | cons c text inductionHypothesis =>
    have rest := inductionHypothesis (c :: before)
    rw [List.map_cons] at rest
    rw [List.map_cons, lowerFrom, lowerFrom, lowerInContext_map_toLower, rest]

theorem lower_map_toLower (text : List Char) : lower (text.map Char.toLower) = lower text :=
  lowerFrom_map_toLower [] text

theorem map_toLower_eq_of_sameButAsciiCase {text other : List Char}
    (same : List.Forall₂ SameButAsciiCase text other) :
    other.map Char.toLower = text.map Char.toLower := by
  induction same with
  | nil => rfl
  | cons head _ inductionHypothesis =>
    rw [List.map_cons, List.map_cons, head.toLower_eq, inductionHypothesis]

/-! ## Texts in another case -/

/-- What can be done to the case of a text that is lower-cased later on. -/
inductive Recased (text : List Char) : List Char → Prop where
  | lowered : Recased text (lower text)
  | asciiLetters {other : List Char} (same : List.Forall₂ SameButAsciiCase text other) :
      Recased text other

theorem Recased.lower_eq {text other : List Char} (recased : Recased text other) :
    lower other = lower text := by
  cases recased with
  | lowered => exact lower_lower text
  | asciiLetters same =>
    rw [← lower_map_toLower other, map_toLower_eq_of_sameButAsciiCase same, lower_map_toLower]

end RuleTree.Unicode

namespace RuleTree.Builtin

open Unicode

variable {σ : Type}

/-- **Matching does not see case that lower-casing forgets.**

If two texts are lower-cased beforehand, or some of their ASCII letters are put into the other
case, they match as they did, or fail with the same error. Lower-casing a second time changes
nothing, and what becomes of a character does not depend on the case of the ASCII letters
around it, be it the sigma at the end of a word. -/
theorem wholeMatch_recased :
    (∀ text, lower (lower text) = lower text) ∧
    (∀ {before otherBefore after otherAfter : List Char} (c : Char),
      List.Forall₂ SameButAsciiCase before otherBefore →
      List.Forall₂ SameButAsciiCase after otherAfter →
      lowerInContext otherBefore c otherAfter = lowerInContext before c after) ∧
    ∀ {value otherValue pattern otherPattern : String} (context : σ),
      Recased value.toList otherValue.toList → Recased pattern.toList otherPattern.toList →
      wholeMatch [.string otherValue, .string otherPattern] context =
        wholeMatch [.string value, .string pattern] context := by
  refine ⟨lower_lower, ?_, ?_⟩
  · intro before otherBefore after otherAfter c sameBefore sameAfter
    rw [← lowerInContext_map_toLower otherBefore, map_toLower_eq_of_sameButAsciiCase sameBefore,
      map_toLower_eq_of_sameButAsciiCase sameAfter, lowerInContext_map_toLower]
  · intro value otherValue pattern otherPattern context valueRecased patternRecased
    have sameText : lower (Value.string otherValue).operandChars =
        lower (Value.string value).operandChars := valueRecased.lower_eq
    have samePattern : lower (Value.string otherPattern).operandChars =
        lower (Value.string pattern).operandChars := patternRecased.lower_eq
    simp only [wholeMatch, matchesPattern, sameText, samePattern]

/-- The sigma ends its word after a capital letter as well as after a small one, so the pattern
that is refused is quoted with the same letter. -/
theorem wholeMatch_recased_sigma :
    Recased "OΣ".toList "oς".toList ∧ Recased "oΣ|(".toList "OΣ|(".toList ∧
      wholeMatch [.string "oς", .string "OΣ|("] () = (.error (.invalidPattern "oς|("), ()) ∧
      lowerInContext ['O'] 'Σ' [] = lowerInContext ['o'] 'Σ' [] := by
  have valueRecased : Recased "OΣ".toList "oς".toList := by
    have lowered : lower "OΣ".toList = "oς".toList := by decide +kernel
    exact lowered ▸ .lowered
  have capital : SameButAsciiCase 'o' 'O' := .inr (.inr (by decide))
  have patternRecased : Recased "oΣ|(".toList "OΣ|(".toList := by
    have same : List.Forall₂ SameButAsciiCase ['o', 'Σ', '|', '('] ['O', 'Σ', '|', '('] :=
      .cons capital (List.forall₂_same.mpr fun _ _ => .inl rfl)
    exact .asciiLetters same
  have refused : wholeMatch [.string "OΣ", .string "oΣ|("] () =
      (.error (.invalidPattern "oς|("), ()) := rfl
  refine ⟨valueRecased, patternRecased, ?_, ?_⟩
  · exact (wholeMatch_recased.2.2 () valueRecased patternRecased).trans refused
  · exact (wholeMatch_recased (σ := Unit)).2.1 'Σ' (.cons capital .nil) .nil

end RuleTree.Builtin
