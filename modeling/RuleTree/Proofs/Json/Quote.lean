import Mathlib.Tactic.SplitIfs
import RuleTree.Json.Printer
import RuleTree.Json.Reader

/-!
Contract: a quoted string is read back character for character.

Each character is written as a chunk that the reader takes in one step
(`stringChars?_escapeChar`): itself, a short escape, or the four digits of its code. So the
reader needs one step for each character of the string and one for the closing mark, which
the length of the text always covers.

Owns: strings inside documents.
-/

namespace RuleTree.Json

/-! ## Hexadecimal digits -/

theorem hexValue?_hexDigit {value : Nat} (small : value < 16) :
    hexValue? (hexDigit value) = some value := by
  have all : ∀ digit : Fin 16, hexValue? (hexDigit digit) = some digit.val := by decide
  exact all ⟨value, small⟩

theorem hexDigit_printable {value : Nat} (small : value < 16) :
    0x20 ≤ (hexDigit value).toNat := by
  have all : ∀ digit : Fin 16, 0x20 ≤ (hexDigit digit).toNat := by decide
  exact all ⟨value, small⟩

theorem codeUnit?_of_small {code : Nat} (small : code < 256) (rest : List Char) :
    codeUnit? ('0' :: '0' :: hexDigit (code / 16) :: hexDigit (code % 16) :: rest) =
      some (code, rest) := by
  have zero : hexValue? '0' = some 0 := by decide
  have high := @hexValue?_hexDigit (code / 16) (by omega)
  have low := @hexValue?_hexDigit (code % 16) (by omega)
  have value : code / 16 * 16 + code % 16 = code := by omega
  simp [codeUnit?, zero, high, low, value]

/-! ## Characters of a string -/

theorem escape?_control {c : Char} (control : c.toNat < 0x20) (rest : List Char) :
    escape? ('u' :: '0' :: '0' :: hexDigit (c.toNat / 16) :: hexDigit (c.toNat % 16) :: rest) =
      some (c, rest) := by
  have unit := @codeUnit?_of_small c.toNat (by omega) rest
  have notHigh : ¬ (0xD800 ≤ c.toNat ∧ c.toNat < 0xDC00) := by omega
  have notLow : ¬ (0xDC00 ≤ c.toNat ∧ c.toNat < 0xE000) := by omega
  simp only [escape?, unicodeEscape?, unit, Option.bind_eq_bind, Option.bind_some, if_neg notHigh,
    if_neg notLow, Char.ofNat_toNat]
  rfl

/-- One character is read back in one step. -/
theorem stringChars?_escapeChar (steps : Nat) (reversed : List Char) (c : Char)
    (rest : List Char) :
    stringChars? (steps + 1) reversed (escapeChar c ++ rest) =
      stringChars? steps (c :: reversed) rest := by
  unfold escapeChar
  split_ifs with quotation backslash backspace tab lineFeed formFeed carriageReturn control
  all_goals try (subst c; rfl)
  · simp only [List.cons_append, List.nil_append, stringChars?, escape?_control control]
  · simp only [List.cons_append, List.nil_append]
    rw [stringChars?, if_neg control]
    · exact quotation
    · exact backslash

theorem stringChars?_quoted {chars : List Char} {steps : Nat} (enough : chars.length < steps)
    (reversed rest : List Char) :
    stringChars? steps reversed (chars.flatMap escapeChar ++ '"' :: rest) =
      some (reversed.reverse ++ chars, rest) := by
  induction chars generalizing steps reversed with
  | nil =>
    obtain ⟨left, rfl⟩ := Nat.exists_eq_succ_of_ne_zero (Nat.ne_zero_of_lt enough)
    simp [stringChars?]
  | cons c chars inductionHypothesis =>
    obtain ⟨left, rfl⟩ := Nat.exists_eq_succ_of_ne_zero (Nat.ne_zero_of_lt enough)
    rw [List.flatMap_cons, List.append_assoc, stringChars?_escapeChar,
      inductionHypothesis (Nat.lt_of_succ_lt_succ enough), List.reverse_cons, List.append_assoc,
      List.singleton_append]

theorem escapeChar_length_pos (c : Char) : 0 < (escapeChar c).length := by
  unfold escapeChar
  split_ifs <;> exact Nat.succ_pos _

theorem length_le_flatMap_escapeChar (chars : List Char) :
    chars.length ≤ (chars.flatMap escapeChar).length := by
  induction chars with
  | nil => exact Nat.le_refl _
  | cons c chars inductionHypothesis =>
    have := escapeChar_length_pos c
    rw [List.flatMap_cons, List.length_append, List.length_cons]
    omega

/-- A string is read back from its quoted form, whose opening mark the reader has taken. -/
theorem string?_quoted (value : String) (rest : List Char) :
    string? (value.toList.flatMap escapeChar ++ '"' :: rest) = some (value, rest) := by
  have steps := length_le_flatMap_escapeChar value.toList
  have enough : value.toList.length <
      (value.toList.flatMap escapeChar ++ '"' :: rest).length + 1 := by
    rw [List.length_append]
    omega
  rw [string?, stringChars?_quoted enough, List.reverse_nil, List.nil_append]
  simp only [Option.map_some, String.ofList_toList]

/-! ## The printed characters -/

theorem escapeChar_printable (c : Char) : Printable (escapeChar c) := by
  unfold escapeChar
  split_ifs with _ _ _ _ _ _ _ control
  all_goals try decide
  · have high := @hexDigit_printable (c.toNat / 16) (by omega)
    have low := @hexDigit_printable (c.toNat % 16) (Nat.mod_lt _ (by decide))
    have digits : Printable [hexDigit (c.toNat / 16), hexDigit (c.toNat % 16)] :=
      .cons high (.cons low nofun)
    have mark : Printable ['\\', 'u', '0', '0'] := by decide
    exact mark.append digits
  · exact .cons (Nat.not_lt.1 control) nofun

theorem quote_printable (value : String) : Printable (quote value) := by
  have inside : Printable (value.toList.flatMap escapeChar) := by
    intro printed member
    obtain ⟨c, -, member⟩ := List.mem_flatMap.1 member
    exact escapeChar_printable c printed member
  exact (Printable.cons (by decide) inside).append (by decide)

end RuleTree.Json
