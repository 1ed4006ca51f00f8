import RuleTree.CommandLine.Run
import RuleTree.Proofs.Json.Numeral
import RuleTree.Proofs.Json.Quote
import RuleTree.Proofs.Value.Nesting

/-!
Contract: the text of a value is read back as the document it was printed from.

Every printed value starts with a character that tells the reader its kind, and is followed
by nothing, a comma or a closing bracket, none of which continues it. Two steps for each
character of the text are enough (`value?_encode`). What is lost is lost in the document
already, where a negative zero is written as zero and NaN and the infinities as null; the
value with those replaced (`Value.documented`) has the same document.

Owns: the round trip of whole values. Does not own: numbers (`Proofs.Json.Numeral`) and
strings (`Proofs.Json.Quote`).
-/

namespace RuleTree

namespace Value

mutual

/-- The value that a document keeps: negative zeros are zero, NaN and infinities null. -/
def documented : Value → Value
  | .number value => value.documented
  | .list items => .list (documentedItems items)
  | value => value

def documentedItems : List Value → List Value
  | [] => []
  | item :: items => documented item :: documentedItems items

end

end Value

namespace Json

/-! ## The first character -/

theorem endsLiteral_nil : EndsLiteral [] := nofun

theorem endsLiteral_comma (rest : List Char) : EndsLiteral (',' :: rest) := by
  rintro next ⟨⟩
  decide

theorem endsLiteral_bracket (rest : List Char) : EndsLiteral (']' :: rest) := by
  rintro next ⟨⟩
  decide

theorem skipBlanks_cons {first : Char} (notBlank : isBlank first = false) (rest : List Char) :
    skipBlanks (first :: rest) = first :: rest := by
  simp [skipBlanks, notBlank]

theorem isBlank_of_numeric {first : Char} (numeric : first = '-' ∨ first.isDigit = true) :
    isBlank first = false := by
  rw [isBlank]
  by_contra blank
  simp only [Bool.or_eq_true, decide_eq_true_eq, Bool.not_eq_false] at blank
  rcases blank with ((rfl | rfl) | rfl) | rfl <;> revert numeric <;> decide

/-- A sign or a digit starts a number and nothing else. -/
theorem value?_number {first : Char} (numeric : first = '-' ∨ first.isDigit = true)
    (steps depth : Nat) (rest : List Char) :
    value? (steps + 1) depth (first :: rest) = number? (first :: rest) := by
  rw [value?, skipBlanks_cons (isBlank_of_numeric numeric)]
  split
  case h_7 => rfl
  all_goals
    obtain ⟨rfl, -⟩ := List.cons.inj ‹first :: rest = _›
    exact absurd numeric (by decide)

/-- No printed value starts with a blank or a closing bracket. -/
theorem exists_printChars_eq (value : Value) :
    ∃ first others, value.encode.printChars = first :: others ∧ isBlank first = false ∧
      first ≠ ']' := by
  cases value with
  | null => exact ⟨'n', _, rfl, by decide, by decide⟩
  | boolean value => cases value <;> exact ⟨_, _, rfl, by decide, by decide⟩
  | number value =>
    by_cases finite : value.isFinite = true
    · obtain ⟨literal, printed, -⟩ := Number.exists_literal finite
      obtain ⟨first, others, chars, numeric⟩ := literal.exists_chars_eq
      refine ⟨first, others, printed.trans chars, isBlank_of_numeric numeric, ?_⟩
      rintro rfl
      exact absurd numeric (by decide)
    · rw [Value.encode, Number.encode_of_not_finite finite]
      exact ⟨'n', _, rfl, by decide, by decide⟩
  | string value => exact ⟨'"', _, rfl, by decide, by decide⟩
  | list items => exact ⟨'[', _, rfl, by decide, by decide⟩

theorem printItems_encodeItems_cons (item next : Value) (items : List Value) :
    printItems (Value.encodeItems (item :: next :: items)) =
      item.encode.printChars ++ ',' :: printItems (Value.encodeItems (next :: items)) :=
  rfl

theorem exists_printItems_eq (item : Value) (items : List Value) :
    ∃ first others, printItems (Value.encodeItems (item :: items)) = first :: others ∧
      isBlank first = false ∧ first ≠ ']' := by
  obtain ⟨first, others, printed, notBlank, notClosing⟩ := exists_printChars_eq item
  cases items with
  | nil => exact ⟨first, others, printed, notBlank, notClosing⟩
  | cons next items =>
    refine ⟨first, others ++ ',' :: printItems (Value.encodeItems (next :: items)), ?_, notBlank,
      notClosing⟩
    rw [printItems_encodeItems_cons, printed, List.cons_append]

/-! ## Reading back -/

theorem value?_quote (value : String) (steps depth : Nat) (rest : List Char) :
    value? (steps + 1) depth (quote value ++ rest) = some (.string value, rest) := by
  have shape : quote value ++ rest = '"' :: (value.toList.flatMap escapeChar ++ '"' :: rest) := by
    simp [quote]
  rw [shape, value?, skipBlanks_cons (by decide)]
  simp only [string?_quoted, Option.map_some]

theorem value?_bracket {depth : Nat} (room : 0 < depth) {first : Char}
    (notBlank : isBlank first = false) (notClosing : first ≠ ']') (steps : Nat)
    (rest : List Char) :
    value? (steps + 1) depth ('[' :: first :: rest) =
      (items? steps (depth - 1) (first :: rest)).map fun (items, rest) => (.array items, rest) := by
  rw [value?, skipBlanks_cons (by decide)]
  simp only [if_neg room.ne']
  rw [skipBlanks_cons notBlank]
  split
  · next closing => exact absurd (List.cons.inj closing).1 notClosing
  · rfl

mutual

/-- Two steps for each printed character are enough to read a value back. -/
theorem value?_encode (value : Value) {steps depth : Nat} {rest : List Char}
    (room : value.height ≤ depth) (enough : 2 * value.encode.printChars.length ≤ steps)
    (ends : EndsLiteral rest) :
    value? steps depth (value.encode.printChars ++ rest) = some (value.encode, rest) := by
  -- The induction is on the value. An item is read with its list's remaining steps and with
  -- what its list goes on with behind it, so both are general.
  obtain ⟨left, rfl⟩ : ∃ left, steps = left + 1 := by
    obtain ⟨first, others, printed, -⟩ := exists_printChars_eq value
    rw [printed, List.length_cons] at enough
    exact ⟨steps - 1, by omega⟩
  cases value with
  | null => rfl
  | boolean value => cases value <;> rfl
  | number value =>
    by_cases finite : value.isFinite = true
    · obtain ⟨literal, printed, reads⟩ := Number.exists_literal finite
      obtain ⟨first, others, chars, numeric⟩ := literal.exists_chars_eq
      rw [Value.encode, printed, ← reads ends, chars, List.cons_append, value?_number numeric]
    · rw [Value.encode, Number.encode_of_not_finite finite]
      rfl
  | string value => exact value?_quote value left depth rest
  | list items =>
    have roomy : 0 < depth := Nat.lt_of_lt_of_le (Nat.succ_pos _) room
    cases items with
    | nil =>
      change value? (left + 1) depth ('[' :: ']' :: rest) = some (.array [], rest)
      rw [value?, skipBlanks_cons (by decide)]
      simp only [if_neg roomy.ne']
      rfl
    | cons item items =>
      have inner : Value.itemsHeight (item :: items) ≤ depth - 1 := Nat.le_sub_one_of_lt room
      have text : (Value.list (item :: items)).encode.printChars =
          '[' :: printItems (Value.encodeItems (item :: items)) ++ [']'] := rfl
      have innerEnough :
          2 * (printItems (Value.encodeItems (item :: items))).length + 1 ≤ left := by
        rw [text, List.length_append, List.length_cons, List.length_singleton] at enough
        omega
      have reads := items?_encodeItems (item :: items) nofun inner innerEnough rest
      obtain ⟨first, others, printed, notBlank, notClosing⟩ := exists_printItems_eq item items
      rw [printed] at text reads
      rw [text, List.append_assoc, List.cons_append, List.cons_append, List.singleton_append,
        value?_bracket roomy notBlank notClosing, ← List.cons_append, reads]
      rfl

/-- One more step starts the items. -/
theorem items?_encodeItems (items : List Value) (nonempty : items ≠ []) {steps depth : Nat}
    (room : Value.itemsHeight items ≤ depth)
    (enough : 2 * (printItems (Value.encodeItems items)).length + 1 ≤ steps)
    (rest : List Char) :
    items? steps depth (printItems (Value.encodeItems items) ++ ']' :: rest) =
      some (Value.encodeItems items, rest) := by
  obtain ⟨left, rfl⟩ : ∃ left, steps = left + 1 := ⟨steps - 1, by omega⟩
  match items with
  | [item] =>
    have itemRoom : item.height ≤ depth := Nat.le_trans (Nat.le_max_left _ _) room
    have text : printItems (Value.encodeItems [item]) = item.encode.printChars := rfl
    rw [text] at enough ⊢
    rw [items?, value?_encode item itemRoom (by omega) (endsLiteral_bracket rest)]
    rfl
  | item :: next :: items =>
    have itemRoom : item.height ≤ depth := Nat.le_trans (Nat.le_max_left _ _) room
    have othersRoom : Value.itemsHeight (next :: items) ≤ depth :=
      Nat.le_trans (Nat.le_max_right _ _) room
    rw [printItems_encodeItems_cons] at enough ⊢
    rw [List.length_append, List.length_cons] at enough
    have othersEnough :
        2 * (printItems (Value.encodeItems (next :: items))).length + 1 ≤ left := by
      omega
    rw [List.append_assoc, List.cons_append, items?,
      value?_encode item itemRoom (by omega) (endsLiteral_comma _), Option.bind_eq_bind,
      Option.bind_some]
    simp only [skipBlanks_cons (show isBlank ',' = false by decide)]
    rw [items?_encodeItems (next :: items) nofun othersRoom othersEnough rest]
    rfl

end

theorem read?_print {value : Value} {depth : Nat} (room : value.height ≤ depth) :
    read? depth (print value.encode) = some value.encode := by
  have reads := value?_encode value room (Nat.le_add_right _ 2) endsLiteral_nil
  rw [List.append_nil] at reads
  simp only [read?, print, String.toList_ofList, reads]
  rfl

end Json

namespace Value

/-! ## What is kept -/

mutual

theorem decode_encode (value : Value) : decode value.encode = .ok value.documented := by
  cases value with
  | number value => exact value.decode_encode
  | list items =>
    rw [encode, decode, decodeItems_encodeItems items]
    rfl
  | _ => rfl

theorem decodeItems_encodeItems (items : List Value) :
    decodeItems (encodeItems items) = .ok (documentedItems items) := by
  cases items with
  | nil => rfl
  | cons item items =>
    rw [encodeItems, decodeItems, decode_encode item, decodeItems_encodeItems items]
    rfl

end

mutual

theorem encode_documented (value : Value) : value.documented.encode = value.encode := by
  cases value with
  | number value => exact value.encode_documented
  | list items => rw [documented, encode, encode, encodeItems_documentedItems items]
  | _ => rfl

theorem encodeItems_documentedItems (items : List Value) :
    encodeItems (documentedItems items) = encodeItems items := by
  cases items with
  | nil => rfl
  | cons item items =>
    rw [documentedItems, encodeItems, encodeItems, encode_documented item,
      encodeItems_documentedItems items]

end

mutual

theorem encode_printable (value : Value) : Json.Printable value.encode.printChars := by
  cases value with
  | null => decide
  | boolean value => cases value <;> decide
  | number value =>
    by_cases finite : value.isFinite = true
    · obtain ⟨literal, printed, -⟩ := Number.exists_literal finite
      rw [encode, printed]
      exact literal.chars_printable
    · rw [encode, Number.encode_of_not_finite finite]
      decide
  | string value => exact Json.quote_printable value
  | list items =>
    have opened := Json.Printable.cons (c := '[') (by decide) (encodeItems_printable items)
    exact opened.append (by decide)

theorem encodeItems_printable (items : List Value) :
    Json.Printable (Json.printItems (encodeItems items)) := by
  match items with
  | [] => exact nofun
  | [item] => exact encode_printable item
  | item :: next :: items =>
    rw [Json.printItems_encodeItems_cons]
    have others := encodeItems_printable (next :: items)
    exact (encode_printable item).append (.cons (by decide) others)

end

/-- The text of a value whose lists nest at most 127 deep is read back as that value, with
zero for negative zeros and null for NaN and the infinities; the value read back has the
same text, and no character of it is below U+0020. -/
theorem text_reads_back (value : Value) (nested : value.height ≤ 127) :
    (∃ document,
      Json.read? CommandLine.jsonDepth (Json.print value.encode) = some document ∧
        decode document = .ok value.documented) ∧
    Json.print value.documented.encode = Json.print value.encode ∧
    ∀ c ∈ (Json.print value.encode).toList, 0x20 ≤ c.toNat := by
  refine ⟨⟨value.encode, Json.read?_print nested, decode_encode value⟩, ?_, ?_⟩
  · rw [encode_documented]
  · rw [Json.print, String.toList_ofList]
    exact encode_printable value

/-- A value with each kind of item that documents treat in its own way. -/
def everyKind : Value :=
  .list [.null, .boolean true, .number Number.negativeZero, .number .nan,
    .string "a\"\n\u0001é", .list [.number (.finite false ⟨1, by decide⟩)]]

theorem everyKind_reads_back :
    everyKind.height ≤ 127 ∧
    Json.print everyKind.encode = "[null,true,0,null,\"a\\\"\\n\\u0001é\",[5e-324]]" ∧
    (∃ document,
      Json.read? CommandLine.jsonDepth (Json.print everyKind.encode) = some document ∧
        decode document = .ok (.list [.null, .boolean true, .number .zero, .null,
          .string "a\"\n\u0001é", .list [.number (.finite false ⟨1, by decide⟩)]])) ∧
    Json.print everyKind.documented.encode = Json.print everyKind.encode ∧
    ∀ c ∈ (Json.print everyKind.encode).toList, 0x20 ≤ c.toNat :=
  ⟨by decide, by decide +kernel, text_reads_back everyKind (by decide)⟩

end Value

end RuleTree
