import RuleTree.Json.Reader
import RuleTree.Value.Json

/-!
Contract: how deep lists are nested in values, and arrays and objects in documents.

The reader accepts no document that is nested deeper than it was allowed, and decoding
gives a value that is no higher than its document is deep.

Owns: the height of values, the nesting of documents, and the one error of decoding.
Does not own: what evaluation does at which depth (`Evaluation.Room`).
-/

namespace RuleTree

/-! ## Heights -/

namespace Value

mutual

/-- How many lists are nested in each other. -/
def height : Value → Nat
  | .list items => itemsHeight items + 1
  | _ => 0

/-- The largest height of items. -/
def itemsHeight : List Value → Nat
  | [] => 0
  | item :: items => max (height item) (itemsHeight items)

end

theorem height_le_of_mem {item : Value} {items : List Value} (member : item ∈ items) :
    item.height ≤ itemsHeight items := by
  induction member with
  | head items => exact Nat.le_max_left _ _
  | tail first _ inductionHypothesis =>
      exact Nat.le_trans inductionHypothesis (Nat.le_max_right _ _)

/-- A missing argument is null, which is no list. -/
theorem height_argument_le (arguments : List Value) (index : Nat) :
    (argument arguments index).height ≤ itemsHeight arguments := by
  unfold argument
  rw [List.getD_eq_getElem?_getD]
  cases found : arguments[index]? with
  | none => exact Nat.zero_le _
  | some value => exact height_le_of_mem (List.mem_of_getElem? found)

end Value

namespace Json

mutual

/-- How many arrays and objects are nested in each other. -/
def nesting : Json → Nat
  | .array items => itemsNesting items + 1
  | .object members => membersNesting members + 1
  | _ => 0

def itemsNesting : List Json → Nat
  | [] => 0
  | item :: items => max (nesting item) (itemsNesting items)

def membersNesting : List (String × Json) → Nat
  | [] => 0
  | (_, value) :: members => max (nesting value) (membersNesting members)

end

/-! ## Reading -/

theorem nesting_numberOf {negative : Bool} {whole : List Char} {decimals : Option (List Char)}
    {power : Option Int} {document : Json}
    (number : numberOf negative whole decimals power = some document) :
    document.nesting = 0 := by
  unfold numberOf at number
  simp only [Option.ite_none_left_eq_some] at number
  obtain ⟨-, number⟩ := number
  split at number <;> cases number <;> rfl

/-- A number is no array and no object. -/
theorem nesting_number? {source rest : List Char} {document : Json}
    (parsed : number? source = some (document, rest)) : document.nesting = 0 := by
  simp only [number?, Option.bind_eq_bind, Option.bind_eq_some_iff, Option.pure_def,
    Option.some.injEq, Prod.mk.injEq] at parsed
  obtain ⟨whole, -, decimals, -, power, -, value, number, rfl, -⟩ := parsed
  exact nesting_numberOf number

/-- What is read in some steps, with some levels of nesting left, needs no more levels. -/
structure ReadsWithin (steps : Nat) : Prop where
  value : ∀ {depth source document rest},
    value? steps depth source = some (document, rest) → document.nesting ≤ depth
  items : ∀ {depth source items rest},
    items? steps depth source = some (items, rest) → itemsNesting items ≤ depth
  members : ∀ {depth source members rest},
    members? steps depth source = some (members, rest) → membersNesting members ≤ depth

section Step

variable {steps depth : Nat} {source rest : List Char} (within : ReadsWithin steps)
include within

theorem ReadsWithin.value_succ {document : Json}
    (parsed : value? (steps + 1) depth source = some (document, rest)) :
    document.nesting ≤ depth := by
  unfold value? at parsed
  split at parsed
  · cases parsed; exact Nat.zero_le _
  · cases parsed; exact Nat.zero_le _
  · cases parsed; exact Nat.zero_le _
  · obtain ⟨_, -, same⟩ := Option.map_eq_some_iff.mp parsed
    cases same; exact Nat.zero_le _
  · obtain ⟨positive, parsed⟩ := Option.ite_none_left_eq_some.mp parsed
    split at parsed
    · cases parsed
      simp only [nesting, itemsNesting]
      omega
    · obtain ⟨⟨items, _⟩, parsedItems, same⟩ := Option.map_eq_some_iff.mp parsed
      cases same
      have bounded := within.items parsedItems
      simp only [nesting]
      omega
  · obtain ⟨positive, parsed⟩ := Option.ite_none_left_eq_some.mp parsed
    split at parsed
    · cases parsed
      simp only [nesting, membersNesting]
      omega
    · obtain ⟨⟨members, _⟩, parsedMembers, same⟩ := Option.map_eq_some_iff.mp parsed
      cases same
      have bounded := within.members parsedMembers
      simp only [nesting]
      omega
  · rw [nesting_number? parsed]; exact Nat.zero_le _

theorem ReadsWithin.items_succ {items : List Json}
    (parsed : items? (steps + 1) depth source = some (items, rest)) :
    itemsNesting items ≤ depth := by
  simp only [items?, Option.bind_eq_bind, Option.bind_eq_some_iff] at parsed
  obtain ⟨⟨item, afterItem⟩, parsedItem, parsed⟩ := parsed
  have first := within.value parsedItem
  split at parsed
  · simp only [Option.bind_eq_some_iff, Option.pure_def] at parsed
    obtain ⟨⟨others, _⟩, parsedOthers, same⟩ := parsed
    cases same
    exact Nat.max_le.mpr ⟨first, within.items parsedOthers⟩
  · cases parsed
    exact Nat.max_le.mpr ⟨first, Nat.zero_le _⟩
  · cases parsed

theorem ReadsWithin.members_succ {members : List (String × Json)}
    (parsed : members? (steps + 1) depth source = some (members, rest)) :
    membersNesting members ≤ depth := by
  unfold members? at parsed
  split at parsed
  · simp only [Option.bind_eq_bind, Option.bind_eq_some_iff] at parsed
    obtain ⟨⟨name, afterName⟩, -, parsed⟩ := parsed
    split at parsed
    · simp only [Option.bind_eq_some_iff] at parsed
      obtain ⟨⟨value, afterValue⟩, parsedValue, parsed⟩ := parsed
      have first := within.value parsedValue
      split at parsed
      · simp only [Option.bind_eq_some_iff, Option.pure_def] at parsed
        obtain ⟨⟨others, _⟩, parsedOthers, same⟩ := parsed
        cases same
        exact Nat.max_le.mpr ⟨first, within.members parsedOthers⟩
      · cases parsed
        exact Nat.max_le.mpr ⟨first, Nat.zero_le _⟩
      · cases parsed
    · cases parsed
  · cases parsed

end Step

theorem readsWithin (steps : Nat) : ReadsWithin steps := by
  induction steps with
  | zero =>
      constructor <;> intro _ _ _ _ parsed <;> cases parsed
  | succ steps inductionHypothesis =>
      exact ⟨inductionHypothesis.value_succ, inductionHypothesis.items_succ,
        inductionHypothesis.members_succ⟩

/-- The reader accepts no text that is nested deeper than it was allowed. -/
theorem nesting_le_of_read? {depth : Nat} {text : String} {document : Json}
    (read : read? depth text = some document) : document.nesting ≤ depth := by
  simp only [read?] at read
  split at read
  · rename_i parsed
    obtain ⟨-, same⟩ := Option.ite_none_right_eq_some.mp read
    cases same
    exact (readsWithin _).value parsed
  · cases read

end Json

/-! ## Decoding -/

namespace Value

theorem decode_array_eq_ok {items : List Json} {value : Value} :
    decode (.array items) = .ok value ↔
      ∃ values, decodeItems items = .ok values ∧ value = .list values := by
  rw [decode]
  cases decodeItems items with
  | error raised => exact iff_of_false nofun nofun
  | ok values =>
      constructor
      · rintro ⟨⟩; exact ⟨values, rfl, rfl⟩
      · rintro ⟨_, ⟨⟩, rfl⟩; rfl

theorem decode_array_eq_error {items : List Json} {error : EvalError} :
    decode (.array items) = .error error ↔ decodeItems items = .error error := by
  rw [decode]
  cases decodeItems items with
  | error raised => exact ⟨fun | rfl => rfl, fun | rfl => rfl⟩
  | ok values => exact iff_of_false nofun nofun

theorem decodeItems_cons_eq_ok {item : Json} {items : List Json} {values : List Value} :
    decodeItems (item :: items) = .ok values ↔
      ∃ value others, decode item = .ok value ∧ decodeItems items = .ok others ∧
        values = value :: others := by
  rw [decodeItems]
  cases decode item with
  | error raised => exact iff_of_false nofun nofun
  | ok value =>
      cases decodeItems items with
      | error raised => exact iff_of_false nofun nofun
      | ok others =>
          constructor
          · rintro ⟨⟩; exact ⟨value, others, rfl, rfl, rfl⟩
          · rintro ⟨_, _, ⟨⟩, ⟨⟩, rfl⟩; rfl

/-- The first item that does not decode is the one that is reported. -/
theorem decodeItems_cons_eq_error {item : Json} {items : List Json} {error : EvalError} :
    decodeItems (item :: items) = .error error ↔
      decode item = .error error ∨
        (∃ value, decode item = .ok value) ∧ decodeItems items = .error error := by
  rw [decodeItems]
  cases decode item with
  | error raised => simp
  | ok value => cases decodeItems items <;> simp [Except.map]

mutual

/-- Decoding makes a list of an array and of nothing else. -/
theorem height_decode {document : Json} {value : Value}
    (decoded : decode document = .ok value) : value.height ≤ document.nesting := by
  cases document with
  | array items =>
      obtain ⟨values, decodedItems, rfl⟩ := decode_array_eq_ok.mp decoded
      exact Nat.succ_le_succ (itemsHeight_decodeItems decodedItems)
  | object members => cases decoded
  | _ => cases decoded; exact Nat.zero_le _

theorem itemsHeight_decodeItems {items : List Json} {values : List Value}
    (decoded : decodeItems items = .ok values) :
    itemsHeight values ≤ Json.itemsNesting items := by
  cases items with
  | nil => cases decoded; exact Nat.zero_le _
  | cons item items =>
      obtain ⟨value, others, decodedItem, decodedOthers, rfl⟩ :=
        decodeItems_cons_eq_ok.mp decoded
      have first := height_decode decodedItem
      have rest := itemsHeight_decodeItems decodedOthers
      simp only [itemsHeight, Json.itemsNesting]
      omega

end

mutual

/-- Decoding fails for an object and for nothing else. -/
theorem error_of_decode {document : Json} {error : EvalError}
    (failed : decode document = .error error) : error = .objectInTree := by
  cases document with
  | array items => exact error_of_decodeItems (decode_array_eq_error.mp failed)
  | object members => cases failed; rfl
  | _ => cases failed

theorem error_of_decodeItems {items : List Json} {error : EvalError}
    (failed : decodeItems items = .error error) : error = .objectInTree := by
  cases items with
  | nil => cases failed
  | cons item items =>
      rcases decodeItems_cons_eq_error.mp failed with failedItem | ⟨-, failedItems⟩
      · exact error_of_decode failedItem
      · exact error_of_decodeItems failedItems

end

end Value

end RuleTree
