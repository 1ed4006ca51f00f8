import RuleTree.Proofs.Json.Document
import RuleTree.Proofs.Number.Nearest

/-!
Contract: decoding and encoding are inverse up to the normal form of numbers.

Decoding goes through arrays alone, so an object is in its way at any depth and nothing
else is (`decode_fails_iff`). A document that decodes comes back with each number replaced
by the nearest 64-bit number, written as an integer when it is a short one
(`rounds_encode`). In the other direction a value comes back as a document keeps it.

Owns: what a document holds, and its normal form. Does not own: the text of documents
(`Proofs.Json.Document`) and which number is nearest (`Proofs.Number.Nearest`).
-/

namespace RuleTree

/-! ## Numbers as integers -/

namespace Number

theorem toInt?_finite (negative : Bool) (position : Fin magnitudes) :
    toInt? (.finite negative position) =
      if units position % unitsPerOne = 0 then
        some (signed negative (units position / unitsPerOne))
      else none :=
  rfl

/-- A number equals an integer when its exact value is that integer. -/
theorem toInt?_eq_some_iff {number : Number} {value : ℤ} :
    number.toInt? = some value ↔ number.rational? = some (value : ℚ) := by
  cases number with
  | finite negative position =>
    have oneNonzero := cast_unitsPerOne_pos.ne'
    rw [rational?_finite, Option.some.injEq, div_eq_iff oneNonzero, toInt?_finite]
    split_ifs with whole
    · obtain ⟨quotient, exactly⟩ := Nat.dvd_of_mod_eq_zero whole
      rw [exactly, Nat.mul_div_cancel_left _ unitsPerOne_pos, Option.some.injEq,
        Nat.mul_comm unitsPerOne, ← signed_mul, Int.cast_mul, Int.cast_natCast,
        mul_left_inj' oneNonzero, Int.cast_inj]
    · refine iff_of_false nofun fun exact => whole ?_
      have integral : signed negative (units position) = value * unitsPerOne := by
        exact_mod_cast exact
      have magnitude : units position = value.natAbs * unitsPerOne := by
        rw [← natAbs_signed negative (units position), integral, Int.natAbs_mul,
          Int.natAbs_natCast]
      rw [magnitude, Nat.mul_mod_left]
  | _ => exact iff_of_false nofun nofun

theorem shortInteger?_eq_some_iff {number : Number} {value : ℤ} :
    number.shortInteger? = some value ↔
      number.rational? = some (value : ℚ) ∧ value.natAbs < 10 ^ 15 := by
  rw [shortInteger?, Option.filter_eq_some_iff, toInt?_eq_some_iff, decide_eq_true_eq]
  rfl

/-- A number is written as an integer exactly when it is that integer, and a short one. -/
theorem encode_eq_integer_iff {number : Number} {value : ℤ} :
    number.encode = .integer value ↔
      number.rational? = some (value : ℚ) ∧ value.natAbs < 10 ^ 15 := by
  rw [← shortInteger?_eq_some_iff]
  unfold encode
  split
  · next short => rw [short, Option.some.injEq, Json.integer.injEq]
  · next fractional =>
    rw [fractional]
    refine iff_of_false ?_ nofun
    split_ifs <;> nofun

end Number

/-! ## Parts of documents -/

namespace Json

/-- The document itself, and the parts of its items. -/
inductive Part : Json → Json → Prop where
  | whole {document : Json} : Part document document
  | item {part item : Json} {items : List Json} :
      item ∈ items → Part part item → Part part (.array items)

/-- Some part is an object. -/
def HoldsObject (document : Json) : Prop :=
  ∃ members, Part (.object members) document

theorem holdsObject_of_item {item : Json} {items : List Json} (member : item ∈ items)
    (holds : item.HoldsObject) : (Json.array items).HoldsObject :=
  holds.imp fun _ part => .item member part

/-- The exact value of a number. -/
def rational? : Json → Option ℚ
  | .integer value => some value
  | .fraction number => number.rational?
  | _ => none

/-- A number within the range of the 64-bit format; anything else is no number. -/
def FitsNumber : Json → Prop
  | .integer value => value.natAbs < Number.rangeEnd
  | .fraction number => number.isFinite
  | _ => True

/-- All numbers are within the range of the 64-bit format. -/
def InRange (document : Json) : Prop :=
  ∀ part, Part part document → part.FitsNumber

theorem InRange.item {item : Json} {items : List Json} (inRange : (Json.array items).InRange)
    (member : item ∈ items) : item.InRange :=
  fun part ofItem => inRange part (.item member ofItem)

/-- What holds of every number of an array holds of every number of its items. -/
theorem inRange_array {items : List Json} :
    (Json.array items).InRange ↔ ∀ item ∈ items, item.InRange := by
  refine ⟨fun inRange _ => inRange.item, fun inRange part ofArray => ?_⟩
  cases ofArray with
  | whole => trivial
  | item member ofItem => exact inRange _ member _ ofItem

/-- Anything but an array or an object has no other part. -/
theorem inRange_of_fitsNumber {document : Json} (fits : document.FitsNumber)
    (noArray : ∀ items, document ≠ .array items) : document.InRange := by
  intro part ofDocument
  cases ofDocument with
  | whole => exact fits
  | item => exact absurd rfl (noArray _)

/-- The normal form of a document: each number is replaced by the nearest 64-bit number,
which is written as an integer when it is an integer below `10 ^ 15`, so that negative zero
becomes zero; all else, and the nesting, stays. -/
inductive Rounds : Json → Json → Prop where
  | null : Rounds .null .null
  | boolean {value : Bool} : Rounds (.boolean value) (.boolean value)
  | string {value : String} : Rounds (.string value) (.string value)
  | integer {document : Json} {exact : ℚ} {nearest : Number} {value : ℤ} :
      document.rational? = some exact → nearest.Nearest exact →
      nearest.rational? = some (value : ℚ) → value.natAbs < 10 ^ 15 →
      Rounds document (.integer value)
  | fraction {document : Json} {exact : ℚ} {nearest : Number} :
      document.rational? = some exact → nearest.Nearest exact →
      (∀ value : ℤ, nearest.rational? = some (value : ℚ) → ¬ value.natAbs < 10 ^ 15) →
      Rounds document (.fraction nearest)
  | array {items roundedItems : List Json} :
      List.Forall₂ Rounds items roundedItems → Rounds (.array items) (.array roundedItems)

end Json

/-! ## Decoding -/

namespace Value

open Json

theorem decodeItems_fails_of_item {item : Json} {items : List Json} (member : item ∈ items)
    {error : EvalError} (failed : decode item = .error error) :
    ∃ raised, decodeItems items = .error raised := by
  induction member with
  | head items => exact ⟨error, decodeItems_cons_eq_error.2 (.inl failed)⟩
  | @tail first items _ inductionHypothesis =>
    cases decodedFirst : decode first with
    | error earlier => exact ⟨earlier, decodeItems_cons_eq_error.2 (.inl decodedFirst)⟩
    | ok value =>
      obtain ⟨raised, failedItems⟩ := inductionHypothesis
      exact ⟨raised, decodeItems_cons_eq_error.2 (.inr ⟨⟨value, decodedFirst⟩, failedItems⟩)⟩

/-- An object is in the way at any depth. -/
theorem decode_fails_of_holdsObject {document : Json} (holds : document.HoldsObject) :
    ∃ error, decode document = .error error := by
  obtain ⟨members, part⟩ := holds
  generalize here : Json.object members = object at part
  induction part with
  | whole => exact ⟨.objectInTree, by rw [← here, decode]⟩
  | item member _ inductionHypothesis =>
    obtain ⟨error, failed⟩ := inductionHypothesis
    exact (decodeItems_fails_of_item member failed).imp fun _ => decode_array_eq_error.2

mutual

/-- Nothing else is. -/
theorem holdsObject_of_decode {document : Json} {error : EvalError}
    (failed : decode document = .error error) : document.HoldsObject := by
  cases document with
  | array items =>
    obtain ⟨item, member, holds⟩ :=
      exists_holdsObject_of_decodeItems (decode_array_eq_error.1 failed)
    exact holdsObject_of_item member holds
  | object members => exact ⟨members, .whole⟩
  | _ => cases failed

theorem exists_holdsObject_of_decodeItems {items : List Json} {error : EvalError}
    (failed : decodeItems items = .error error) : ∃ item ∈ items, item.HoldsObject := by
  cases items with
  | nil => cases failed
  | cons item items =>
    rcases decodeItems_cons_eq_error.1 failed with failedItem | ⟨-, failedItems⟩
    · exact ⟨item, List.mem_cons_self, holdsObject_of_decode failedItem⟩
    · obtain ⟨other, member, holds⟩ := exists_holdsObject_of_decodeItems failedItems
      exact ⟨other, List.mem_cons_of_mem item member, holds⟩

end

/-- Decoding fails exactly for the documents that hold an object. -/
theorem decode_fails_iff {document : Json} :
    (∃ error, decode document = .error error) ↔ document.HoldsObject :=
  ⟨fun ⟨_, failed⟩ => holdsObject_of_decode failed, decode_fails_of_holdsObject⟩

/-! ## Encoding what was decoded -/

/-- The nearest number is encoded in normal form. -/
theorem rounds_number {document : Json} {exact : ℚ} {nearest : Number}
    (number : document.rational? = some exact) (isNearest : nearest.Nearest exact) :
    document.Rounds nearest.encode := by
  cases short : nearest.shortInteger? with
  | some value =>
    have small := Number.shortInteger?_eq_some_iff.1 short
    rw [Number.encode_eq_integer_iff.2 small]
    exact .integer number isNearest small.1 small.2
  | none =>
    have finite : nearest.isFinite = true := by
      obtain ⟨value, isFinite, -⟩ := isNearest
      cases nearest with
      | finite => rfl
      | _ => cases isFinite
    have fraction : nearest.encode = .fraction nearest := by
      simp only [Number.encode, short, if_pos finite]
    rw [fraction]
    refine .fraction number isNearest fun value integral small => ?_
    rw [Number.shortInteger?_eq_some_iff.2 ⟨integral, small⟩] at short
    cases short

mutual

/-- A document that decodes comes back in normal form. -/
theorem rounds_encode {document : Json} {value : Value} (inRange : document.InRange)
    (decoded : decode document = .ok value) : document.Rounds value.encode := by
  cases document with
  | null => cases decoded; exact .null
  | boolean => cases decoded; exact .boolean
  | string => cases decoded; exact .string
  | integer value =>
    cases decoded
    exact rounds_number rfl (Number.nearest_ofInt (inRange _ .whole))
  | fraction number =>
    cases decoded
    obtain ⟨negative, position, rfl⟩ := Number.exists_of_finite (inRange _ .whole)
    exact rounds_number rfl (Number.nearest_self rfl)
  | array items =>
    obtain ⟨values, decodedItems, rfl⟩ := decode_array_eq_ok.1 decoded
    exact .array (rounds_encodeItems (fun _ => inRange.item) decodedItems)
  | object members => cases decoded

theorem rounds_encodeItems {items : List Json} {values : List Value}
    (inRange : ∀ item ∈ items, item.InRange) (decoded : decodeItems items = .ok values) :
    List.Forall₂ Rounds items (encodeItems values) := by
  cases items with
  | nil => cases decoded; exact .nil
  | cons item items =>
    obtain ⟨value, others, decodedItem, decodedOthers, rfl⟩ := decodeItems_cons_eq_ok.1 decoded
    obtain ⟨itemInRange, othersInRange⟩ := List.forall_mem_cons.1 inRange
    exact .cons (rounds_encode itemInRange decodedItem)
      (rounds_encodeItems othersInRange decodedOthers)

end

/-- Decoding fails, with the error for malformed trees, exactly for the documents that hold
an object; any other document comes back in normal form when its value is encoded. A value
comes back with negative zeros as zeros and with NaN and the infinities as null. A number is
encoded as an integer exactly when it is that integer and below `10 ^ 15`. -/
theorem conversions_inverse (document : Json) (value : Value) (number : Number) (integer : ℤ) :
    ((∃ error, decode document = .error error) ↔ document.HoldsObject) ∧
    (∀ error, decode document = .error error → ∃ detail, error = .malformedExpression detail) ∧
    (document.InRange → ¬ document.HoldsObject →
      ∃ decoded, decode document = .ok decoded ∧ document.Rounds decoded.encode) ∧
    decode value.encode = .ok value.documented ∧
    (encode (.number number) = .integer integer ↔
      number.rational? = some (integer : ℚ) ∧ integer.natAbs < 10 ^ 15) := by
  refine ⟨decode_fails_iff, ?_, ?_, decode_encode value, Number.encode_eq_integer_iff⟩
  · intro error failed
    exact ⟨_, error_of_decode failed⟩
  · intro inRange noObject
    cases decoded : decode document with
    | error raised => exact absurd (holdsObject_of_decode decoded) noObject
    | ok result => exact ⟨result, rfl, rounds_encode inRange decoded⟩

/-- The integer lies in the middle between two 64-bit numbers. -/
def middleDocument : Json :=
  .array [.string "a", .array [.integer (2 ^ 53 + 1), .fraction Number.negativeZero], .null]

theorem conversions_inverse_middle :
    middleDocument.InRange ∧ ¬ middleDocument.HoldsObject ∧
      middleDocument.Rounds
        (.array [.string "a", .array [.fraction (.ofInt (2 ^ 53)), .integer 0], .null]) := by
  have inRange : middleDocument.InRange := by
    have small : (2 ^ 53 + 1 : ℤ).natAbs < Number.rangeEnd := by
      unfold Number.rangeEnd
      have := Number.halfSpacing_pos
      omega
    simp only [middleDocument, inRange_array, List.forall_mem_cons, List.not_mem_nil,
      false_imp_iff, implies_true, and_true]
    exact ⟨inRange_of_fitsNumber trivial nofun,
      ⟨inRange_of_fitsNumber small nofun, inRange_of_fitsNumber rfl nofun⟩,
      inRange_of_fitsNumber trivial nofun⟩
  have noObject : ¬ middleDocument.HoldsObject := by
    rw [← (conversions_inverse middleDocument .null .zero 0).1]
    rintro ⟨error, ⟨⟩⟩
  obtain ⟨decoded, decodes, rounds⟩ :=
    (conversions_inverse middleDocument .null .zero 0).2.2.1 inRange noObject
  refine ⟨inRange, noObject, ?_⟩
  have even : Number.ofInt (2 ^ 53 + 1) = Number.ofInt (2 ^ 53) := by decide +kernel
  have large : (Number.ofInt (2 ^ 53)).shortInteger? = none := by decide +kernel
  have finite : (Number.ofInt (2 ^ 53)).isFinite = true := by decide +kernel
  have zero : Number.negativeZero.shortInteger? = some 0 := Number.shortInteger?_zero true
  have value : decode middleDocument = .ok (.list [.string "a",
      .list [.number (.ofInt (2 ^ 53 + 1)), .number Number.negativeZero], .null]) := rfl
  obtain rfl := Except.ok.inj (value.symm.trans decodes)
  simpa only [encode, encodeItems, Number.encode, even, large, finite, zero, if_true] using rounds

end Value

end RuleTree
