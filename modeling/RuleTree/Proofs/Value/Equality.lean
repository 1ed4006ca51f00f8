import RuleTree.Builtins
import RuleTree.Proofs.Json.Document

/-!
Contract: values are equal when they hold no NaN and have one canonical form.

Equality of numbers identifies the two zeros and leaves NaN equal to nothing. The canonical
form has no negative zero, so that equality of values is equality of canonical forms wherever
there is no NaN (`equal_iff`); this makes it symmetric and transitive. Whatever reads a value
reads its canonical form: the string form and the document of a value are those of it.

Owns: the canonical form, and what operators read of equal values.
Does not own: evaluation of equal trees (`Proofs.Evaluation.Congruence`).
-/

namespace RuleTree

/-! ## Numbers -/

namespace Number

/-- The number with one zero only. -/
def canonical (number : Number) : Number :=
  if number = negativeZero then zero else number

/-- A document keeps the canonical form of a finite number. -/
theorem documented_of_finite {number : Number} (finite : number.isFinite = true) :
    number.documented = .number number.canonical := by
  unfold documented canonical
  rw [finite, Bool.not_true, if_neg Bool.false_ne_true]
  split_ifs <;> rfl

theorem canonical_finite (negative : Bool) (position : Fin magnitudes) :
    (Number.finite negative position).canonical =
      if position.val = 0 then zero else .finite negative position :=
  Value.number.inj ((documented_of_finite rfl).symm.trans (documented_finite negative position))

@[simp] theorem canonical_nan : canonical .nan = .nan := rfl

@[simp] theorem canonical_infinite (negative : Bool) :
    canonical (.infinite negative) = .infinite negative := rfl

theorem canonical_eq_nan {number : Number} : number.canonical = .nan ↔ number = .nan := by
  cases number with
  | finite negative position =>
    rw [canonical_finite]
    split_ifs <;> exact iff_of_false nofun nofun
  | _ => rfl

/-- Numbers are equal when neither is NaN and they differ in the sign of zero at most. -/
theorem equal_iff {left right : Number} :
    left.equal right = true ↔ left ≠ .nan ∧ left.canonical = right.canonical := by
  cases left with
  | nan => exact iff_of_false nofun fun same => same.1 rfl
  | infinite left =>
    cases right with
    | nan => exact iff_of_false nofun fun same => nomatch same.2
    | infinite right => simp [equal]
    | finite right j =>
      rw [canonical_finite]
      refine iff_of_false nofun fun same => ?_
      split_ifs at same <;> exact nomatch same.2
  | finite left i =>
    cases right with
    | nan => exact iff_of_false nofun fun same => nomatch canonical_eq_nan.1 same.2
    | infinite right =>
      rw [canonical_finite]
      refine iff_of_false nofun fun same => ?_
      split_ifs at same <;> exact nomatch same.2
    | finite right j =>
      rw [canonical_finite, canonical_finite]
      simp only [equal, zero, Bool.and_eq_true, Bool.or_eq_true, beq_iff_eq, ne_eq,
        reduceCtorEq, not_false_eq_true, true_and]
      split_ifs with leftZero rightZero rightZero
      · simp [Fin.ext_iff, leftZero, rightZero]
      · simp only [Fin.ext_iff, leftZero, Number.finite.injEq]
        exact iff_of_false (fun same => rightZero same.1.symm) fun same => rightZero same.2.symm
      · simp [Fin.ext_iff, leftZero, rightZero]
      · simp only [leftZero, or_false, Number.finite.injEq]
        exact and_comm

theorem text_canonical (number : Number) : number.canonical.text = number.text := by
  unfold canonical
  split_ifs with negative
  · subst negative
    simp only [zero, negativeZero, text, shortInteger?_zero]
  · rfl

theorem encode_canonical (number : Number) : number.canonical.encode = number.encode := by
  unfold canonical
  split_ifs with negative
  · subst negative
    simp only [zero, negativeZero, encode, shortInteger?_zero]
  · rfl

end Number

namespace Value

/-! ## Canonical forms -/

mutual

/-- NaN occurs in the value, at any depth. -/
def HoldsNaN : Value → Prop
  | .number value => value = .nan
  | .list items => ItemsHoldNaN items
  | _ => False

def ItemsHoldNaN : List Value → Prop
  | [] => False
  | item :: items => HoldsNaN item ∨ ItemsHoldNaN items

end

mutual

/-- The value without negative zeros. -/
def canonical : Value → Value
  | .number value => .number value.canonical
  | .list items => .list (canonicalItems items)
  | value => value

def canonicalItems : List Value → List Value
  | [] => []
  | item :: items => canonical item :: canonicalItems items

end

mutual

theorem holdsNaN_canonical (value : Value) : value.canonical.HoldsNaN ↔ value.HoldsNaN := by
  cases value with
  | number value => exact Number.canonical_eq_nan
  | list items => exact itemsHoldNaN_canonicalItems items
  | _ => rfl

theorem itemsHoldNaN_canonicalItems (items : List Value) :
    ItemsHoldNaN (canonicalItems items) ↔ ItemsHoldNaN items := by
  cases items with
  | nil => rfl
  | cons item items =>
    exact or_congr (holdsNaN_canonical item) (itemsHoldNaN_canonicalItems items)

end

mutual

/-- **Equality is equality of canonical forms, off NaN.** -/
theorem equal_iff (left right : Value) :
    left.equal right = true ↔ ¬ left.HoldsNaN ∧ left.canonical = right.canonical := by
  cases left with
  | number left =>
    cases right with
    | number right =>
      rw [equal, HoldsNaN, canonical, canonical, Number.equal_iff, Value.number.injEq]
    | _ => exact iff_of_false nofun (fun same => nomatch same.2)
  | list lefts =>
    cases right with
    | list rights =>
      rw [equal, HoldsNaN, canonical, canonical, equalItems_iff, Value.list.injEq]
    | _ => exact iff_of_false nofun (fun same => nomatch same.2)
  | _ => cases right <;> simp [equal, HoldsNaN, canonical]

theorem equalItems_iff (lefts rights : List Value) :
    equalItems lefts rights = true ↔
      ¬ ItemsHoldNaN lefts ∧ canonicalItems lefts = canonicalItems rights := by
  cases lefts with
  | nil => cases rights <;> simp [equalItems, ItemsHoldNaN, canonicalItems]
  | cons left lefts =>
    cases rights with
    | nil => simp [equalItems, canonicalItems]
    | cons right rights =>
      simp only [equalItems, ItemsHoldNaN, canonicalItems, Bool.and_eq_true, equal_iff left right,
        equalItems_iff lefts rights, not_or, List.cons.injEq]
      tauto

end

/-- Equality as a relation. -/
def Equals (left right : Value) : Prop :=
  left.equal right = true

theorem equalItems_iff_forall₂ {lefts rights : List Value} :
    equalItems lefts rights = true ↔ List.Forall₂ Equals lefts rights := by
  induction lefts generalizing rights with
  | nil => cases rights <;> simp [equalItems]
  | cons left lefts inductionHypothesis =>
    cases rights with
    | nil => simp [equalItems]
    | cons right rights =>
      rw [equalItems, Bool.and_eq_true, inductionHypothesis, List.forall₂_cons, Equals]

/-! ## An equivalence of the values without NaN -/

theorem equal_comm (left right : Value) : left.equal right = right.equal left := by
  rw [Bool.eq_iff_iff, equal_iff, equal_iff]
  constructor <;>
  · rintro ⟨noNaN, same⟩
    rw [← holdsNaN_canonical, same, holdsNaN_canonical] at noNaN
    exact ⟨noNaN, same.symm⟩

theorem equal_trans {left middle right : Value} (first : left.equal middle = true)
    (second : middle.equal right = true) : left.equal right = true := by
  rw [equal_iff] at first second ⊢
  exact ⟨first.1, first.2.trans second.2⟩

theorem equal_self_iff (value : Value) : value.equal value = true ↔ ¬ value.HoldsNaN := by
  rw [equal_iff, and_iff_left rfl]

/-! ## What is read of a value -/

mutual

theorem chars_canonical (value : Value) : value.canonical.chars = value.chars := by
  cases value with
  | number value => exact Number.text_canonical value
  | list items =>
    exact congrArg (fun inner => '[' :: inner ++ [']']) (itemsChars_canonicalItems items)
  | _ => rfl

theorem itemsChars_canonicalItems (items : List Value) :
    itemsChars (canonicalItems items) = itemsChars items := by
  cases items with
  | nil => rfl
  | cons item items =>
    cases items with
    | nil => exact chars_canonical item
    | cons next items =>
      have rest := itemsChars_canonicalItems (next :: items)
      simp only [canonicalItems, itemsChars, chars_canonical item] at rest ⊢
      rw [rest]

end

mutual

theorem encode_canonical (value : Value) : value.canonical.encode = value.encode := by
  cases value with
  | number value => exact Number.encode_canonical value
  | list items => rw [canonical, encode, encode, encodeItems_canonicalItems items]
  | _ => rfl

theorem encodeItems_canonicalItems (items : List Value) :
    encodeItems (canonicalItems items) = encodeItems items := by
  cases items with
  | nil => rfl
  | cons item items =>
    rw [canonicalItems, encodeItems, encodeItems, encode_canonical item,
      encodeItems_canonicalItems items]

end

theorem operandChars_canonical (value : Value) :
    value.canonical.operandChars = value.operandChars := by
  cases value with
  | number value => exact chars_canonical (.number value)
  | list items => exact chars_canonical (.list items)
  | _ => rfl

theorem eq_string_of_string? {value : Value} {text : String}
    (found : value.string? = some text) : value = .string text := by
  cases value with
  | string => exact congrArg Value.string (Option.some.inj found)
  | _ => cases found

/-- Values of one kind: equal literals, both numbers, or both lists. -/
def SameKind (left right : Value) : Prop :=
  left.isNull = right.isNull ∧ left.boolean? = right.boolean? ∧ left.string? = right.string? ∧
    left.number?.isSome = right.number?.isSome ∧ left.items?.isSome = right.items?.isSome

theorem sameKind_canonical (value : Value) : value.canonical.SameKind value := by
  cases value <;> exact ⟨rfl, rfl, rfl, rfl, rfl⟩

section Equal

variable {left right : Value} (equals : left.equal right = true)

include equals

theorem canonical_eq_of_equal : left.canonical = right.canonical :=
  ((equal_iff left right).1 equals).2

theorem sameKind_of_equal : left.SameKind right := by
  obtain ⟨null, boolean, string, number, items⟩ := sameKind_canonical left
  rw [canonical_eq_of_equal equals] at null boolean string number items
  obtain ⟨null', boolean', string', number', items'⟩ := sameKind_canonical right
  exact ⟨null.symm.trans null', boolean.symm.trans boolean', string.symm.trans string',
    number.symm.trans number', items.symm.trans items'⟩

/-- Equal values are lists of equal items, or no lists. -/
theorem lists_or_not_of_equal :
    (∃ lefts rights, left = .list lefts ∧ right = .list rights ∧
      List.Forall₂ Equals lefts rights) ∨
      (left.items? = none ∧ right.items? = none) := by
  obtain ⟨-, -, -, -, sameItems⟩ := sameKind_of_equal equals
  cases foundLeft : left.items? with
  | none =>
    rw [foundLeft] at sameItems
    exact .inr ⟨rfl, Option.isSome_eq_false_iff.1 sameItems.symm |> Option.isNone_iff_eq_none.1⟩
  | some lefts =>
    cases left with
    | list lefts =>
      cases right with
      | list rights => exact .inl ⟨lefts, rights, rfl, rfl, equalItems_iff_forall₂.1 equals⟩
      | _ => cases sameItems
    | _ => cases foundLeft

theorem text_eq_of_equal : left.text = right.text := by
  rw [text, text, ← chars_canonical left, ← chars_canonical right, canonical_eq_of_equal equals]

theorem encode_eq_of_equal : left.encode = right.encode := by
  rw [← encode_canonical left, ← encode_canonical right, canonical_eq_of_equal equals]

theorem operandChars_eq_of_equal : left.operandChars = right.operandChars := by
  rw [← operandChars_canonical left, ← operandChars_canonical right, canonical_eq_of_equal equals]

theorem readsTrue_eq_of_equal : left.readsTrue = right.readsTrue := by
  rw [readsTrue, readsTrue, operandChars_eq_of_equal equals]

end Equal

end Value

/-- Whether a text matches a pattern, and whether that is one, depends on what is read. -/
theorem matchesPattern_congr {left right leftPattern rightPattern : Value}
    (text : left.operandChars = right.operandChars)
    (pattern : leftPattern.operandChars = rightPattern.operandChars) :
    matchesPattern left leftPattern = matchesPattern right rightPattern := by
  unfold matchesPattern
  rw [text, pattern]

end RuleTree
