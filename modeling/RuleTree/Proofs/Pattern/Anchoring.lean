import RuleTree.Builtins
import RuleTree.Proofs.Pattern.Bounds
import RuleTree.Proofs.Pattern.Search

/-!
Contract: what a pattern becomes when it is set between the two ends of a text.

The pattern is set between the ends as text, before it is read. A pattern that is read in the
group around it as it is alone matches exactly the texts that it spans from their first to
their last character. Two kinds of patterns are read otherwise. One that ends in a comment
swallows the closing parenthesis, and so it is refused, though it may be a regular expression
by itself (`EndsInComment`). One with a parenthesis that closes the group around it is no
regular expression by itself, but what is around it may make it one (`ClosesEarly`).
-/

namespace RuleTree.Pattern

/-! ## The text around a pattern -/

/-- A regular expression that ends in a comment: a parenthesis behind it is not read. -/
def EndsInComment (source : List Char) : Prop :=
  (read? source).isSome ∧ read? (source ++ [')']) = read? source

/-- A text with a parenthesis that closes the group around it: what stands before the
parenthesis is a regular expression, and the parenthesis is not in a comment. -/
def ClosesEarly (source : List Char) : Prop :=
  ∃ before after, source = before ++ ')' :: after ∧
    (read? before).isSome ∧ ¬EndsInComment before

/-- The whole pattern, after the sign of the start. -/
def outerGroup : OpenGroup :=
  (OpenGroup.start .capture false).add (.atom (.assertion .lineStart))

/-- The term of a pattern between the ends. -/
def anchoredTerm (term : Term) : Term :=
  .concat [.atom (.assertion .lineStart), .group (.flags []) term, .atom (.assertion .lineEnd)]

theorem read?_anchored (source : List Char) :
    read? (anchored source) =
      (readOn? (ReaderState.start.enclose outerGroup) (source ++ [')', '$'])).bind
        ReaderState.finish? := by
  have text : anchored source = '^' :: '(' :: '?' :: ':' :: (source ++ [')', '$']) := rfl
  have sign : readOn? .start (anchored source) =
      readOn? (ReaderState.start.add (.atom (.assertion .lineStart)))
        ('(' :: '?' :: ':' :: (source ++ [')', '$'])) := by
    rw [text, readOn?_step (c := '^') rfl]
    rfl
  have group : readOn? (ReaderState.start.add (.atom (.assertion .lineStart)))
      ('(' :: '?' :: ':' :: (source ++ [')', '$'])) =
        readOn? (ReaderState.start.enclose outerGroup) (source ++ [')', '$']) := by
    rw [readOn?_step (c := '(') rfl]
    rfl
  rw [read?_eq, sign, group]

theorem read?_of_readOn? {source : List Char} {final : ReaderState}
    (whole : readOn? .start source = some final) : read? source = final.finish? := by
  rw [read?_eq, whole, Option.bind_some]

theorem read?_of_none {source : List Char} (refused : readOn? .start source = none) :
    read? source = none := by
  rw [read?_eq, refused, Option.bind_none]

/-- Where the parenthesis behind it is refused, a pattern does not end in a comment. -/
theorem not_endsInComment {source : List Char}
    (refused : readOn? .start (source ++ [')']) = none) : ¬EndsInComment source := by
  rintro ⟨valid, same⟩
  rw [← same, read?_of_none refused] at valid
  cases valid

theorem finish?_enclose (state : ReaderState) (frame : OpenGroup) :
    (state.enclose frame).finish? = none := by
  obtain ⟨inner, outer, verbose, names⟩ := state
  cases outer <;> rfl

theorem outer_of_finish? {state : ReaderState} {term : Term} (finish : state.finish? = some term) :
    state.outer = [] := by
  unfold ReaderState.finish? at finish
  split at finish
  · next none_open => exact List.isEmpty_iff.mp none_open
  · cases finish

/-- Where no group is open, a parenthesis is refused. -/
theorem readOn?_close_none {state : ReaderState} (none_open : state.outer = []) (more : List Char) :
    readOn? state (')' :: more) = none := by
  rw [readOn?_step (skip_close state.verbose more)]
  simp [step?, ReaderState.closeGroup?, none_open]

/-- Where no group is open, the sign of the end is the last item. -/
theorem finish?_of_sign {state : ReaderState} (none_open : state.outer = []) :
    (readOn? state ['$']).bind ReaderState.finish? =
      some (state.add (.atom (.assertion .lineEnd))).inner.contents := by
  have skipped : skip state.verbose ['$'] = ['$'] := by cases state.verbose <;> rfl
  have step : step? state '$' [] = some (state.add (.atom (.assertion .lineEnd)), []) := rfl
  have outermost : (state.add (.atom (.assertion .lineEnd))).outer = [] := none_open
  rw [readOn?_step skipped, step, Option.bind_some, readOn?_nil, Option.bind_some,
    ReaderState.finish?, outermost, List.isEmpty_nil, if_pos rfl]

/-- Behind a whole pattern, the parenthesis closes the group around it. -/
theorem readOn?_close_enclosed (final : ReaderState) :
    (readOn? (final.enclose outerGroup) [')', '$']).bind ReaderState.finish? =
      final.finish?.map anchoredTerm := by
  cases finished : final.finish? with
  | some term =>
      obtain ⟨inner, outer, verbose, names⟩ := final
      obtain rfl : outer = [] := outer_of_finish? finished
      obtain rfl : inner.contents = term := Option.some.inj finished
      rw [readOn?_step (skip_close _ _)]
      exact finish?_of_sign rfl
  | none =>
      -- A group of the pattern is open, and the parenthesis closes it instead.
      have within : final.outer ≠ [] := by
        intro none_open
        simp [ReaderState.finish?, none_open] at finished
      have embeds := embeds_enclose outerGroup
      cases read : readOn? (final.enclose outerGroup) [')', '$'] with
      | none => rfl
      | some closed =>
          rw [embeds.readOn?_step (skip_close _ _) fun _ => within] at read
          obtain ⟨taken, step, further⟩ := Option.bind_eq_some_iff.mp read
          obtain ⟨_, -, same⟩ := Option.map_eq_some_iff.mp step
          rw [← (Prod.mk.inj same).2] at further
          obtain ⟨_, rfl⟩ := embeds.readOn?_sign (List.suffix_refl _) further
          exact finish?_enclose _ _

/-- How a pattern is read between the ends. -/
inductive Anchors (source : List Char) : Prop
  | whole (term : Term) (alone : read? source = some term) (open_end : ¬EndsInComment source)
      (between : read? (anchored source) = some (anchoredTerm term))
  | comment (ends : EndsInComment source) (between : read? (anchored source) = none)
  | early (closes : ClosesEarly source) (alone : read? source = none)
  | refused (alone : read? source = none) (between : read? (anchored source) = none)

theorem Anchors.of_stays {source : List Char} {final : ReaderState}
    (alone : readOn? .start source = some final)
    (before : ∀ embed, Embeds embed → ∀ more,
      readOn? (embed .start) (source ++ ')' :: more) = readOn? (embed final) (')' :: more)) :
    Anchors source := by
  have between : read? (anchored source) = final.finish?.map anchoredTerm := by
    rw [read?_anchored, before _ (embeds_enclose outerGroup), readOn?_close_enclosed]
  cases finished : final.finish? with
  | none =>
      rw [finished] at between
      exact .refused ((read?_of_readOn? alone).trans finished) between
  | some term =>
      rw [finished] at between
      refine .whole term ((read?_of_readOn? alone).trans finished) (not_endsInComment ?_) between
      exact (before id embeds_id []).trans (readOn?_close_none (outer_of_finish? finished) [])

theorem Anchors.of_comment {source : List Char} {final : ReaderState}
    (alone : readOn? .start source = some final)
    (through : ∀ embed, Embeds embed → ∀ more, '\n' ∉ more →
      readOn? (embed .start) (source ++ ')' :: more) = some (embed final)) :
    Anchors source := by
  have between : read? (anchored source) = none := by
    rw [read?_anchored, through _ (embeds_enclose outerGroup) _ (by decide)]
    exact finish?_enclose final outerGroup
  cases finished : final.finish? with
  | none => exact .refused ((read?_of_readOn? alone).trans finished) between
  | some term =>
      have covered : readOn? .start (source ++ [')']) = some final := through id embeds_id [] nofun
      refine .comment ⟨?_, ?_⟩ between
      · rw [read?_of_readOn? alone, finished]
        rfl
      · rw [read?_of_readOn? alone, read?_of_readOn? covered]

/-- A pattern that closes the group around it early is refused by itself. -/
theorem Closes.read? {source before after : List Char} {final : ReaderState}
    (closes : Closes .start source before after final) :
    ClosesEarly source ∧ Pattern.read? source = none := by
  have refused : ∀ more, readOn? .start (before ++ ')' :: more) = none := fun more =>
    (closes.goesOn more).trans (readOn?_close_none closes.none_open more)
  have valid : (Pattern.read? before).isSome := by
    rw [read?_of_readOn? closes.alone, ReaderState.finish?, closes.none_open]
    rfl
  exact ⟨⟨before, after, closes.split, valid, not_endsInComment (refused [])⟩,
    read?_of_none (closes.split ▸ refused after)⟩

theorem anchors (source : List Char) : Anchors source := by
  cases reads .start source with
  | stays final alone before => exact .of_stays alone before
  | comment final alone through => exact .of_comment alone through
  | closes before after final closes => exact .early closes.read?.1 closes.read?.2
  | fails alone beyond =>
      refine .refused (read?_of_none alone) ?_
      rw [read?_anchored]
      cases read : readOn? (ReaderState.start.enclose outerGroup) (source ++ [')', '$']) with
      | none => rfl
      | some final =>
          obtain ⟨within, rfl⟩ := beyond _ (embeds_enclose outerGroup) final read
          exact finish?_enclose within outerGroup

theorem read?_of_closesEarly {source : List Char} (closes : ClosesEarly source) :
    read? source = none := by
  obtain ⟨before, after, rfl, valid, open_end⟩ := closes
  cases reads .start before with
  | stays final alone behind =>
      rw [read?_of_readOn? alone] at valid
      obtain ⟨term, finished⟩ := Option.isSome_iff_exists.mp valid
      refine read?_of_none ((behind id embeds_id after).trans ?_)
      exact readOn?_close_none (outer_of_finish? finished) after
  | comment final alone through =>
      have covered : readOn? .start (before ++ [')']) = some final := through id embeds_id [] nofun
      refine absurd ⟨valid, ?_⟩ open_end
      rw [read?_of_readOn? alone, read?_of_readOn? covered]
  | closes earlier later final closes =>
      rw [closes.read?.2] at valid
      cases valid
  | fails alone _ =>
      rw [read?_of_none alone] at valid
      cases valid

/-! ## The expression between the ends -/

/-- The expression of a pattern between the ends of a text. -/
def anchoredExpr (expr : Expr) : Expr :=
  .concat (.assertion .textStart) (.concat (.group false expr) (.assertion .textEnd))

theorem expr?_anchoredTerm (term : Term) :
    (anchoredTerm term).expr? = term.expr?.map anchoredExpr := by
  -- The group starts with the flags that are on from the start, and ends with them.
  have group : expr? {} (.group (.flags []) term) =
      (expr? {} term).bind fun taken => some (.group false taken.1, {}) := rfl
  have start : expr? {} (.atom (.assertion .lineStart)) = some (.assertion .textStart, {}) := rfl
  have items : ∀ terms, expr? {} (.concat terms) =
      (exprs? {} terms).bind fun taken => some (.ofItems taken.1, taken.2) := fun _ => rfl
  simp only [Term.expr?, anchoredTerm, items, exprs?, start, group, Option.bind_eq_bind,
    Option.bind_some]
  cases expr? {} term <;> rfl

theorem holds_textStart {text : List Char} {place : Nat} (inside : place ≤ text.length) :
    Assertion.textStart.holds (charBefore text place) text[place]? = true ↔ place = 0 := by
  cases place with
  | zero => simp [Assertion.holds, charBefore]
  | succ place => simp [Assertion.holds, charBefore]; omega

theorem holds_textEnd {text : List Char} {place : Nat} (inside : place ≤ text.length) :
    Assertion.textEnd.holds (charBefore text place) text[place]? = true ↔
      place = text.length := by
  rw [Assertion.holds, Option.isNone_iff_eq_none, List.getElem?_eq_none_iff]
  omega

/-- A match between the ends is a match of the whole text. -/
theorem spans_anchoredExpr {expr : Expr} {text : List Char} {start finish : Nat} :
    (anchoredExpr expr).Spans text start finish ↔
      start = 0 ∧ finish = text.length ∧ expr.Spans text 0 text.length := by
  constructor
  · rintro ⟨_, ⟨rfl, startInside, atStart⟩, _, spans, rfl, endInside, atEnd⟩
    obtain rfl := (holds_textStart startInside).mp atStart
    obtain rfl := (holds_textEnd endInside).mp atEnd
    exact ⟨rfl, rfl, spans⟩
  · rintro ⟨rfl, rfl, spans⟩
    have atStart := (holds_textStart (Nat.zero_le text.length)).mpr rfl
    have atEnd := (holds_textEnd (Nat.le_refl text.length)).mpr rfl
    exact ⟨0, ⟨rfl, Nat.zero_le _, atStart⟩, text.length, spans, rfl, Nat.le_refl _, atEnd⟩

/-- How the expression of a pattern between the ends comes of the pattern alone. -/
theorem parse?_anchored {source : List Char} (notEarly : ¬ClosesEarly source) :
    (EndsInComment source → parse? (anchored source) = none) ∧
      (¬EndsInComment source → parse? (anchored source) = (parse? source).map anchoredExpr) := by
  cases anchors source with
  | whole term alone open_end between =>
      refine ⟨fun ends => absurd ends open_end, fun _ => ?_⟩
      rw [parse?, parse?, between, alone]
      exact expr?_anchoredTerm term
  | comment ends between =>
      refine ⟨fun _ => ?_, fun open_end => absurd ends open_end⟩
      rw [parse?, between]
      rfl
  | early closes _ => exact absurd closes notEarly
  | refused alone between =>
      refine ⟨fun _ => ?_, fun _ => ?_⟩
      · rw [parse?, between]
        rfl
      · rw [parse?, parse?, between, alone]
        rfl

/-! ## Whole-text matches -/

/-- The limits on nesting and size do not come into play. -/
def KeepsLimits (source : List Char) : Prop :=
  ∀ term, read? source = some term → term.height ≤ nestingLimit ∧
    ∀ expr, term.expr? = some expr → expr.fits = true

theorem parse?_of_compile? {source : List Char} {expr : Expr}
    (compiled : compile? source = some expr) : parse? source = some expr := by
  obtain ⟨term, read, checked⟩ := Option.bind_eq_some_iff.mp compiled
  split at checked
  · cases checked
  · obtain ⟨expr, meaning, fits⟩ := Option.bind_eq_some_iff.mp checked
    split at fits
    · rw [parse?, read]
      exact meaning.trans fits
    · cases fits

theorem keepsLimits_of_compile? {source : List Char} (compiled : (compile? source).isSome) :
    KeepsLimits source := by
  intro term read
  obtain ⟨expr, compiled⟩ := Option.isSome_iff_exists.mp compiled
  obtain ⟨_, same, checked⟩ := Option.bind_eq_some_iff.mp compiled
  obtain rfl := Option.some.inj (read.symm.trans same)
  split at checked
  · cases checked
  · next shallow =>
      refine ⟨Nat.not_lt.mp shallow, fun other meaning => ?_⟩
      obtain ⟨_, same, fits⟩ := Option.bind_eq_some_iff.mp checked
      obtain rfl := Option.some.inj (meaning.symm.trans same)
      split at fits
      · assumption
      · cases fits

theorem compile?_of_keepsLimits {source : List Char} (limits : KeepsLimits source) :
    compile? source = parse? source := by
  unfold compile? parse?
  cases read : read? source with
  | none => rfl
  | some term =>
      obtain ⟨height, size⟩ := limits term read
      have shallow : ¬nestingLimit < term.height := Nat.not_lt.mpr height
      simp only [Option.bind_eq_bind, Option.bind_some, if_neg shallow]
      cases meaning : term.expr? with
      | none => rfl
      | some expr => simp [size expr meaning]

/-- What the answer of a compiled pattern says. -/
theorem matchesWhole?_spans {pattern text : List Char} {expr : Expr} {matched : Bool}
    (valid : parse? pattern = some expr) (answered : matchesWhole? pattern text = some matched) :
    matched = true ↔ expr.Spans text 0 text.length := by
  obtain ⟨compiled, isCompiled, rfl⟩ := Option.map_eq_some_iff.mp answered
  have parsed := parse?_of_compile? isCompiled
  obtain ⟨term, read, meaning⟩ := Option.bind_eq_some_iff.mp valid
  have ordered := parse?_ordered parsed
  cases anchors pattern with
  | early _ alone => exact nomatch alone.symm.trans read
  | refused alone _ => exact nomatch alone.symm.trans read
  | comment _ between =>
      rw [parse?, between] at parsed
      cases parsed
  | whole _ alone _ between =>
      obtain rfl := Option.some.inj (alone.symm.trans read)
      obtain rfl : anchoredExpr expr = compiled := by
        rw [parse?, between, Option.bind_some, expr?_anchoredTerm, meaning] at parsed
        exact Option.some.inj parsed
      rw [Expr.occursIn_iff ordered]
      constructor
      · rintro ⟨start, finish, -, spans⟩
        exact (spans_anchoredExpr.mp spans).2.2
      · intro spans
        exact ⟨0, text.length, Nat.zero_le _, spans_anchoredExpr.mpr ⟨rfl, rfl, spans⟩⟩

end RuleTree.Pattern

namespace RuleTree.Builtin

open Pattern

variable {σ : Type}

theorem wholeMatch_answer (value pattern : Value) (context : σ) :
    (wholeMatch [value, pattern] context).1 =
      match matchesWhole? (Unicode.lower pattern.operandChars)
        (Unicode.lower value.operandChars) with
      | some matched => .ok (.boolean matched)
      | none => .error (.invalidPattern (String.ofList (Unicode.lower pattern.operandChars))) := by
  simp only [wholeMatch, matchesPattern]
  cases matchesWhole? (Unicode.lower pattern.operandChars) (Unicode.lower value.operandChars) <;>
    rfl

/-- A pattern is refused as no regular expression, or as it ends in a comment; that is all,
unless one of its parentheses closes the group around it. In that case it is no regular
expression, but it may be accepted for what is around it. -/
theorem wholeMatch_refuses_iff (value pattern : Value) (context : σ)
    (limits : KeepsLimits (anchored (Unicode.lower pattern.operandChars))) :
    (¬ClosesEarly (Unicode.lower pattern.operandChars) →
      ((wholeMatch [value, pattern] context).1 =
          .error (.invalidPattern (String.ofList (Unicode.lower pattern.operandChars))) ↔
        parse? (Unicode.lower pattern.operandChars) = none ∨
          EndsInComment (Unicode.lower pattern.operandChars))) ∧
      (ClosesEarly (Unicode.lower pattern.operandChars) →
        parse? (Unicode.lower pattern.operandChars) = none) := by
  have refused : (wholeMatch [value, pattern] context).1 =
        .error (.invalidPattern (String.ofList (Unicode.lower pattern.operandChars))) ↔
      parse? (anchored (Unicode.lower pattern.operandChars)) = none := by
    rw [wholeMatch_answer, matchesWhole?, compile?_of_keepsLimits limits]
    cases parse? (anchored (Unicode.lower pattern.operandChars)) <;> simp
  generalize Unicode.lower pattern.operandChars = source at refused limits ⊢
  -- What is left is about the pattern with the text around it.
  rw [refused]
  refine ⟨fun notEarly => ?_, fun closes => ?_⟩
  · obtain ⟨ended, open_end⟩ := parse?_anchored notEarly
    by_cases ends : EndsInComment source
    · simp [ended ends, ends]
    · simp [open_end ends, ends]
  · rw [parse?, read?_of_closesEarly closes]
    rfl

/-- An alternation is a regular expression by itself, and it is not refused. -/
theorem wholeMatch_refuses_iff_alternation :
    KeepsLimits (anchored (Unicode.lower (Value.string "a|b").operandChars)) ∧
      ((¬ClosesEarly (Unicode.lower (Value.string "a|b").operandChars) →
        ((wholeMatch [.string "b", .string "a|b"] ()).1 =
            .error (.invalidPattern
              (String.ofList (Unicode.lower (Value.string "a|b").operandChars))) ↔
          parse? (Unicode.lower (Value.string "a|b").operandChars) = none ∨
            EndsInComment (Unicode.lower (Value.string "a|b").operandChars))) ∧
        (ClosesEarly (Unicode.lower (Value.string "a|b").operandChars) →
          parse? (Unicode.lower (Value.string "a|b").operandChars) = none)) :=
  have limits : KeepsLimits (anchored (Unicode.lower (Value.string "a|b").operandChars)) :=
    keepsLimits_of_compile? (by decide +kernel)
  ⟨limits, wholeMatch_refuses_iff (.string "b") (.string "a|b") () limits⟩

/-- A pattern that would leave the anchors is accepted, and one with a comment is refused. -/
theorem wholeMatch_leaves_anchors :
    (parse? "a)|(?:b".toList = none ∧
      (wholeMatch [.string "ax", .string "a)|(?:b"] ()).1 = .ok (.boolean true)) ∧
    (parse? "(?x) a b # c".toList =
        some (.concat .empty (.concat (.ofChar 'a') (.ofChar 'b'))) ∧
      (wholeMatch [.string "ab", .string "(?x) a b # c"] ()).1 =
        .error (.invalidPattern "(?x) a b # c")) :=
  ⟨⟨rfl, rfl⟩, rfl, rfl⟩

/-- The answer for a pattern that is a regular expression says whether it can match the text
from its first to its last character. -/
theorem wholeMatch_iff_spans {value pattern : Value} {context : σ} {expr : Expr} {matched : Bool}
    (valid : parse? (Unicode.lower pattern.operandChars) = some expr)
    (answered : (wholeMatch [value, pattern] context).1 = .ok (.boolean matched)) :
    matched = true ↔
      expr.Spans (Unicode.lower value.operandChars) 0
        (Unicode.lower value.operandChars).length := by
  rw [wholeMatch_answer] at answered
  split at answered
  · next found =>
      obtain rfl := Value.boolean.inj (Except.ok.inj answered)
      exact matchesWhole?_spans valid found
  · cases answered

/-- The second alternative matches, though the first one is preferred and does not. -/
theorem wholeMatch_iff_spans_alternatives :
    parse? (Unicode.lower (Value.string "a|ab").operandChars) =
        some (.alternation (.ofChar 'a') (.concat (.ofChar 'a') (.ofChar 'b'))) ∧
      (wholeMatch [.string "AB", .string "a|ab"] ()).1 = .ok (.boolean true) ∧
      (Expr.alternation (.ofChar 'a') (.concat (.ofChar 'a') (.ofChar 'b'))).Spans
        (Unicode.lower (Value.string "AB").operandChars) 0
        (Unicode.lower (Value.string "AB").operandChars).length :=
  have answered : (wholeMatch [.string "AB", .string "a|ab"] ()).1 = .ok (.boolean true) := rfl
  ⟨rfl, answered, (wholeMatch_iff_spans rfl answered).mp rfl⟩

end RuleTree.Builtin
