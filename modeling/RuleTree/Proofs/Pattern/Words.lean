import RuleTree.Proofs.Pattern.Anchoring
import RuleTree.Proofs.Value.Truth

/-!
Contract: alternatives of plain words match just these words.

Without a character of the grammar, the reader adds one literal for each character and one
alternative for each bar (`readOn?_words`), so the expression of words between bars is that of
the words (`parse?_words`), and it spans a whole text exactly when the text is one of them
(`spans_wordsExpr`). Lower-casing adds no character of the grammar and a bar ends every word, so
that lower-casing the pattern lower-cases each word by itself.

The automata of a single word of ASCII take a state for each character and a few for the ends
(`size_anchored`), so that a word of any usual length keeps the limit on size and matches itself
alone (`matchesWhole?_word`). One such word asks what `true?` asks
(`Builtin.isTrue_agrees_wholeMatch`).

Owns: patterns of words between bars, and the size of words of ASCII. Does not own: other
patterns (`Proofs.Pattern.Anchoring`), and which values mean true (`Proofs.Value.Truth`).
-/

namespace RuleTree.Pattern

/-! ## Reading words -/

/-- The characters of the grammar. -/
def metaCharacters : List Char :=
  ['\\', '.', '+', '*', '?', '(', ')', '|', '[', ']', '\x7b', '\x7d', '^', '$']

/-- A text without characters of the grammar. -/
def Plain (word : List Char) : Prop :=
  ∀ c ∈ word, c ∉ metaCharacters

def charTerm (c : Char) : Term :=
  .atom (.literal ⟨c, false⟩)

def wordTerm (word : List Char) : Term :=
  .ofItems (word.map charTerm)

/-- The alternatives of some words. -/
def wordsTerm (words : List (List Char)) : Term :=
  .ofBranches (words.map wordTerm)

/-- The state after the characters of a word. -/
def ReaderState.addWord (state : ReaderState) (word : List Char) : ReaderState :=
  { state with
    inner := { state.inner with
      reversedItems := (word.map charTerm).reverse ++ state.inner.reversedItems } }

theorem step?_plain {c : Char} (plain : c ∉ metaCharacters) (state : ReaderState)
    (rest : List Char) : step? state c rest = some (state.add (charTerm c), rest) := by
  simp only [metaCharacters, List.mem_cons, List.not_mem_nil, not_or, or_false] at plain
  obtain ⟨slash, dot, plus, star, question, opening, closing, bar, bracket, -, brace, -, caret,
    dollar⟩ := plain
  simp [step?, charTerm]

theorem readOn?_word {word : List Char} (plain : Plain word) (state : ReaderState)
    (notVerbose : state.verbose = false) (more : List Char) :
    readOn? state (word ++ more) = readOn? (state.addWord word) more := by
  induction word generalizing state with
  | nil => rfl
  | cons c word inductionHypothesis =>
    obtain ⟨plainHere, plainRest⟩ := List.forall_mem_cons.1 plain
    have skipped : skip state.verbose (c :: (word ++ more)) = c :: (word ++ more) := by
      rw [notVerbose]
      rfl
    have added : (state.add (charTerm c)).addWord word = state.addWord (c :: word) := by
      simp [ReaderState.addWord, ReaderState.add, OpenGroup.add]
    rw [List.cons_append, readOn?_step skipped, step?_plain plainHere, Option.bind_some, ← added]
    exact inductionHypothesis plainRest _ notVerbose

/-- The state after a bar. -/
def ReaderState.branch (state : ReaderState) : ReaderState :=
  { state with inner := state.inner.branch }

theorem readOn?_bar (state : ReaderState) (notVerbose : state.verbose = false) (more : List Char) :
    readOn? state ('|' :: more) = readOn? state.branch more := by
  have skipped : skip state.verbose ('|' :: more) = '|' :: more := by
    rw [notVerbose]
    rfl
  rw [readOn?_step skipped]
  rfl

/-- Words between bars are read as their alternatives, after those read before. -/
theorem readOn?_words {word : List Char} {words : List (List Char)}
    (plain : ∀ part ∈ word :: words, Plain part) (state : ReaderState)
    (notVerbose : state.verbose = false) (fresh : state.inner.reversedItems = []) :
    ∃ final, final.outer = state.outer ∧
      final.inner.contents = .ofBranches (state.inner.reversedBranches.reverse ++
        (word :: words).map wordTerm) ∧
      ∀ more, readOn? state (['|'].intercalate (word :: words) ++ more) = readOn? final more := by
  induction words generalizing word state with
  | nil =>
    refine ⟨state.addWord word, rfl, ?_, fun more => ?_⟩
    · simp [ReaderState.addWord, OpenGroup.contents, fresh, wordTerm]
    · rw [List.intercalate_singleton]
      exact readOn?_word (plain word List.mem_cons_self) state notVerbose more
  | cons next words inductionHypothesis =>
    obtain ⟨plainHere, plainRest⟩ := List.forall_mem_cons.1 plain
    obtain ⟨final, outer, contents, reads⟩ :=
      inductionHypothesis plainRest (state.addWord word).branch notVerbose rfl
    refine ⟨final, outer, ?_, fun more => ?_⟩
    · rw [contents]
      simp [ReaderState.addWord, ReaderState.branch, OpenGroup.branch, fresh, wordTerm]
    · have bar := readOn?_bar (state.addWord word) notVerbose
      rw [List.intercalate_cons_cons, List.append_assoc, List.append_assoc,
        readOn?_word plainHere state notVerbose, List.singleton_append, bar, reads]

section Words

variable {words : List (List Char)} (nonempty : words ≠ []) (plain : ∀ word ∈ words, Plain word)

include nonempty plain

theorem exists_readOn?_words : ∃ final, final.finish? = some (wordsTerm words) ∧
    ∀ more, readOn? .start (['|'].intercalate words ++ more) = readOn? final more := by
  obtain ⟨word, rest, rfl⟩ := List.exists_cons_of_ne_nil nonempty
  obtain ⟨final, outer, contents, reads⟩ := readOn?_words plain .start rfl rfl
  refine ⟨final, ?_, reads⟩
  have closed : final.outer.isEmpty = true := by
    rw [outer]
    rfl
  rw [ReaderState.finish?, if_pos closed, contents]
  rfl

theorem read?_words : read? (['|'].intercalate words) = some (wordsTerm words) := by
  obtain ⟨final, finished, reads⟩ := exists_readOn?_words nonempty plain
  have whole := reads []
  rw [List.append_nil, readOn?_nil] at whole
  rw [read?_of_readOn? whole, finished]

theorem not_endsInComment_words : ¬EndsInComment (['|'].intercalate words) := by
  obtain ⟨final, finished, reads⟩ := exists_readOn?_words nonempty plain
  apply not_endsInComment
  rw [reads]
  exact readOn?_close_none (outer_of_finish? finished) []

/-- No parenthesis of the words closes the group around them. -/
theorem not_closesEarly_words : ¬ClosesEarly (['|'].intercalate words) := by
  intro closes
  have alone := read?_words nonempty plain
  rw [read?_of_closesEarly closes] at alone
  cases alone

theorem read?_anchored_words :
    read? (anchored (['|'].intercalate words)) = some (anchoredTerm (wordsTerm words)) := by
  have alone := read?_words nonempty plain
  cases anchors (['|'].intercalate words) with
  | whole term same _ between =>
    obtain rfl := Option.some.inj (alone.symm.trans same)
    exact between
  | comment ends _ => exact absurd ends (not_endsInComment_words nonempty plain)
  | early closes _ => exact absurd closes (not_closesEarly_words nonempty plain)
  | refused missing _ => exact nomatch alone.symm.trans missing

end Words

/-! ## Nesting -/

theorem maxHeight_le {terms : List Term} {bound : Nat}
    (each : ∀ term ∈ terms, term.height ≤ bound) : Term.maxHeight terms ≤ bound := by
  induction terms with
  | nil => exact Nat.zero_le bound
  | cons term terms inductionHypothesis =>
    obtain ⟨here, rest⟩ := List.forall_mem_cons.1 each
    exact Nat.max_le.2 ⟨here, inductionHypothesis rest⟩

theorem height_ofItems_le {terms : List Term} {bound : Nat}
    (each : ∀ term ∈ terms, term.height ≤ bound) : (Term.ofItems terms).height ≤ bound + 1 := by
  match terms with
  | [] => exact Nat.zero_le _
  | [term] => exact Nat.le_succ_of_le (each term List.mem_cons_self)
  | _ :: _ :: _ => exact Nat.succ_le_succ (maxHeight_le each)

theorem height_ofBranches_le {terms : List Term} {bound : Nat}
    (each : ∀ term ∈ terms, term.height ≤ bound) : (Term.ofBranches terms).height ≤ bound + 1 := by
  match terms with
  | [] => exact Nat.zero_le _
  | [term] => exact Nat.le_succ_of_le (each term List.mem_cons_self)
  | _ :: _ :: _ => exact Nat.succ_le_succ (maxHeight_le each)

theorem height_wordsTerm_le (words : List (List Char)) : (wordsTerm words).height ≤ 2 := by
  refine height_ofBranches_le fun term member => ?_
  obtain ⟨word, -, rfl⟩ := List.mem_map.1 member
  refine height_ofItems_le fun term member => ?_
  obtain ⟨c, -, rfl⟩ := List.mem_map.1 member
  exact Nat.zero_le 0

theorem height_anchoredTerm_le {term : Term} {bound : Nat} (height : term.height ≤ bound) :
    (anchoredTerm term).height ≤ bound + 2 := by
  have group : (Term.group (.flags []) term).height = term.height + 1 := by
    rw [Term.height]
  refine Nat.succ_le_succ (maxHeight_le fun item member => ?_)
  simp only [List.mem_cons, List.not_mem_nil, or_false] at member
  rcases member with rfl | rfl | rfl
  · exact Nat.zero_le _
  · rw [group]
    exact Nat.succ_le_succ height
  · exact Nat.zero_le _

/-! ## The expression of words -/

def wordExpr (word : List Char) : Expr :=
  .ofItems (word.map .ofChar)

def wordsExpr (words : List (List Char)) : Expr :=
  .ofBranches (words.map wordExpr)

/-- Terms that keep the flags have the expressions of each. -/
theorem exprs?_map {Part : Type} {term : Part → Term} {expr : Part → Expr} {flags : Flags}
    (each : ∀ part, expr? flags (term part) = some (expr part, flags)) (parts : List Part) :
    exprs? flags (parts.map term) = some (parts.map expr, flags) := by
  induction parts with
  | nil => rfl
  | cons part parts inductionHypothesis =>
    simp [exprs?, each, inductionHypothesis]

theorem expr?_wordTerm (word : List Char) :
    expr? {} (wordTerm word) = some (wordExpr word, {}) := by
  have each : ∀ c, expr? {} (charTerm c) = some (.ofChar c, {}) := fun c => rfl
  match word with
  | [] => rfl
  | [c] => rfl
  | first :: second :: rest =>
    have items := exprs?_map each (first :: second :: rest)
    change (exprs? {} ((first :: second :: rest).map charTerm)).bind _ = _
    rw [items]
    rfl

theorem expr?_wordsTerm {words : List (List Char)} (nonempty : words ≠ []) :
    (wordsTerm words).expr? = some (wordsExpr words) := by
  match words with
  | [] => exact absurd rfl nonempty
  | [word] =>
    change (expr? {} (wordTerm word)).map Prod.fst = some (wordExpr word)
    rw [expr?_wordTerm, Option.map_some]
  | first :: second :: rest =>
    have branches := exprs?_map expr?_wordTerm (first :: second :: rest)
    change ((exprs? {} ((first :: second :: rest).map wordTerm)).bind _).map Prod.fst = _
    rw [branches]
    rfl

/-! ## What words span -/

section Spans

variable {text : List Char} {start finish : Nat}

theorem contains_singleton {point other : Nat} :
    (CodeSet.singleton point).contains other = true ↔ other = point := by
  simp only [CodeSet.contains, CodeSet.singleton, CodeSet.insideFrom]
  split_ifs <;> simp <;> omega

theorem spans_ofChar {c : Char} :
    (Expr.ofChar c).Spans text start finish ↔ finish = start + 1 ∧ text[start]? = some c := by
  have same : ∀ other : Char,
      (CodeSet.singleton c.toNat).contains other.toNat = true ↔ other = c := fun other => by
    rw [contains_singleton, Char.toNat_inj]
  constructor
  · rintro ⟨next, other, here, member⟩
    exact ⟨next, (same other).1 member ▸ here⟩
  · rintro ⟨next, here⟩
    exact ⟨next, c, here, (same c).2 rfl⟩

theorem spans_ofItems_cons {item : Expr} {items : List Expr} :
    (Expr.ofItems (item :: items)).Spans text start finish ↔
      ∃ middle, item.Spans text start middle ∧ (Expr.ofItems items).Spans text middle finish := by
  cases items with
  | nil => exact ⟨fun spans => ⟨finish, spans, rfl⟩, fun ⟨_, spans, same⟩ => same ▸ spans⟩
  | cons next items => exact Iff.rfl

theorem spans_ofBranches {branches : List Expr} :
    (Expr.ofBranches branches).Spans text start finish ↔
      ∃ branch ∈ branches, branch.Spans text start finish := by
  induction branches with
  | nil =>
    refine iff_of_false ?_ nofun
    rintro ⟨-, c, -, member⟩
    cases member
  | cons branch branches inductionHypothesis =>
    cases branches with
    | nil => simp [Expr.ofBranches]
    | cons next branches =>
      rw [List.exists_mem_cons_iff, ← inductionHypothesis]
      exact Iff.rfl

theorem prefix_drop_cons {c : Char} {word : List Char} :
    c :: word <+: text.drop start ↔ text[start]? = some c ∧ word <+: text.drop (start + 1) := by
  rw [← List.head?_drop, ← List.tail_drop]
  cases text.drop start with
  | nil => simp
  | cons first rest =>
    rw [List.cons_prefix_cons, List.head?_cons, List.tail_cons, Option.some_inj, eq_comm]

/-- A word spans itself. -/
theorem spans_wordExpr {word : List Char} :
    (wordExpr word).Spans text start finish ↔
      finish = start + word.length ∧ word <+: text.drop start := by
  induction word generalizing start with
  | nil =>
    change start = finish ↔ finish = start ∧ [] <+: text.drop start
    rw [eq_comm, and_iff_left List.nil_prefix]
  | cons c word inductionHypothesis =>
    rw [prefix_drop_cons, wordExpr, List.map_cons, spans_ofItems_cons]
    constructor
    · rintro ⟨middle, here, rest⟩
      obtain ⟨rfl, first⟩ := spans_ofChar.1 here
      obtain ⟨length, others⟩ := inductionHypothesis.1 rest
      exact ⟨by rw [length, List.length_cons]; omega, first, others⟩
    · rintro ⟨length, first, others⟩
      refine ⟨start + 1, spans_ofChar.2 ⟨rfl, first⟩, inductionHypothesis.2 ⟨?_, others⟩⟩
      rw [length, List.length_cons]
      omega

/-- Words span the whole of a text when it is one of them. -/
theorem spans_wordsExpr {words : List (List Char)} :
    (wordsExpr words).Spans text 0 text.length ↔ text ∈ words := by
  rw [wordsExpr, spans_ofBranches]
  constructor
  · rintro ⟨_, member, spans⟩
    obtain ⟨word, isWord, rfl⟩ := List.mem_map.1 member
    obtain ⟨length, begins⟩ := spans_wordExpr.1 spans
    rw [Nat.zero_add] at length
    rw [List.drop_zero] at begins
    rwa [← begins.eq_of_length length.symm]
  · intro member
    refine ⟨_, List.mem_map_of_mem member, spans_wordExpr.2 ⟨(Nat.zero_add _).symm, ?_⟩⟩
    exact List.prefix_rfl

end Spans

/-! ## Matching words -/

/-- The expression of a text keeps the limit on size. -/
def FitsSize (source : List Char) : Prop :=
  ∀ expr, parse? source = some expr → expr.fits = true

theorem fitsSize_of_compile? {source : List Char} (compiled : (compile? source).isSome) :
    FitsSize source := by
  intro expr parsed
  obtain ⟨term, read, meaning⟩ := Option.bind_eq_some_iff.1 parsed
  exact (keepsLimits_of_compile? compiled term read).2 expr meaning

section Matching

variable {words : List (List Char)} (nonempty : words ≠ []) (plain : ∀ word ∈ words, Plain word)
  (fits : FitsSize (anchored (['|'].intercalate words)))

include nonempty plain

theorem parse?_words : parse? (['|'].intercalate words) = some (wordsExpr words) := by
  rw [parse?, read?_words nonempty plain, Option.bind_some, expr?_wordsTerm nonempty]

include fits

theorem keepsLimits_words : KeepsLimits (anchored (['|'].intercalate words)) := by
  intro term read
  rw [read?_anchored_words nonempty plain, Option.some_inj] at read
  subst read
  refine ⟨(height_anchoredTerm_le (height_wordsTerm_le words)).trans (by decide),
    fun expr meaning => fits expr ?_⟩
  rw [parse?, read?_anchored_words nonempty plain, Option.bind_some, meaning]

/-- **Words between bars match the texts that are one of them.** -/
theorem matchesWhole?_words (text : List Char) :
    matchesWhole? (['|'].intercalate words) text = some (decide (text ∈ words)) := by
  have alone := parse?_words nonempty plain
  have between := (parse?_anchored (not_closesEarly_words nonempty plain)).2
    (not_endsInComment_words nonempty plain)
  have compiled := compile?_of_keepsLimits (keepsLimits_words nonempty plain fits)
  rw [between, alone, Option.map_some] at compiled
  have answered : matchesWhole? (['|'].intercalate words) text =
      some ((anchoredExpr (wordsExpr words)).occursIn text) := by
    rw [matchesWhole?, compiled, Option.map_some]
  rw [answered, Option.some_inj, Bool.eq_iff_iff, decide_eq_true_iff,
    matchesWhole?_spans alone answered, spans_wordsExpr]

end Matching

/-! ## The size of a word -/

section Word

variable {word : List Char} (nonempty : word ≠ []) (ascii : ∀ c ∈ word, c.toNat < 0x80)

theorem ofSet_singleton {c : Char} (ascii : c.toNat < 0x80) :
    Shape.ofSet (CodeSet.singleton c.toNat) = .literal [c] := by
  have each : ∀ point < 0x80,
      ((CodeSet.singleton point).inter CodeSet.scalars).changes = [point, point + 1] := by
    decide
  unfold Shape.ofSet
  simp only [each c.toNat ascii, if_pos, Char.ofNat_toNat]

include nonempty ascii in
/-- The characters of a word are joined to one literal. -/
theorem shape_wordExpr : (wordExpr word).shape = .literal word := by
  induction word with
  | nil => exact absurd rfl nonempty
  | cons c word inductionHypothesis =>
      obtain ⟨asciiHere, asciiRest⟩ := List.forall_mem_cons.mp ascii
      have single : (Expr.ofChar c).shape = .literal [c] := by
        show Shape.ofBranches [Shape.ofSet (CodeSet.singleton c.toNat)] = .literal [c]
        rw [ofSet_singleton asciiHere]
        rfl
      cases word with
      | nil => exact single
      | cons next rest =>
          show Shape.ofBranches [(Expr.ofChar c).shape.append (wordExpr (next :: rest)).shape] =
            .literal (c :: next :: rest)
          rw [single, inductionHypothesis (List.cons_ne_nil next rest) asciiRest]
          rfl

/-- The shape of a literal between the ends of a text. -/
def anchoredShape (word : List Char) : Shape :=
  .concat [.assertion .textStart, .literal word, .assertion .textEnd]

theorem shape_anchoredExpr {expr : Expr} (literal : expr.shape = .literal word) :
    (anchoredExpr expr).shape = anchoredShape word := by
  show Shape.ofBranches [(Shape.assertion .textStart).append
    (Shape.ofBranches [(Shape.ofBranches [expr.shape]).append (.assertion .textEnd)])] = _
  rw [literal]
  rfl

include ascii in
/-- A character of ASCII is one byte. -/
theorem length_literalBytes (direction : Direction) :
    (Plan.literalBytes direction word).length = word.length := by
  have bytes : word.flatMap (fun c => utf8Bytes c.toNat) = word.map Char.toNat := by
    rw [List.map_eq_flatMap]
    apply List.flatMap_congr
    intro c member
    exact if_pos (ascii c member)
  cases direction <;> simp [Plan.literalBytes, bytes]

include ascii in
/-- There is a state for each character and for each end, besides those of every automaton. -/
theorem size_anchored (direction : Direction) :
    (anchoredShape word).size direction ≤ 32 * (word.length + 6) := by
  have length := length_literalBytes ascii direction
  cases direction with
  | forward =>
      have plan : (anchoredShape word).wholePlan .forward =
          .fixed (1 + (1 + ((1 + ((Plan.literalBytes .forward word).length + (1 + 0))) +
            (1 + (1 + 0))))) 0 := rfl
      simp only [Shape.size, plan, Plan.count, Count.bytes]
      omega
  | backward =>
      have plan : (anchoredShape word).wholePlan .backward =
          .fixed (1 + ((1 + ((Plan.literalBytes .backward word).length + (1 + 0))) + (1 + 0))) 0 :=
        rfl
      simp only [Shape.size, plan, Plan.count, Count.bytes]
      omega

variable (plain : Plain word) (short : word.length ≤ 2 ^ 16)

include nonempty ascii plain short

theorem fitsSize_word : FitsSize (anchored word) := by
  intro expr parsed
  have plainWords : ∀ part ∈ [word], Plain part := List.forall_mem_singleton.mpr plain
  have someWord : [word] ≠ [] := List.cons_ne_nil word []
  have notEarly := not_closesEarly_words someWord plainWords
  have open_end := not_endsInComment_words someWord plainWords
  have alone := parse?_words someWord plainWords
  rw [List.intercalate_singleton] at notEarly open_end alone
  rw [(parse?_anchored notEarly).2 open_end, alone, Option.map_some, Option.some_inj] at parsed
  have shape : expr.shape = anchoredShape word := by
    rw [← parsed]
    exact shape_anchoredExpr (shape_wordExpr nonempty ascii)
  have limit : 32 * (2 ^ 16 + 6) ≤ sizeLimit := by decide
  simp only [Expr.fits, shape, Bool.and_eq_true, decide_eq_true_eq]
  constructor
  · have size := size_anchored ascii .forward
    omega
  · have size := size_anchored ascii .backward
    omega

/-- A plain word of ASCII matches itself alone. -/
theorem matchesWhole?_word (text : List Char) :
    matchesWhole? word text = some (decide (text = word)) := by
  have fits : FitsSize (anchored (['|'].intercalate [word])) := by
    rw [List.intercalate_singleton]
    exact fitsSize_word nonempty ascii plain short
  have matched := matchesWhole?_words (List.cons_ne_nil word [])
    (List.forall_mem_singleton.mpr plain) fits text
  simpa only [List.intercalate_singleton, List.mem_singleton] using matched

end Word

/-! ## Lower-casing the pattern -/

theorem ascii_of_mem_metaCharacters {c : Char} (member : c ∈ metaCharacters) :
    c.toNat < 0x80 ∧ ¬ c.isAlpha = true := by
  have all : metaCharacters.all (fun c => decide (c.toNat < 0x80) && !c.isAlpha) = true := by decide
  simpa using List.all_eq_true.1 all c member

theorem plain_lower {word : List Char} (plain : Plain word) : Plain (Unicode.lower word) := by
  intro c member isMeta
  obtain ⟨ascii, noLetter⟩ := ascii_of_mem_metaCharacters isMeta
  exact plain c (Unicode.mem_of_mem_lowerFrom ascii noLetter member) isMeta

/-- A bar ends every word, and is neither small nor capital. -/
theorem lower_words (words : List (List Char)) :
    Unicode.lower (['|'].intercalate words) = ['|'].intercalate (words.map Unicode.lower) :=
  Unicode.lower_separated (by decide) (by decide) (by decide) (by decide) words

end RuleTree.Pattern

namespace RuleTree.Builtin

open Pattern

variable {σ : Type}

theorem lower_pattern (words : List String) :
    Unicode.lower (Value.string ("|".intercalate words)).operandChars =
      ['|'].intercalate ((words.map String.toList).map Unicode.lower) := by
  have letters : (Value.string ("|".intercalate words)).operandChars =
      ['|'].intercalate (words.map String.toList) := String.toList_intercalate
  rw [letters, lower_words]

/-- **Matching words between bars asks whether a text is one of them, up to case.** -/
theorem wholeMatch_words {words : List String} (nonempty : words ≠ [])
    (plain : ∀ word ∈ words, Plain word.toList)
    (fits : FitsSize (anchored (Unicode.lower (Value.string ("|".intercalate words)).operandChars)))
    (value : Value) (context : σ) :
    wholeMatch [value, .string ("|".intercalate words)] context =
      (.ok (.boolean (decide (Unicode.lower value.operandChars ∈
        words.map fun word => Unicode.lower word.toList))), context) := by
  have lowered : (words.map String.toList).map Unicode.lower =
      words.map fun word => Unicode.lower word.toList := by
    rw [List.map_map]
    rfl
  rw [lower_pattern, lowered] at fits
  have plainLowered : ∀ word ∈ words.map fun word => Unicode.lower word.toList, Plain word := by
    intro word member
    obtain ⟨original, isWord, rfl⟩ := List.mem_map.1 member
    exact plain_lower (plain original isWord)
  have some_words : (words.map fun word => Unicode.lower word.toList) ≠ [] := by
    rwa [ne_eq, List.map_eq_nil_iff]
  have matched :=
    matchesWhole?_words some_words plainLowered fits (Unicode.lower value.operandChars)
  rw [wholeMatch, matchesPattern, lower_pattern, lowered]
  simp only [matched]
  rfl

/-- The letter before the bar ends its word, though a cased letter stands behind the bar, so it
has the lower-case form that it has at the end of the value. -/
theorem wholeMatch_words_sigma :
    ["AΣ", "B", ""] ≠ [] ∧ (∀ word ∈ ["AΣ", "B", ""], Plain word.toList) ∧
      FitsSize (anchored (Unicode.lower
        (Value.string ("|".intercalate ["AΣ", "B", ""])).operandChars)) ∧
      wholeMatch [.string "aς", .string ("|".intercalate ["AΣ", "B", ""])] () =
        (.ok (.boolean true), ()) := by
  have nonempty : ["AΣ", "B", ""] ≠ [] := List.cons_ne_nil _ _
  have plain : ∀ word ∈ ["AΣ", "B", ""], Plain word.toList := by
    simp [Plain, metaCharacters]
  have fits : FitsSize (anchored (Unicode.lower
      (Value.string ("|".intercalate ["AΣ", "B", ""])).operandChars)) :=
    fitsSize_of_compile? (by decide +kernel)
  have member : Unicode.lower (Value.string "aς").operandChars ∈
      ["AΣ", "B", ""].map fun word => Unicode.lower word.toList := by
    decide +kernel
  have answer := wholeMatch_words nonempty plain fits (.string "aς") ()
  rw [decide_eq_true member] at answer
  exact ⟨nonempty, plain, fits, answer⟩

/-! ## The word for true -/

theorem matchesWhole?_true (text : List Char) :
    matchesWhole? "true".toList text = some (decide (text = "true".toList)) := by
  have plain : Plain "true".toList := by
    simp [Plain, metaCharacters]
  have ascii : ∀ c ∈ "true".toList, c.toNat < 0x80 :=
    fun letter member => (Value.letters_of_true letter member).2.1
  exact matchesWhole?_word (List.cons_ne_nil _ _) ascii plain (by decide) text

theorem wholeMatch_true (value : Value) (context : σ) :
    wholeMatch [value, .string "true"] context = (.ok (.boolean value.readsTrue), context) := by
  have pattern : Unicode.lower (Value.string "true").operandChars = "true".toList := by
    rw [Value.lower_eq_true_iff]
    decide
  have answer : decide (Unicode.lower value.operandChars = "true".toList) = value.readsTrue := by
    rw [Bool.eq_iff_iff, decide_eq_true_iff, Value.lower_eq_true_iff, Value.readsTrue_iff]
  rw [wholeMatch, matchesPattern, pattern]
  simp only [matchesWhole?_true, answer]
  rfl

/-- **To ask whether a value is true is to match it with the word.** Only the boolean and the
word in some case of its letters pass. -/
theorem isTrue_agrees_wholeMatch (value : Value) (context : σ) :
    ∃ answer, isTrue [value] context = (.ok (.boolean answer), context) ∧
      wholeMatch [value, .string "true"] context = (.ok (.boolean answer), context) ∧
      (answer = true ↔ value.MeansTrue) ∧
      (answer = true → ∀ c ∈ value.operandChars, c.toNat < 0x80) := by
  refine ⟨value.readsTrue, rfl, wholeMatch_true value context, value.readsTrue_iff, ?_⟩
  intro passes
  exact Value.ascii_of_meansTrue (value.readsTrue_iff.1 passes)

end RuleTree.Builtin
