import RuleTree.Pattern.Reader.Spacing

/-!
Contract: what becomes of a reading when a closing parenthesis is put behind the text.

A reader takes an item from the front of a text. With a parenthesis and more text behind it,
it either stays before the parenthesis and takes the same item (`Goes.stays`), or it passes
the parenthesis (`Goes.passes`). It passes in two ways: inside of a comment that has no end
in the text, which swallows the parenthesis, or as it takes the parenthesis for a part of an
item that was not complete. Readers made of such readers are such readers again, so each
reader is treated in the shape of its definition.

Owns: the two ways, and how readers are put together. Does not own: the readers of items.
-/

namespace RuleTree.Pattern

/-- A reader takes an item from the front of a text and gives the rest. -/
abbrev Reader (Item : Type) := List Char → Option (Item × List Char)

/-- What a reader does with a text when a closing parenthesis and more is put behind. -/
inductive Goes {Item : Type} (read : Reader Item) (source : List Char) : Prop
  /-- It takes its item from before the parenthesis. -/
  | stays (item : Item) (rest : List Char) (alone : read source = some (item, rest))
      (before : ∀ more, read (source ++ ')' :: more) = some (item, rest ++ ')' :: more))
  /-- It takes the parenthesis as well: in a comment if the text alone holds an item. -/
  | passes
      (through : ∀ item rest, read source = some (item, rest) →
        rest = [] ∧ ∀ more, '\n' ∉ more → read (source ++ ')' :: more) = some (item, []))
      (beyond : ∀ more item rest, read (source ++ ')' :: more) = some (item, rest) →
        rest <:+ more)

/-- What a reader leaves is the end of the text. -/
def Shrinks {Item : Type} (read : Reader Item) : Prop :=
  ∀ source item rest, read source = some (item, rest) → rest <:+ source

/-- A reader that, with a parenthesis behind any text, stays before it or passes it. -/
structure Local {Item : Type} (read : Reader Item) : Prop where
  shrinks : Shrinks read
  goes : ∀ source, Goes read source

section Readers

variable {Item Other : Type} {read : Reader Item} {source : List Char}

/-! ## One text -/

/-- A reader goes as another one does that takes the same from a text that goes on alike. -/
theorem Goes.congr {other : Reader Item} {start : List Char} (goes : Goes other start)
    (alone : read source = other start)
    (behind : ∀ more, read (source ++ ')' :: more) = other (start ++ ')' :: more)) :
    Goes read source := by
  cases goes with
  | stays item rest taken before =>
      exact .stays item rest (alone.trans taken) fun more => (behind more).trans (before more)
  | passes through beyond =>
      refine .passes (fun item rest taken => ?_) fun more item rest taken => ?_
      · obtain ⟨nothing, covered⟩ := through item rest (alone ▸ taken)
        exact ⟨nothing, fun more line => (behind more).trans (covered more line)⟩
      · exact beyond more item rest (behind more ▸ taken)

/-- A text of which nothing is taken alone. -/
theorem Goes.of_none (alone : read source = none)
    (beyond : ∀ more item rest,
      read (source ++ ')' :: more) = some (item, rest) → rest <:+ more) :
    Goes read source :=
  .passes (fun _ _ taken => nomatch alone.symm.trans taken) beyond

/-- A text of which nothing is taken, whatever stands behind. -/
theorem Goes.fails (alone : read source = none)
    (behind : ∀ more, read (source ++ ')' :: more) = none) : Goes read source :=
  .of_none alone fun more _ _ taken => nomatch (behind more).symm.trans taken

theorem Goes.bind {next : Item → Reader Other} (goes : Goes read source)
    (nextShrinks : ∀ item, Shrinks (next item))
    (nextGoes : ∀ item rest, read source = some (item, rest) → Goes (next item) rest) :
    Goes (fun source => (read source).bind fun taken => next taken.1 taken.2) source := by
  cases goes with
  | stays item rest alone before =>
      refine (nextGoes item rest alone).congr ?_ fun more => ?_
      · rw [alone, Option.bind_some]
      · rw [before, Option.bind_some]
  | passes through beyond =>
      refine .passes (fun _ _ taken => ?_) fun more _ _ taken => ?_
      · obtain ⟨⟨item, rest⟩, first, second⟩ := Option.bind_eq_some_iff.mp taken
        obtain ⟨rfl, covered⟩ := through item rest first
        obtain rfl := List.suffix_nil.mp (nextShrinks item _ _ _ second)
        exact ⟨rfl, fun more line => by rw [covered more line]; exact second⟩
      · obtain ⟨⟨item, rest⟩, first, second⟩ := Option.bind_eq_some_iff.mp taken
        exact (nextShrinks item _ _ _ second).trans (beyond more item rest first)

theorem Shrinks.bind {next : Item → Reader Other} (shrinks : Shrinks read)
    (nextShrinks : ∀ item, Shrinks (next item)) :
    Shrinks fun source => (read source).bind fun taken => next taken.1 taken.2 := by
  intro source _ _ taken
  obtain ⟨⟨item, rest⟩, first, second⟩ := Option.bind_eq_some_iff.mp taken
  exact (nextShrinks item _ _ _ second).trans (shrinks _ _ _ first)

/-! ## All texts -/

theorem Local.of_eq {other : Reader Item} (otherLocal : Local other)
    (same : ∀ source, read source = other source) : Local read :=
  funext same ▸ otherLocal

theorem Local.nothing : Local (fun _ => none : Reader Item) where
  shrinks := nofun
  goes := fun _ => .fails rfl fun _ => rfl

/-- Taking an item from no characters. -/
theorem Local.pure (item : Item) : Local fun source => some (item, source) where
  shrinks := by
    rintro source _ _ ⟨⟩
    exact List.suffix_refl source
  goes := fun source => .stays item source rfl fun _ => rfl

theorem Local.bind {next : Item → Reader Other} (first : Local read)
    (nextLocal : ∀ item, Local (next item)) :
    Local fun source => (read source).bind fun taken => next taken.1 taken.2 where
  shrinks := first.shrinks.bind fun item => (nextLocal item).shrinks
  goes := fun source => (first.goes source).bind (fun item => (nextLocal item).shrinks)
    fun item rest _ => (nextLocal item).goes rest

theorem Goes.map (goes : Goes read source) (f : Item → Other) :
    Goes (fun source => (read source).map fun taken => (f taken.1, taken.2)) source := by
  simp only [Option.map_eq_bind]
  exact goes.bind (fun item => (Local.pure (f item)).shrinks)
    fun item rest _ => (Local.pure (f item)).goes rest

theorem Local.map (first : Local read) (f : Item → Other) :
    Local fun source => (read source).map fun taken => (f taken.1, taken.2) := by
  simp only [Option.map_eq_bind]
  exact first.bind fun item => Local.pure (f item)

/-- Reading one way or the other, not by the text. -/
theorem Local.ite {condition : Prop} [Decidable condition] {other : Reader Item}
    (holds : condition → Local read) (fails : ¬condition → Local other) :
    Local fun source => if condition then read source else other source := by
  by_cases chosen : condition
  · simp only [if_pos chosen]
    exact holds chosen
  · simp only [if_neg chosen]
    exact fails chosen

/-- Reading by the first character. There has to be one. -/
theorem Local.byFirst {next : Char → Reader Item} (nextLocal : ∀ c, Local (next c))
    (nil : read [] = none) (cons : ∀ c rest, read (c :: rest) = next c rest) : Local read where
  shrinks := by
    intro source item rest taken
    cases source with
    | nil => exact nomatch nil.symm.trans taken
    | cons c source =>
        rw [cons] at taken
        exact ((nextLocal c).shrinks _ _ _ taken).trans (List.suffix_cons c source)
  goes := by
    intro source
    cases source with
    | nil =>
        refine .of_none nil fun more item rest taken => ?_
        exact (nextLocal ')').shrinks _ _ _ ((cons _ _).symm.trans taken)
    | cons c source =>
        exact ((nextLocal c).goes source).congr (cons c source) fun more => cons c _

/-- Reading one way behind a mark, and another way where the mark does not stand. -/
def atMark (mark : Char) (marked other : Reader Item) : Reader Item
  | [] => other []
  | c :: rest => if c = mark then marked rest else other (c :: rest)

theorem Shrinks.atMark {mark : Char} {marked other : Reader Item} (markedShrinks : Shrinks marked)
    (otherShrinks : Shrinks other) : Shrinks (atMark mark marked other) := by
  intro source item rest taken
  cases source with
  | nil => exact otherShrinks _ _ _ taken
  | cons c source =>
      change (if c = mark then marked source else other (c :: source)) = _ at taken
      split at taken
      · exact (markedShrinks _ _ _ taken).trans (List.suffix_cons c source)
      · exact otherShrinks _ _ _ taken

theorem Local.atMark {mark : Char} {marked other : Reader Item} (isOther : mark ≠ ')')
    (markedLocal : Local marked) (otherLocal : Local other) :
    Local (atMark mark marked other) where
  shrinks := markedLocal.shrinks.atMark otherLocal.shrinks
  goes := by
    intro source
    cases source with
    | nil => exact (otherLocal.goes []).congr rfl fun _ => if_neg isOther.symm
    | cons c source =>
        by_cases same : c = mark
        · exact (markedLocal.goes source).congr (if_pos same) fun _ => if_pos same
        · exact (otherLocal.goes (c :: source)).congr (if_neg same) fun _ => if_neg same

end Readers

/-! ## Spacing -/

theorem isSpace_close : isSpace ')' = false := by decide +kernel

/-- Skipping, as a reader. -/
def skipping (verbose : Bool) : Reader Unit :=
  fun source => some ((), skip verbose source)

theorem skipFrom_suffix (inComment : Bool) (source : List Char) :
    skipFrom inComment source <:+ source := by
  induction source generalizing inComment with
  | nil => exact List.suffix_refl []
  | cons c rest inductionHypothesis =>
      unfold skipFrom
      split
      · exact (inductionHypothesis _).trans (List.suffix_cons c rest)
      · split
        · exact (inductionHypothesis _).trans (List.suffix_cons c rest)
        · split
          · exact (inductionHypothesis _).trans (List.suffix_cons c rest)
          · exact List.suffix_refl _

theorem skip_suffix (verbose : Bool) (source : List Char) : skip verbose source <:+ source := by
  cases verbose with
  | false => exact List.suffix_refl source
  | true => exact skipFrom_suffix false source

/-- What is skipped is skipped by itself, and the same whatever follows the first character
that is not. -/
theorem skipFrom_split {inComment : Bool} {source rest : List Char} {c : Char}
    (skipped : skipFrom inComment source = c :: rest) :
    ∃ before, source = before ++ c :: rest ∧ skipFrom inComment before = [] ∧
      ∀ other, skipFrom inComment (before ++ c :: other) = c :: other := by
  induction source generalizing inComment with
  | nil => cases skipped
  | cons d source inductionHypothesis =>
      by_cases kept : inComment = false ∧ isSpace d = false ∧ d ≠ '#'
      · obtain ⟨rfl, visible, noComment⟩ := kept
        obtain ⟨rfl, rfl⟩ : d = c ∧ source = rest := by
          simpa [skipFrom, visible, noComment] using skipped
        refine ⟨[], rfl, rfl, fun other => ?_⟩
        simp [skipFrom, visible, noComment]
      · obtain ⟨within, step⟩ : ∃ within, ∀ tail,
            skipFrom inComment (d :: tail) = skipFrom within tail := by
          cases inComment with
          | true => exact ⟨d != '\n', fun tail => rfl⟩
          | false =>
              by_cases space : isSpace d = true
              · exact ⟨false, fun tail => by simp [skipFrom, space]⟩
              · obtain rfl : d = '#' := by simpa [space] using kept
                exact ⟨true, fun tail => by simp [skipFrom, space]⟩
        obtain ⟨before, rfl, nothing, same⟩ :=
          inductionHypothesis ((step source).symm.trans skipped)
        exact ⟨d :: before, rfl, (step before).trans nothing,
          fun other => (step _).trans (same other)⟩

theorem skip_close (verbose : Bool) (more : List Char) :
    skip verbose (')' :: more) = ')' :: more := by
  cases verbose <;> simp [skip, skipFrom, isSpace_close]

theorem skip_split {verbose : Bool} {source rest : List Char} {c : Char}
    (skipped : skip verbose source = c :: rest) :
    ∃ before, source = before ++ c :: rest ∧ skip verbose before = [] ∧
      ∀ other, skip verbose (before ++ c :: other) = c :: other := by
  cases verbose with
  | false => exact ⟨[], skipped, rfl, fun _ => rfl⟩
  | true => exact skipFrom_split skipped

/-- A comment goes on where no line ends. -/
theorem skipFrom_comment {source : List Char} (line : '\n' ∉ source) :
    skipFrom true source = [] := by
  induction source with
  | nil => rfl
  | cons c rest inductionHypothesis =>
      obtain ⟨other, line⟩ := not_or.mp (mt List.mem_cons.mpr line)
      have goesOn : (c != '\n') = true := bne_iff_ne.mpr (Ne.symm other)
      rw [skipFrom, if_pos rfl, goesOn]
      exact inductionHypothesis line

theorem skipFrom_goes (inComment : Bool) (source : List Char) :
    Goes (fun source => some ((), skipFrom inComment source)) source := by
  induction source generalizing inComment with
  | nil =>
      cases inComment with
      | false => exact .stays () [] rfl fun more => by simp [skipFrom, isSpace_close]
      | true =>
          refine .passes (fun item rest taken => ?_) fun more item rest taken => ?_
          · cases taken
            refine ⟨rfl, fun more line => ?_⟩
            rw [skipFrom_comment]
            simpa using line
          · cases taken
            exact skipFrom_suffix _ more
  | cons c rest inductionHypothesis =>
      cases inComment with
      | true => exact (inductionHypothesis (c != '\n')).congr rfl fun _ => rfl
      | false =>
          by_cases space : isSpace c = true
          · exact (inductionHypothesis false).congr (by simp [skipFrom, space])
              fun more => by simp [skipFrom, space]
          · by_cases mark : c = '#'
            · subst mark
              exact (inductionHypothesis true).congr (by simp [skipFrom, space])
                fun more => by simp [skipFrom, space]
            · exact .stays () (c :: rest) (by simp [skipFrom, space, mark])
                fun more => by simp [skipFrom, space, mark]

theorem skipping_local (verbose : Bool) : Local (skipping verbose) where
  shrinks := by
    rintro source _ _ ⟨⟩
    exact skip_suffix verbose source
  goes := by
    intro source
    cases verbose with
    | false => exact (Local.pure ()).goes source
    | true => exact skipFrom_goes false source

/-- Behind what is skipped whole, the parenthesis is what is left, or it is in a comment. -/
theorem skip_blank {verbose : Bool} {blank : List Char} (nothing : skip verbose blank = [])
    {more : List Char} (line : '\n' ∉ more) :
    skip verbose (blank ++ ')' :: more) = ')' :: more ∨
      skip verbose (blank ++ ')' :: more) = [] := by
  cases (skipping_local verbose).goes blank with
  | stays _ rest alone before =>
      obtain rfl : [] = rest := nothing.symm.trans (congrArg Prod.snd (Option.some.inj alone))
      exact .inl (congrArg Prod.snd (Option.some.inj (before more)))
  | passes through _ =>
      obtain ⟨-, covered⟩ := through () _ rfl
      exact .inr (congrArg Prod.snd (Option.some.inj (covered more line)))

/-- Reading what is left after skipping. -/
theorem Local.afterSkip {Item : Type} {read : Reader Item} (next : Local read) (verbose : Bool) :
    Local fun source => read (skip verbose source) :=
  (skipping_local verbose).bind fun _ => next

/-- Skipping after an item. -/
theorem Local.thenSkip {Item : Type} (item : Item) (verbose : Bool) :
    Local fun source => some (item, skip verbose source) :=
  (Local.pure item).afterSkip verbose

theorem dropSpaces_append (source more : List Char) :
    (source ++ ')' :: more).dropWhile isSpace = source.dropWhile isSpace ++ ')' :: more := by
  rw [List.dropWhile_append]
  split
  · next nothing => rw [List.isEmpty_iff.mp nothing, List.dropWhile_cons, isSpace_close]; rfl
  · rfl

/-- Reading what is left after white space. -/
theorem Local.afterSpaces {Item : Type} {read : Reader Item} (next : Local read) :
    Local fun source => read (source.dropWhile isSpace) where
  shrinks := fun _ _ _ taken => (next.shrinks _ _ _ taken).trans (List.dropWhile_suffix _)
  goes := fun source => (next.goes (source.dropWhile isSpace)).congr rfl fun more =>
    congrArg read (dropSpaces_append source more)

/-! ## Runs of characters -/

section Runs

variable {verbose : Bool} {keep : Char → Bool}

theorem spanSkipping_suffix (inComment : Bool) (taken source : List Char) :
    (spanSkipping verbose keep inComment taken source).2 <:+ source := by
  induction source generalizing inComment taken with
  | nil => exact List.suffix_refl []
  | cons c rest inductionHypothesis =>
      unfold spanSkipping
      split
      · exact (inductionHypothesis _ _).trans (List.suffix_cons c rest)
      · split
        · exact (inductionHypothesis _ _).trans (List.suffix_cons c rest)
        · split
          · exact (inductionHypothesis _ _).trans (List.suffix_cons c rest)
          · split
            · exact (inductionHypothesis _ _).trans (List.suffix_cons c rest)
            · exact List.suffix_refl _

theorem spanSkipping_comment {source : List Char} (line : '\n' ∉ source) (taken : List Char) :
    spanSkipping verbose keep true taken source = (taken.reverse, []) := by
  induction source with
  | nil => rfl
  | cons c rest inductionHypothesis =>
      obtain ⟨other, line⟩ := not_or.mp (mt List.mem_cons.mpr line)
      have goesOn : (c != '\n') = true := bne_iff_ne.mpr (Ne.symm other)
      rw [spanSkipping, if_pos rfl, goesOn]
      exact inductionHypothesis line

/-- A run of characters other than the parenthesis. -/
theorem spanSkipping_local (drops : keep ')' = false) (inComment : Bool) (taken : List Char) :
    Local fun source => some (spanSkipping verbose keep inComment taken source) where
  shrinks := by
    intro source item rest read
    have suffix : (spanSkipping verbose keep inComment taken source).2 <:+ source :=
      spanSkipping_suffix inComment taken source
    rwa [Option.some.inj read] at suffix
  goes := by
    intro source
    induction source generalizing inComment taken with
    | nil =>
        cases inComment with
        | false =>
            exact .stays taken.reverse [] rfl
              fun more => by simp [spanSkipping, drops, isSpace_close]
        | true =>
            refine .passes (fun item rest read => ?_) fun more item rest read => ?_
            · cases read
              refine ⟨rfl, fun more line => ?_⟩
              rw [spanSkipping_comment]
              simpa using line
            · have suffix : (spanSkipping verbose keep true taken more).2 <:+ more :=
                spanSkipping_suffix true taken more
              rwa [show spanSkipping verbose keep true taken more = (item, rest) from
                Option.some.inj read] at suffix
    | cons c rest inductionHypothesis =>
        cases inComment with
        | true => exact (inductionHypothesis (c != '\n') taken).congr rfl fun _ => rfl
        | false =>
            by_cases kept : keep c = true
            · exact (inductionHypothesis false (c :: taken)).congr (by simp [spanSkipping, kept])
                fun more => by simp [spanSkipping, kept]
            by_cases space : (verbose && !taken.isEmpty && isSpace c) = true
            · exact (inductionHypothesis false taken).congr (by simp [spanSkipping, kept, space])
                fun more => by simp [spanSkipping, kept, space]
            by_cases mark : (verbose && !taken.isEmpty && c == '#') = true
            · exact (inductionHypothesis true taken).congr
                (by simp [spanSkipping, kept, space, mark])
                fun more => by simp [spanSkipping, kept, space, mark]
            · exact .stays taken.reverse (c :: rest) (by simp [spanSkipping, kept, space, mark])
                fun more => by simp [spanSkipping, kept, space, mark]

theorem untilBrace?_shrinks (inComment : Bool) (taken : List Char) :
    Shrinks (untilBrace? verbose inComment taken) := by
  intro source item left read
  induction source generalizing inComment taken with
  | nil => cases read
  | cons c rest inductionHypothesis =>
      unfold untilBrace? at read
      split at read
      · exact (inductionHypothesis _ _ read).trans (List.suffix_cons c rest)
      · split at read
        · exact (inductionHypothesis _ _ read).trans (List.suffix_cons c rest)
        · split at read
          · exact (inductionHypothesis _ _ read).trans (List.suffix_cons c rest)
          · split at read
            · cases read
              exact List.suffix_cons c left
            · exact (inductionHypothesis _ _ read).trans (List.suffix_cons c rest)

/-- Where no closing brace comes, the text alone is not enough. -/
theorem untilBrace?_local (verbose : Bool) (inComment : Bool) (taken : List Char) :
    Local (untilBrace? verbose inComment taken) where
  shrinks := untilBrace?_shrinks inComment taken
  goes := by
    intro source
    induction source generalizing inComment taken with
    | nil =>
        refine .of_none rfl fun more item rest read => ?_
        have shorter : ∀ inComment taken, Shrinks (untilBrace? verbose inComment taken) :=
          untilBrace?_shrinks
        rw [List.nil_append, untilBrace?] at read
        split at read
        · exact shorter _ _ _ _ _ read
        · split at read
          · exact shorter _ _ _ _ _ read
          · split at read
            · exact shorter _ _ _ _ _ read
            · exact shorter _ _ _ _ _ read
    | cons c rest inductionHypothesis =>
        cases inComment with
        | true => exact (inductionHypothesis (c != '\n') taken).congr rfl fun _ => rfl
        | false =>
            by_cases space : (verbose && isSpace c) = true
            · exact (inductionHypothesis false taken).congr (by simp [untilBrace?, space])
                fun more => by simp [untilBrace?, space]
            by_cases mark : (verbose && c == '#') = true
            · exact (inductionHypothesis true taken).congr (by simp [untilBrace?, space, mark])
                fun more => by simp [untilBrace?, space, mark]
            by_cases brace : c = '\x7d'
            · subst brace
              exact .stays taken.reverse rest (by simp [untilBrace?, space])
                fun more => by simp [untilBrace?, space]
            · exact (inductionHypothesis false (c :: taken)).congr
                (by simp [untilBrace?, space, mark, brace])
                fun more => by simp [untilBrace?, space, mark, brace]

end Runs

end RuleTree.Pattern
