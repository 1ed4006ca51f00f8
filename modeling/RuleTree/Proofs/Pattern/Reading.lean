import RuleTree.Proofs.Pattern.Bracket

/-!
Contract: reading a whole text with a closing parenthesis behind it, inside of a group.

Every step of the reader stays before the parenthesis or passes it, as the readers of items
do; the group around it changes no step but the one that closes it (`Embeds`). So a text
inside of a group either is read as it is alone, or ends in a comment that swallows the
parenthesis, or closes the group by a parenthesis of its own, or is no regular expression
inside of the group either (`Reads`).

Owns: the four ways to read a text inside of a group. Does not own: the terms that come of it.
-/

namespace RuleTree.Pattern

/-! ## Steps -/

theorem escape?_shrinks (verbose : Bool) : Shrinks (escape? verbose) := by
  intro source atom left read
  cases source with
  | nil => cases read
  | cons c rest =>
      refine .trans ?_ (List.suffix_cons c rest)
      by_cases boundary : c = 'b'
      · subst boundary
        obtain ⟨⟨sign, _⟩, named, same⟩ := Option.map_eq_some_iff.mp read
        obtain ⟨-, rfl⟩ := Prod.mk.inj same
        exact boundary?_shrinks verbose _ _ _ named
      · exact (escape?_local verbose boundary).shrinks _ _ _ read

/-- A word boundary that is not settled, behind its backslash. -/
def UnsettledEscape (verbose : Bool) (source : List Char) : Prop :=
  ∃ blank, source = 'b' :: '\x7b' :: blank ∧ skip verbose blank = []

theorem escape?_goes {verbose : Bool} {source : List Char}
    (settled : ¬UnsettledEscape verbose source) : Goes (escape? verbose) source := by
  cases source with
  | nil =>
      refine .of_none rfl fun more atom left read => ?_
      exact (escape?_local verbose (c := ')') (by decide)).shrinks _ _ _ read
  | cons c rest =>
      by_cases boundary : c = 'b'
      · subst boundary
        have settled : ¬Unsettled verbose rest := fun ⟨blank, same, nothing⟩ =>
          settled ⟨blank, same ▸ rfl, nothing⟩
        exact ((boundary?_goes settled).map Atom.assertion).congr rfl fun _ => rfl
      · exact ((escape?_local verbose boundary).goes rest).congr rfl fun _ => rfl

/-- Repeat the item read last, as a reader of no characters. -/
def repeatBy (state : ReaderState) (bounds : Bounds) : Reader ReaderState := fun rest =>
  (state.repeatLast? bounds.1 bounds.2.1 bounds.2.2).map (·, rest)

theorem repeatBy_local (state : ReaderState) (bounds : Bounds) : Local (repeatBy state bounds) := by
  unfold repeatBy
  cases state.repeatLast? bounds.1 bounds.2.1 bounds.2.2 with
  | none => exact .nothing
  | some state => exact .pure state

/-- What a step does in every state, by the character that it starts with. -/
inductive StepBy (c : Char) : Prop
  | opens (same : ∀ state, step? state c = openGroup? state)
  | closes (closing : c = ')')
  | branches (same : ∀ state rest,
      step? state c rest = some ({ state with inner := state.inner.branch }, rest))
  | bracket (same : ∀ state rest, step? state c rest =
      (class? state.verbose rest).map fun taken => (state.add taken.1, taken.2))
  | repeats (least : Nat) (most : Option Nat) (ordered : ∀ bound, most = some bound → least ≤ bound)
      (same : ∀ state rest, step? state c rest = state.repeated? (.ofBounds least most rest))
  | counted (same : ∀ state rest, step? state c rest =
      (counts? state.verbose rest).bind state.repeated?)
  | escapes (slash : c = '\\')
  | item (atom : Atom)
      (same : ∀ state rest, step? state c rest = some (state.add (.atom atom), rest))

theorem stepBy (c : Char) : StepBy c := by
  by_cases opening : c = '('
  · exact .opens fun state => by subst opening; rfl
  by_cases closing : c = ')'
  · exact .closes closing
  by_cases bar : c = '|'
  · exact .branches fun state rest => by subst bar; rfl
  by_cases bracket : c = '['
  · exact .bracket fun state rest => by subst bracket; rfl
  by_cases question : c = '?'
  · exact .repeats 0 (some 1) (fun bound _ => Nat.zero_le bound)
      fun state rest => by subst question; rfl
  by_cases star : c = '*'
  · exact .repeats 0 none nofun fun state rest => by subst star; rfl
  by_cases plus : c = '+'
  · exact .repeats 1 none nofun fun state rest => by subst plus; rfl
  by_cases brace : c = '\x7b'
  · exact .counted fun state rest => by subst brace; rfl
  by_cases slash : c = '\\'
  · exact .escapes slash
  by_cases dot : c = '.'
  · exact .item .dot fun state rest => by subst dot; rfl
  by_cases caret : c = '^'
  · exact .item (.assertion .lineStart) fun state rest => by subst caret; rfl
  by_cases dollar : c = '$'
  · exact .item (.assertion .lineEnd) fun state rest => by subst dollar; rfl
  · exact .item (.literal ⟨c, false⟩) fun state rest => by simp [step?]

/-- A step other than an escape. -/
theorem step?_local (state : ReaderState) {c : Char} (plain : c ≠ '\\') :
    Local (step? state c) := by
  cases stepBy c with
  | opens same =>
      rw [same]
      exact openGroup?_local state
  | closes closing =>
      subst closing
      have closed : Local fun rest => state.closeGroup?.map fun state => (state, rest) := by
        cases state.closeGroup? with
        | none => exact .nothing
        | some state => exact .pure state
      exact closed
  | branches same => exact (Local.pure _).of_eq (same state)
  | bracket same => exact ((class?_local state.verbose).map state.add).of_eq (same state)
  | repeats least most _ same =>
      exact ((ofBounds_local least most).bind (repeatBy_local state)).of_eq (same state)
  | counted same =>
      refine ((boundsTo?_local state.verbose).bind (repeatBy_local state)).of_eq fun rest => ?_
      rw [same, ← counts?_eq, Option.bind_map]
      rfl
  | escapes slash => exact absurd slash plain
  | item atom same => exact (Local.pure _).of_eq (same state)

theorem step?_escape (state : ReaderState) (rest : List Char) :
    step? state '\\' rest =
      (escape? state.verbose rest).map fun taken => (state.add (.atom taken.1), taken.2) := rfl

theorem step?_shrinks (state : ReaderState) (c : Char) : Shrinks (step? state c) := by
  by_cases slash : c = '\\'
  · subst slash
    intro source _ left read
    obtain ⟨⟨atom, _⟩, escape, same⟩ := Option.map_eq_some_iff.mp read
    obtain ⟨-, rfl⟩ := Prod.mk.inj same
    exact escape?_shrinks state.verbose _ _ _ escape
  · exact (step?_local state slash).shrinks

/-- A step goes on by itself, but for a boundary that is not settled. -/
theorem step?_goes (state : ReaderState) (c : Char) (source : List Char) :
    Goes (step? state c) source ∨ c = '\\' ∧ UnsettledEscape state.verbose source := by
  by_cases slash : c = '\\'
  · subst slash
    by_cases unsettled : UnsettledEscape state.verbose source
    · exact .inr ⟨rfl, unsettled⟩
    · exact .inl ((escape?_goes unsettled).map fun atom => state.add (.atom atom))
  · exact .inl ((step?_local state slash).goes source)

/-! ## Reading to the end -/

theorem readFrom?_end {state : ReaderState} {source : List Char}
    (nothing : skip state.verbose source = []) (steps : Nat) :
    readFrom? steps state source = some state := by
  unfold readFrom?
  rw [nothing]

theorem readFrom?_step {state : ReaderState} {source rest : List Char} {c : Char}
    (skipped : skip state.verbose source = c :: rest) (steps : Nat) :
    readFrom? (steps + 1) state source =
      (step? state c rest).bind fun taken => readFrom? steps taken.1 taken.2 := by
  conv =>
    lhs
    unfold readFrom?
  rw [skipped]
  cases taken : step? state c rest <;> simp [taken]

theorem length_of_skip {verbose : Bool} {source rest : List Char} {c : Char}
    (skipped : skip verbose source = c :: rest) : rest.length < source.length := by
  have shorter := (skip_suffix verbose source).length_le
  rwa [skipped, List.length_cons] at shorter

theorem readFrom?_steps {state : ReaderState} {first second : Nat} {source : List Char}
    (enough : source.length ≤ first) (also : source.length ≤ second) :
    readFrom? first state source = readFrom? second state source := by
  induction first generalizing second state source with
  | zero =>
      obtain rfl := List.length_eq_zero_iff.mp (Nat.le_zero.mp enough)
      have nothing : skip state.verbose [] = [] := List.suffix_nil.mp (skip_suffix _ _)
      rw [readFrom?_end nothing, readFrom?_end nothing]
  | succ first inductionHypothesis =>
      cases skipped : skip state.verbose source with
      | nil => rw [readFrom?_end skipped, readFrom?_end skipped]
      | cons c rest =>
          have shorter := length_of_skip skipped
          obtain ⟨second, rfl⟩ := Nat.exists_eq_succ_of_ne_zero (n := second) (by omega)
          rw [readFrom?_step skipped, readFrom?_step skipped]
          refine Option.bind_congr fun taken step => ?_
          have left := (step?_shrinks state c _ _ _ step).length_le
          exact inductionHypothesis (by omega) (by omega)

/-- Reading a text to its end, with steps enough. -/
def readOn? (state : ReaderState) (source : List Char) : Option ReaderState :=
  readFrom? source.length state source

theorem read?_eq (source : List Char) :
    read? source = (readOn? .start source).bind ReaderState.finish? := rfl

theorem readOn?_end {state : ReaderState} {source : List Char}
    (nothing : skip state.verbose source = []) : readOn? state source = some state :=
  readFrom?_end nothing _

theorem readOn?_nil (state : ReaderState) : readOn? state [] = some state :=
  readOn?_end (List.suffix_nil.mp (skip_suffix _ _))

theorem readOn?_step {state : ReaderState} {source rest : List Char} {c : Char}
    (skipped : skip state.verbose source = c :: rest) :
    readOn? state source = (step? state c rest).bind fun taken => readOn? taken.1 taken.2 := by
  have shorter := length_of_skip skipped
  obtain ⟨steps, length⟩ := Nat.exists_eq_succ_of_ne_zero (n := source.length) (by omega)
  rw [readOn?, length, readFrom?_step skipped]
  refine Option.bind_congr fun taken step => readFrom?_steps ?_ (Nat.le_refl _)
  have left := (step?_shrinks state c _ _ _ step).length_le
  omega

/-! ## Groups around -/

/-- The open groups with one more group around them. -/
def enclosed (frame : OpenGroup) : OpenGroup → List OpenGroup → OpenGroup × List OpenGroup
  | inner, [] => ({ inner with sign := .flags [] }, [frame])
  | inner, next :: outer => (inner, (enclosed frame next outer).1 :: (enclosed frame next outer).2)

/-- The state with a group around all that it reads, which the pattern as a whole becomes. -/
def ReaderState.enclose (frame : OpenGroup) (state : ReaderState) : ReaderState :=
  { state with
    inner := (enclosed frame state.inner state.outer).1
    outer := (enclosed frame state.inner state.outer).2 }

/-- A change of the state that no step sees but the one that closes the whole pattern. -/
structure Embeds (embed : ReaderState → ReaderState) : Prop where
  verbose : ∀ state, (embed state).verbose = state.verbose
  step : ∀ state c rest, (c = ')' → state.outer ≠ []) →
    step? (embed state) c rest = (step? state c rest).map fun taken => (embed taken.1, taken.2)

theorem embeds_id : Embeds id where
  verbose := fun _ => rfl
  step := fun state c rest _ => by
    rw [id]
    exact Option.map_id'.symm ▸ rfl

namespace ReaderState

variable (frame : OpenGroup) (state : ReaderState)

@[simp] theorem enclose_verbose : (state.enclose frame).verbose = state.verbose := rfl

theorem enclose_add (item : Term) :
    (state.enclose frame).add item = (state.add item).enclose frame := by
  obtain ⟨inner, outer, verbose, names⟩ := state
  cases outer <;> rfl

theorem enclose_branch :
    { state.enclose frame with inner := (state.enclose frame).inner.branch } =
      ({ state with inner := state.inner.branch } : ReaderState).enclose frame := by
  obtain ⟨inner, outer, verbose, names⟩ := state
  cases outer <;> rfl

theorem enclose_repeatLast? (least : Nat) (most : Option Nat) (lazy : Bool) :
    (state.enclose frame).repeatLast? least most lazy =
      (state.repeatLast? least most lazy).map (enclose frame) := by
  obtain ⟨⟨sign, verboseOutside, branches, items⟩, outer, verbose, names⟩ := state
  rcases items with _ | ⟨last, items⟩
  · cases outer <;> rfl
  · cases last <;> cases outer <;> rfl

theorem enclose_closeGroup? (within : state.outer ≠ []) :
    (state.enclose frame).closeGroup? = state.closeGroup?.map (enclose frame) := by
  obtain ⟨inner, outer, verbose, names⟩ := state
  cases outer with
  | nil => exact absurd rfl within
  | cons next outer => cases outer <;> rfl

/-- A reader of the enclosed state reads the same, and its state is enclosed. -/
def Encloses (frame : OpenGroup) (enclosedRead read : Reader ReaderState) : Prop :=
  ∀ source, enclosedRead source = (read source).map fun taken => (taken.1.enclose frame, taken.2)

variable {frame}

theorem Encloses.atMark {mark : Char}
    {enclosedMarked marked enclosedOther other : Reader ReaderState}
    (encloses : Encloses frame enclosedMarked marked)
    (otherEncloses : Encloses frame enclosedOther other) :
    Encloses frame (atMark mark enclosedMarked enclosedOther) (atMark mark marked other) := by
  intro source
  cases source with
  | nil => exact otherEncloses []
  | cons c rest =>
      by_cases same : c = mark
      · simp only [Pattern.atMark, if_pos same]
        exact encloses rest
      · simp only [Pattern.atMark, if_neg same]
        exact otherEncloses (c :: rest)

theorem Encloses.nothing : Encloses frame (fun _ => none) (fun _ => none) := fun _ => rfl

theorem openNamed?_encloses :
    Encloses frame (openNamed? (state.enclose frame)) (openNamed? state) := by
  intro rest
  unfold openNamed?
  cases groupName? rest with
  | none => rfl
  | some taken =>
      dsimp only [Option.bind_eq_bind, Option.bind_some]
      by_cases known : state.names.contains taken.1 = true
      · have alike : (state.enclose frame).names.contains taken.1 = true := known
        rw [if_pos known, if_pos alike]
        rfl
      · have alike : ¬(state.enclose frame).names.contains taken.1 = true := known
        rw [if_neg known, if_neg alike]
        rfl

theorem openFlags?_encloses :
    Encloses frame (openFlags? (state.enclose frame)) (openFlags? state) := by
  intro rest
  unfold openFlags?
  cases flagsTo? [] rest with
  | none => rfl
  | some taken =>
      dsimp only [Option.bind_some, enclose_verbose]
      by_cases ends : taken.1.2 = ')'
      · by_cases none : taken.1.1.isEmpty = true
        · simp only [if_pos ends, if_pos none]
          rfl
        · simp only [if_pos ends, if_neg none, enclose_add]
          rfl
      · simp only [if_neg ends]
        rfl

theorem openGroup?_encloses :
    Encloses frame (openGroup? (state.enclose frame)) (openGroup? state) := by
  intro source
  rw [openGroup?_eq, openGroup?_eq]
  have opened : Encloses frame
      (fun rest => some ((state.enclose frame).openGroup .capture state.verbose, rest))
      (fun rest => some (state.openGroup .capture state.verbose, rest)) := fun _ => rfl
  have named : Encloses frame (openNamed? (state.enclose frame)) (openNamed? state) :=
    openNamed?_encloses state
  have marked : Encloses frame (openMarked? (state.enclose frame)) (openMarked? state) :=
    .atMark .nothing <| .atMark .nothing <|
      .atMark (.atMark .nothing <| .atMark .nothing named) <|
        .atMark (.atMark named .nothing) (openFlags?_encloses state)
  exact Encloses.atMark marked opened (skip state.verbose source)

theorem repeated?_encloses (counts : Counts) :
    (state.enclose frame).repeated? counts =
      (state.repeated? counts).map fun taken => (taken.1.enclose frame, taken.2) := by
  rw [repeated?, repeated?, enclose_repeatLast?]
  cases state.repeatLast? counts.least counts.most counts.lazy <;> rfl

end ReaderState

theorem embeds_enclose (frame : OpenGroup) : Embeds (ReaderState.enclose frame) where
  verbose := ReaderState.enclose_verbose frame
  step := by
    intro state c rest within
    cases stepBy c with
    | opens same =>
        rw [same, same]
        exact ReaderState.openGroup?_encloses state rest
    | closes closing =>
        subst closing
        simp only [step?, ReaderState.enclose_closeGroup? frame state (within rfl)]
        cases state.closeGroup? <;> rfl
    | branches same =>
        rw [same, same, ReaderState.enclose_branch]
        rfl
    | bracket same =>
        rw [same, same, ReaderState.enclose_verbose]
        simp only [ReaderState.enclose_add]
        cases class? state.verbose rest <;> rfl
    | repeats least most _ same =>
        rw [same, same]
        exact ReaderState.repeated?_encloses state _
    | counted same =>
        rw [same, same, ReaderState.enclose_verbose]
        cases counts? state.verbose rest with
        | none => rfl
        | some counts => exact ReaderState.repeated?_encloses state counts
    | escapes slash =>
        subst slash
        simp only [step?_escape, ReaderState.enclose_verbose, ReaderState.enclose_add]
        cases escape? state.verbose rest <;> rfl
    | item atom same =>
        rw [same, same, ReaderState.enclose_add]
        rfl

/-! ## Whole texts -/

/-- The first closing parenthesis of a text that closes nothing that the text opens: what
stands before it is read by itself, and then the parenthesis. -/
structure Closes (state : ReaderState) (source before after : List Char) (final : ReaderState) :
    Prop where
  split : source = before ++ ')' :: after
  alone : readOn? state before = some final
  none_open : final.outer = []
  goesOn : ∀ more, readOn? state (before ++ ')' :: more) = readOn? final (')' :: more)

/-- How a text is read alone, and with a closing parenthesis behind it from the same state or
from one with groups around. -/
inductive Reads (state : ReaderState) (source : List Char) : Prop
  /-- The parenthesis is the next item. -/
  | stays (final : ReaderState) (alone : readOn? state source = some final)
      (before : ∀ embed, Embeds embed → ∀ more,
        readOn? (embed state) (source ++ ')' :: more) = readOn? (embed final) (')' :: more))
  /-- The text ends in a comment. -/
  | comment (final : ReaderState) (alone : readOn? state source = some final)
      (through : ∀ embed, Embeds embed → ∀ more, '\n' ∉ more →
        readOn? (embed state) (source ++ ')' :: more) = some (embed final))
  | closes (before after : List Char) (final : ReaderState)
      (closes : Closes state source before after final)
  /-- The text is refused. If it can be read with a parenthesis and the sign of an end behind,
  no group around is closed. -/
  | fails (alone : readOn? state source = none)
      (beyond : ∀ embed, Embeds embed → ∀ final,
        readOn? (embed state) (source ++ [')', '$']) = some final →
          ∃ within, final = embed within)

section Whole

variable {embed : ReaderState → ReaderState} (embeds : Embeds embed)
include embeds

theorem Embeds.readOn?_end {state : ReaderState} {source : List Char}
    (nothing : skip state.verbose source = []) :
    readOn? (embed state) source = some (embed state) :=
  Pattern.readOn?_end (by rw [embeds.verbose, nothing])

theorem Embeds.readOn?_step {state : ReaderState} {source rest : List Char} {c : Char}
    (skipped : skip state.verbose source = c :: rest) (within : c = ')' → state.outer ≠ []) :
    readOn? (embed state) source =
      (step? state c rest).bind fun taken => readOn? (embed taken.1) taken.2 := by
  rw [Pattern.readOn?_step (by rw [embeds.verbose, skipped]), embeds.step state c rest within,
    Option.bind_map]
  rfl

/-- The sign of an end is read without closing a group. -/
theorem Embeds.readOn?_sign {state final : ReaderState} {left : List Char} (sign : left <:+ ['$'])
    (read : readOn? (embed state) left = some final) : ∃ within, final = embed within := by
  cases skipped : skip state.verbose left with
  | nil => exact ⟨state, (Option.some.inj ((embeds.readOn?_end skipped).symm.trans read)).symm⟩
  | cons c rest =>
      have whole : c :: rest <:+ ['$'] := skipped ▸ (skip_suffix state.verbose left).trans sign
      have same : c :: rest = ['$'] := whole.eq_of_length_le (by simp)
      obtain ⟨rfl, rfl⟩ := List.cons.inj same
      rw [embeds.readOn?_step skipped fun same => nomatch (same : '$' = ')')] at read
      exact ⟨_, (Option.some.inj ((readOn?_nil _).symm.trans read)).symm⟩

/-- A brace with nothing to count behind it is refused. -/
theorem Embeds.readOn?_brace (state : ReaderState) {source more : List Char}
    (left : skip state.verbose source = ')' :: more ∨ skip state.verbose source = []) :
    readOn? (embed state) ('\x7b' :: source) = none := by
  have skipped : skip state.verbose ('\x7b' :: source) = '\x7b' :: source := by
    cases state.verbose <;> rfl
  rw [embeds.readOn?_step skipped fun same => nomatch (same : '\x7b' = ')')]
  simp only [step?, counts?_of_skip left]
  rfl

end Whole

theorem readOn?_close {state : ReaderState} {source more : List Char}
    (close : skip state.verbose source = ')' :: more) :
    readOn? state source = readOn? state (')' :: more) := by
  rw [readOn?_step close, readOn?_step (skip_close state.verbose more)]

/-- What a boundary that is not settled leaves, with a parenthesis behind the text. -/
theorem step?_unsettled {state next : ReaderState} {source more left : List Char}
    (unsettled : UnsettledEscape state.verbose source)
    (step : step? state '\\' (source ++ ')' :: more) = some (next, left)) :
    left <:+ more ∨ next.verbose = state.verbose ∧ ∃ blank, skip state.verbose blank = [] ∧
      left = '\x7b' :: (blank ++ ')' :: more) := by
  obtain ⟨blank, rfl, nothing⟩ := unsettled
  rw [step?_escape] at step
  obtain ⟨⟨atom, _⟩, escape, same⟩ := Option.map_eq_some_iff.mp step
  obtain ⟨rfl, rfl⟩ := Prod.mk.inj same
  obtain ⟨⟨sign, _⟩, boundary, same⟩ := Option.map_eq_some_iff.mp escape
  obtain ⟨-, rfl⟩ := Prod.mk.inj same
  rcases boundary?_unsettled nothing boundary with shorter | whole
  · exact .inl shorter
  · exact .inr ⟨rfl, blank, nothing, whole⟩

theorem not_suffix_of_append {before after : List Char} {c : Char} :
    ¬before ++ c :: after <:+ after := by
  intro shorter
  have lengths := shorter.length_le
  rw [List.length_append, List.length_cons] at lengths
  omega

/-- A parenthesis that closes nothing after a step closes nothing before it. -/
theorem Closes.before_step {state next final : ReaderState}
    {source rest left before after : List Char}
    {c : Char} (closes : Closes next left before after final)
    (skipped : skip state.verbose source = c :: rest)
    (step : step? state c rest = some (next, left)) :
    ∃ whole, Closes state source whole after final := by
  obtain ⟨lead, rfl, -, kept⟩ := skip_split skipped
  obtain ⟨middle, rfl⟩ := step?_shrinks state c _ _ _ step
  have step : step? state c (middle ++ before ++ ')' :: after) =
      some (next, before ++ ')' :: after) := by
    rw [List.append_assoc, ← closes.split, step]
  -- The step takes as much when the text ends at the parenthesis.
  have cut : step? state c (middle ++ before) = some (next, before) ∧
      ∀ more, step? state c (middle ++ before ++ ')' :: more) =
        some (next, before ++ ')' :: more) := by
    rcases step?_goes state c (middle ++ before) with goes | ⟨rfl, unsettled⟩
    · cases goes with
      | stays item rest alone behind =>
          obtain ⟨rfl, same⟩ := Prod.mk.inj (Option.some.inj ((behind after).symm.trans step))
          obtain rfl := List.append_cancel_right same
          exact ⟨alone, behind⟩
      | passes _ beyond => exact absurd (beyond after _ _ step) not_suffix_of_append
    · exfalso
      rcases step?_unsettled unsettled step with shorter | ⟨verbose, blank, nothing, same⟩
      · exact not_suffix_of_append shorter
      · obtain rfl : before = '\x7b' :: blank := List.append_cancel_right same
        have unseen : skip next.verbose blank = [')'] ∨ skip next.verbose blank = [] :=
          .inr (verbose ▸ nothing)
        exact nomatch (embeds_id.readOn?_brace next unseen).symm.trans closes.alone
  refine ⟨lead ++ c :: (middle ++ before), ?_, ?_, closes.none_open, fun more => ?_⟩
  · rw [closes.split]
    simp
  · rw [readOn?_step (kept _), cut.1]
    exact closes.alone
  · rw [List.append_assoc, List.cons_append, readOn?_step (kept _), cut.2]
    exact closes.goesOn more

section Whole

variable {state : ReaderState} {source rest : List Char} {c : Char}
  (skipped : skip state.verbose source = c :: rest)
  (behind : ∀ more, skip state.verbose (source ++ ')' :: more) = c :: (rest ++ ')' :: more))
  (within : c = ')' → state.outer ≠ [])
include skipped behind within

/-- A text whose first step stays before the parenthesis is read as what that step leaves. -/
theorem Reads.before_step {next : ReaderState} {left : List Char} (reads : Reads next left)
    (step : step? state c rest = some (next, left))
    (stepBehind : ∀ more,
      step? state c (rest ++ ')' :: more) = some (next, left ++ ')' :: more)) :
    Reads state source := by
  have first : readOn? state source = readOn? next left := by
    rw [readOn?_step skipped, step, Option.bind_some]
  have firstBehind : ∀ embed, Embeds embed → ∀ more,
      readOn? (embed state) (source ++ ')' :: more) =
        readOn? (embed next) (left ++ ')' :: more) := by
    intro embed embeds more
    rw [embeds.readOn?_step (behind more) within, stepBehind, Option.bind_some]
  cases reads with
  | stays final alone before =>
      exact .stays final (first.trans alone) fun embed embeds more =>
        (firstBehind embed embeds more).trans (before embed embeds more)
  | comment final alone through =>
      exact .comment final (first.trans alone) fun embed embeds more line =>
        (firstBehind embed embeds more).trans (through embed embeds more line)
  | closes before after final closes =>
      obtain ⟨whole, closes⟩ := closes.before_step skipped step
      exact .closes whole after final closes
  | fails alone beyond =>
      exact .fails (first.trans alone) fun embed embeds final read =>
        beyond embed embeds final ((firstBehind embed embeds ['$']).symm.trans read)

/-- A text whose first step passes the parenthesis. -/
theorem Reads.of_passes
    (through : ∀ next left, step? state c rest = some (next, left) →
      left = [] ∧ ∀ more, '\n' ∉ more →
        step? state c (rest ++ ')' :: more) = some (next, []))
    (beyond : ∀ more next left, step? state c (rest ++ ')' :: more) = some (next, left) →
      left <:+ more) : Reads state source := by
  cases step : step? state c rest with
  | none =>
      -- With the parenthesis behind it, the step leaves at most the sign of the end.
      refine .fails (by rw [readOn?_step skipped, step]; rfl) fun embed embeds final read => ?_
      rw [embeds.readOn?_step (behind ['$']) within] at read
      obtain ⟨taken, stepped, read⟩ := Option.bind_eq_some_iff.mp read
      exact embeds.readOn?_sign (beyond _ _ _ stepped) read
  | some taken =>
      obtain ⟨nothing, covered⟩ := through _ _ step
      refine .comment taken.1 ?_ fun embed embeds more line => ?_
      · rw [readOn?_step skipped, step, Option.bind_some, nothing, readOn?_nil]
      · rw [embeds.readOn?_step (behind more) within, covered more line, Option.bind_some,
          readOn?_nil]

end Whole

/-- A boundary that is not settled is refused alone, and nothing comes of its brace. -/
theorem Reads.of_unsettled {state : ReaderState} {source rest : List Char}
    (skipped : skip state.verbose source = '\\' :: rest)
    (behind : ∀ more, skip state.verbose (source ++ ')' :: more) = '\\' :: (rest ++ ')' :: more))
    (unsettled : UnsettledEscape state.verbose rest) : Reads state source := by
  have within : '\\' = ')' → state.outer ≠ [] := nofun
  have refused : step? state '\\' rest = none := by
    obtain ⟨blank, rfl, nothing⟩ := unsettled
    have boundary : boundary? state.verbose ('\x7b' :: blank) = none := by
      rw [boundary?_brace, nothing]
    simp only [step?_escape, escape?, boundary]
    rfl
  refine .fails (by rw [readOn?_step skipped, refused]; rfl) fun embed embeds final read => ?_
  rw [embeds.readOn?_step (behind ['$']) within] at read
  obtain ⟨⟨next, left⟩, stepped, read⟩ := Option.bind_eq_some_iff.mp read
  rcases step?_unsettled unsettled stepped with shorter | ⟨verbose, blank, nothing, rfl⟩
  · exact embeds.readOn?_sign shorter read
  · have seen := skip_blank (verbose ▸ nothing : skip next.verbose blank = [])
      (show '\n' ∉ ['$'] by decide)
    cases (embeds.readOn?_brace next seen).symm.trans read

/-- Every text is read in one of four ways. -/
theorem reads (state : ReaderState) (source : List Char) : Reads state source := by
  -- A step may take many characters, so the induction is on how many there are.
  induction length : source.length using Nat.strongRecOn generalizing state source with
  | _ _ inductionHypothesis =>
      subst length
      cases (skipping_local state.verbose).goes source with
      | passes through _ =>
          obtain ⟨nothing, covered⟩ := through () _ rfl
          refine .comment state (readOn?_end nothing) fun embed embeds more line => ?_
          exact embeds.readOn?_end (congrArg Prod.snd (Option.some.inj (covered more line)))
      | stays _ start alone before =>
          have skipped : skip state.verbose source = start :=
            congrArg Prod.snd (Option.some.inj alone)
          have behind : ∀ more,
              skip state.verbose (source ++ ')' :: more) = start ++ ')' :: more :=
            fun more => congrArg Prod.snd (Option.some.inj (before more))
          cases start with
          | nil =>
              refine .stays state (readOn?_end skipped) fun embed embeds more => ?_
              exact readOn?_close (by rw [embeds.verbose, behind]; rfl)
          | cons c rest =>
              -- Here alone a group around the text would make a difference.
              by_cases closing : c = ')' ∧ state.outer = []
              · obtain ⟨rfl, outer⟩ := closing
                obtain ⟨lead, split, nothing, kept⟩ := skip_split skipped
                exact .closes lead rest state ⟨split, readOn?_end nothing, outer,
                  fun more => readOn?_close (kept more)⟩
              have within : c = ')' → state.outer ≠ [] :=
                fun same outer => closing ⟨same, outer⟩
              rcases step?_goes state c rest with goes | ⟨rfl, unsettled⟩
              · cases goes with
                | stays next left step stepBehind =>
                    have shorter := (step?_shrinks state c _ _ _ step).length_le
                    have fewer : left.length < source.length :=
                      Nat.lt_of_le_of_lt shorter (length_of_skip skipped)
                    exact .before_step skipped behind within
                      (inductionHypothesis _ fewer next left rfl) step stepBehind
                | passes through beyond =>
                    exact .of_passes skipped behind within through beyond
              · exact .of_unsettled skipped behind unsettled

end RuleTree.Pattern
