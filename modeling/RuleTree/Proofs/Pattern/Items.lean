import RuleTree.Pattern.Reader
import RuleTree.Proofs.Pattern.Continuation

/-!
Contract: the readers of numbers, escapes, groups and repetitions stay before a closing
parenthesis behind their text or pass it.

One reader does not, since it looks further ahead than it reads: a word boundary with a brace
behind it and nothing else may be meant as a special boundary or as a repetition, so the text
alone is refused, but with the parenthesis behind it the brace is left to be read as a
repetition. Such a text is `Unsettled`.
-/

namespace RuleTree.Pattern

/-! ## Numbers -/

theorem count?_local (verbose : Bool) : Local (count? verbose) := by
  have digits : Local fun source => some (spanSkipping verbose Char.isDigit false [] source) :=
    spanSkipping_local (by decide) false []
  have checked : ∀ digits : List Char, Local fun rest =>
      if digits.isEmpty || decide (Nat.pow 2 32 ≤ digitsToNat 10 digits) then none
      else some (digitsToNat 10 digits, rest.dropWhile isSpace) :=
    fun _ => .ite (fun _ => .nothing) fun _ => (Local.pure _).afterSpaces
  exact (digits.bind checked).afterSpaces

theorem hexDigits?_local (verbose : Bool) (length : Nat) : Local (hexDigits? verbose length) := by
  induction length with
  | zero => exact .pure []
  | succ length inductionHypothesis =>
      have further : ∀ c, Local fun rest =>
          if isHexDigit c then
            (hexDigits? verbose length (skip verbose rest)).map fun taken =>
              (c :: taken.1, taken.2)
          else none :=
        fun c => .ite (fun _ => (inductionHypothesis.map (c :: ·)).afterSkip verbose)
          fun _ => .nothing
      exact .byFirst further rfl fun _ _ => rfl

theorem hexChar?_local (verbose : Bool) (length : Nat) : Local (hexChar? verbose length) := by
  have charOf : ∀ (digits : List Char) (asByte : Bool) (skips : Bool), Local fun rest =>
      (charOfNat? (digitsToNat 16 digits)).bind fun c =>
        some ((⟨c, asByte⟩ : Literal), skip skips rest) := by
    intro digits asByte skips
    cases charOfNat? (digitsToNat 16 digits) with
    | none => exact .nothing
    | some c => exact .thenSkip _ skips
  have checked : ∀ digits : List Char, Local fun rest =>
      if digits.isEmpty || !digits.all isHexDigit then none
      else (charOfNat? (digitsToNat 16 digits)).bind fun c =>
        some ((⟨c, false⟩ : Literal), skip verbose rest) :=
    fun digits => .ite (fun _ => .nothing) fun _ => charOf digits false verbose
  have braced := (untilBrace?_local verbose false []).bind checked
  have plain := (hexDigits?_local verbose length).bind fun digits =>
    charOf digits (length == 2) false
  have marked := Local.atMark (show '\x7b' ≠ ')' by decide) braced plain
  refine (marked.afterSkip verbose).of_eq ?_
  intro source
  unfold hexChar?
  generalize skip verbose source = start
  cases start with
  | nil => rfl
  | cons c rest =>
      by_cases brace : c = '\x7b'
      · subst brace
        rfl
      · simp [atMark, brace, skip]

/-- The name of a property that is one character. -/
def letterName? (verbose : Bool) : Reader PropertyName
  | [] => none
  | c :: rest => some (.letter c, skip verbose rest)

theorem property?_local (verbose : Bool) : Local (property? verbose) := by
  have braced := (untilBrace?_local verbose false []).map propertyName
  have letter : Local (letterName? verbose) :=
    .byFirst (fun c => Local.thenSkip (PropertyName.letter c) verbose) rfl fun _ _ => rfl
  have plain := Local.atMark (show '\\' ≠ ')' by decide) .nothing letter
  have marked := Local.atMark (show '\x7b' ≠ ')' by decide) braced plain
  refine (marked.afterSkip verbose).of_eq ?_
  intro source
  unfold property?
  generalize skip verbose source = start
  cases start with
  | nil => rfl
  | cons c rest =>
      by_cases brace : c = '\x7b'
      · subst brace
        rfl
      by_cases slash : c = '\\'
      · subst slash
        rfl
      · simp [atMark, brace, slash, letterName?]

/-! ## Escapes -/

/-- An escape other than a word boundary. -/
theorem escape?_local (verbose : Bool) {c : Char} (other : c ≠ 'b') :
    Local fun rest => escape? verbose (c :: rest) := by
  generalize text : [c] = source
  fun_cases escape? verbose source <;> cases text
  case case25.refl =>
    exact (Local.pure (Atom.literal ⟨c, false⟩)).of_eq fun rest => by simp [escape?, *]
  case case26.refl =>
    exact Local.nothing.of_eq fun rest => by simp [escape?, *]
  all_goals
    first
    | exact absurd rfl other
    | exact .pure _
    | exact (hexChar?_local verbose _).map Atom.literal
    | exact (property?_local verbose).map (Atom.property · _)

def isBoundaryNameChar (c : Char) : Bool :=
  c.isAlpha || c == '-'

def namedBoundary? : String → Option AssertionSign
  | "start" => some .wordStart
  | "end" => some .wordEnd
  | "start-half" => some .wordStartHalf
  | "end-half" => some .wordEndHalf
  | _ => none

/-- The name of a special boundary and the brace after it. -/
def bracedBoundary? (verbose : Bool) : Reader AssertionSign := fun source =>
  (some (spanSkipping verbose isBoundaryNameChar false [] source)).bind fun taken =>
    atMark '\x7d' (fun rest => (namedBoundary? (String.ofList taken.1)).map (·, rest))
      (fun _ => none) taken.2

theorem bracedBoundary?_local (verbose : Bool) : Local (bracedBoundary? verbose) := by
  have name : Local fun source =>
      some (spanSkipping verbose isBoundaryNameChar false [] source) :=
    spanSkipping_local (by decide) false []
  have closed : ∀ name : List Char, Local (atMark '\x7d'
      (fun rest => (namedBoundary? (String.ofList name)).map (·, rest)) fun _ => none) := by
    intro name
    refine .atMark (by decide) ?_ .nothing
    cases namedBoundary? (String.ofList name) with
    | none => exact .nothing
    | some sign => exact .pure sign
  exact name.bind closed

theorem boundary?_brace (verbose : Bool) (rest : List Char) :
    boundary? verbose ('\x7b' :: rest) =
      match skip verbose rest with
      | [] => none
      | c :: after =>
        if isBoundaryNameChar c then bracedBoundary? verbose (c :: after)
        else some (.wordBoundary, '\x7b' :: rest) := by
  simp only [boundary?]
  generalize skip verbose rest = start
  cases start with
  | nil => rfl
  | cons c after =>
      unfold bracedBoundary? isBoundaryNameChar
      dsimp only [Option.bind_some]
      generalize spanSkipping verbose (fun c => c.isAlpha || c == '-') false [] (c :: after) = taken
      obtain ⟨name, left⟩ := taken
      cases c.isAlpha || c == '-' with
      | false => rfl
      | true =>
          cases left with
          | nil => rfl
          | cons mark rest =>
              by_cases brace : mark = '\x7d'
              · subst brace
                simp only [atMark, namedBoundary?, Bool.not_true, Bool.false_eq_true, reduceIte]
                split <;> simp [*]
              · simp [atMark, brace]

theorem boundary?_other {source : List Char} (verbose : Bool)
    (plain : source.head? ≠ some '\x7b') :
    boundary? verbose source = some (.wordBoundary, source) := by
  unfold boundary?
  split
  · exact absurd rfl plain
  · rfl

theorem boundary?_shrinks (verbose : Bool) : Shrinks (boundary? verbose) := by
  intro source sign left read
  by_cases brace : source.head? = some '\x7b'
  · obtain ⟨rest, rfl⟩ := List.head?_eq_some_iff.mp brace
    rw [boundary?_brace] at read
    split at read
    · cases read
    · next c after found =>
        split at read
        · have shorter := ((bracedBoundary?_local verbose).shrinks _ _ _ read)
          exact (found ▸ shorter).trans
            ((skip_suffix verbose rest).trans (List.suffix_cons _ rest))
        · cases read
          exact List.suffix_refl _
  · rw [boundary?_other verbose brace] at read
    cases read
    exact List.suffix_refl source

/-- A brace with nothing behind it, as far as a word boundary can see. -/
def Unsettled (verbose : Bool) (source : List Char) : Prop :=
  ∃ blank, source = '\x7b' :: blank ∧ skip verbose blank = []

theorem boundary?_goes {verbose : Bool} {source : List Char}
    (settled : ¬Unsettled verbose source) :
    Goes (boundary? verbose) source := by
  by_cases brace : source.head? = some '\x7b'
  · obtain ⟨rest, rfl⟩ := List.head?_eq_some_iff.mp brace
    cases (skipping_local verbose).goes rest with
    | passes through _ =>
        exact absurd ⟨rest, rfl, (through _ _ rfl).1⟩ settled
    | stays _ left alone before =>
        have skipped : skip verbose rest = left := congrArg Prod.snd (Option.some.inj alone)
        have behind : ∀ more, skip verbose (rest ++ ')' :: more) = left ++ ')' :: more :=
          fun more => congrArg Prod.snd (Option.some.inj (before more))
        cases left with
        | nil => exact absurd ⟨rest, rfl, skipped⟩ settled
        | cons c after =>
            by_cases letter : isBoundaryNameChar c = true
            · refine ((bracedBoundary?_local verbose).goes (c :: after)).congr ?_ fun more => ?_
              · rw [boundary?_brace, skipped]
                exact if_pos letter
              · rw [List.cons_append, boundary?_brace, behind]
                exact if_pos letter
            · refine .stays .wordBoundary ('\x7b' :: rest) ?_ fun more => ?_
              · rw [boundary?_brace, skipped]
                exact if_neg letter
              · rw [List.cons_append, boundary?_brace, behind]
                exact if_neg letter
  · refine .stays .wordBoundary source (boundary?_other verbose brace) fun more => ?_
    refine boundary?_other verbose ?_
    cases source with
    | nil => exact fun same => nomatch (Option.some.inj same : ')' = '\x7b')
    | cons c rest => exact brace

/-- What is left by a boundary that is not settled: the brace, or the end of what follows. -/
theorem boundary?_unsettled {verbose : Bool} {blank : List Char}
    (nothing : skip verbose blank = []) {more left : List Char} {sign : AssertionSign}
    (read : boundary? verbose ('\x7b' :: (blank ++ ')' :: more)) = some (sign, left)) :
    left <:+ more ∨ left = '\x7b' :: (blank ++ ')' :: more) := by
  rw [boundary?_brace] at read
  split at read
  · cases read
  · next c after found =>
      split at read
      · next letter =>
          -- A letter is none of the characters before the parenthesis, and not itself.
          refine .inl ?_
          have shorter := (bracedBoundary?_local verbose).shrinks _ _ _ read
          cases (skipping_local verbose).goes blank with
          | passes _ beyond =>
              exact shorter.trans (beyond more () _ (congrArg (fun rest => some ((), rest)) found))
          | stays _ rest alone before =>
              obtain rfl : [] = rest := nothing ▸ congrArg Prod.snd (Option.some.inj alone)
              have behind : skip verbose (blank ++ ')' :: more) = ')' :: more :=
                congrArg Prod.snd (Option.some.inj (before more))
              rw [found] at behind
              obtain ⟨rfl, rfl⟩ := List.cons.inj behind
              cases letter
      · cases read
        exact .inr rfl

/-! ## Groups -/

/-- The items of a flag list with the character that ends it. -/
def flagsTo? (reversed : List FlagItem) : Reader (List FlagItem × Char) :=
  fun source => (flags? reversed source).map fun (items, close, rest) => ((items, close), rest)

/-- A character of a flag list is refused, ends it, or is one more item. -/
theorem flagsTo?_cons (reversed : List FlagItem) (c : Char) :
    (∀ rest, flagsTo? reversed (c :: rest) = none) ∨
      (∃ item, ∀ rest, flagsTo? reversed (c :: rest) = some (item, rest)) ∨
      ∃ further, ∀ rest, flagsTo? reversed (c :: rest) = flagsTo? further rest := by
  by_cases ends : c = ':' ∨ c = ')'
  · by_cases negation : reversed.head? = some .negation
    · exact .inl fun rest => by simp [flagsTo?, flags?, ends, negation]
    · exact .inr (.inl ⟨(reversed.reverse, c), fun rest => by
        simp [flagsTo?, flags?, ends, negation]⟩)
  · cases found : if c = '-' then some FlagItem.negation else (flagOf? c).map FlagItem.flag with
    | none => exact .inl fun rest => by simp [flagsTo?, flags?, ends, found]
    | some item =>
        by_cases twice : reversed.contains item = true
        · exact .inl fun rest => by simp only [flagsTo?, flags?, ends, found, twice]; rfl
        · exact .inr (.inr ⟨item :: reversed, fun rest => by
            simp only [flagsTo?, flags?, ends, found, twice]; rfl⟩)

theorem flagsTo?_shrinks (reversed : List FlagItem) : Shrinks (flagsTo? reversed) := by
  intro source item left read
  induction source generalizing reversed with
  | nil => cases read
  | cons c rest inductionHypothesis =>
      rcases flagsTo?_cons reversed c with refused | ⟨taken, ends⟩ | ⟨further, goesOn⟩
      · exact nomatch (refused rest).symm.trans read
      · obtain ⟨rfl, rfl⟩ := Prod.mk.inj (Option.some.inj ((ends rest).symm.trans read))
        exact List.suffix_cons c rest
      · exact (inductionHypothesis further ((goesOn rest).symm.trans read)).trans
          (List.suffix_cons c rest)

theorem flagsTo?_local (reversed : List FlagItem) : Local (flagsTo? reversed) where
  shrinks := flagsTo?_shrinks reversed
  goes := by
    intro source
    induction source generalizing reversed with
    | nil =>
        refine .of_none rfl fun more item left read => ?_
        rcases flagsTo?_cons reversed ')' with refused | ⟨taken, ends⟩ | ⟨further, goesOn⟩
        · exact nomatch (refused more).symm.trans read
        · obtain ⟨-, rfl⟩ := Prod.mk.inj (Option.some.inj ((ends more).symm.trans read))
          exact List.suffix_refl more
        · exact flagsTo?_shrinks further _ _ _ ((goesOn more).symm.trans read)
    | cons c rest inductionHypothesis =>
        rcases flagsTo?_cons reversed c with refused | ⟨taken, ends⟩ | ⟨further, goesOn⟩
        · exact .fails (refused rest) fun _ => refused _
        · exact .stays taken rest (ends rest) fun _ => ends _
        · exact (inductionHypothesis further).congr (goesOn rest) fun _ => goesOn _

/-- The text before a mark is the same whatever stands behind the mark. -/
theorem splitAt_append {source after : List Char} {stop mark : Char}
    (found : source.dropWhile (· != stop) = mark :: after) (tail : List Char) :
    (source ++ tail).takeWhile (· != stop) = source.takeWhile (· != stop) ∧
      (source ++ tail).dropWhile (· != stop) = mark :: (after ++ tail) := by
  have whole := List.takeWhile_append_dropWhile (p := (· != stop)) (l := source)
  constructor
  · rw [List.takeWhile_append, if_neg]
    intro all
    have lengths := congrArg List.length whole
    rw [List.length_append, found, all] at lengths
    simp at lengths
  · rw [List.dropWhile_append, found]
    rfl

def validName? : List Char → Option String
  | [] => none
  | first :: others =>
    if isNameStart first && others.all isNameChar then some (String.ofList (first :: others))
    else none

theorem groupName?_eq (source : List Char) :
    groupName? source =
      match source.dropWhile (· != '>') with
      | [] => none
      | _ :: rest => (validName? (source.takeWhile (· != '>'))).map (·, rest) := by
  unfold groupName?
  dsimp only
  generalize source.takeWhile (· != '>') = name
  cases source.dropWhile (· != '>') with
  | nil => cases name <;> rfl
  | cons mark rest =>
      cases name with
      | nil => rfl
      | cons first others =>
          dsimp only [validName?]
          split <;> rfl

/-- Where the name does not end, its end can only be behind the parenthesis. -/
theorem groupName?_local : Local groupName? where
  shrinks := by
    intro source name left read
    rw [groupName?_eq] at read
    split at read
    · cases read
    · next found =>
        obtain ⟨_, _, same⟩ := Option.map_eq_some_iff.mp read
        obtain ⟨-, rfl⟩ := Prod.mk.inj same
        exact (List.suffix_cons _ _).trans (found ▸ List.dropWhile_suffix _)
  goes := by
    intro source
    cases found : source.dropWhile (· != '>') with
    | nil =>
        -- Nothing ends the name, unless it is behind the parenthesis.
        refine .of_none (by rw [groupName?_eq, found]) fun more name left read => ?_
        have further : (source ++ ')' :: more).dropWhile (· != '>') =
            more.dropWhile (· != '>') := by
          simp [List.dropWhile_append, found]
        rw [groupName?_eq, further] at read
        split at read
        · cases read
        · next ends =>
            obtain ⟨_, _, same⟩ := Option.map_eq_some_iff.mp read
            obtain ⟨-, rfl⟩ := Prod.mk.inj same
            exact (List.suffix_cons _ _).trans (ends ▸ List.dropWhile_suffix _)
    | cons mark after =>
        have behind : ∀ more, groupName? (source ++ ')' :: more) =
            (validName? (source.takeWhile (· != '>'))).map (·, after ++ ')' :: more) := by
          intro more
          obtain ⟨before, ends⟩ := splitAt_append found (')' :: more)
          rw [groupName?_eq, ends, before]
        cases named : validName? (source.takeWhile (· != '>')) with
        | none =>
            refine .fails (by rw [groupName?_eq, found, named]; rfl) fun more => ?_
            rw [behind, named]
            rfl
        | some name =>
            refine .stays name after (by rw [groupName?_eq, found, named]; rfl) fun more => ?_
            rw [behind, named]
            rfl

theorem openNamed?_local (state : ReaderState) : Local (openNamed? state) := by
  have checked : ∀ name : String, Local fun rest =>
      if state.names.contains name then none
      else some
        ({ state.openGroup .capture state.verbose with names := name :: state.names }, rest) :=
    fun _ => .ite (fun _ => .nothing) fun _ => .pure _
  exact groupName?_local.bind checked

/-- Flags up to their end, which set them or open a group. -/
def openFlags? (state : ReaderState) : Reader ReaderState := fun source =>
  (flagsTo? [] source).bind fun taken =>
    let verbose := (flagSetting? taken.1.1 .verbose).getD state.verbose
    if taken.1.2 = ')' then
      if taken.1.1.isEmpty then none
      else some ({ state.add (.flags taken.1.1) with verbose := verbose }, taken.2)
    else some (state.openGroup (.flags taken.1.1) verbose, taken.2)

theorem openFlags?_local (state : ReaderState) : Local (openFlags? state) := by
  have flags := flagsTo?_local []
  refine flags.bind (?_ : ∀ item : List FlagItem × Char, Local fun rest =>
    let verbose := (flagSetting? item.1 .verbose).getD state.verbose
    if item.2 = ')' then
      if item.1.isEmpty then none
      else some ({ state.add (.flags item.1) with verbose := verbose }, rest)
    else some (state.openGroup (.flags item.1) verbose, rest))
  exact fun item => .ite (fun _ => .ite (fun _ => .nothing) fun _ => .pure _) fun _ => .pure _

/-- What follows the question mark of a group: look-around, a name or flags. -/
def openMarked? (state : ReaderState) : Reader ReaderState :=
  atMark '=' (fun _ => none) <| atMark '!' (fun _ => none) <|
    atMark '<' (atMark '=' (fun _ => none) <| atMark '!' (fun _ => none) (openNamed? state)) <|
    atMark 'P' (atMark '<' (openNamed? state) fun _ => none) (openFlags? state)

theorem openFlags?_eq (state : ReaderState) (source : List Char) :
    openFlags? state source =
      match flags? [] source with
      | none => none
      | some (items, close, rest) =>
        let verbose := (flagSetting? items .verbose).getD state.verbose
        if close = ')' then
          if items.isEmpty then none
          else some ({ state.add (.flags items) with verbose := verbose }, rest)
        else some (state.openGroup (.flags items) verbose, rest) := by
  unfold openFlags? flagsTo?
  cases flags? [] source <;> rfl

theorem openGroup?_eq (state : ReaderState) (source : List Char) :
    openGroup? state source =
      atMark '?' (openMarked? state)
        (fun rest => some (state.openGroup .capture state.verbose, rest))
        (skip state.verbose source) := by
  unfold openGroup?
  generalize skip state.verbose source = start
  cases start with
  | nil => rfl
  | cons c rest =>
      by_cases question : c = '?'
      · subst question
        cases rest with
        | nil => rfl
        | cons d rest =>
            by_cases equals : d = '='
            · subst equals
              rfl
            by_cases bang : d = '!'
            · subst bang
              rfl
            by_cases angle : d = '<'
            · subst angle
              cases rest with
              | nil => rfl
              | cons e rest =>
                  by_cases equals : e = '='
                  · subst equals
                    rfl
                  by_cases bang : e = '!'
                  · subst bang
                    rfl
                  · simp [openMarked?, atMark, isLookAround, equals, bang]
            by_cases letter : d = 'P'
            · subst letter
              cases rest with
              | nil => rfl
              | cons e rest =>
                  by_cases angle : e = '<'
                  · subst angle
                    rfl
                  · simp [openMarked?, atMark, isLookAround, angle, flags?, flagOf?]
            · cases found : flags? [] (d :: rest) <;>
                simp [openMarked?, atMark, isLookAround, equals, bang, angle, letter,
                  openFlags?_eq, found]
      · simp [atMark, isLookAround, question]

theorem openGroup?_local (state : ReaderState) : Local (openGroup? state) := by
  have named := openNamed?_local state
  have marked : Local (openMarked? state) :=
    .atMark (by decide) .nothing <| .atMark (by decide) .nothing <|
      .atMark (by decide) (.atMark (by decide) .nothing <| .atMark (by decide) .nothing named) <|
        .atMark (by decide) (.atMark (by decide) named .nothing) (openFlags?_local state)
  have opened := (Local.atMark (show '?' ≠ ')' by decide) marked
    (Local.pure (state.openGroup .capture state.verbose))).afterSkip state.verbose
  exact opened.of_eq (openGroup?_eq state)

/-! ## Repetitions -/

/-- The bounds of a repetition, and whether it is lazy. -/
abbrev Bounds := Nat × Option Nat × Bool

def Counts.bounds (counts : Counts) : Bounds :=
  (counts.least, counts.most, counts.lazy)

theorem ofBounds_local (least : Nat) (most : Option Nat) :
    Local fun source => some
      ((Counts.ofBounds least most source).bounds, (Counts.ofBounds least most source).rest) := by
  refine (Local.atMark (show '?' ≠ ')' by decide) (Local.pure (least, most, true))
    (Local.pure (least, most, false))).of_eq fun source => ?_
  cases source with
  | nil => rfl
  | cons c rest =>
      by_cases question : c = '?'
      · subst question
        rfl
      · simp [atMark, Counts.ofBounds, Counts.bounds, question]

/-- The end of a repetition in braces. -/
def closeBounds? (verbose : Bool) (least : Nat) (most : Option Nat) : Reader Bounds :=
  atMark '\x7d' (fun rest => some
    ((Counts.ofBounds least most (skip verbose rest)).bounds,
      (Counts.ofBounds least most (skip verbose rest)).rest)) fun _ => none

/-- What follows the comma of a repetition in braces. -/
def upperBound? (verbose : Bool) (least : Nat) : Reader Bounds :=
  atMark '\x7d' (fun rest => some
    ((Counts.ofBounds least none (skip verbose rest)).bounds,
      (Counts.ofBounds least none (skip verbose rest)).rest)) fun source =>
    (count? verbose source).bind fun taken =>
      if least ≤ taken.1 then closeBounds? verbose least (some taken.1) taken.2 else none

/-- Counts in braces. -/
def boundsTo? (verbose : Bool) : Reader Bounds := fun source =>
  (count? verbose (skip verbose source)).bind fun taken =>
    atMark ',' (fun rest => upperBound? verbose taken.1 (skip verbose rest))
      (closeBounds? verbose taken.1 (some taken.1)) taken.2

theorem closeBounds?_local (verbose : Bool) (least : Nat) (most : Option Nat) :
    Local (closeBounds? verbose least most) :=
  .atMark (by decide) ((ofBounds_local least most).afterSkip verbose) .nothing

theorem boundsTo?_local (verbose : Bool) : Local (boundsTo? verbose) := by
  have upper : ∀ least, Local (upperBound? verbose least) := fun least =>
    .atMark (by decide) ((ofBounds_local least none).afterSkip verbose) <|
      (count?_local verbose).bind fun most =>
        .ite (fun _ => closeBounds?_local verbose least (some most)) fun _ => .nothing
  have counted : ∀ least, Local (atMark ','
      (fun rest => upperBound? verbose least (skip verbose rest))
      (closeBounds? verbose least (some least))) := fun least =>
    .atMark (by decide) ((upper least).afterSkip verbose) (closeBounds?_local verbose least _)
  exact ((count?_local verbose).bind counted).afterSkip verbose

theorem upperBound?_eq (verbose : Bool) (least : Nat) (source : List Char) :
    Option.map (fun counts : Counts => (counts.bounds, counts.rest))
      (match source with
      | [] => none
      | '\x7d' :: rest => some (.ofBounds least none (skip verbose rest))
      | rest =>
        (count? verbose rest).bind fun taken =>
          match taken.2 with
          | '\x7d' :: rest =>
            if least ≤ taken.1 then some (.ofBounds least (some taken.1) (skip verbose rest))
            else none
          | _ => none) =
      upperBound? verbose least source := by
  cases source with
  | nil => cases verbose <;> rfl
  | cons c rest =>
      by_cases brace : c = '\x7d'
      · subst brace
        rfl
      · cases counted : count? verbose (c :: rest) with
        | none => simp [upperBound?, atMark, brace, counted]
        | some taken =>
            obtain ⟨most, after⟩ := taken
            cases after with
            | nil => simp [upperBound?, closeBounds?, atMark, brace, counted]
            | cons d after =>
                by_cases closing : d = '\x7d'
                · subst closing
                  by_cases ordered : least ≤ most <;>
                    simp [upperBound?, closeBounds?, atMark, brace, counted, ordered]
                · simp [upperBound?, closeBounds?, atMark, brace, counted, closing]

theorem counts?_eq (verbose : Bool) (source : List Char) :
    (counts? verbose source).map (fun counts => (counts.bounds, counts.rest)) =
      boundsTo? verbose source := by
  unfold counts? boundsTo?
  cases count? verbose (skip verbose source) with
  | none => rfl
  | some taken =>
      obtain ⟨least, rest⟩ := taken
      cases rest with
      | nil => rfl
      | cons c rest =>
          by_cases brace : c = '\x7d'
          · subst brace
            rfl
          by_cases comma : c = ','
          · subst comma
            exact upperBound?_eq verbose least (skip verbose rest)
          · simp [atMark, closeBounds?, brace, comma]

/-- There is nothing to count where the text ends, or at a parenthesis. -/
theorem counts?_of_skip {verbose : Bool} {source more : List Char}
    (left : skip verbose source = ')' :: more ∨ skip verbose source = []) :
    counts? verbose source = none := by
  have uncounted : count? verbose (skip verbose source) = none := by
    rcases left with close | nothing
    · simp [close, count?, isSpace_close, spanSkipping]
    · simp [nothing, count?, spanSkipping]
  rw [counts?, uncounted]
  rfl

end RuleTree.Pattern
