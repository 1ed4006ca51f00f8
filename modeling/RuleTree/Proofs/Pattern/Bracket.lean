import RuleTree.Proofs.Pattern.Items

/-!
Contract: the reader of bracketed classes stays before a closing parenthesis behind its text
or passes it.

Inside of brackets the parenthesis is a character like others. So the items of a class may
stay right before it where the text alone is not enough (`Nears`); but then it is the bracket
that is not closed, and what closes it stands behind the parenthesis.
-/

namespace RuleTree.Pattern

/-! ## Names of classes -/

theorem asciiClass?_letters {name : List Char} {kind : AsciiClass}
    (found : asciiClass? (String.ofList name) = some kind) : ')' ∉ name := by
  generalize text : String.ofList name = word at found
  have letters : ∀ word : String, String.ofList name = word → ')' ∉ word.toList → ')' ∉ name := by
    rintro _ rfl
    rw [String.toList_ofList]
    exact id
  refine letters word text ?_
  unfold asciiClass? at found
  split at found <;> first | decide | cases found

/-- A name up to its closing mark, after the opening one and the caret. -/
def asciiNamed? (negated : Bool) : Reader ClassTerm := fun source =>
  atMark ':'
    (atMark ']'
      (fun rest => (asciiClass? (String.ofList (source.takeWhile (· != ':')))).map fun kind =>
        (.ascii kind negated, rest))
      fun _ => none)
    (fun _ => none) (source.dropWhile (· != ':'))

/-- The same with both closing characters told apart at once. -/
def asciiClosed? (negated : Bool) (source : List Char) : Option (ClassTerm × List Char) :=
  match source.dropWhile (· != ':') with
  | ':' :: ']' :: rest =>
    (asciiClass? (String.ofList (source.takeWhile (· != ':')))).map fun kind =>
      (.ascii kind negated, rest)
  | _ => none

theorem asciiClosed?_eq (negated : Bool) (source : List Char) :
    asciiClosed? negated source = asciiNamed? negated source := by
  unfold asciiClosed? asciiNamed?
  generalize source.dropWhile (· != ':') = after
  cases after with
  | nil => rfl
  | cons c rest =>
      by_cases colon : c = ':'
      · subst colon
        cases rest with
        | nil => rfl
        | cons d rest =>
            by_cases bracket : d = ']'
            · subst bracket
              rfl
            · simp [atMark, bracket]
      · simp [atMark, colon]

theorem asciiName?_eq (source : List Char) :
    asciiName? source =
      atMark ':' (atMark '^' (asciiNamed? true) (asciiNamed? false)) (fun _ => none) source := by
  cases source with
  | nil => rfl
  | cons c rest =>
      by_cases colon : c = ':'
      · subst colon
        cases rest with
        | nil => rfl
        | cons d rest =>
            by_cases caret : d = '^'
            · subst caret
              exact asciiClosed?_eq true rest
            · simp only [asciiName?, atMark, caret, List.cons.injEq, false_and, imp_self,
                implies_true, reduceIte]
              exact asciiClosed?_eq false (d :: rest)
      · simp [asciiName?, atMark, colon]

theorem asciiNamed?_append (negated : Bool) (source more : List Char) :
    asciiNamed? negated (source ++ ')' :: more) =
      (asciiNamed? negated source).map fun taken => (taken.1, taken.2 ++ ')' :: more) := by
  cases found : source.dropWhile (· != ':') with
  | nil =>
      -- The name would have the parenthesis in it.
      have whole := List.takeWhile_append_dropWhile (p := (· != ':')) (l := source)
      rw [found, List.append_nil] at whole
      have inside : ')' ∈ (source ++ ')' :: more).takeWhile (· != ':') := by
        rw [List.takeWhile_append, if_pos (by rw [whole])]
        simp
      have nameless : asciiClass?
          (String.ofList ((source ++ ')' :: more).takeWhile (· != ':'))) = none := by
        refine Option.eq_none_iff_forall_ne_some.mpr fun kind named => ?_
        exact asciiClass?_letters named inside
      have nothing : ∀ after : List Char,
          atMark ':' (atMark ']' (fun _ => none) fun _ => none)
            (fun _ => (none : Option (ClassTerm × List Char))) after = none := by
        rintro (_ | ⟨_, _ | _⟩) <;> simp [atMark]
      unfold asciiNamed?
      rw [found, nameless]
      exact nothing _
  | cons mark after =>
      obtain ⟨before, ends⟩ := splitAt_append found (')' :: more)
      unfold asciiNamed?
      rw [found, before, ends]
      by_cases colon : mark = ':'
      · cases after with
        | nil => simp [atMark]
        | cons d after =>
            by_cases bracket : d = ']'
            · subst colon bracket
              simp only [atMark, List.cons_append, reduceIte, Option.map_map]
              rfl
            · simp [atMark, bracket]
      · simp [atMark, colon]

theorem asciiName?_append (source more : List Char) :
    asciiName? (source ++ ')' :: more) =
      (asciiName? source).map fun taken => (taken.1, taken.2 ++ ')' :: more) := by
  simp only [asciiName?_eq]
  cases source with
  | nil => rfl
  | cons c rest =>
      by_cases colon : c = ':'
      · cases rest with
        | nil => simpa [atMark, colon] using asciiNamed?_append false [] more
        | cons d rest =>
            by_cases caret : d = '^'
            · simpa [atMark, colon, caret] using asciiNamed?_append true rest more
            · simpa [atMark, colon, caret] using asciiNamed?_append false (d :: rest) more
      · simp [atMark, colon]

theorem asciiName?_shrinks : Shrinks asciiName? := by
  have named : ∀ negated, Shrinks (asciiNamed? negated) := by
    intro negated source item left read
    have closed : Shrinks fun rest =>
        (asciiClass? (String.ofList (source.takeWhile (· != ':')))).map fun kind =>
          (ClassTerm.ascii kind negated, rest) := by
      intro rest item left read
      obtain ⟨_, _, same⟩ := Option.map_eq_some_iff.mp read
      obtain ⟨-, rfl⟩ := Prod.mk.inj same
      exact List.suffix_refl rest
    have marks : Shrinks (atMark ':' (atMark ']' _ fun _ => none) fun _ => none) :=
      (closed.atMark Local.nothing.shrinks).atMark Local.nothing.shrinks
    exact (marks _ _ _ read).trans (List.dropWhile_suffix _)
  rw [funext asciiName?_eq]
  exact ((named true).atMark (named false)).atMark Local.nothing.shrinks

/-! ## The beginning of a class -/

theorem leadingHyphens_steps {verbose : Bool} {first second : Nat} {opened : OpenClass}
    {source : List Char} (enough : source.length ≤ first) (also : source.length ≤ second) :
    leadingHyphens verbose first opened source = leadingHyphens verbose second opened source := by
  induction first generalizing second opened source with
  | zero =>
      obtain rfl := List.length_eq_zero_iff.mp (Nat.le_zero.mp enough)
      cases second <;> rfl
  | succ first inductionHypothesis =>
      cases source with
      | nil => cases second <;> rfl
      | cons c rest =>
          obtain ⟨second, rfl⟩ := Nat.exists_eq_succ_of_ne_zero (Nat.ne_zero_of_lt also)
          by_cases hyphen : c = '-'
          · subst hyphen
            have shorter := (skip_suffix verbose rest).length_le
            exact inductionHypothesis (Nat.le_trans shorter (Nat.le_of_succ_le_succ enough))
              (Nat.le_trans shorter (Nat.le_of_succ_le_succ also))
          · simp [leadingHyphens, hyphen]

/-- The hyphens in front, as a reader. -/
def hyphens (verbose : Bool) (opened : OpenClass) : Reader OpenClass :=
  fun source => some (leadingHyphens verbose source.length opened source)

theorem hyphens_cons (verbose : Bool) (opened : OpenClass) (rest : List Char) :
    hyphens verbose opened ('-' :: rest) =
      hyphens verbose (opened.add (.literal ⟨'-', false⟩)) (skip verbose rest) :=
  congrArg some (leadingHyphens_steps (skip_suffix verbose rest).length_le (Nat.le_refl _))

theorem hyphens_other {verbose : Bool} {opened : OpenClass} {c : Char} (other : c ≠ '-')
    (rest : List Char) : hyphens verbose opened (c :: rest) = some (opened, c :: rest) := by
  simp [hyphens, leadingHyphens, other]

theorem hyphens_shrinks (verbose : Bool) (opened : OpenClass) :
    Shrinks (hyphens verbose opened) := by
  intro source item left read
  induction length : source.length using Nat.strongRecOn generalizing source opened with
  | _ _ inductionHypothesis =>
      subst length
      cases source with
      | nil =>
          cases read
          exact List.suffix_refl []
      | cons c rest =>
          by_cases hyphen : c = '-'
          · subst hyphen
            rw [hyphens_cons] at read
            have shorter := skip_suffix verbose rest
            refine .trans ?_ (shorter.trans (List.suffix_cons _ rest))
            exact inductionHypothesis _ (Nat.lt_succ_of_le shorter.length_le) _ _ read rfl
          · cases (hyphens_other hyphen rest).symm.trans read
            exact List.suffix_refl _

theorem hyphens_local (verbose : Bool) (opened : OpenClass) : Local (hyphens verbose opened) where
  shrinks := hyphens_shrinks verbose opened
  goes := by
    intro source
    induction length : source.length using Nat.strongRecOn generalizing source opened with
    | _ _ inductionHypothesis =>
        subst length
        cases source with
        | nil => exact .stays opened [] rfl fun more => by simp [hyphens, leadingHyphens]
        | cons c rest =>
            by_cases hyphen : c = '-'
            · subst hyphen
              have further := ((skipping_local verbose).goes rest).bind
                (fun _ => hyphens_shrinks verbose (opened.add (.literal ⟨'-', false⟩)))
                fun _ left skipped =>
                  inductionHypothesis left.length (Nat.lt_succ_of_le
                    ((skipping_local verbose).shrinks _ _ _ skipped).length_le) _ left rfl
              exact further.congr (hyphens_cons verbose opened rest)
                fun _ => hyphens_cons verbose opened _
            · exact .stays opened (c :: rest) (hyphens_other hyphen rest)
                fun _ => hyphens_other hyphen _

/-- A bracket behind the start of a class is an item of it. -/
def bracketFirst (verbose : Bool) (opened : OpenClass) (source : List Char) :
    OpenClass × List Char :=
  match opened.reversedItems, source with
  | [], ']' :: rest => (opened.add (.literal ⟨']', false⟩), skip verbose rest)
  | _, _ => (opened, source)

theorem bracketFirst_eq (verbose : Bool) (taken : OpenClass × List Char) :
    some (bracketFirst verbose taken.1 taken.2) =
      if taken.1.reversedItems = [] then
        atMark ']' (fun rest => some (taken.1.add (.literal ⟨']', false⟩), skip verbose rest))
          (fun source => some (taken.1, source)) taken.2
      else some (taken.1, taken.2) := by
  obtain ⟨opened, left⟩ := taken
  unfold bracketFirst
  cases items : opened.reversedItems with
  | cons item items => simp
  | nil =>
      cases left with
      | nil => rfl
      | cons c rest =>
          by_cases bracket : c = ']'
          · subst bracket
            rfl
          · simp [atMark, bracket]

theorem openClass_local (verbose : Bool) :
    Local fun source => some (openClass verbose source) := by
  have bracket : ∀ opened : OpenClass, Local fun source =>
      if opened.reversedItems = [] then
        atMark ']' (fun rest => some (opened.add (.literal ⟨']', false⟩), skip verbose rest))
          (fun source => some (opened, source)) source
      else some (opened, source) := fun opened =>
    .ite (fun _ => .atMark (by decide) (.thenSkip _ verbose) (.pure opened)) fun _ => .pure opened
  have body := fun negated => (hyphens_local verbose ⟨negated, none, []⟩).bind bracket
  have caret := Local.atMark (show '^' ≠ ')' by decide) ((body true).afterSkip verbose) (body false)
  refine (caret.afterSkip verbose).of_eq fun source => ?_
  unfold openClass
  generalize skip verbose source = start
  cases start with
  | nil => rfl
  | cons c rest =>
      by_cases caret : c = '^'
      · subst caret
        exact bracketFirst_eq verbose _
      · simp only [caret, List.cons.injEq, false_and, imp_self, implies_true]
        exact (bracketFirst_eq verbose _).trans (if_neg caret).symm

/-! ## Items and ranges -/

/-- What a reader within brackets does with a text when a closing parenthesis and more is put
behind: alone, the text is at its end behind what does not stay before the parenthesis. -/
inductive Nears {Item : Type} (read : Reader Item) (source : List Char) : Prop
  | stays (item : Item) (rest : List Char) (alone : read source = some (item, rest))
      (before : ∀ more, read (source ++ ')' :: more) = some (item, rest ++ ')' :: more))
  | passes (through : ∀ item rest, read source = some (item, rest) → rest = [])
      (beyond : ∀ more item rest, read (source ++ ')' :: more) = some (item, rest) →
        rest <:+ ')' :: more)

def literalChar? : Reader Atom
  | [] => none
  | c :: rest => some (.literal ⟨c, false⟩, rest)

/-- A reader that takes a character at least. -/
def Consumes {Item : Type} (read : Reader Item) : Prop :=
  ∀ source item left, read source = some (item, left) →
    ∃ c rest, source = c :: rest ∧ left <:+ rest

theorem Consumes.shrinks {Item : Type} {read : Reader Item} (consumes : Consumes read) :
    Shrinks read := by
  intro source item left taken
  obtain ⟨c, rest, rfl, shorter⟩ := consumes source item left taken
  exact shorter.trans (List.suffix_cons c rest)

theorem Consumes.atMark {Item : Type} {mark : Char} {marked other : Reader Item}
    (markedShrinks : Shrinks marked) (otherConsumes : Consumes other) :
    Consumes (atMark mark marked other) := by
  intro source item left taken
  cases source with
  | nil => exact otherConsumes _ _ _ taken
  | cons c rest =>
      change (if c = mark then marked rest else other (c :: rest)) = _ at taken
      split at taken
      · exact ⟨c, rest, rfl, markedShrinks _ _ _ taken⟩
      · exact otherConsumes _ _ _ taken

theorem Consumes.map {Item Other : Type} {read : Reader Item} (consumes : Consumes read)
    (f : Item → Other) :
    Consumes fun source => (read source).map fun taken => (f taken.1, taken.2) := by
  intro source item left taken
  obtain ⟨⟨_, _⟩, first, same⟩ := Option.map_eq_some_iff.mp taken
  obtain ⟨-, rfl⟩ := Prod.mk.inj same
  exact consumes _ _ _ first

theorem Goes.nears {Item : Type} {read : Reader Item} {source : List Char}
    (goes : Goes read source) : Nears read source := by
  cases goes with
  | stays item rest alone before => exact .stays item rest alone before
  | passes through beyond =>
      exact .passes (fun item rest taken => (through item rest taken).1)
        fun more item rest taken => (beyond more item rest taken).trans (List.suffix_cons ')' more)

theorem Nears.congr {Item : Type} {read other : Reader Item} {source start : List Char}
    (nears : Nears other start) (alone : read source = other start)
    (behind : ∀ more, read (source ++ ')' :: more) = other (start ++ ')' :: more)) :
    Nears read source := by
  cases nears with
  | stays item rest taken before =>
      exact .stays item rest (alone.trans taken) fun more => (behind more).trans (before more)
  | passes through beyond =>
      exact .passes (fun item rest taken => through item rest (alone ▸ taken))
        fun more item rest taken => beyond more item rest (behind more ▸ taken)

theorem Nears.bind {Item Other : Type} {read : Reader Item} {next : Item → Reader Other}
    {source : List Char} (goes : Goes read source) (nextShrinks : ∀ item, Shrinks (next item))
    (nextNears : ∀ item rest, Nears (next item) rest) :
    Nears (fun source => (read source).bind fun taken => next taken.1 taken.2) source := by
  cases goes with
  | stays item rest alone before =>
      refine (nextNears item rest).congr ?_ fun more => ?_
      · rw [alone, Option.bind_some]
      · rw [before, Option.bind_some]
  | passes through beyond =>
      refine .passes (fun _ _ taken => ?_) fun more _ _ taken => ?_
      · obtain ⟨⟨item, rest⟩, first, second⟩ := Option.bind_eq_some_iff.mp taken
        obtain ⟨rfl, -⟩ := through item rest first
        exact List.suffix_nil.mp (nextShrinks item _ _ _ second)
      · obtain ⟨⟨item, rest⟩, first, second⟩ := Option.bind_eq_some_iff.mp taken
        exact (nextShrinks item _ _ _ second).trans
          ((beyond more item rest first).trans (List.suffix_cons ')' more))

theorem Nears.map {Item Other : Type} {read : Reader Item} {source : List Char}
    (nears : Nears read source) (f : Item → Other) :
    Nears (fun source => (read source).map fun taken => (f taken.1, taken.2)) source := by
  cases nears with
  | stays item rest alone before =>
      exact .stays (f item) rest (by rw [alone]; rfl) fun more => by rw [before]; rfl
  | passes through beyond =>
      refine .passes (fun _ _ taken => ?_) fun more _ _ taken => ?_
      · obtain ⟨⟨_, _⟩, first, same⟩ := Option.map_eq_some_iff.mp taken
        obtain ⟨-, rfl⟩ := Prod.mk.inj same
        exact through _ _ first
      · obtain ⟨⟨_, _⟩, first, same⟩ := Option.map_eq_some_iff.mp taken
        obtain ⟨-, rfl⟩ := Prod.mk.inj same
        exact beyond _ _ _ first

theorem Nears.atMark {Item : Type} {mark : Char} {marked other : Reader Item}
    (isOther : mark ≠ ')') (markedNears : ∀ rest, Nears marked rest)
    (otherNears : ∀ source, Nears other source) (source : List Char) :
    Nears (atMark mark marked other) source := by
  cases source with
  | nil => exact (otherNears []).congr rfl fun _ => if_neg isOther.symm
  | cons c source =>
      by_cases same : c = mark
      · exact (markedNears source).congr (if_pos same) fun _ => if_pos same
      · exact (otherNears (c :: source)).congr (if_neg same) fun _ => if_neg same

/-- An escape, but no word boundary. -/
def plainEscape? (verbose : Bool) : Reader Atom :=
  atMark 'b' (fun _ => none) (escape? verbose)

/-- A character or an escape, but no word boundary. -/
def plainAtom? (verbose : Bool) : Reader Atom :=
  atMark '\\' (plainEscape? verbose) literalChar?

theorem plainEscape?_local (verbose : Bool) : Local (plainEscape? verbose) := by
  have escapes : ∀ c : Char, Local fun rest =>
      if c = 'b' then none else escape? verbose (c :: rest) := fun _ =>
    .ite (fun _ => .nothing) fun other => escape?_local verbose other
  exact .byFirst escapes rfl fun _ _ => rfl

theorem plainAtom?_consumes (verbose : Bool) : Consumes (plainAtom? verbose) := by
  refine Consumes.atMark (plainEscape?_local verbose).shrinks ?_
  rintro (_ | ⟨c, rest⟩) item left ⟨⟩
  exact ⟨c, rest, rfl, List.suffix_refl rest⟩

theorem plainAtom?_local (verbose : Bool) : Local (plainAtom? verbose) :=
  .atMark (by decide) (plainEscape?_local verbose)
    (.byFirst (fun c => .pure (Atom.literal ⟨c, false⟩)) rfl fun _ _ => rfl)

/-- A word boundary is read as an atom but stands for no character. -/
theorem classAtom?_eq (verbose : Bool) (source : List Char) :
    classAtom? verbose source = plainAtom? verbose source ∨
      plainAtom? verbose source = none ∧ ∀ atom left,
        classAtom? verbose source = some (atom, left) → ∃ sign, atom = .assertion sign := by
  cases source with
  | nil => exact .inl rfl
  | cons c rest =>
      by_cases slash : c = '\\'
      · subst slash
        cases rest with
        | nil => exact .inl rfl
        | cons d rest =>
            by_cases boundary : d = 'b'
            · subst boundary
              refine .inr ⟨rfl, fun atom left read => ?_⟩
              obtain ⟨⟨sign, _⟩, -, same⟩ := Option.map_eq_some_iff.mp read
              exact ⟨sign, (Prod.mk.inj same).1.symm⟩
            · refine .inl ?_
              simp [classAtom?, plainAtom?, plainEscape?, atMark, boundary]
      · refine .inl ?_
        simp [classAtom?, plainAtom?, literalChar?, atMark, slash]

def rangeTo? : Atom → Atom → Option ClassTerm
  | .literal first, .literal last =>
    if first.char ≤ last.char then some (.range first last) else none
  | _, _ => none

/-- The second end of a range. -/
def rangeEnd? (verbose : Bool) (first : Atom) : Reader ClassTerm := fun source =>
  (plainAtom? verbose source).bind fun taken => (rangeTo? first taken.1).map (·, taken.2)

/-- What follows the first atom of an item. -/
def rangeAfter? (verbose : Bool) (first : Atom) : Reader ClassTerm
  | [] => none
  | c :: rest =>
    if c != '-' || peek? verbose rest == some ']' || peek? verbose rest == some '-' then
      (classItem? first).map (·, c :: rest)
    else rangeEnd? verbose first (skip verbose rest)

theorem rangeAfter?_assertion (verbose : Bool) (sign : AssertionSign) (source : List Char) :
    rangeAfter? verbose (.assertion sign) source = none := by
  cases source with
  | nil => rfl
  | cons c rest =>
      rw [rangeAfter?, rangeEnd?]
      split
      · rfl
      · cases plainAtom? verbose (skip verbose rest) <;> rfl

/-- What stands behind the first atom of an item, with a further atom of any kind. -/
def rangeBehind? (verbose : Bool) (first : Atom) : Reader ClassTerm := fun source =>
  match source with
  | [] => none
  | c :: rest =>
    if c != '-' || peek? verbose rest == some ']' || peek? verbose rest == some '-' then
      (classItem? first).bind fun item => some (item, source)
    else (classAtom? verbose (skip verbose rest)).bind fun taken =>
      match first, taken.1 with
      | .literal first, .literal last =>
        if first.char ≤ last.char then some (.range first last, taken.2) else none
      | _, _ => none

/-- A further atom that is an assertion ends no range, and so it can be left out. -/
theorem rangeBehind?_eq (verbose : Bool) (first : Atom) (source : List Char) :
    rangeBehind? verbose first source = rangeAfter? verbose first source := by
  cases source with
  | nil => rfl
  | cons c rest =>
      dsimp only [rangeAfter?, rangeBehind?]
      split
      · cases classItem? first <;> rfl
      · unfold rangeEnd?
        rcases classAtom?_eq verbose (skip verbose rest) with same | ⟨nothing, place⟩
        · rw [same]
          cases plainAtom? verbose (skip verbose rest) with
          | none => rfl
          | some taken =>
              obtain ⟨last, left⟩ := taken
              cases first <;> cases last <;> try rfl
              dsimp only [rangeTo?, Option.bind_some]
              split <;> rfl
        · rw [nothing]
          cases read : classAtom? verbose (skip verbose rest) with
          | none => rfl
          | some taken =>
              obtain ⟨last, left⟩ := taken
              obtain ⟨sign, rfl⟩ := place last left read
              cases first <;> rfl

theorem classRange?_eq (verbose : Bool) (source : List Char) :
    classRange? verbose source = (plainAtom? verbose source).bind fun taken =>
      rangeAfter? verbose taken.1 (skip verbose taken.2) := by
  unfold classRange?
  rcases classAtom?_eq verbose source with same | ⟨nothing, place⟩
  · rw [same]
    cases plainAtom? verbose source with
    | none => rfl
    | some taken => exact rangeBehind?_eq verbose taken.1 _
  · rw [nothing]
    cases read : classAtom? verbose source with
    | none => rfl
    | some taken =>
        obtain ⟨first, left⟩ := taken
        obtain ⟨sign, rfl⟩ := place first left read
        exact (rangeBehind?_eq verbose _ _).trans (rangeAfter?_assertion verbose sign _)

theorem rangeEnd?_local (verbose : Bool) (first : Atom) : Local (rangeEnd? verbose first) := by
  have ranges : ∀ last, Local fun rest => (rangeTo? first last).map (·, rest) := by
    intro last
    cases rangeTo? first last with
    | none => exact .nothing
    | some item => exact .pure item
  exact (plainAtom?_local verbose).bind ranges

theorem rangeAfter?_shrinks (verbose : Bool) (first : Atom) :
    Shrinks (rangeAfter? verbose first) := by
  intro source item left read
  cases source with
  | nil => cases read
  | cons c rest =>
      rw [rangeAfter?] at read
      split at read
      · obtain ⟨_, -, same⟩ := Option.map_eq_some_iff.mp read
        obtain ⟨-, rfl⟩ := Prod.mk.inj same
        exact List.suffix_refl _
      · exact ((rangeEnd?_local verbose first).shrinks _ _ _ read).trans
          ((skip_suffix verbose rest).trans (List.suffix_cons c rest))

/-- Looking ahead for a bracket or a hyphen does not see a parenthesis at the end. -/
theorem peek?_append {verbose : Bool} {source : List Char} {c : Char}
    (visible : isSpace c = false) (noComment : c ≠ '#') (other : c ≠ ')') (more : List Char) :
    peek? verbose (source ++ ')' :: more) = some c ↔ peek? verbose source = some c := by
  have first : ∀ source : List Char, (source ++ ')' :: more).head? = some c ↔
      source.head? = some c := by
    rintro (_ | ⟨d, source⟩)
    · simp [Ne.symm other]
    · rfl
  cases verbose with
  | false => exact first source
  | true =>
      -- What is seen when nothing else follows is white space or the mark of a comment.
      have kept : source.head? = some c → ∃ rest, source.dropWhile isSpace = c :: rest := by
        intro head
        obtain ⟨rest, rfl⟩ := List.head?_eq_some_iff.mp head
        exact ⟨rest, List.dropWhile_cons_of_neg (by simp [visible])⟩
      simp only [peek?, if_true, dropSpaces_append]
      cases dropped : source.dropWhile isSpace with
      | nil =>
          have hidden : source.head? ≠ some c := by
            intro head
            obtain ⟨rest, same⟩ := kept head
            exact nomatch same.symm.trans dropped
          simp [hidden, Ne.symm other]
      | cons mark after =>
          by_cases comment : mark = '#'
          · subst comment
            have hidden : source.head? ≠ some c := by
              intro head
              obtain ⟨rest, same⟩ := kept head
              exact noComment (List.cons.inj (same.symm.trans dropped)).1
            simp only [List.cons_append, dropSpaces_append]
            cases after.dropWhile isSpace with
            | nil => simp [hidden, Ne.symm other]
            | cons d after => simp
          · simp [comment]

/-- An item stays before the parenthesis or right at it. -/
theorem rangeAfter?_nears (verbose : Bool) (first : Atom) (source : List Char) :
    Nears (rangeAfter? verbose first) source := by
  cases source with
  | nil =>
      exact .passes nofun fun more item rest taken => rangeAfter?_shrinks verbose first _ _ _ taken
  | cons c rest =>
      have ahead : ∀ d, isSpace d = false → d ≠ '#' → d ≠ ')' → ∀ more,
          (peek? verbose (rest ++ ')' :: more) == some d) = (peek? verbose rest == some d) := by
        intro d visible noComment other more
        rw [Bool.eq_iff_iff, beq_iff_eq, beq_iff_eq]
        exact peek?_append visible noComment other more
      have bracket := ahead ']' (by decide +kernel) (by decide) (by decide)
      have hyphen := ahead '-' (by decide +kernel) (by decide) (by decide)
      by_cases single :
          (c != '-' || peek? verbose rest == some ']' || peek? verbose rest == some '-') = true
      · have alone : rangeAfter? verbose first (c :: rest) =
            (classItem? first).map (·, c :: rest) := if_pos single
        have behind : ∀ more, rangeAfter? verbose first (c :: (rest ++ ')' :: more)) =
            (classItem? first).map (·, c :: (rest ++ ')' :: more)) := by
          intro more
          rw [rangeAfter?, bracket, hyphen, if_pos single]
        cases isItem : classItem? first with
        | none =>
            rw [isItem] at alone behind
            exact (Goes.fails alone behind).nears
        | some item =>
            rw [isItem] at alone behind
            exact .stays item (c :: rest) alone behind
      · refine (((rangeEnd?_local verbose first).afterSkip verbose).goes rest).nears.congr
          (if_neg single) fun more => ?_
        rw [List.cons_append, rangeAfter?, bracket, hyphen, if_neg single]

theorem classRange?_nears (verbose : Bool) (source : List Char) :
    Nears (classRange? verbose) source := by
  have shrinks : ∀ first, Shrinks fun rest => rangeAfter? verbose first (skip verbose rest) :=
    fun first rest item left read =>
      (rangeAfter?_shrinks verbose first _ _ _ read).trans (skip_suffix verbose rest)
  have after := Nears.bind ((plainAtom?_local verbose).goes source) shrinks
    fun first rest => Nears.bind ((skipping_local verbose).goes rest)
      (fun _ => rangeAfter?_shrinks verbose first) fun _ => rangeAfter?_nears verbose first
  exact after.congr (classRange?_eq verbose source) fun more => classRange?_eq verbose _

/-- An item has a character at least. -/
theorem classRange?_consumes (verbose : Bool) : Consumes (classRange? verbose) := by
  intro source item left read
  rw [classRange?_eq] at read
  obtain ⟨⟨first, middle⟩, atom, after⟩ := Option.bind_eq_some_iff.mp read
  obtain ⟨c, rest, rfl, shorter⟩ := plainAtom?_consumes verbose _ _ _ atom
  exact ⟨c, rest, rfl, (rangeAfter?_shrinks verbose first _ _ _ after).trans
    ((skip_suffix verbose middle).trans shorter)⟩

/-! ## Whole classes -/

section Moves

variable (verbose : Bool) (inner : OpenClass) (outer : List OpenClass)

/-- A pair of characters that is an operation on sets. -/
def operator (mark : Char) (operation : SetOperation)
    (other : Reader (OpenClass × List OpenClass)) : Reader (OpenClass × List OpenClass) :=
  atMark mark
    (atMark mark (fun rest => some ((inner.operate operation, outer), rest))
      fun rest => other (mark :: rest))
    other

/-- What follows a bracket within a class. -/
def nested (rest : List Char) : Option ((OpenClass × List OpenClass) × List Char) :=
  match asciiName? rest with
  | some (item, rest) => some ((inner.add item, outer), rest)
  | none => some (((openClass verbose rest).1, inner :: outer), (openClass verbose rest).2)

/-- What follows the bracket that closes a class within a class. -/
def closeNested? (rest : List Char) : Option ((OpenClass × List OpenClass) × List Char) :=
  match outer with
  | [] => none
  | next :: outer => some ((next.add (.bracketed inner.negated inner.contents), outer), rest)

/-- One move of the reader of classes, from after white space, but for the last bracket. -/
def classMove? : Reader (OpenClass × List OpenClass) :=
  atMark '[' (nested verbose inner outer) <|
  atMark ']' (closeNested? inner outer) <|
  operator inner outer '&' .intersection <|
  operator inner outer '-' .difference <|
  operator inner outer '~' .symmetricDifference
    fun source => (classRange? verbose source).map fun taken =>
      ((inner.add taken.1, outer), taken.2)

theorem operator_consumes (mark : Char) (operation : SetOperation)
    {other : Reader (OpenClass × List OpenClass)} (otherConsumes : Consumes other) :
    Consumes (operator inner outer mark operation other) := by
  have single : Shrinks fun rest => other (mark :: rest) := by
    intro source item left read
    obtain ⟨_, _, same, shorter⟩ := otherConsumes _ _ _ read
    exact (List.cons.inj same).2 ▸ shorter
  have pair := Local.pure (inner.operate operation, outer)
  exact .atMark (pair.shrinks.atMark single) otherConsumes

theorem operator_nears {mark : Char} (isOther : mark ≠ ')') (operation : SetOperation)
    {other : Reader (OpenClass × List OpenClass)} (otherNears : ∀ source, Nears other source)
    (source : List Char) : Nears (operator inner outer mark operation other) source := by
  have pair := Local.pure (inner.operate operation, outer)
  have single : ∀ rest, Nears (fun rest => other (mark :: rest)) rest := fun rest =>
    (otherNears (mark :: rest)).congr rfl fun _ => rfl
  exact .atMark isOther (.atMark isOther (fun rest => (pair.goes rest).nears) single)
    otherNears source

theorem nested_local : Local (nested verbose inner outer) where
  shrinks := by
    intro source item left read
    unfold nested at read
    split at read
    · next named =>
        cases read
        exact asciiName?_shrinks _ _ _ named
    · cases read
      exact (openClass_local verbose).shrinks _ _ _ rfl
  goes := by
    intro source
    cases named : asciiName? source with
    | some taken =>
        refine .stays (inner.add taken.1, outer) taken.2 (by rw [nested, named]) fun more => ?_
        rw [nested, asciiName?_append, named]
        rfl
    | none =>
        refine (((openClass_local verbose).map (·, inner :: outer)).goes source).congr
          (by rw [nested, named]; rfl) fun more => ?_
        rw [nested, asciiName?_append, named]
        rfl

theorem closeNested?_local : Local (closeNested? inner outer) := by
  cases outer with
  | nil => exact .nothing
  | cons next outer => exact .pure _

theorem classMove?_consumes : Consumes (classMove? verbose inner outer) :=
  .atMark (nested_local verbose inner outer).shrinks <|
    .atMark (closeNested?_local inner outer).shrinks <|
    operator_consumes inner outer _ _ <| operator_consumes inner outer _ _ <|
    operator_consumes inner outer _ _ <|
      (classRange?_consumes verbose).map fun item => (inner.add item, outer)

theorem classMove?_nears (source : List Char) : Nears (classMove? verbose inner outer) source := by
  have items := fun source => (classRange?_nears verbose source).map
    fun item => (inner.add item, outer)
  have operators := operator_nears inner outer (show '&' ≠ ')' by decide) .intersection <|
    operator_nears inner outer (show '-' ≠ ')' by decide) .difference <|
    operator_nears inner outer (show '~' ≠ ')' by decide) .symmetricDifference items
  exact .atMark (by decide) (fun rest => ((nested_local verbose inner outer).goes rest).nears)
    (.atMark (by decide) (fun rest => ((closeNested?_local inner outer).goes rest).nears)
      operators) source

end Moves

theorem classFrom?_close {verbose : Bool} {source rest : List Char}
    (bracket : skip verbose source = ']' :: rest) (steps : Nat) (inner : OpenClass) :
    classFrom? verbose (steps + 1) inner [] source =
      some (.bracketed inner.negated inner.contents, rest) := by
  simp only [classFrom?, bracket]

theorem classFrom?_move {verbose : Bool} {outer : List OpenClass} {source : List Char}
    (isOpen : ∀ rest, skip verbose source = ']' :: rest → outer ≠ []) (steps : Nat)
    (inner : OpenClass) :
    classFrom? verbose (steps + 1) inner outer source =
      (classMove? verbose inner outer (skip verbose source)).bind fun taken =>
        classFrom? verbose steps taken.1.1 taken.1.2 taken.2 := by
  rw [classFrom?]
  generalize skip verbose source = start at isOpen ⊢
  cases start with
  | nil => rfl
  | cons c rest =>
      by_cases opening : c = '['
      · subst opening
        simp only [classMove?, atMark, nested, reduceIte]
        cases asciiName? rest <;> rfl
      by_cases closing : c = ']'
      · subst closing
        cases outer with
        | nil => exact absurd rfl (isOpen rest rfl)
        | cons next outer => rfl
      by_cases ampersand : c = '&'
      · subst ampersand
        rcases rest with _ | ⟨d, rest⟩
        · cases read : classRange? verbose ['&'] <;> simp [classMove?, operator, atMark, read]
        by_cases twice : d = '&'
        · subst twice
          rfl
        · cases read : classRange? verbose ('&' :: d :: rest) <;>
            simp [classMove?, operator, atMark, twice, read]
      by_cases hyphen : c = '-'
      · subst hyphen
        rcases rest with _ | ⟨d, rest⟩
        · cases read : classRange? verbose ['-'] <;> simp [classMove?, operator, atMark, read]
        by_cases twice : d = '-'
        · subst twice
          rfl
        · cases read : classRange? verbose ('-' :: d :: rest) <;>
            simp [classMove?, operator, atMark, twice, read]
      by_cases tilde : c = '~'
      · subst tilde
        rcases rest with _ | ⟨d, rest⟩
        · cases read : classRange? verbose ['~'] <;> simp [classMove?, operator, atMark, read]
        by_cases twice : d = '~'
        · subst twice
          rfl
        · cases read : classRange? verbose ('~' :: d :: rest) <;>
            simp [classMove?, operator, atMark, twice, read]
      · cases read : classRange? verbose (c :: rest) <;>
          simp [classMove?, operator, atMark, opening, closing, ampersand, hyphen, tilde, read]

/-- The last bracket of a class is the last character that is read. -/
theorem classFrom?_bracket {verbose : Bool} {steps : Nat} {inner : OpenClass}
    {outer : List OpenClass} {source left : List Char} {term : Term}
    (read : classFrom? verbose steps inner outer source = some (term, left)) :
    ']' :: left <:+ skip verbose source := by
  induction steps generalizing inner outer source with
  | zero => cases read
  | succ steps inductionHypothesis =>
      by_cases last : outer = [] ∧ ∃ rest, skip verbose source = ']' :: rest
      · obtain ⟨rfl, rest, bracket⟩ := last
        cases (classFrom?_close bracket steps inner).symm.trans read
        exact bracket.symm ▸ List.suffix_refl (']' :: left)
      · rw [classFrom?_move fun rest bracket nothing => last ⟨nothing, rest, bracket⟩] at read
        obtain ⟨⟨state, rest⟩, move, further⟩ := Option.bind_eq_some_iff.mp read
        exact (inductionHypothesis further).trans ((skip_suffix verbose rest).trans
          ((classMove?_consumes verbose inner outer).shrinks _ _ _ move))

theorem classMove?_shorter {verbose : Bool} {inner : OpenClass} {outer : List OpenClass}
    {source : List Char} {taken : (OpenClass × List OpenClass) × List Char}
    (move : classMove? verbose inner outer (skip verbose source) = some taken) :
    taken.2.length < source.length := by
  obtain ⟨c, rest, skipped, shorter⟩ := classMove?_consumes verbose inner outer _ _ _ move
  have whole := (skip_suffix verbose source).length_le
  rw [skipped, List.length_cons] at whole
  exact Nat.lt_of_le_of_lt shorter.length_le whole

theorem classFrom?_steps {verbose : Bool} {first second : Nat} {inner : OpenClass}
    {outer : List OpenClass} {source : List Char} (enough : source.length < first)
    (also : source.length < second) :
    classFrom? verbose first inner outer source = classFrom? verbose second inner outer source := by
  induction first generalizing second inner outer source with
  | zero => exact absurd enough (Nat.not_lt_zero _)
  | succ first inductionHypothesis =>
      obtain ⟨second, rfl⟩ := Nat.exists_eq_succ_of_ne_zero (Nat.ne_zero_of_lt also)
      by_cases last : outer = [] ∧ ∃ rest, skip verbose source = ']' :: rest
      · obtain ⟨rfl, rest, bracket⟩ := last
        rw [classFrom?_close bracket, classFrom?_close bracket]
      · have isOpen := fun rest bracket nothing => last ⟨nothing, rest, bracket⟩
        rw [classFrom?_move isOpen, classFrom?_move isOpen]
        refine Option.bind_congr fun taken move => ?_
        have fewer := classMove?_shorter move
        exact inductionHypothesis (Nat.lt_of_lt_of_le fewer (Nat.le_of_lt_succ enough))
          (Nat.lt_of_lt_of_le fewer (Nat.le_of_lt_succ also))

/-- Reading a class to its end, with steps enough. -/
def classToEnd? (verbose : Bool) (inner : OpenClass) (outer : List OpenClass) : Reader Term :=
  fun source => classFrom? verbose (source.length + 1) inner outer source

theorem classToEnd?_move {verbose : Bool} {inner : OpenClass} {outer : List OpenClass}
    {source : List Char} (isOpen : ∀ rest, skip verbose source = ']' :: rest → outer ≠ []) :
    classToEnd? verbose inner outer source =
      (classMove? verbose inner outer (skip verbose source)).bind fun taken =>
        classToEnd? verbose taken.1.1 taken.1.2 taken.2 := by
  rw [classToEnd?, classFrom?_move isOpen]
  exact Option.bind_congr fun taken move =>
    classFrom?_steps (classMove?_shorter move) (Nat.lt_succ_self _)

/-- What a class leaves is behind the parenthesis if its last bracket is. -/
theorem suffix_of_bracket {left more : List Char} (bracket : ']' :: left <:+ ')' :: more) :
    left <:+ more := by
  rcases List.suffix_cons_iff.mp bracket with same | shorter
  · exact nomatch (List.cons.inj same).1
  · exact (List.suffix_cons _ left).trans shorter

theorem classToEnd?_nil (verbose : Bool) (inner : OpenClass) (outer : List OpenClass) :
    classToEnd? verbose inner outer [] = none := by
  cases verbose <;> rfl

/-- The class is read on after a move, from fewer characters. -/
theorem classToEnd?_goes_of_move {verbose : Bool} {inner : OpenClass} {outer : List OpenClass}
    {source rest : List Char} {c : Char} (skipped : skip verbose source = c :: rest)
    (behind : ∀ more, skip verbose (source ++ ')' :: more) = c :: rest ++ ')' :: more)
    (isOpen : ¬(outer = [] ∧ c = ']'))
    (further : ∀ inner outer left, left.length < source.length →
      Goes (classToEnd? verbose inner outer) left) :
    Goes (classToEnd? verbose inner outer) source := by
  have alone : classToEnd? verbose inner outer source =
      (classMove? verbose inner outer (c :: rest)).bind fun taken =>
        classToEnd? verbose taken.1.1 taken.1.2 taken.2 := by
    rw [classToEnd?_move, skipped]
    intro others bracket nothing
    exact isOpen ⟨nothing, (List.cons.inj (skipped.symm.trans bracket)).1⟩
  have before : ∀ more, classToEnd? verbose inner outer (source ++ ')' :: more) =
      (classMove? verbose inner outer (c :: rest ++ ')' :: more)).bind fun taken =>
        classToEnd? verbose taken.1.1 taken.1.2 taken.2 := by
    intro more
    rw [classToEnd?_move, behind]
    intro others bracket nothing
    exact isOpen ⟨nothing, (List.cons.inj ((behind more).symm.trans bracket)).1⟩
  cases classMove?_nears verbose inner outer (c :: rest) with
  | stays state left moved movedBefore =>
      have fewer : left.length < source.length := classMove?_shorter (skipped.symm ▸ moved)
      refine (further state.1 state.2 left fewer).congr ?_ fun more => ?_
      · rw [alone, moved, Option.bind_some]
      · rw [before, movedBefore, Option.bind_some]
  | passes through beyond =>
      refine .of_none ?_ fun more term left read => ?_
      · rw [alone, Option.bind_eq_none_iff]
        intro taken moved
        rw [through _ _ moved]
        exact classToEnd?_nil verbose _ _
      · rw [before] at read
        obtain ⟨taken, moved, further⟩ := Option.bind_eq_some_iff.mp read
        exact suffix_of_bracket ((classFrom?_bracket further).trans
          ((skip_suffix verbose _).trans (beyond more _ _ moved)))

theorem classToEnd?_local (verbose : Bool) (inner : OpenClass) (outer : List OpenClass) :
    Local (classToEnd? verbose inner outer) where
  shrinks := fun source term left read =>
    (List.suffix_cons _ left).trans ((classFrom?_bracket read).trans (skip_suffix verbose source))
  goes := by
    intro source
    -- Every move of the reader takes a character at least (`classMove?_shorter`).
    induction length : source.length using Nat.strongRecOn generalizing source inner outer with
    | _ _ inductionHypothesis =>
        subst length
        cases (skipping_local verbose).goes source with
        | passes through beyond =>
            have nothing : skip verbose source = [] := (through _ _ rfl).1
            refine .of_none ?_ fun more term left read => ?_
            · rw [classToEnd?, classFrom?, nothing]
            · exact ((List.suffix_cons _ left).trans (classFrom?_bracket read)).trans
                (beyond more () _ rfl)
        | stays _ start alone before =>
            have skipped : skip verbose source = start := congrArg Prod.snd (Option.some.inj alone)
            have behind : ∀ more, skip verbose (source ++ ')' :: more) = start ++ ')' :: more :=
              fun more => congrArg Prod.snd (Option.some.inj (before more))
            cases start with
            | nil =>
                refine .of_none ?_ fun more term left read => ?_
                · rw [classToEnd?, classFrom?, skipped]
                · have bracket := classFrom?_bracket read
                  rw [behind] at bracket
                  exact suffix_of_bracket bracket
            | cons c rest =>
                by_cases last : outer = [] ∧ c = ']'
                · obtain ⟨rfl, rfl⟩ := last
                  exact .stays _ rest (classFrom?_close skipped _ inner)
                    fun more => classFrom?_close (behind more) _ inner
                exact classToEnd?_goes_of_move skipped behind last fun inner outer left fewer =>
                  inductionHypothesis left.length fewer inner outer left rfl

theorem class?_local (verbose : Bool) : Local (class? verbose) := by
  refine ((openClass_local verbose).bind fun opened =>
    classToEnd?_local verbose opened []).of_eq fun source => ?_
  have shorter := ((openClass_local verbose).shrinks source _ _ rfl).length_le
  exact classFrom?_steps (Nat.lt_succ_of_le shorter) (Nat.lt_succ_self _)

end RuleTree.Pattern
