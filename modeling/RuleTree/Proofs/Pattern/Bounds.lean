import RuleTree.Pattern.Whole
import RuleTree.Proofs.Pattern.Reading
import RuleTree.Proofs.Pattern.Span

/-!
Contract: the bounds of repetitions are in order in every expression that a text stands for.

The grammar refuses a range of counts whose end is below its beginning. Every step of the
reader keeps the bounds in order, and the meaning of a term has the bounds of the term.
-/

namespace RuleTree.Pattern

/-! ## Terms -/

mutual

/-- The bounds of all repetitions are in order. -/
def Term.Ordered : Term → Prop
  | .repetition sub least most _ => Within least most least ∧ sub.Ordered
  | .group _ sub => sub.Ordered
  | .alternation branches => Term.AllOrdered branches
  | .concat items => Term.AllOrdered items
  | _ => True

def Term.AllOrdered : List Term → Prop
  | [] => True
  | term :: terms => term.Ordered ∧ Term.AllOrdered terms

end

namespace Term

theorem allOrdered_iff {terms : List Term} :
    AllOrdered terms ↔ ∀ term ∈ terms, term.Ordered := by
  induction terms with
  | nil => simp [AllOrdered]
  | cons term terms inductionHypothesis => simp [AllOrdered, inductionHypothesis]

theorem ordered_ofItems {terms : List Term} (ordered : ∀ term ∈ terms, term.Ordered) :
    (ofItems terms).Ordered := by
  rcases terms with _ | ⟨term, _ | ⟨next, terms⟩⟩
  · trivial
  · exact ordered term (List.mem_singleton_self term)
  · exact allOrdered_iff.mpr ordered

theorem ordered_ofBranches {terms : List Term} (ordered : ∀ term ∈ terms, term.Ordered) :
    (ofBranches terms).Ordered := by
  rcases terms with _ | ⟨term, _ | ⟨next, terms⟩⟩
  · trivial
  · exact ordered term (List.mem_singleton_self term)
  · exact allOrdered_iff.mpr ordered

end Term

/-! ## The reader -/

/-- All that has been read of a group has its bounds in order. -/
structure OpenGroup.Ordered (group : OpenGroup) : Prop where
  branches : ∀ term ∈ group.reversedBranches, term.Ordered
  items : ∀ term ∈ group.reversedItems, term.Ordered

structure ReaderState.Ordered (state : ReaderState) : Prop where
  inner : state.inner.Ordered
  outer : ∀ group ∈ state.outer, group.Ordered

namespace OpenGroup.Ordered

variable {group : OpenGroup}

theorem start (sign : GroupSign) (verboseOutside : Bool) :
    (OpenGroup.start sign verboseOutside).Ordered :=
  ⟨nofun, nofun⟩

theorem add (ordered : group.Ordered) {item : Term} (itemOrdered : item.Ordered) :
    (group.add item).Ordered :=
  ⟨ordered.branches, List.forall_mem_cons.mpr ⟨itemOrdered, ordered.items⟩⟩

theorem current (ordered : group.Ordered) : (Term.ofItems group.reversedItems.reverse).Ordered :=
  Term.ordered_ofItems fun term member => ordered.items term (List.mem_reverse.mp member)

theorem branch (ordered : group.Ordered) : group.branch.Ordered :=
  ⟨List.forall_mem_cons.mpr ⟨ordered.current, ordered.branches⟩, nofun⟩

theorem contents (ordered : group.Ordered) : group.contents.Ordered := by
  refine Term.ordered_ofBranches fun term member => ?_
  rcases List.mem_cons.mp (List.mem_reverse.mp member) with rfl | before
  · exact ordered.current
  · exact ordered.branches term before

theorem repeatLast? (ordered : group.Ordered) {least : Nat} {most : Option Nat} {lazy : Bool}
    (bounds : Within least most least) {repeated : OpenGroup}
    (isRepeated : group.repeatLast? least most lazy = some repeated) : repeated.Ordered := by
  unfold OpenGroup.repeatLast? at isRepeated
  split at isRepeated
  · cases isRepeated
  · cases isRepeated
  · cases isRepeated
  · next last items _ _ read =>
      cases isRepeated
      have both := List.forall_mem_cons.mp (read ▸ ordered.items)
      exact ⟨ordered.branches, List.forall_mem_cons.mpr ⟨⟨bounds, both.1⟩, both.2⟩⟩

end OpenGroup.Ordered

theorem ofBounds_within {least : Nat} {most : Option Nat} (within : Within least most least)
    (source : List Char) :
    Within (Counts.ofBounds least most source).least (Counts.ofBounds least most source).most
      (Counts.ofBounds least most source).least := by
  unfold Counts.ofBounds
  split <;> exact within

theorem counts?_within {verbose : Bool} {source : List Char} {counts : Counts}
    (read : counts? verbose source = some counts) :
    Within counts.least counts.most counts.least := by
  have open_end : ∀ least, Within least none least := fun least => ⟨Nat.le_refl least, nofun⟩
  have closed_end : ∀ {least most : Nat}, least ≤ most → Within least (some most) least :=
    fun ordered => ⟨Nat.le_refl _, fun _ same => Option.some.inj same ▸ ordered⟩
  unfold counts? at read
  obtain ⟨⟨least, rest⟩, -, read⟩ := Option.bind_eq_some_iff.mp read
  dsimp only at read
  split at read
  · obtain rfl := Option.some.inj read
    exact ofBounds_within (closed_end (Nat.le_refl least)) _
  · split at read
    · cases read
    · obtain rfl := Option.some.inj read
      exact ofBounds_within (open_end least) _
    · obtain ⟨⟨most, rest⟩, -, read⟩ := Option.bind_eq_some_iff.mp read
      dsimp only at read
      split at read
      · split at read
        · next ordered =>
            obtain rfl := Option.some.inj read
            exact ofBounds_within (closed_end ordered) _
        · cases read
      · cases read
  · cases read

theorem classFrom?_ordered {verbose : Bool} {steps : Nat} {inner : OpenClass}
    {outer : List OpenClass} {source left : List Char} {term : Term}
    (read : classFrom? verbose steps inner outer source = some (term, left)) : term.Ordered := by
  induction steps generalizing inner outer source with
  | zero => cases read
  | succ steps inductionHypothesis =>
      by_cases last : outer = [] ∧ ∃ rest, skip verbose source = ']' :: rest
      · obtain ⟨rfl, rest, bracket⟩ := last
        cases (classFrom?_close bracket steps inner).symm.trans read
        trivial
      · rw [classFrom?_move fun rest bracket nothing => last ⟨nothing, rest, bracket⟩] at read
        obtain ⟨taken, -, further⟩ := Option.bind_eq_some_iff.mp read
        exact inductionHypothesis further

/-- A reader whose states have their bounds in order. -/
def KeepsOrder (read : Reader ReaderState) : Prop :=
  ∀ source next left, read source = some (next, left) → next.Ordered

theorem KeepsOrder.nothing : KeepsOrder fun _ => none := nofun

theorem KeepsOrder.pure {state : ReaderState} (ordered : state.Ordered) :
    KeepsOrder fun rest => some (state, rest) := by
  rintro source _ _ ⟨⟩
  exact ordered

theorem KeepsOrder.atMark {mark : Char} {marked other : Reader ReaderState}
    (markedKeeps : KeepsOrder marked) (otherKeeps : KeepsOrder other) :
    KeepsOrder (atMark mark marked other) := by
  intro source next left read
  cases source with
  | nil => exact otherKeeps _ _ _ read
  | cons c rest =>
      change (if c = mark then marked rest else other (c :: rest)) = _ at read
      split at read
      · exact markedKeeps _ _ _ read
      · exact otherKeeps _ _ _ read

namespace ReaderState.Ordered

variable {state : ReaderState}

theorem add (ordered : state.Ordered) {item : Term} (itemOrdered : item.Ordered) :
    (state.add item).Ordered :=
  ⟨ordered.inner.add itemOrdered, ordered.outer⟩

theorem openGroup (ordered : state.Ordered) (sign : GroupSign) (verbose : Bool) :
    (state.openGroup sign verbose).Ordered :=
  ⟨.start sign state.verbose, List.forall_mem_cons.mpr ⟨ordered.inner, ordered.outer⟩⟩

theorem closeGroup? (ordered : state.Ordered) {closed : ReaderState}
    (isClosed : state.closeGroup? = some closed) : closed.Ordered := by
  unfold ReaderState.closeGroup? at isClosed
  split at isClosed
  · cases isClosed
  · next next outer around =>
      cases isClosed
      have both := List.forall_mem_cons.mp (around ▸ ordered.outer)
      have grouped : (Term.group state.inner.sign state.inner.contents).Ordered :=
        ordered.inner.contents
      exact ⟨both.1.add grouped, both.2⟩

theorem repeated? (ordered : state.Ordered) {counts : Counts}
    (bounds : Within counts.least counts.most counts.least) {repeated : ReaderState}
    {left : List Char} (isRepeated : state.repeated? counts = some (repeated, left)) :
    repeated.Ordered := by
  obtain ⟨_, read, same⟩ := Option.map_eq_some_iff.mp isRepeated
  obtain ⟨rfl, -⟩ := Prod.mk.inj same
  obtain ⟨inner, last, rfl⟩ := Option.map_eq_some_iff.mp read
  exact ⟨ordered.inner.repeatLast? bounds last, ordered.outer⟩

theorem openNamed? (ordered : state.Ordered) : KeepsOrder (openNamed? state) := by
  intro source next left read
  obtain ⟨⟨name, rest⟩, -, read⟩ := Option.bind_eq_some_iff.mp read
  dsimp only at read
  split at read
  · cases read
  · obtain ⟨rfl, -⟩ := Prod.mk.inj (Option.some.inj read)
    exact ⟨(ordered.openGroup .capture state.verbose).inner,
      (ordered.openGroup .capture state.verbose).outer⟩

theorem openFlags? (ordered : state.Ordered) : KeepsOrder (openFlags? state) := by
  intro source next left read
  obtain ⟨taken, -, read⟩ := Option.bind_eq_some_iff.mp read
  dsimp only at read
  split at read
  · split at read
    · cases read
    · obtain ⟨rfl, -⟩ := Prod.mk.inj (Option.some.inj read)
      have added := ordered.add (show (Term.flags taken.1.1).Ordered from trivial)
      exact ⟨added.inner, added.outer⟩
  · obtain ⟨rfl, -⟩ := Prod.mk.inj (Option.some.inj read)
    exact ordered.openGroup _ _

theorem openGroup? (ordered : state.Ordered) : KeepsOrder (openGroup? state) := by
  intro source next left read
  rw [openGroup?_eq] at read
  have marked : KeepsOrder (openMarked? state) :=
    .atMark .nothing <| .atMark .nothing <|
      .atMark (.atMark .nothing <| .atMark .nothing ordered.openNamed?) <|
        .atMark (.atMark ordered.openNamed? .nothing) ordered.openFlags?
  exact KeepsOrder.atMark marked (.pure (ordered.openGroup .capture state.verbose)) _ _ _ read

/-- A step keeps the bounds in order. -/
theorem step? (ordered : state.Ordered) (c : Char) : KeepsOrder (step? state c) := by
  intro rest next left step
  cases stepBy c with
  | opens same => exact ordered.openGroup? _ _ _ (same state ▸ step)
  | closes closing =>
      subst closing
      obtain ⟨_, closed, same⟩ := Option.map_eq_some_iff.mp step
      obtain ⟨rfl, -⟩ := Prod.mk.inj same
      exact ordered.closeGroup? closed
  | branches same =>
      obtain ⟨rfl, -⟩ := Prod.mk.inj (Option.some.inj ((same state rest).symm.trans step))
      exact ⟨ordered.inner.branch, ordered.outer⟩
  | bracket same =>
      rw [same] at step
      obtain ⟨⟨term, _⟩, read, same⟩ := Option.map_eq_some_iff.mp step
      obtain ⟨rfl, -⟩ := Prod.mk.inj same
      exact ordered.add (classFrom?_ordered read)
  | repeats least most bounds same =>
      rw [same] at step
      exact ordered.repeated? (ofBounds_within ⟨Nat.le_refl least, bounds⟩ rest) step
  | counted same =>
      -- The reader of counts refuses those that are out of order.
      rw [same] at step
      obtain ⟨counts, read, repeated⟩ := Option.bind_eq_some_iff.mp step
      exact ordered.repeated? (counts?_within read) repeated
  | escapes slash =>
      subst slash
      obtain ⟨⟨atom, _⟩, -, same⟩ := Option.map_eq_some_iff.mp step
      obtain ⟨rfl, -⟩ := Prod.mk.inj same
      exact ordered.add (show (Term.atom atom).Ordered from trivial)
  | item atom same =>
      obtain ⟨rfl, -⟩ := Prod.mk.inj (Option.some.inj ((same state rest).symm.trans step))
      exact ordered.add (show (Term.atom atom).Ordered from trivial)

/-- What every step keeps, a whole text keeps. -/
theorem readFrom? (ordered : state.Ordered) {steps : Nat} {source : List Char}
    {final : ReaderState} (read : readFrom? steps state source = some final) : final.Ordered := by
  induction steps generalizing state source with
  | zero =>
      unfold Pattern.readFrom? at read
      split at read
      · exact Option.some.inj read ▸ ordered
      · cases read
      · next absurd _ => cases absurd
  | succ steps inductionHypothesis =>
      cases skipped : skip state.verbose source with
      | nil => exact Option.some.inj ((readFrom?_end skipped _).symm.trans read) ▸ ordered
      | cons c rest =>
          rw [readFrom?_step skipped] at read
          obtain ⟨taken, step, further⟩ := Option.bind_eq_some_iff.mp read
          exact inductionHypothesis (ordered.step? c _ _ _ step) further

end ReaderState.Ordered

theorem read?_ordered {source : List Char} {term : Term} (read : read? source = some term) :
    term.Ordered := by
  obtain ⟨final, reads, finish⟩ := Option.bind_eq_some_iff.mp read
  have start : ReaderState.start.Ordered := ⟨.start .capture false, nofun⟩
  unfold ReaderState.finish? at finish
  split at finish
  · exact Option.some.inj finish ▸ (start.readFrom? reads).inner.contents
  · cases finish

/-! ## The meaning of terms -/

namespace Expr

theorem ordered_ofItems {exprs : List Expr} (ordered : ∀ expr ∈ exprs, expr.Ordered) :
    (ofItems exprs).Ordered := by
  induction exprs with
  | nil => trivial
  | cons expr exprs inductionHypothesis =>
      have both := List.forall_mem_cons.mp ordered
      cases exprs with
      | nil => exact both.1
      | cons next exprs => exact ⟨both.1, inductionHypothesis both.2⟩

theorem ordered_ofBranches {exprs : List Expr} (ordered : ∀ expr ∈ exprs, expr.Ordered) :
    (ofBranches exprs).Ordered := by
  induction exprs with
  | nil => trivial
  | cons expr exprs inductionHypothesis =>
      have both := List.forall_mem_cons.mp ordered
      cases exprs with
      | nil => exact both.1
      | cons next exprs => exact ⟨both.1, inductionHypothesis both.2⟩

end Expr

theorem atomExpr?_ordered {flags : Flags} {atom : Atom} {expr : Expr}
    (meaning : atomExpr? flags atom = some expr) : expr.Ordered := by
  cases atom with
  | literal literal =>
      obtain ⟨c, -, rfl⟩ := Option.map_eq_some_iff.mp meaning
      unfold charExpr
      split <;> trivial
  | shorthand kind negated =>
      obtain ⟨_, -, rfl⟩ := Option.map_eq_some_iff.mp meaning
      trivial
  | property name negated =>
      obtain ⟨_, -, rfl⟩ := Option.map_eq_some_iff.mp meaning
      trivial
  | assertion sign => exact Option.some.inj meaning ▸ trivial
  | dot =>
      obtain ⟨_, -, rfl⟩ := Option.map_eq_some_iff.mp meaning
      trivial

mutual

theorem expr?_ordered : (term : Term) → term.Ordered → ∀ {flags after : Flags} {expr : Expr},
    expr? flags term = some (expr, after) → expr.Ordered
  | .empty, _, _, _, _, meaning => by
      cases meaning
      trivial
  | .flags items, _, _, _, _, meaning => by
      cases meaning
      trivial
  | .atom atom, _, _, _, _, meaning => by
      obtain ⟨expr, atomMeaning, same⟩ := Option.map_eq_some_iff.mp meaning
      exact (Prod.mk.inj same).1 ▸ atomExpr?_ordered atomMeaning
  | .bracketed negated contents, _, _, _, _, meaning => by
      obtain ⟨_, -, meaning⟩ := Option.bind_eq_some_iff.mp meaning
      obtain ⟨_, -, same⟩ := Option.bind_eq_some_iff.mp meaning
      cases same
      trivial
  | .repetition sub least most lazy, ordered, _, _, _, meaning => by
      obtain ⟨_, subMeaning, same⟩ := Option.bind_eq_some_iff.mp meaning
      cases same
      exact ⟨ordered.1, expr?_ordered sub ordered.2 subMeaning⟩
  | .group .capture sub, ordered, _, _, _, meaning => by
      obtain ⟨_, subMeaning, same⟩ := Option.bind_eq_some_iff.mp meaning
      cases same
      have inside := expr?_ordered sub ordered subMeaning
      exact inside
  | .group (.flags items) sub, ordered, _, _, _, meaning => by
      obtain ⟨_, subMeaning, same⟩ := Option.bind_eq_some_iff.mp meaning
      cases same
      have inside := expr?_ordered sub ordered subMeaning
      exact inside
  | .alternation branches, ordered, _, _, _, meaning => by
      obtain ⟨_, branchMeanings, same⟩ := Option.bind_eq_some_iff.mp meaning
      cases same
      exact Expr.ordered_ofBranches (exprs?_ordered branches ordered branchMeanings)
  | .concat items, ordered, _, _, _, meaning => by
      obtain ⟨_, itemMeanings, same⟩ := Option.bind_eq_some_iff.mp meaning
      cases same
      exact Expr.ordered_ofItems (exprs?_ordered items ordered itemMeanings)

theorem exprs?_ordered : (terms : List Term) → Term.AllOrdered terms →
    ∀ {flags after : Flags} {exprs : List Expr}, exprs? flags terms = some (exprs, after) →
      ∀ expr ∈ exprs, expr.Ordered
  | [], _, _, _, _, meaning => by
      cases meaning
      exact nofun
  | term :: terms, ordered, _, _, _, meaning => by
      obtain ⟨_, first, meaning⟩ := Option.bind_eq_some_iff.mp meaning
      obtain ⟨_, others, same⟩ := Option.bind_eq_some_iff.mp meaning
      cases same
      exact List.forall_mem_cons.mpr
        ⟨expr?_ordered term ordered.1 first, exprs?_ordered terms ordered.2 others⟩

end

/-- The expression of a text has its bounds in order. -/
theorem parse?_ordered {source : List Char} {expr : Expr} (parsed : parse? source = some expr) :
    expr.Ordered := by
  obtain ⟨term, read, meaning⟩ := Option.bind_eq_some_iff.mp parsed
  obtain ⟨_, termMeaning, same⟩ := Option.map_eq_some_iff.mp meaning
  exact same ▸ expr?_ordered term (read?_ordered read) termMeaning

end RuleTree.Pattern
