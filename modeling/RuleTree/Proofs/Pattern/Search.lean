import Mathlib.Data.Finset.Card
import Mathlib.Data.Finset.Range
import Mathlib.Data.Nat.Bitwise
import RuleTree.Proofs.Pattern.Span

/-!
Contract: the search finds exactly the spans of an expression.

A set of places is a number with one bit for each, and every sweep maps sets of places along
a relation of places (`Follows`). Repeated maps follow repeated steps; where there is no
upper end, each round reaches a place that was not reached before or changes nothing any
more, so one round for each place of the text is enough (`collect_closed`). With that the
search tells whether an expression has a span anywhere (`occursIn_iff`).

Owns: sets of places as relations. Does not own: which expression a text is read as.
-/

namespace RuleTree.Pattern

/-! ## Maps of places -/

/-- No place is behind the end of a text of this length. -/
def Inside (length places : Nat) : Prop :=
  ∀ place, places.testBit place = true → place ≤ length

/-- The steps do not lead behind the end. -/
def StaysInside (length : Nat) (step : Nat → Nat → Prop) : Prop :=
  ∀ start finish, step start finish → start ≤ length → finish ≤ length

/-- The map takes places to those that one step leads to. -/
def Follows (length : Nat) (next : Nat → Nat) (step : Nat → Nat → Prop) : Prop :=
  ∀ places, Inside length places → ∀ finish,
    (next places).testBit finish = true ↔
      ∃ start, places.testBit start = true ∧ step start finish

theorem StaysInside.repeats {length : Nat} {step : Nat → Nat → Prop}
    (stays : StaysInside length step) (least : Nat) (most : Option Nat) :
    StaysInside length (Repeats step least most) := by
  rintro start finish ⟨count, -, run⟩ inside
  exact run.keeps (fun place => place ≤ length) (fun i j => stays i j) inside

section Follows

variable {length : Nat} {next : Nat → Nat} {step : Nat → Nat → Prop}
  (follows : Follows length next step) (stays : StaysInside length step)
include follows stays

theorem Follows.inside {places : Nat} (inside : Inside length places) :
    Inside length (next places) := by
  intro finish reached
  obtain ⟨start, member, stepped⟩ := (follows places inside finish).mp reached
  exact stays start finish stepped (inside start member)

end Follows

theorem Follows.congr {length : Nat} {next : Nat → Nat} {step other : Nat → Nat → Prop}
    (follows : Follows length next step) (same : ∀ i j, step i j ↔ other i j) :
    Follows length next other := by
  intro places inside finish
  simp only [follows places inside finish, same]

theorem iterate_of_fixed {next : Nat → Nat} {places : Nat} (fixed : next places = places)
    (times : Nat) : iterate next times places = places := by
  cases times with
  | zero => rfl
  | succ times => rw [iterate, if_pos fixed]

theorem iterate_succ (next : Nat → Nat) (times places : Nat) :
    iterate next (times + 1) places = iterate next times (next places) := by
  rw [iterate]
  by_cases fixed : next places = places
  · rw [if_pos fixed, fixed, iterate_of_fixed fixed]
  · rw [if_neg fixed]

theorem Follows.iterate {length : Nat} {next : Nat → Nat} {step : Nat → Nat → Prop}
    (follows : Follows length next step) (stays : StaysInside length step) (times : Nat) :
    Follows length (iterate next times) (Times step times) := by
  induction times with
  | zero => exact fun places _ finish => by simp [Pattern.iterate, Times]
  | succ times inductionHypothesis =>
      intro places inside finish
      rw [iterate_succ, inductionHypothesis _ (follows.inside stays inside)]
      simp only [follows places inside, Times]
      constructor
      · rintro ⟨middle, ⟨start, member, head⟩, rest⟩
        exact ⟨start, member, middle, head, rest⟩
      · rintro ⟨start, member, middle, head, rest⟩
        exact ⟨middle, ⟨start, member, head⟩, rest⟩

/-! ## Collecting places -/

/-- The places that one round adds to those reached so far. -/
def fresher (next : Nat → Nat) (reached fresh : Nat) : Nat :=
  next fresh ^^^ (next fresh &&& reached)

theorem testBit_fresher (next : Nat → Nat) (reached fresh place : Nat) :
    (fresher next reached fresh).testBit place =
      ((next fresh).testBit place && !reached.testBit place) := by
  rw [fresher, Nat.testBit_xor, Nat.testBit_and]
  cases (next fresh).testBit place <;> simp

/-- The places reached so far, of which only the fresh ones can lead to others. -/
structure Frontier (length : Nat) (step : Nat → Nat → Prop) (reached fresh : Nat) : Prop where
  inside : Inside length reached
  among : ∀ place, fresh.testBit place = true → reached.testBit place = true
  passed : ∀ start finish, reached.testBit start = true → fresh.testBit start = false →
    step start finish → reached.testBit finish = true

/-- The places of a text that are not reached yet. -/
def unreached (length reached : Nat) : Finset Nat :=
  (Finset.range (length + 1)).filter fun place => reached.testBit place = false

section Collect

variable {length : Nat} {next : Nat → Nat} {step : Nat → Nat → Prop}
  (follows : Follows length next step) (stays : StaysInside length step)
  {reached fresh : Nat} (frontier : Frontier length step reached fresh)
include frontier

theorem Frontier.insideFresh : Inside length fresh :=
  fun place member => frontier.inside place (frontier.among place member)

include follows

/-- A step from a place that is reached leads to one that is reached, or to a new one. -/
theorem Frontier.leads {start finish : Nat} (member : reached.testBit start = true)
    (stepped : step start finish) :
    reached.testBit finish = true ∨ (fresher next reached fresh).testBit finish = true := by
  cases isFresh : fresh.testBit start with
  | false => exact .inl (frontier.passed start finish member isFresh stepped)
  | true =>
      have image := (follows fresh (frontier.insideFresh) finish).mpr
        ⟨start, isFresh, stepped⟩
      rw [testBit_fresher, image]
      cases reached.testBit finish <;> simp

/-- A new place is one step away from a place that is reached. -/
theorem Frontier.exists_of_new {finish : Nat}
    (isNew : (fresher next reached fresh).testBit finish = true) :
    ∃ start, reached.testBit start = true ∧ step start finish := by
  rw [testBit_fresher, Bool.and_eq_true] at isNew
  obtain ⟨start, member, stepped⟩ :=
    (follows fresh (frontier.insideFresh) finish).mp isNew.1
  exact ⟨start, frontier.among start member, stepped⟩

include stays in
theorem Frontier.advance :
    Frontier length step (reached ||| fresher next reached fresh) (fresher next reached fresh) where
  inside := by
    intro place member
    rw [Nat.testBit_or, Bool.or_eq_true] at member
    rcases member with old | isNew
    · exact frontier.inside place old
    · obtain ⟨start, before, stepped⟩ := frontier.exists_of_new follows isNew
      exact stays start place stepped (frontier.inside start before)
  among := by
    intro place member
    rw [Nat.testBit_or, member, Bool.or_true]
  passed := by
    intro start finish member old stepped
    rw [Nat.testBit_or, old, Bool.or_false] at member
    rw [Nat.testBit_or, Bool.or_eq_true]
    exact frontier.leads follows member stepped

/-- If a round adds nothing, no step leads out. -/
theorem Frontier.closed (nothingNew : fresher next reached fresh = 0) {start finish : Nat}
    (stepped : step start finish) (member : reached.testBit start = true) :
    reached.testBit finish = true := by
  refine (frontier.leads follows member stepped).resolve_right ?_
  rw [nothingNew, Nat.zero_testBit]
  exact Bool.false_ne_true

omit follows frontier in
theorem collect_succ (rounds : Nat) :
    collect next (rounds + 1) reached fresh =
      if fresher next reached fresh = 0 then reached
      else collect next rounds (reached ||| fresher next reached fresh)
        (fresher next reached fresh) := rfl

include stays in
/-- So many rounds collect what is at most so many steps away. -/
theorem testBit_collect (rounds finish : Nat) :
    (collect next rounds reached fresh).testBit finish = true ↔
      ∃ start, reached.testBit start = true ∧ ∃ count, count ≤ rounds ∧
        Times step count start finish := by
  induction rounds generalizing reached fresh with
  | zero =>
      constructor
      · exact fun member => ⟨finish, member, 0, Nat.le_refl 0, rfl⟩
      · rintro ⟨start, member, count, none, run⟩
        obtain rfl := Nat.le_zero.mp none
        obtain rfl : start = finish := run
        exact member
  | succ rounds inductionHypothesis =>
      rw [collect_succ]
      split
      · next nothingNew =>
          constructor
          · exact fun member => ⟨finish, member, 0, Nat.zero_le _, rfl⟩
          · rintro ⟨start, member, count, -, run⟩
            exact run.keeps (fun place => reached.testBit place = true)
              (fun _ _ => frontier.closed follows nothingNew) member
      · rw [inductionHypothesis (frontier.advance follows stays)]
        constructor
        · rintro ⟨start, member, count, few, run⟩
          rw [Nat.testBit_or, Bool.or_eq_true] at member
          rcases member with old | isNew
          · exact ⟨start, old, count, Nat.le_succ_of_le few, run⟩
          · obtain ⟨before, old, stepped⟩ := frontier.exists_of_new follows isNew
            exact ⟨before, old, count + 1, Nat.succ_le_succ few, start, stepped, run⟩
        · rintro ⟨start, member, count, few, run⟩
          cases count with
          | zero =>
              obtain rfl : start = finish := run
              exact ⟨start, by rw [Nat.testBit_or, member, Bool.true_or], 0, Nat.zero_le _, rfl⟩
          | succ count =>
              obtain ⟨middle, stepped, rest⟩ := run
              refine ⟨middle, ?_, count, Nat.le_of_succ_le_succ few, rest⟩
              rw [Nat.testBit_or, Bool.or_eq_true]
              exact frontier.leads follows member stepped

include stays in
/-- A round that adds something leaves fewer places unreached. -/
theorem Frontier.unreached_lt (adds : fresher next reached fresh ≠ 0) :
    (unreached length (reached ||| fresher next reached fresh)).card <
      (unreached length reached).card := by
  obtain ⟨place, isNew⟩ := Nat.exists_testBit_of_ne_zero adds
  have inside := (frontier.advance follows stays).inside place
    ((frontier.advance follows stays).among place isNew)
  have old : reached.testBit place = false := by
    rw [testBit_fresher, Bool.and_eq_true, Bool.not_eq_true'] at isNew
    exact isNew.2
  apply Finset.card_lt_card
  rw [Finset.ssubset_iff_of_subset]
  · refine ⟨place, ?_, ?_⟩
    · exact Finset.mem_filter.mpr ⟨Finset.mem_range_succ_iff.mpr inside, old⟩
    · simp [unreached, Nat.testBit_or, isNew]
  · intro other
    simp only [unreached, Finset.mem_filter, Nat.testBit_or, Bool.or_eq_false_iff]
    exact fun member => ⟨member.1, member.2.1⟩

include stays in
/-- With a round for each place that is not reached, nothing is missed. -/
theorem collect_closed {rounds : Nat} (enough : (unreached length reached).card ≤ rounds)
    {start finish : Nat} (member : (collect next rounds reached fresh).testBit start = true)
    (stepped : step start finish) :
    (collect next rounds reached fresh).testBit finish = true := by
  induction rounds generalizing reached fresh with
  | zero =>
      -- No place is left, and this one would be.
      by_contra missing
      have inside := stays start finish stepped (frontier.inside start member)
      have left : finish ∈ unreached length reached := Finset.mem_filter.mpr
        ⟨Finset.mem_range_succ_iff.mpr inside, Bool.eq_false_iff.mpr missing⟩
      rw [Finset.card_eq_zero.mp (Nat.le_zero.mp enough)] at left
      exact Finset.notMem_empty finish left
  | succ rounds inductionHypothesis =>
      rw [collect_succ] at member ⊢
      split at member
      · next nothingNew =>
          rw [if_pos nothingNew]
          exact frontier.closed follows nothingNew stepped member
      · next adds =>
          rw [if_neg adds]
          exact inductionHypothesis (frontier.advance follows stays)
            (Nat.le_of_lt_succ
              (Nat.lt_of_lt_of_le (frontier.unreached_lt follows stays adds) enough))
            member

include stays in
/-- With a round for each place that is not reached, all that steps lead to is collected. -/
theorem testBit_collect_all {rounds : Nat} (enough : (unreached length reached).card ≤ rounds)
    (finish : Nat) :
    (collect next rounds reached fresh).testBit finish = true ↔
      ∃ start, reached.testBit start = true ∧ ∃ count, Times step count start finish := by
  have collects := testBit_collect follows stays frontier rounds
  constructor
  · intro member
    obtain ⟨start, reachedStart, count, -, run⟩ := (collects finish).mp member
    exact ⟨start, reachedStart, count, run⟩
  · rintro ⟨start, reachedStart, count, run⟩
    have collected := (collects start).mpr ⟨start, reachedStart, 0, Nat.zero_le _, rfl⟩
    exact run.keeps _ (fun _ _ stepped before =>
      collect_closed follows stays frontier enough before stepped) collected

end Collect

theorem Frontier.start {length places : Nat} (inside : Inside length places)
    (step : Nat → Nat → Prop) : Frontier length step places places where
  inside := inside
  among := fun _ member => member
  passed := by
    intro start _ member notFresh
    rw [member] at notFresh
    cases notFresh

/-! ## Sweeps -/

namespace Sweep

/-- The sweep leads from one place to the other. -/
def Leads : Sweep → Nat → Nat → Prop
  | .stay, start, finish => start = finish
  | .step places, start, finish => finish = start + 1 ∧ places.testBit start = true
  | .filter places, start, finish => start = finish ∧ places.testBit start = true
  | .both first second, start, finish =>
    ∃ middle, first.Leads start middle ∧ second.Leads middle finish
  | .either first second, start, finish => first.Leads start finish ∨ second.Leads start finish
  | .repeated sub least most, start, finish => Repeats sub.Leads least most start finish

/-- The sweep is one for a text of this length, and its repetitions have their bounds in
order. -/
def Fits (length : Nat) : Sweep → Prop
  | .step places => ∀ place, places.testBit place = true → place < length
  | .both first second => first.Fits length ∧ second.Fits length
  | .either first second => first.Fits length ∧ second.Fits length
  | .repeated sub least most => Within least most least ∧ sub.Fits length
  | _ => True

theorem leads_inside {length : Nat} {sweep : Sweep} (fits : sweep.Fits length) :
    StaysInside length sweep.Leads := by
  induction sweep with
  | stay => exact fun _ _ same inside => same ▸ inside
  | step places =>
      rintro start finish ⟨rfl, member⟩ -
      exact fits start member
  | filter places => exact fun _ _ same inside => same.1 ▸ inside
  | both first second firstInside secondInside =>
      rintro start finish ⟨middle, before, after⟩ inside
      exact secondInside fits.2 _ _ after (firstInside fits.1 _ _ before inside)
  | either first second firstInside secondInside =>
      rintro start finish (left | right) inside
      · exact firstInside fits.1 _ _ left inside
      · exact secondInside fits.2 _ _ right inside
  | repeated sub least most inductionHypothesis => exact (inductionHypothesis fits.2).repeats _ _

theorem repeated_follows {length : Nat} {next : Nat → Nat} {step : Nat → Nat → Prop}
    (follows : Follows length next step) (stays : StaysInside length step)
    (least : Nat) (most : Option Nat) :
    Within least most least →
      Follows length
        (fun places =>
          let start := iterate next least places
          let rounds :=
            match most with
            | some most => most - least
            | none => length + 1
          collect next rounds start start)
        (Repeats step least most) := by
  intro ordered places inside finish
  have least_follows := follows.iterate stays least
  have timesStay : StaysInside length (Times step least) := fun i j run =>
    run.keeps (fun place => place ≤ length) fun i j => stays i j
  have frontier := Frontier.start (least_follows.inside timesStay inside) step
  -- The places after the least of the steps are the middles.
  have throughMiddle : ∀ after : Nat → Prop,
      (∃ middle, (iterate next least places).testBit middle = true ∧ after middle) ↔
        ∃ start, places.testBit start = true ∧
          ∃ middle, Times step least start middle ∧ after middle := by
    intro after
    constructor
    · rintro ⟨middle, reached, rest⟩
      obtain ⟨start, member, before⟩ := (least_follows places inside middle).mp reached
      exact ⟨start, member, middle, before, rest⟩
    · rintro ⟨start, member, middle, before, rest⟩
      exact ⟨middle, (least_follows places inside middle).mpr ⟨start, member, before⟩, rest⟩
  cases most with
  | some bound =>
      dsimp only
      rw [testBit_collect follows stays frontier]
      simp only [repeats_some ordered]
      exact throughMiddle _
  | none =>
      have enough : (unreached length (iterate next least places)).card ≤ length + 1 := by
        refine Nat.le_trans (Finset.card_filter_le _ _) ?_
        rw [Finset.card_range]
      dsimp only
      rw [testBit_collect_all follows stays frontier enough]
      simp only [repeats_none]
      exact throughMiddle _

theorem run_follows {length : Nat} {sweep : Sweep} (fits : sweep.Fits length) :
    Follows length (sweep.run length) sweep.Leads := by
  induction sweep with
  | stay => exact fun places _ finish => by simp [run, Leads]
  | step through =>
      intro places _ finish
      rw [run, Nat.testBit_shiftLeft, Bool.and_eq_true, Nat.testBit_and, Bool.and_eq_true,
        decide_eq_true_eq]
      constructor
      · rintro ⟨behind, member, passes⟩
        exact ⟨finish - 1, member, (Nat.sub_add_cancel behind).symm, passes⟩
      · rintro ⟨start, member, rfl, passes⟩
        exact ⟨Nat.le_add_left 1 start, member, passes⟩
  | filter through =>
      intro places _ finish
      rw [run, Nat.testBit_and, Bool.and_eq_true]
      constructor
      · exact fun passes => ⟨finish, passes.1, rfl, passes.2⟩
      · rintro ⟨start, member, rfl, passes⟩
        exact ⟨member, passes⟩
  | both first second firstFollows secondFollows =>
      intro places inside finish
      have before := firstFollows fits.1
      rw [run, secondFollows fits.2 _ (before.inside (leads_inside fits.1) inside)]
      simp only [before places inside, Leads]
      constructor
      · rintro ⟨middle, ⟨start, member, first⟩, second⟩
        exact ⟨start, member, middle, first, second⟩
      · rintro ⟨start, member, middle, first, second⟩
        exact ⟨middle, ⟨start, member, first⟩, second⟩
  | either first second firstFollows secondFollows =>
      intro places inside finish
      rw [run, Nat.testBit_or, Bool.or_eq_true, firstFollows fits.1 places inside,
        secondFollows fits.2 places inside]
      simp only [Leads, and_or_left, exists_or]
  | repeated sub least most inductionHypothesis =>
      exact repeated_follows (inductionHypothesis fits.2) (leads_inside fits.2) least most fits.1

/-! ## Nested repetitions -/

theorem fits_loop {length : Nat} {sub : Sweep} (fits : sub.Fits length) {least : Nat}
    {most : Option Nat} (ordered : Within least most least) :
    (sub.loop least most).Fits length := by
  unfold loop
  split
  · split
    · exact ⟨⟨Nat.le_refl _, nofun⟩, fits.2⟩
    · exact ⟨ordered, fits⟩
  · exact ⟨ordered, fits⟩

/-- One repetition stands for two nested ones where either may take a single step. -/
theorem repeats_nested {step : Nat → Nat → Prop} {least innerLeast : Nat}
    {innerMost : Option Nat}
    (outerLeast : least ≤ 1) (innerFew : innerLeast ≤ 1) (innerSome : innerMost ≠ some 0)
    (start finish : Nat) :
    Repeats step (least * innerLeast) none start finish ↔
      Repeats (Repeats step innerLeast innerMost) least none start finish := by
  constructor
  · rintro ⟨count, ⟨enough, -⟩, run⟩
    have single : ∀ i j, step i j → Repeats step innerLeast innerMost i j := by
      intro i j stepped
      refine ⟨1, ⟨innerFew, fun bound given => ?_⟩, times_one.mpr stepped⟩
      exact Nat.one_le_iff_ne_zero.mpr fun zero => innerSome (zero ▸ given)
    by_cases covered : least ≤ count
    · exact ⟨count, ⟨covered, nofun⟩, run.mono single⟩
    · -- Here nothing is repeated, so the inner repetition may be empty.
      obtain rfl : count = 0 := by omega
      obtain rfl : least = 1 := by omega
      obtain rfl : innerLeast = 0 := by omega
      refine ⟨1, ⟨Nat.le_refl 1, nofun⟩, times_one.mpr ⟨0, ⟨Nat.le_refl 0, ?_⟩, run⟩⟩
      exact fun bound _ => Nat.zero_le bound
  · rintro ⟨count, ⟨enough, -⟩, run⟩
    obtain ⟨total, most, flat⟩ := run.flatten
    exact ⟨total, ⟨Nat.le_trans (Nat.mul_le_mul_right innerLeast enough) most, nofun⟩, flat⟩

theorem leads_loop (sub : Sweep) (least : Nat) (most : Option Nat) (start finish : Nat) :
    (sub.loop least most).Leads start finish ↔ Repeats sub.Leads least most start finish := by
  unfold loop
  split
  · split
    · next bounds => exact repeats_nested bounds.1 bounds.2.1 bounds.2.2 start finish
    · rfl
  · rfl

end Sweep

/-! ## Expressions -/

theorem testBit_cons_zero (bit : Bool) (rest : Nat) : (bit.toNat + 2 * rest).testBit 0 = bit := by
  cases bit <;> simp [Nat.testBit_zero]

theorem testBit_cons_succ (bit : Bool) (rest place : Nat) :
    (bit.toNat + 2 * rest).testBit (place + 1) = rest.testBit place := by
  have half : (bit.toNat + 2 * rest) / 2 = rest := by
    cases bit with
    | false => simp
    | true => simp; omega
  rw [Nat.testBit_succ, half]

theorem testBit_charPlaces (set : CodeSet) (text : List Char) (place : Nat) :
    (charPlaces set text).testBit place = true ↔
      ∃ c, text[place]? = some c ∧ set.contains c.toNat = true := by
  induction text generalizing place with
  | nil => simp [charPlaces]
  | cons c text inductionHypothesis =>
      cases place with
      | zero =>
          rw [charPlaces, testBit_cons_zero]
          simp
      | succ place =>
          rw [charPlaces, testBit_cons_succ, inductionHypothesis, List.getElem?_cons_succ]

theorem testBit_assertionPlaces (condition : Assertion) (before : Option Char) (text : List Char)
    (place : Nat) :
    (assertionPlaces condition before text).testBit place = true ↔
      place ≤ text.length ∧
        condition.holds (if place = 0 then before else text[place - 1]?) text[place]? = true := by
  induction text generalizing before place with
  | nil =>
      cases place with
      | zero => cases holds : condition.holds before none <;> simp [assertionPlaces, holds]
      | succ place => cases holds : condition.holds before none <;>
          simp [assertionPlaces, holds, Nat.testBit_succ]
  | cons c text inductionHypothesis =>
      cases place with
      | zero =>
          rw [assertionPlaces, testBit_cons_zero]
          simp
      | succ place =>
          rw [assertionPlaces, testBit_cons_succ, inductionHypothesis]
          cases place <;> simp

namespace Expr

variable {text : List Char}

theorem leads_sweep (expr : Expr) (start finish : Nat) :
    (expr.sweep text).Leads start finish ↔ expr.Spans text start finish := by
  induction expr generalizing start finish with
  | empty => rfl
  | chars set => simp only [sweep, Sweep.Leads, Spans, testBit_charPlaces]
  | assertion condition =>
      simp only [sweep, Sweep.Leads, Spans, testBit_assertionPlaces]
      cases start <;> simp [charBefore]
  | concat first second firstLeads secondLeads =>
      simp only [sweep, Sweep.Leads, Spans, firstLeads, secondLeads]
  | alternation first second firstLeads secondLeads =>
      simp only [sweep, Sweep.Leads, Spans, firstLeads, secondLeads]
  | repetition sub least most lazy inductionHypothesis =>
      have same : (sub.sweep text).Leads = sub.Spans text :=
        funext fun i => funext fun j => propext (inductionHypothesis i j)
      rw [sweep, Sweep.leads_loop, same]
      rfl
  | group captures sub inductionHypothesis => exact inductionHypothesis start finish

theorem fits_sweep {expr : Expr} (ordered : expr.Ordered) :
    (expr.sweep text).Fits text.length := by
  induction expr with
  | chars set =>
      intro place member
      obtain ⟨c, found, -⟩ := (testBit_charPlaces set text place).mp member
      exact (List.getElem?_eq_some_iff.mp found).1
  | concat first second firstFits secondFits => exact ⟨firstFits ordered.1, secondFits ordered.2⟩
  | alternation first second firstFits secondFits =>
      exact ⟨firstFits ordered.1, secondFits ordered.2⟩
  | repetition sub least most lazy inductionHypothesis =>
      exact Sweep.fits_loop (inductionHypothesis ordered.2) ordered.1
  | group captures sub inductionHypothesis => exact inductionHypothesis ordered
  | _ => trivial

/-- The search finds a match exactly if the expression has a span. -/
theorem occursIn_iff {expr : Expr} (ordered : expr.Ordered) :
    expr.occursIn text = true ↔
      ∃ start finish, start ≤ text.length ∧ expr.Spans text start finish := by
  have fits : (expr.sweep text).Fits text.length := fits_sweep ordered
  have follows := Sweep.run_follows fits
  have all : ∀ place, (allPlaces text).testBit place = true ↔ place ≤ text.length := by
    intro place
    rw [allPlaces, Nat.pow_eq, Nat.testBit_two_pow_sub_one, decide_eq_true_eq, Nat.lt_succ_iff]
  have inside : Inside text.length (allPlaces text) := fun place => (all place).mp
  rw [occursIn, bne_iff_ne]
  constructor
  · intro nonempty
    obtain ⟨finish, member⟩ := Nat.exists_testBit_of_ne_zero nonempty
    obtain ⟨start, begins, leads⟩ := (follows _ inside finish).mp member
    exact ⟨start, finish, (all start).mp begins, (leads_sweep expr start finish).mp leads⟩
  · rintro ⟨start, finish, begins, spans⟩ nothing
    have member := (follows _ inside finish).mpr
      ⟨start, (all start).mpr begins, (leads_sweep expr start finish).mpr spans⟩
    rw [nothing, Nat.zero_testBit] at member
    cases member

end Expr

end RuleTree.Pattern
