import RuleTree.Pattern.Match

/-!
Contract: between which places of a text an expression can match.

`Expr.Spans` says it by the shape of the expression alone, without an order of choices: an
alternation matches as either side does, and a repetition as any number of matches in a row
within its bounds. Places are counted by the characters before them.

Owns: spans, and matches in a row. Does not own: the search (`Pattern.Match`).
-/

namespace RuleTree.Pattern

/-! ## Matches in a row -/

/-- That many steps lead from one place to the other. -/
def Times (step : Nat → Nat → Prop) : (count : Nat) → Nat → Nat → Prop
  | 0, start, finish => start = finish
  | count + 1, start, finish => ∃ middle, step start middle ∧ Times step count middle finish

/-- The count is at least `least`, and at most `most` if that is given. -/
def Within (least : Nat) (most : Option Nat) (count : Nat) : Prop :=
  least ≤ count ∧ ∀ bound, most = some bound → count ≤ bound

/-- Some number of steps within the bounds leads from one place to the other. -/
def Repeats (step : Nat → Nat → Prop) (least : Nat) (most : Option Nat)
    (start finish : Nat) : Prop :=
  ∃ count, Within least most count ∧ Times step count start finish

section Times

variable {step : Nat → Nat → Prop} {start middle finish : Nat}

theorem Times.trans {first second : Nat} (before : Times step first start middle)
    (after : Times step second middle finish) : Times step (first + second) start finish := by
  induction first generalizing start with
  | zero =>
      obtain rfl : start = middle := before
      rwa [Nat.zero_add]
  | succ first inductionHypothesis =>
      obtain ⟨next, head, rest⟩ := before
      rw [Nat.succ_add]
      exact ⟨next, head, inductionHypothesis rest⟩

theorem Times.split {first second : Nat} (run : Times step (first + second) start finish) :
    ∃ middle, Times step first start middle ∧ Times step second middle finish := by
  induction first generalizing start with
  | zero => exact ⟨start, rfl, by rwa [Nat.zero_add] at run⟩
  | succ first inductionHypothesis =>
      rw [Nat.succ_add] at run
      obtain ⟨next, head, rest⟩ := run
      obtain ⟨middle, before, after⟩ := inductionHypothesis rest
      exact ⟨middle, ⟨next, head, before⟩, after⟩

theorem times_one : Times step 1 start finish ↔ step start finish :=
  ⟨fun ⟨_, head, same⟩ => same ▸ head, fun head => ⟨finish, head, rfl⟩⟩

theorem Times.mono {other : Nat → Nat → Prop} (implied : ∀ i j, step i j → other i j)
    {count : Nat} (run : Times step count start finish) : Times other count start finish := by
  induction count generalizing start with
  | zero => exact run
  | succ count inductionHypothesis =>
      obtain ⟨next, head, rest⟩ := run
      exact ⟨next, implied _ _ head, inductionHypothesis rest⟩

/-- What each step keeps, all of them keep. -/
theorem Times.keeps (kept : Nat → Prop) (keeps : ∀ i j, step i j → kept i → kept j)
    {count : Nat} (run : Times step count start finish) (holds : kept start) : kept finish := by
  induction count generalizing start with
  | zero => exact run ▸ holds
  | succ count inductionHypothesis =>
      obtain ⟨next, head, rest⟩ := run
      exact inductionHypothesis rest (keeps _ _ head holds)

/-- Repetitions in a row are one longer repetition. -/
theorem Times.flatten {least : Nat} {most : Option Nat} {count : Nat}
    (run : Times (Repeats step least most) count start finish) :
    ∃ total, count * least ≤ total ∧ Times step total start finish := by
  induction count generalizing start with
  | zero => exact ⟨0, Nat.le_of_eq (Nat.zero_mul least), run⟩
  | succ count inductionHypothesis =>
      obtain ⟨next, ⟨first, bounds, head⟩, rest⟩ := run
      obtain ⟨total, enough, others⟩ := inductionHypothesis rest
      refine ⟨first + total, ?_, head.trans others⟩
      rw [Nat.succ_mul, Nat.add_comm first]
      exact Nat.add_le_add enough bounds.1

/-- A bounded repetition has the least of its steps first, then a few more. -/
theorem repeats_some {least most : Nat} (ordered : Within least (some most) least) :
    Repeats step least (some most) start finish ↔
      ∃ middle, Times step least start middle ∧
        ∃ count, count ≤ most - least ∧ Times step count middle finish := by
  constructor
  · rintro ⟨count, ⟨atLeast, atMost⟩, run⟩
    have few := atMost most rfl
    obtain ⟨more, rfl⟩ := Nat.exists_eq_add_of_le atLeast
    obtain ⟨middle, before, after⟩ := run.split
    exact ⟨middle, before, more, by omega, after⟩
  · rintro ⟨middle, before, count, few, after⟩
    have enough : least ≤ most := ordered.2 most rfl
    refine ⟨least + count, ⟨Nat.le_add_right _ _, ?_⟩, before.trans after⟩
    rintro _ ⟨⟩
    omega

/-- A repetition without an upper end has the least of its steps first, then any number. -/
theorem repeats_none {least : Nat} :
    Repeats step least none start finish ↔
      ∃ middle, Times step least start middle ∧ ∃ count, Times step count middle finish := by
  constructor
  · rintro ⟨count, ⟨atLeast, -⟩, run⟩
    obtain ⟨more, rfl⟩ := Nat.exists_eq_add_of_le atLeast
    obtain ⟨middle, before, after⟩ := run.split
    exact ⟨middle, before, more, after⟩
  · rintro ⟨middle, before, count, after⟩
    exact ⟨least + count, ⟨Nat.le_add_right _ _, nofun⟩, before.trans after⟩

end Times

/-! ## Expressions -/

/-- The character before a place; the text has none before its start. -/
def charBefore (text : List Char) : (place : Nat) → Option Char
  | 0 => none
  | place + 1 => text[place]?

/-- The expression can match from the first place of the text to the second one. -/
def Expr.Spans (text : List Char) : Expr → Nat → Nat → Prop
  | .empty, start, finish => start = finish
  | .chars set, start, finish =>
    finish = start + 1 ∧ ∃ c, text[start]? = some c ∧ set.contains c.toNat = true
  | .assertion condition, start, finish =>
    start = finish ∧ start ≤ text.length ∧
      condition.holds (charBefore text start) text[start]? = true
  | .concat first second, start, finish =>
    ∃ middle, first.Spans text start middle ∧ second.Spans text middle finish
  | .alternation first second, start, finish =>
    first.Spans text start finish ∨ second.Spans text start finish
  | .repetition sub least most _, start, finish =>
    Repeats (sub.Spans text) least most start finish
  | .group _ sub, start, finish => sub.Spans text start finish

/-- The most that a repetition allows is no less than what it asks for. -/
def Expr.Ordered : Expr → Prop
  | .concat first second => first.Ordered ∧ second.Ordered
  | .alternation first second => first.Ordered ∧ second.Ordered
  | .repetition sub least most _ => Within least most least ∧ sub.Ordered
  | .group _ sub => sub.Ordered
  | _ => True

end RuleTree.Pattern
