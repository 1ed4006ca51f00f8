import Mathlib.Data.List.Forall2
import RuleTree.CommandLine.Options
import RuleTree.Proofs.Json.Literal

/-!
Contract: what settings come to.

A command line sets one thing after the other. Settings combine to options when all but the
bindings are given once at most, a file has a name and a count is written in digits
(`Combines`). The options of a run are made from left to right, and each setting is refused
or taken with what is set so far (`Options.setAll?`); they come to the same
(`setAll?_eq_some_iff`, `gathers_empty_iff`).

Owns: settings, and the options they combine to.
Does not own: how settings are spelled (`Grammar`).
-/

namespace RuleTree.CommandLine

/-! ## Counts -/

/-- A text is a way to write a count below `2 ^ 64`: its numeral, with zeros before it and
perhaps a plus sign before them. -/
def Writes (text : String) (count : Nat) : Prop :=
  count < 2 ^ 64 ∧ ∃ sign ∈ [[], ['+']], ∃ zeros,
    text.toList = sign ++ (List.replicate zeros '0' ++ Nat.toDigits 10 count)

theorem toDigits_of_isDigit {digit : Char} (isDigit : digit.isDigit = true) :
    Nat.toDigits 10 (digitsValue [digit]) = [digit] ∧ digitsValue [digit] < 10 := by
  obtain ⟨least, most⟩ : 48 ≤ digit.toNat ∧ digit.toNat ≤ 57 := Char.isDigit_iff_toNat.mp isDigit
  have value : digitsValue [digit] = digit.toNat - 48 := by
    show 10 * 0 + (digit.toNat - 48) = digit.toNat - 48
    omega
  have small : digit.toNat - 48 < 10 := by omega
  have each : ∀ value < 10, Nat.digitChar value = Char.ofNat (48 + value) := by decide
  rw [value, Nat.toDigits_of_lt_base small, each _ small, Nat.add_sub_cancel' least,
    Char.ofNat_toNat]
  exact ⟨rfl, small⟩

/-- A run of digits is the numeral of its value with zeros before it. -/
theorem exists_zeros_toDigits {digits : List Char} (nonempty : digits ≠ [])
    (all : ∀ digit ∈ digits, digit.isDigit = true) :
    ∃ zeros, digits = List.replicate zeros '0' ++ Nat.toDigits 10 (digitsValue digits) := by
  induction digits using List.reverseRecOn with
  | nil => exact absurd rfl nonempty
  | append_singleton digits digit inductionHypothesis =>
      obtain ⟨allBefore, allLast⟩ := List.forall_mem_append.mp all
      obtain ⟨last, small⟩ := toDigits_of_isDigit (allLast digit List.mem_cons_self)
      have value : digitsValue (digits ++ [digit]) =
          10 * digitsValue digits + digitsValue [digit] := by
        rw [digitsValue_append, List.length_singleton, pow_one, Nat.mul_comm]
      rcases Nat.eq_zero_or_pos (digitsValue digits) with zero | positive
      · -- All digits before the last one are zeros.
        by_cases first : digits = []
        · subst first
          exact ⟨0, last.symm⟩
        · obtain ⟨zeros, before⟩ := inductionHypothesis first allBefore
          rw [zero] at before value
          refine ⟨zeros + 1, ?_⟩
          rw [value, Nat.mul_zero, Nat.zero_add, last, List.replicate_succ']
          exact congrArg (· ++ [digit]) before
      · have first : digits ≠ [] := by
          rintro rfl
          exact absurd positive (Nat.lt_irrefl 0)
        obtain ⟨zeros, before⟩ := inductionHypothesis first allBefore
        refine ⟨zeros, ?_⟩
        rw [value, ← Nat.toDigits_append_toDigits (by decide) positive small, last,
          ← List.append_assoc, ← before]

/-- A plus sign at the front is left out. -/
theorem depth?_of_sign {text : String} {sign digits : List Char} (isSign : sign ∈ [[], ['+']])
    (parts : text.toList = sign ++ digits) (unsigned : sign = [] → digits.head? ≠ some '+') :
    depth? text =
      if digits.isEmpty || !digits.all Char.isDigit || Nat.pow 2 64 ≤ digitsValue digits then none
      else some (digitsValue digits) := by
  unfold depth?
  rw [parts]
  simp only [List.mem_cons, List.not_mem_nil, or_false] at isSign
  rcases isSign with rfl | rfl
  · split
    · next same =>
        rw [List.nil_append] at same
        rw [same] at unsigned
        exact absurd rfl (unsigned rfl)
    · rfl
  · rfl

theorem exists_sign (chars : List Char) : ∃ sign ∈ [[], ['+']], ∃ digits,
    chars = sign ++ digits ∧ (sign = [] → digits.head? ≠ some '+') := by
  by_cases signed : chars.head? = some '+'
  · obtain ⟨digits, rfl⟩ := List.head?_eq_some_iff.mp signed
    exact ⟨['+'], by simp, digits, rfl, nofun⟩
  · exact ⟨[], by simp, chars, rfl, fun _ => signed⟩

theorem depth?_eq_some_iff {text : String} {count : Nat} :
    depth? text = some count ↔ Writes text count := by
  constructor
  · intro read
    obtain ⟨sign, isSign, digits, parts, unsigned⟩ := exists_sign text.toList
    rw [depth?_of_sign isSign parts unsigned] at read
    split at read
    · cases read
    · next accepted =>
        obtain rfl := Option.some.inj read
        simp only [Bool.or_eq_true, List.isEmpty_iff, Bool.not_eq_true', decide_eq_true_eq, not_or,
          Bool.not_eq_false, List.all_eq_true, not_le] at accepted
        obtain ⟨⟨nonempty, all⟩, small⟩ := accepted
        obtain ⟨zeros, numeral⟩ := exists_zeros_toDigits nonempty all
        exact ⟨small, sign, isSign, zeros, numeral ▸ parts⟩
  · rintro ⟨small, sign, isSign, zeros, parts⟩
    have all : ∀ digit ∈ List.replicate zeros '0' ++ Nat.toDigits 10 count,
        digit.isDigit = true := by
      rw [List.forall_mem_append]
      refine ⟨?_, fun digit => isDigit_of_mem_toDigits⟩
      intro digit member
      rw [List.eq_of_mem_replicate member]
      rfl
    have value : digitsValue (List.replicate zeros '0' ++ Nat.toDigits 10 count) = count := by
      simp [digitsValue_append]
    have nonempty : List.replicate zeros '0' ++ Nat.toDigits 10 count ≠ [] := by
      simp [Nat.toDigits_ne_nil]
    have unsigned : (List.replicate zeros '0' ++ Nat.toDigits 10 count).head? ≠ some '+' := by
      intro plus
      cases all '+' (List.mem_of_mem_head? plus)
    have large : ¬Nat.pow 2 64 ≤ count := Nat.not_le.mpr small
    rw [depth?_of_sign isSign parts fun _ => unsigned, value]
    simp [nonempty, List.all_eq_true.mpr all, large]

/-! ## Settings -/

/-- One thing that a command line sets. -/
inductive Setting where
  | expression (text : String)
  | value (option : ValueOption) (text : String)
  | flag (option : FlagOption)
deriving DecidableEq

/-- The expressions that are given. -/
def expressionsOf (settings : List Setting) : List String :=
  settings.filterMap fun setting =>
    match setting with
    | .expression text => some text
    | _ => none

/-- The texts that are given to an option. -/
def textsOf (option : ValueOption) (settings : List Setting) : List String :=
  settings.filterMap fun setting =>
    match setting with
    | .value given text => if given = option then some text else none
    | _ => none

section Cons

variable {settings : List Setting} {text : String} {option other : ValueOption} {flag : FlagOption}

@[simp] theorem expressionsOf_nil : expressionsOf [] = [] := rfl

@[simp] theorem expressionsOf_expression :
    expressionsOf (.expression text :: settings) = text :: expressionsOf settings := rfl

@[simp] theorem expressionsOf_value :
    expressionsOf (.value option text :: settings) = expressionsOf settings := rfl

@[simp] theorem expressionsOf_flag :
    expressionsOf (.flag flag :: settings) = expressionsOf settings := rfl

@[simp] theorem textsOf_nil : textsOf option [] = [] := rfl

@[simp] theorem textsOf_expression :
    textsOf option (.expression text :: settings) = textsOf option settings := rfl

@[simp] theorem textsOf_value : textsOf option (.value option text :: settings) =
    text :: textsOf option settings := by
  simp [textsOf]

@[simp] theorem textsOf_other (different : other ≠ option) :
    textsOf option (.value other text :: settings) = textsOf option settings := by
  simp [textsOf, different]

@[simp] theorem textsOf_flag :
    textsOf option (.flag flag :: settings) = textsOf option settings := rfl

end Cons

/-- What settings come to: all but bindings are set once at most, a file has a name, a count is
written in digits, and there is one source of the expression. -/
structure Combines (settings : List Setting) (options : Options) : Prop where
  expression : expressionsOf settings = options.expression.toList
  file : textsOf .file settings = options.file.toList
  named : options.file ≠ some ""
  oneSource : options.expression = none ∨ options.file = none
  bindings : textsOf .set settings = options.bindings
  maxDepth : List.Forall₂ Writes (textsOf .maxDepth settings) options.maxDepth.toList
  listOperators : settings.count (.flag .listOperators) = options.listOperators.toNat
  verbose : settings.count (.flag .verbose) = options.verbose.toNat
  noVersion : .flag .version ∉ settings
  noHelp : .flag .help ∉ settings

/-! ## From left to right -/

/-- The options with one more thing set; none if it must not be set now or asks for an answer. -/
def Options.set? (options : Options) : Setting → Option Options
  | .expression text => options.positional? text
  | .value option text => options.assign? text option
  | .flag option =>
    match options.flag? option with
    | some (.next options none) => some options
    | _ => none

/-- The options with some things set, one after the other. -/
def Options.setAll? (options : Options) (settings : List Setting) : Option Options :=
  settings.foldlM Options.set? options

theorem setAll?_cons {options : Options} {setting : Setting} {settings : List Setting} :
    options.setAll? (setting :: settings) =
      (options.set? setting).bind fun next => next.setAll? settings :=
  List.foldlM_cons

theorem setAll?_singleton {options : Options} {setting : Setting} :
    options.setAll? [setting] = options.set? setting := by
  rw [setAll?_cons]
  exact Option.bind_fun_some _

theorem setAll?_append {options : Options} {settings more : List Setting} :
    options.setAll? (settings ++ more) =
      (options.setAll? settings).bind fun next => next.setAll? more :=
  List.foldlM_append

/-- What options become with some settings: what is set already stands before what the settings
add, and both together are what the result has room for. -/
@[mk_iff]
structure Gathers (start : Options) (settings : List Setting) (options : Options) : Prop where
  expression : start.expression.toList ++ expressionsOf settings = options.expression.toList
  file : start.file.toList ++ textsOf .file settings = options.file.toList
  named : "" ∉ textsOf .file settings
  bindings : start.bindings ++ textsOf .set settings = options.bindings
  maxDepth : (start.maxDepth.map some).toList ++ (textsOf .maxDepth settings).map depth? =
    (options.maxDepth.map some).toList
  listOperators : start.listOperators.toNat + settings.count (.flag .listOperators) =
    options.listOperators.toNat
  verbose : start.verbose.toNat + settings.count (.flag .verbose) = options.verbose.toNat
  noVersion : .flag .version ∉ settings
  noHelp : .flag .help ∉ settings

section Room

variable {α : Type}

theorem toList_inj {left right : Option α} : left.toList = right.toList ↔ left = right := by
  cases left <;> cases right <;> simp

theorem cons_cons_ne_toList {first second : α} {rest : List α} {found : Option α} :
    first :: second :: rest ≠ found.toList := by
  cases found <;> simp

theorem none_cons_ne_toList {rest : List (Option α)} {found : Option α} :
    none :: rest ≠ (found.map some).toList := by
  cases found <;> simp

theorem toNat_inj {left right : Bool} : left.toNat = right.toNat ↔ left = right := by
  cases left <;> cases right <;> simp

end Room

theorem gathers_nil {start options : Options} : Gathers start [] options ↔ start = options := by
  constructor
  · intro gathers
    obtain ⟨expression, file, -, bindings, maxDepth, listOperators, verbose, -, -⟩ := gathers
    simp only [expressionsOf_nil, textsOf_nil, List.append_nil, List.map_nil, List.count_nil,
      Nat.add_zero, toList_inj, toNat_inj, (Option.map_injective (Option.some_injective _)).eq_iff]
      at expression file bindings maxDepth listOperators verbose
    cases start
    cases options
    simp_all
  · rintro rfl
    constructor <;> simp

/-- The first of some settings is made, and then the others. -/
theorem gathers_cons {start options : Options} {setting : Setting} {settings : List Setting} :
    Gathers start (setting :: settings) options ↔
      ∃ next, start.set? setting = some next ∧ Gathers next settings options := by
  cases setting with
  | expression text =>
      rw [Options.set?, Options.positional?]
      cases given : start.expression <;> simp [gathers_iff, given, cons_cons_ne_toList]
  | value option text =>
      rw [Options.set?]
      cases option with
      | file =>
          rw [Options.assign?]
          cases given : start.file <;> by_cases empty : text = "" <;>
            simp [gathers_iff, given, empty, cons_cons_ne_toList]
      | set => simp [Options.assign?, gathers_iff]
      | maxDepth =>
          rw [Options.assign?]
          cases given : start.maxDepth <;> cases depth : depth? text <;>
            simp [gathers_iff, given, depth, cons_cons_ne_toList, none_cons_ne_toList]
  | flag option =>
      cases option with
      | listOperators =>
          cases before : start.listOperators <;> cases after : options.listOperators <;>
            simp [Options.set?, Options.flag?, gathers_iff, before, after]
      | verbose =>
          cases before : start.verbose <;> cases after : options.verbose <;>
            simp [Options.set?, Options.flag?, gathers_iff, before, after]
      | version => simp [Options.set?, Options.flag?, gathers_iff]
      | help => simp [Options.set?, Options.flag?, gathers_iff]

theorem setAll?_eq_some_iff {start options : Options} {settings : List Setting} :
    start.setAll? settings = some options ↔ Gathers start settings options := by
  induction settings generalizing start with
  | nil => rw [gathers_nil, Options.setAll?, List.foldlM_nil, Option.pure_def, Option.some_inj]
  | cons setting settings inductionHypothesis =>
      rw [setAll?_cons, gathers_cons, Option.bind_eq_some_iff]
      simp only [inductionHypothesis]

theorem map_depth?_eq_iff {texts : List String} {counts : List Nat} :
    texts.map depth? = counts.map some ↔ List.Forall₂ Writes texts counts := by
  rw [← List.forall₂_eq_eq_eq, List.forall₂_map_left_iff, List.forall₂_map_right_iff]
  simp only [depth?_eq_some_iff]

/-- Settings that are made on no options yet. -/
theorem gathers_empty_iff {settings : List Setting} {options : Options} :
    Gathers {} settings options ∧ (options.expression = none ∨ options.file = none) ↔
      Combines settings options := by
  constructor
  · rintro ⟨gathers, oneSource⟩
    have file : textsOf .file settings = options.file.toList := gathers.file
    refine ⟨gathers.expression, file, ?_, oneSource, gathers.bindings, ?_, ?_, ?_,
      gathers.noVersion, gathers.noHelp⟩
    · intro nameless
      apply gathers.named
      rw [file, nameless]
      exact List.mem_cons_self
    · apply map_depth?_eq_iff.mp
      rw [← Option.toList_map]
      exact gathers.maxDepth
    · exact (Nat.zero_add _).symm.trans gathers.listOperators
    · exact (Nat.zero_add _).symm.trans gathers.verbose
  · intro combines
    refine ⟨⟨combines.expression, combines.file, ?_, combines.bindings, ?_, ?_, ?_,
      combines.noVersion, combines.noHelp⟩, combines.oneSource⟩
    · rw [combines.file]
      intro nameless
      exact combines.named (Option.mem_toList.mp nameless)
    · exact (map_depth?_eq_iff.mpr combines.maxDepth).trans Option.toList_map.symm
    · exact (Nat.zero_add _).trans combines.listOperators
    · exact (Nat.zero_add _).trans combines.verbose

end RuleTree.CommandLine
