import RuleTree.Proofs.CommandLine.Binding
import RuleTree.Proofs.CommandLine.Setting

/-!
Contract: which command lines are runs, and with which options.

A command line spells settings, one after the other (`Spells`): an expression stands by
itself, an option has a name or a letter and its value with it or behind it, letters may stand
together, and `--` is followed by expressions only. Reading a command line gives a run with
some options exactly if it spells settings that combine to them (`request?_eq_run_iff`).

Owns: the grammar of command lines that are runs.
Does not own: what settings come to (`Setting`), and what a run does (`Outcome`).
-/

namespace RuleTree.CommandLine

/-! ## Names -/

/-- The name of an option, which stands behind two hyphens. -/
def OptionName.long : OptionName → String
  | .value .file => "file"
  | .value .set => "set"
  | .value .maxDepth => "max-depth"
  | .flag .listOperators => "list-operators"
  | .flag .verbose => "verbose"
  | .flag .version => "version"
  | .flag .help => "help"

/-- The letter of an option, which stands behind one hyphen. -/
def OptionName.letter? : OptionName → Option Char
  | .value .file => some 'f'
  | .value .set => some 's'
  | .value .maxDepth => none
  | .flag .listOperators => none
  | .flag .verbose => some 'v'
  | .flag .version => some 'V'
  | .flag .help => some 'h'

theorem ofLong?_eq_some_iff {name : String} {option : OptionName} :
    OptionName.ofLong? name = some option ↔ name = option.long := by
  constructor
  · intro found
    unfold OptionName.ofLong? at found
    split at found <;> cases found <;> rfl
  · rintro rfl
    rcases option with option | option <;> cases option <;> rfl

theorem ofLong?_long (option : OptionName) : OptionName.ofLong? option.long = some option :=
  ofLong?_eq_some_iff.mpr rfl

theorem eq_long_of_ofLong? {name : List Char} {option : OptionName}
    (found : OptionName.ofLong? (String.ofList name) = some option) :
    name = option.long.toList := by
  rw [← ofLong?_eq_some_iff.mp found, String.toList_ofList]

theorem ofShort?_eq_some_iff {c : Char} {option : OptionName} :
    OptionName.ofShort? c = some option ↔ option.letter? = some c := by
  constructor
  · intro found
    unfold OptionName.ofShort? at found
    split at found <;> cases found <;> rfl
  · intro letter
    rcases option with option | option <;> cases option <;> cases letter <;> rfl

theorem long_ne_nil (option : OptionName) : option.long.toList ≠ [] := by
  rcases option with option | option <;> cases option <;> decide

theorem equals_not_mem_long (option : OptionName) : '=' ∉ option.long.toList := by
  rcases option with option | option <;> cases option <;> decide

/-! ## Spelling -/

/-- A hyphen with something behind it. Before `--` this is neither an expression nor a value. -/
def LooksLikeOption (argument : String) : Prop :=
  ∃ c rest, argument.toList = '-' :: c :: rest

/-- What two hyphens are followed by: the name of a flag, or the name of an option with its
value after an equals sign or in the next argument. -/
inductive Long : List Char → List Setting → Option ValueOption → Prop where
  | flag (option : FlagOption) : Long (OptionName.flag option).long.toList [.flag option] none
  | assigned (option : ValueOption) (text : String) :
      Long ((OptionName.value option).long.toList ++ '=' :: text.toList) [.value option text] none
  | waiting (option : ValueOption) : Long (OptionName.value option).long.toList [] (some option)

/-- What one hyphen is followed by: the letters of flags, and last perhaps the letter of an
option with its value behind it, after an equals sign or without one, or in the next argument. -/
inductive Letters : List Char → List Setting → Option ValueOption → Prop where
  | done : Letters [] [] none
  | flag {c : Char} {option : FlagOption} {rest : List Char} {settings : List Setting}
      {waiting : Option ValueOption}
      (letter : (OptionName.flag option).letter? = some c)
      (spelled : Letters rest settings waiting) :
      Letters (c :: rest) (.flag option :: settings) waiting
  | assigned {c : Char} {option : ValueOption} (text : String)
      (letter : (OptionName.value option).letter? = some c) :
      Letters (c :: '=' :: text.toList) [.value option text] none
  | attached {c first : Char} {option : ValueOption} {rest : List Char}
      (letter : (OptionName.value option).letter? = some c)
      (plain : first ≠ '=') :
      Letters (c :: first :: rest) [.value option (String.ofList (first :: rest))] none
  | waiting {c : Char} {option : ValueOption}
      (letter : (OptionName.value option).letter? = some c) :
      Letters [c] [] (some option)

/-- What an argument that is no value spells, and the option that the next one is a value of. -/
inductive Says (argument : String) : List Setting → Option ValueOption → Prop where
  | expression (plain : ¬ LooksLikeOption argument) : Says argument [.expression argument] none
  | long {long : List Char} {settings : List Setting} {waiting : Option ValueOption}
      (hyphens : argument.toList = '-' :: '-' :: long)
      (spelled : Long long settings waiting) :
      Says argument settings waiting
  | letters {first : Char} {rest : List Char} {settings : List Setting}
      {waiting : Option ValueOption}
      (hyphen : argument.toList = '-' :: first :: rest)
      (single : first ≠ '-')
      (spelled : Letters (first :: rest) settings waiting) :
      Says argument settings waiting

/-- What arguments spell from left to right, the first one being the value of an option if one
waits for it. -/
inductive Spells : Option ValueOption → List String → List Setting → Prop where
  | done : Spells none [] []
  | ended (texts : List String) : Spells none ("--" :: texts) (texts.map .expression)
  | argument {argument : String} {settings : List Setting} {waiting : Option ValueOption}
      {rest : List String} {more : List Setting}
      (said : Says argument settings waiting)
      (spelled : Spells waiting rest more) :
      Spells none (argument :: rest) (settings ++ more)
  | value {option : ValueOption} {text : String} {rest : List String} {more : List Setting}
      (plain : ¬ LooksLikeOption text)
      (spelled : Spells none rest more) :
      Spells (some option) (text :: rest) (.value option text :: more)

section Arguments

variable {options next : Options} {waiting : Option ValueOption}

theorem flag?_next {option : FlagOption}
    (flagged : options.flag? option = some (.next next waiting)) : waiting = none := by
  unfold Options.flag? at flagged
  split at flagged
  · split at flagged <;> cases flagged
    rfl
  · split at flagged <;> cases flagged
    rfl
  · cases flagged
  · cases flagged

theorem flag?_eq_next_iff {option : FlagOption} :
    options.flag? option = some (.next next waiting) ↔
      waiting = none ∧ options.set? (.flag option) = some next := by
  constructor
  · intro flagged
    obtain rfl := flag?_next flagged
    refine ⟨rfl, ?_⟩
    rw [Options.set?, flagged]
  · rintro ⟨rfl, set⟩
    rw [Options.set?] at set
    split at set
    · next flagged =>
        cases set
        exact flagged
    · cases set

/-- Taking one text leaves no option waiting. -/
theorem map_next_iff {taken : Option Options} :
    taken.map (fun options => Progress.next options none) = some (.next next waiting) ↔
      waiting = none ∧ taken = some next := by
  cases taken with
  | none => exact iff_of_false nofun nofun
  | some options => simp [eq_comm, and_comm]

theorem exists_long {long : List Char}
    (read : longOption? options long = some (.next next waiting)) :
    ∃ settings, Long long settings waiting ∧ options.setAll? settings = some next := by
  -- A name holds no equals sign, so the first one ends it.
  by_cases equals : '=' ∈ long
  · obtain ⟨name, text, rfl, plain⟩ := List.eq_append_cons_of_mem equals
    simp only [longOption?, splitAtEquals_append plain] at read
    split at read
    · next option value found same =>
        obtain rfl := Option.some.inj same
        obtain rfl := eq_long_of_ofLong? found
        obtain ⟨rfl, set⟩ := map_next_iff.mp read
        refine ⟨[.value option (String.ofList text)], ?_, setAll?_singleton.trans set⟩
        have spelled := Long.assigned option (String.ofList text)
        rwa [String.toList_ofList] at spelled
    · next absent => cases absent
    · next absent => cases absent
    · cases read
  · simp only [longOption?, splitAtEquals_of_not_mem equals] at read
    split at read
    · next present => cases present
    · next option found _ =>
        obtain rfl := eq_long_of_ofLong? found
        cases read
        exact ⟨[], .waiting option, rfl⟩
    · next option found _ =>
        obtain rfl := eq_long_of_ofLong? found
        obtain ⟨rfl, set⟩ := flag?_eq_next_iff.mp read
        exact ⟨[.flag option], .flag option, setAll?_singleton.trans set⟩
    · cases read

theorem longOption?_of_long {long : List Char} {settings : List Setting}
    (spelled : Long long settings waiting) (set : options.setAll? settings = some next) :
    longOption? options long = some (.next next waiting) := by
  cases spelled with
  | flag option =>
      simp only [longOption?, splitAtEquals_of_not_mem (equals_not_mem_long (.flag option)),
        String.ofList_toList, ofLong?_long]
      exact flag?_eq_next_iff.mpr ⟨rfl, setAll?_singleton.symm.trans set⟩
  | assigned option text =>
      simp only [longOption?, splitAtEquals_append (equals_not_mem_long (.value option)),
        String.ofList_toList, ofLong?_long]
      exact map_next_iff.mpr ⟨rfl, setAll?_singleton.symm.trans set⟩
  | waiting option =>
      simp only [longOption?, splitAtEquals_of_not_mem (equals_not_mem_long (.value option)),
        String.ofList_toList, ofLong?_long]
      cases set
      rfl

/-- What stands behind the letter of an option is its value, but for one equals sign. -/
theorem letters_of_attached {c : Char} {option : ValueOption} {rest : List Char}
    (letter : (OptionName.value option).letter? = some c) :
    rest ≠ [] →
      let value :=
        match rest with
        | '=' :: value => value
        | value => value
      Letters (c :: rest) [.value option (.ofList value)] none := by
  intro nonempty
  split
  · next value =>
      have spelled := Letters.assigned (String.ofList value) letter
      rwa [String.toList_ofList] at spelled
  · next plain =>
      cases rest with
      | nil => exact absurd rfl nonempty
      | cons first rest =>
          apply Letters.attached letter
          rintro rfl
          exact plain rest rfl

theorem exists_letters {letters : List Char}
    (read : shortOptions? options letters = some (.next next waiting)) :
    ∃ settings, Letters letters settings waiting ∧ options.setAll? settings = some next := by
  induction letters generalizing options with
  | nil =>
      cases read
      exact ⟨[], .done, rfl⟩
  | cons c rest inductionHypothesis =>
      unfold shortOptions? at read
      split at read
      · cases read
      · next option found =>
          have letter := ofShort?_eq_some_iff.mp found
          split at read
          · next last =>
              obtain rfl := List.isEmpty_iff.mp last
              cases read
              exact ⟨[], .waiting letter, rfl⟩
          · next more =>
              obtain ⟨rfl, set⟩ := map_next_iff.mp read
              have nonempty : rest ≠ [] := mt List.isEmpty_iff.mpr more
              exact ⟨_, letters_of_attached letter nonempty, setAll?_singleton.trans set⟩
      · next option found =>
          have letter := ofShort?_eq_some_iff.mp found
          split at read
          · next flagged given =>
              obtain ⟨settings, spelled, set⟩ := inductionHypothesis read
              refine ⟨.flag option :: settings, .flag letter spelled, ?_⟩
              rw [setAll?_cons, (flag?_eq_next_iff.mp given).2]
              exact set
          · next other =>
              obtain ⟨rfl, -⟩ := flag?_eq_next_iff.mp read
              exact absurd read (other next)

theorem shortOptions?_of_letters {letters : List Char} {settings : List Setting}
    (spelled : Letters letters settings waiting) (set : options.setAll? settings = some next) :
    shortOptions? options letters = some (.next next waiting) := by
  induction spelled generalizing options with
  | done =>
      cases set
      rfl
  | flag letter _ inductionHypothesis =>
      rw [setAll?_cons, Option.bind_eq_some_iff] at set
      obtain ⟨flagged, given, set⟩ := set
      simp only [shortOptions?, ofShort?_eq_some_iff.mpr letter, flag?_eq_next_iff.mpr ⟨rfl, given⟩]
      exact inductionHypothesis set
  | assigned text letter =>
      simp only [shortOptions?, ofShort?_eq_some_iff.mpr letter, String.ofList_toList]
      exact map_next_iff.mpr ⟨rfl, setAll?_singleton.symm.trans set⟩
  | attached letter plain =>
      simp only [shortOptions?, ofShort?_eq_some_iff.mpr letter, List.isEmpty_cons,
        Bool.false_eq_true, if_false]
      split
      · next same => exact absurd (List.head_eq_of_cons_eq same) plain
      · exact map_next_iff.mpr ⟨rfl, setAll?_singleton.symm.trans set⟩
  | waiting letter =>
      cases set
      simp only [shortOptions?, ofShort?_eq_some_iff.mpr letter]
      rfl

/-- The three kinds of arguments. -/
theorem argument_cases (argument : String) :
    (∃ long, argument.toList = '-' :: '-' :: long) ∨
      (∃ first rest, argument.toList = '-' :: first :: rest ∧ first ≠ '-') ∨
      ¬ LooksLikeOption argument := by
  by_cases looks : LooksLikeOption argument
  · obtain ⟨first, rest, hyphen⟩ := looks
    by_cases double : first = '-'
    · exact .inl ⟨rest, double ▸ hyphen⟩
    · exact .inr (.inl ⟨first, rest, hyphen, double⟩)
  · exact .inr (.inr looks)

theorem argument?_long {argument : String} {long : List Char}
    (hyphens : argument.toList = '-' :: '-' :: long) :
    argument? options none argument = longOption? options long := by
  unfold argument?
  rw [hyphens]
  rfl

theorem argument?_letters {argument : String} {first : Char} {rest : List Char}
    (hyphen : argument.toList = '-' :: first :: rest) (single : first ≠ '-') :
    argument? options none argument = shortOptions? options (first :: rest) := by
  unfold argument?
  rw [hyphen]
  split <;> simp_all

theorem argument?_plain {argument : String} (plain : ¬ LooksLikeOption argument) :
    argument? options waiting argument =
      match waiting with
      | some option =>
        (options.assign? argument option).map fun options => .next options none
      | none => (options.positional? argument).map fun options => .next options none := by
  unfold argument?
  split
  · next same => exact absurd ⟨_, _, same⟩ plain
  · next same => exact absurd ⟨_, _, same⟩ plain
  · next same => exact absurd ⟨_, _, same⟩ plain
  · next same => exact absurd ⟨_, _, same⟩ plain
  · rfl
  · rfl

theorem argument?_waiting_of_looks {argument : String} {option : ValueOption}
    (looks : LooksLikeOption argument) : argument? options (some option) argument = none := by
  obtain ⟨first, rest, hyphen⟩ := looks
  unfold argument?
  rw [hyphen]
  split <;> simp_all

/-- An argument is read exactly if it spells settings that can be made now. -/
theorem argument?_eq_next_iff {argument : String} :
    argument? options none argument = some (.next next waiting) ↔
      ∃ settings, Says argument settings waiting ∧ options.setAll? settings = some next := by
  constructor
  · intro read
    rcases argument_cases argument with ⟨long, hyphens⟩ | ⟨first, rest, hyphen, single⟩ | plain
    · rw [argument?_long hyphens] at read
      obtain ⟨settings, spelled, set⟩ := exists_long read
      exact ⟨settings, .long hyphens spelled, set⟩
    · rw [argument?_letters hyphen single] at read
      obtain ⟨settings, spelled, set⟩ := exists_letters read
      exact ⟨settings, .letters hyphen single spelled, set⟩
    · rw [argument?_plain plain] at read
      obtain ⟨rfl, set⟩ := map_next_iff.mp read
      exact ⟨_, .expression plain, setAll?_singleton.trans set⟩
  · rintro ⟨settings, said, set⟩
    cases said with
    | expression plain =>
        rw [argument?_plain plain]
        exact map_next_iff.mpr ⟨rfl, setAll?_singleton.symm.trans set⟩
    | long hyphens spelled =>
        rw [argument?_long hyphens]
        exact longOption?_of_long spelled set
    | letters hyphen single spelled =>
        rw [argument?_letters hyphen single]
        exact shortOptions?_of_letters spelled set

/-- A value is taken as it is, unless it looks like an option. -/
theorem argument?_waiting_eq_next_iff {argument : String} {option : ValueOption} :
    argument? options (some option) argument = some (.next next waiting) ↔
      ¬ LooksLikeOption argument ∧ waiting = none ∧
        options.set? (.value option argument) = some next := by
  by_cases looks : LooksLikeOption argument
  · rw [argument?_waiting_of_looks looks]
    exact iff_of_false nofun fun holds => holds.1 looks
  · rw [argument?_plain looks, map_next_iff, and_iff_right looks]
    rfl

/-! ## No run before the end

A single argument answers at most for the version or for help.
-/

theorem flag?_ne_run {option : FlagOption} {final : Options} :
    options.flag? option ≠ some (.answer (.run final)) := by
  unfold Options.flag?
  split
  · split <;> nofun
  · split <;> nofun
  · nofun
  · nofun

theorem longOption?_ne_run {long : List Char} {final : Options} :
    longOption? options long ≠ some (.answer (.run final)) := by
  unfold longOption?
  split
  split
  · simp
  · nofun
  · exact flag?_ne_run
  · nofun

theorem shortOptions?_ne_run {letters : List Char} {final : Options} :
    shortOptions? options letters ≠ some (.answer (.run final)) := by
  induction letters generalizing options with
  | nil => nofun
  | cons c rest inductionHypothesis =>
      unfold shortOptions?
      split
      · nofun
      · split
        · nofun
        · simp
      · split
        · exact inductionHypothesis
        · exact flag?_ne_run

theorem argument?_ne_run {argument : String} {final : Options} :
    argument? options waiting argument ≠ some (.answer (.run final)) := by
  unfold argument?
  split
  · exact longOption?_ne_run
  · nofun
  · exact shortOptions?_ne_run
  · nofun
  · simp
  · simp

end Arguments

/-! ## Command lines -/

theorem positionals?_eq_setAll? {options : Options} {texts : List String} :
    positionals? options texts = options.setAll? (texts.map .expression) := by
  induction texts generalizing options with
  | nil => rfl
  | cons text texts inductionHypothesis =>
      rw [positionals?, List.map_cons, setAll?_cons, Options.set?]
      simp only [inductionHypothesis]

theorem Options.request?_eq_run_iff {options final : Options} :
    options.request? = some (.run final) ↔
      options = final ∧ (final.expression = none ∨ final.file = none) := by
  unfold Options.request?
  cases expression : options.expression <;> cases file : options.file <;> simp <;>
    · rintro rfl
      simp [expression, file]

theorem looksLikeOption_hyphens : LooksLikeOption "--" :=
  ⟨'-', [], rfl⟩

theorem ne_nil_of_long {long : List Char} {settings : List Setting} {waiting : Option ValueOption}
    (spelled : Long long settings waiting) : long ≠ [] := by
  cases spelled with
  | flag option => exact long_ne_nil (.flag option)
  | assigned option text => exact List.append_ne_nil_of_right_ne_nil _ (List.cons_ne_nil _ _)
  | waiting option => exact long_ne_nil (.value option)

theorem not_says_hyphens {settings : List Setting} {waiting : Option ValueOption} :
    ¬ Says "--" settings waiting := by
  intro said
  cases said with
  | expression plain => exact plain looksLikeOption_hyphens
  | long hyphens spelled =>
      cases hyphens
      exact ne_nil_of_long spelled rfl
  | letters hyphen single =>
      cases hyphen
      exact single rfl

section Run

variable {options final : Options} {waiting : Option ValueOption} {argument : String}
  {rest : List String}

theorem requestFrom?_cons (more : argument ≠ "--") :
    requestFrom? options waiting (argument :: rest) = some (.run final) ↔
      ∃ next after, argument? options waiting argument = some (.next next after) ∧
        requestFrom? next after rest = some (.run final) := by
  rw [requestFrom?, if_neg more]
  cases read : argument? options waiting argument with
  | none => exact iff_of_false nofun nofun
  | some progress =>
      cases progress with
      | answer request =>
          refine iff_of_false ?_ nofun
          intro same
          exact argument?_ne_run (Option.some.inj same ▸ read)
      | next next after => simp

theorem requestFrom?_hyphens :
    requestFrom? options waiting ("--" :: rest) = some (.run final) ↔
      waiting = none ∧ options.setAll? (rest.map .expression) = some final ∧
        (final.expression = none ∨ final.file = none) := by
  rw [requestFrom?, if_pos rfl, positionals?_eq_setAll?]
  cases waiting with
  | some option => exact iff_of_false nofun nofun
  | none => simp [Option.bind_eq_some_iff, Options.request?_eq_run_iff]

/-- The first argument is read, and then the others. -/
theorem exists_spells_cons_iff (more : argument ≠ "--") :
    (∃ settings, Spells waiting (argument :: rest) settings ∧
        options.setAll? settings = some final) ↔
      ∃ next after, argument? options waiting argument = some (.next next after) ∧
        ∃ settings, Spells after rest settings ∧ next.setAll? settings = some final := by
  constructor
  · rintro ⟨settings, spelled, set⟩
    cases spelled with
    | ended => exact absurd rfl more
    | argument said spelled =>
        rw [setAll?_append, Option.bind_eq_some_iff] at set
        obtain ⟨next, setFirst, set⟩ := set
        exact ⟨next, _, argument?_eq_next_iff.mpr ⟨_, said, setFirst⟩, _, spelled, set⟩
    | value plain spelled =>
        rw [setAll?_cons, Option.bind_eq_some_iff] at set
        obtain ⟨next, setFirst, set⟩ := set
        have read := argument?_waiting_eq_next_iff.mpr ⟨plain, rfl, setFirst⟩
        exact ⟨next, none, read, _, spelled, set⟩
  · rintro ⟨next, after, read, settings, spelled, set⟩
    cases waiting with
    | none =>
        obtain ⟨first, said, setFirst⟩ := argument?_eq_next_iff.mp read
        refine ⟨first ++ settings, .argument said spelled, ?_⟩
        rw [setAll?_append, setFirst]
        exact set
    | some option =>
        obtain ⟨plain, rfl, setFirst⟩ := argument?_waiting_eq_next_iff.mp read
        refine ⟨.value option argument :: settings, .value plain spelled, ?_⟩
        rw [setAll?_cons, setFirst]
        exact set

theorem spells_hyphens_iff {settings : List Setting} :
    Spells waiting ("--" :: rest) settings ↔
      waiting = none ∧ settings = rest.map .expression := by
  constructor
  · intro spelled
    cases spelled with
    | ended => exact ⟨rfl, rfl⟩
    | argument said => exact absurd said not_says_hyphens
    | value plain => exact absurd looksLikeOption_hyphens plain
  · rintro ⟨rfl, rfl⟩
    exact .ended rest

theorem spells_nil_iff {settings : List Setting} :
    Spells waiting [] settings ↔ waiting = none ∧ settings = [] := by
  constructor
  · intro spelled
    cases spelled
    exact ⟨rfl, rfl⟩
  · rintro ⟨rfl, rfl⟩
    exact .done

/-- Reading goes on to the end exactly if the arguments spell settings that can be made. -/
theorem requestFrom?_eq_run_iff {arguments : List String} :
    requestFrom? options waiting arguments = some (.run final) ↔
      (∃ settings, Spells waiting arguments settings ∧ options.setAll? settings = some final) ∧
        (final.expression = none ∨ final.file = none) := by
  induction arguments generalizing options waiting with
  | nil =>
      rw [requestFrom?]
      simp only [spells_nil_iff]
      cases waiting with
      | some option => exact iff_of_false nofun nofun
      | none => simp [Options.request?_eq_run_iff, Options.setAll?]
  | cons argument rest inductionHypothesis =>
      by_cases ends : argument = "--"
      · subst ends
        rw [requestFrom?_hyphens]
        simp only [spells_hyphens_iff, and_assoc, exists_and_left, exists_eq_left]
      · simp only [requestFrom?_cons ends, inductionHypothesis, exists_spells_cons_iff ends,
          ← and_assoc, exists_and_right]

end Run

/-- **Which command lines are runs, and with which options.** -/
theorem request?_eq_run_iff {arguments : List String} {options : Options} :
    request? arguments = some (.run options) ↔
      ∃ settings, Spells none arguments settings ∧ Combines settings options := by
  rw [request?, requestFrom?_eq_run_iff, ← exists_and_right]
  simp only [setAll?_eq_some_iff, and_assoc, gathers_empty_iff]

example : request? ["-vfrule", "--max-depth", "+007"] =
    some (.run { file := some "rule", maxDepth := some 7, verbose := true }) := by
  decide +kernel

end RuleTree.CommandLine
