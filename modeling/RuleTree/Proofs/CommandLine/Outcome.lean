import RuleTree.CommandLine.Run
import RuleTree.Proofs.CommandLine.Grammar
import RuleTree.Proofs.CommandLine.Override

/-!
Contract: how a run ends, for every command line that is a run.

Bindings come first: a wrong one ends the run whatever else is asked for. A list of the
operators needs nothing else and reads nothing else. Only then does the expression count,
and it is one fact whether a run has a value (`Yields`): it ends well exactly if it does,
with that value as its one line (`output?_eq_ok_iff`). Where the text came from does not
show in the end (`run_ends`).

Owns: the end of a run. Does not own: how a command line spells its settings (`Grammar`), and
what evaluations come to (`Proofs.Evaluation`).
-/

namespace RuleTree.CommandLine

/-! ## The expression -/

/-- Where a run finds the text of its expression: given, else in the file, else in the
input. -/
inductive Supplies (environment : Environment) (options : Options) (text : String) : Prop where
  | expression (given : options.expression = some text)
  | file {path : String}
      (notGiven : options.expression = none)
      (named : options.file = some path)
      (readable : environment.file? path = some text)
  | input
      (notGiven : options.expression = none)
      (unnamed : options.file = none)
      (readable : environment.input? = some text)

theorem source?_eq_ok_iff {environment : Environment} {options : Options} {text : String} :
    source? environment options = .ok text ↔ Supplies environment options text := by
  constructor
  · intro fetched
    unfold source? at fetched
    split at fetched
    · next given =>
        cases fetched
        exact .expression given
    · next notGiven named =>
        split at fetched
        · next readable =>
            cases fetched
            exact .file notGiven named readable
        · cases fetched
    · next notGiven unnamed =>
        split at fetched
        · next readable =>
            cases fetched
            exact .input notGiven unnamed readable
        · cases fetched
  · rintro (given | ⟨notGiven, named, readable⟩ | ⟨notGiven, unnamed, readable⟩)
    · simp only [source?, given]
    · simp only [source?, notGiven, named, readable]
    · simp only [source?, notGiven, unnamed, readable]

theorem tree?_eq_ok_iff {text : String} {tree : Value} :
    tree? text = .ok tree ↔
      ∃ document, Json.read? jsonDepth text = some document ∧ ¬ document.HoldsObject ∧
        Value.decode document = .ok tree := by
  unfold tree?
  cases parsed : Json.read? jsonDepth text with
  | none => exact iff_of_false nofun nofun
  | some document =>
      simp only [Option.some.injEq, exists_eq_left', ← Value.decode_fails_iff]
      cases decoded : Value.decode document with
      | error error => exact iff_of_false nofun (fun holds => holds.1 ⟨error, rfl⟩)
      | ok value =>
          refine ⟨fun same => ⟨nofun, congrArg _ (Except.ok.inj same)⟩, fun holds => ?_⟩
          exact congrArg _ (Except.ok.inj holds.2)

/-! ## The value of a run -/

/-- A run comes to a value: its bindings are read, the last one of each name being in force, the
text of its expression is JSON without objects, and the evaluation of the tree that the text
stands for gives the value, under the limit that is given or 256. -/
inductive Yields (environment : Environment) (options : Options) (value : Value) : Prop where
  | intro {bindings : Bindings} {text : String} {document : Json} {tree : Value}
      (bound : bindings? options.bindings = .ok bindings)
      (inForce : ∀ name bound, bindings.find? name = some bound ↔
        ∃ text, LastBinds name text options.bindings ∧ StandsFor text bound)
      (supplied : Supplies environment options text)
      (parsed : Json.read? jsonDepth text = some document)
      (plain : ¬ document.HoldsObject)
      (decoded : Value.decode document = .ok tree)
      (evaluated :
        (({ context := bindings, operators := operators, limit := options.maxDepth.getD 256 } :
          Evaluator Bindings).evaluate tree).1 = .ok value)

theorem evaluateSource_eq_ok_iff {bindings : Bindings} {options : Options} {text output : String} :
    evaluateSource bindings options text = .ok output ↔
      ∃ tree value, tree? text = .ok tree ∧
        ((evaluator bindings options).evaluate tree).1 = .ok value ∧
        output = outputLine value := by
  unfold evaluateSource
  cases read : tree? text with
  | error failure => exact iff_of_false nofun nofun
  | ok tree =>
      simp only [Except.ok.injEq, exists_and_left, exists_eq_left']
      cases evaluated : ((evaluator bindings options).evaluate tree).1 with
      | error error => exact iff_of_false nofun nofun
      | ok value => simp only [Except.ok.injEq, exists_eq_left', eq_comm]

/-- A run that evaluates has an output exactly if it comes to a value, and the output is
the line for that value. -/
theorem output?_eq_ok_iff {environment : Environment} {options : Options} {output : String}
    (evaluates : options.listOperators = false) :
    output? environment options = .ok output ↔
      ∃ value, Yields environment options value ∧ output = outputLine value := by
  constructor
  · intro succeeded
    unfold output? at succeeded
    split at succeeded
    · cases succeeded
    · next bindings bound =>
        rw [evaluates, if_neg Bool.false_ne_true] at succeeded
        split at succeeded
        · cases succeeded
        · next text fetched =>
            obtain ⟨tree, value, read, evaluated, line⟩ := evaluateSource_eq_ok_iff.mp succeeded
            obtain ⟨document, parsed, plain, decoded⟩ := tree?_eq_ok_iff.mp read
            have supplied := source?_eq_ok_iff.mp fetched
            have inForce := find?_bindings_eq_some_iff bound
            exact ⟨value, .intro bound inForce supplied parsed plain decoded evaluated, line⟩
  · rintro ⟨value, ⟨bound, -, supplied, parsed, plain, decoded, evaluated⟩, line⟩
    have read := tree?_eq_ok_iff.mpr ⟨_, parsed, plain, decoded⟩
    simp only [output?, bound, evaluates, if_neg Bool.false_ne_true,
      source?_eq_ok_iff.mpr supplied]
    exact evaluateSource_eq_ok_iff.mpr ⟨_, value, read, evaluated, line⟩

/-! ## The operators -/

theorem operators_unique : operators.functions.Unique :=
  (Table.unique_ofList _).insert "var" varFunction

theorem functionNames_operators :
    operators.functionNames = ["always", "identity", "matches", "true?", "var"] := by
  have permuted :
      operators.functionNames.Perm ["always", "identity", "matches", "true?", "var"] :=
    (List.mergeSort_perm operators.functions.names _).trans (by decide +kernel)
  exact permuted.eq_of_pairwise (fun _ _ _ _ => String.le_antisymm)
    operators.functions.pairwise_sortedNames (by decide +kernel)

/-! ## Reports -/

/-- The run ends with code 1 for some reason, and its standard output is empty. -/
def Report.Fails (report : Report) : Prop :=
  ∃ failure, report = ⟨1, "", some failure⟩

/-- The run ends with code 0 and this on its standard output. -/
def Report.success (output : String) : Report :=
  ⟨0, output, none⟩

/-- What two runs have in common that differ in their expressions only. -/
def Options.SameSettings (left right : Options) : Prop :=
  left.bindings = right.bindings ∧ left.maxDepth.getD 256 = right.maxDepth.getD 256 ∧
    left.listOperators = right.listOperators

section Run

variable {environment : Environment} {options : Options}

theorem report_of_ok {output : String} (succeeded : output? environment options = .ok output) :
    report environment options = .success output := by
  rw [report, succeeded]
  rfl

theorem report_fails {failure : Failure} (failed : output? environment options = .error failure) :
    (report environment options).Fails := by
  rw [report, failed]
  exact ⟨failure, rfl⟩

theorem report_fails_of_misbound (misbound : ∃ pair ∈ options.bindings, Misbound pair) :
    (report environment options).Fails := by
  obtain ⟨error, failed⟩ := bindings?_fails_iff.mpr misbound
  have ended : output? environment options = .error (.binding error) := by rw [output?, failed]
  exact report_fails ended

theorem report_list {bindings : Bindings} (bound : bindings? options.bindings = .ok bindings)
    (lists : options.listOperators = true) :
    report environment options = .success "always\nidentity\nmatches\ntrue?\nvar\n" := by
  have names : (evaluator bindings options).allowedOperators =
      ["always", "identity", "matches", "true?", "var"] := functionNames_operators
  apply report_of_ok
  simp only [output?, bound, lists, if_true, names]
  rfl

theorem fetches_of_list (lists : options.listOperators = true) : options.fetches = false := by
  rw [Options.fetches, lists]
  rfl

theorem report_of_yields (evaluates : options.listOperators = false) {value : Value}
    (yields : Yields environment options value) :
    report environment options = .success (outputLine value) :=
  report_of_ok ((output?_eq_ok_iff evaluates).mpr ⟨value, yields, rfl⟩)

theorem report_fails_of_not_yields (evaluates : options.listOperators = false)
    (noValue : ¬ ∃ value, Yields environment options value) :
    (report environment options).Fails := by
  cases ended : output? environment options with
  | error failure => exact report_fails ended
  | ok output =>
      obtain ⟨value, yields, -⟩ := (output?_eq_ok_iff evaluates).mp ended
      exact absurd ⟨value, yields⟩ noValue

/-- A run with code 0 comes to a value. -/
theorem code_eq_zero_iff (evaluates : options.listOperators = false) :
    (report environment options).code = 0 ↔ ∃ value, Yields environment options value := by
  constructor
  · intro succeeded
    by_contra noValue
    obtain ⟨failure, failed⟩ := report_fails_of_not_yields evaluates noValue
    rw [failed] at succeeded
    cases succeeded
  · rintro ⟨value, yields⟩
    rw [report_of_yields evaluates yields]
    rfl

/-- The text is all that a run takes from where its expression is. -/
theorem report_congr {elsewhere : Environment} {others : Options}
    (same : options.SameSettings others) {text : String}
    (supplied : Supplies environment options text)
    (suppliedThere : Supplies elsewhere others text) :
    report elsewhere others = report environment options := by
  obtain ⟨sameBindings, sameLimit, sameList⟩ := same
  have evaluatorOf : ∀ bindings, evaluator bindings others = evaluator bindings options := by
    intro bindings
    have sameLimit : others.limit = options.limit := sameLimit.symm
    simp only [evaluator, sameLimit]
  have outputOf : output? elsewhere others = output? environment options := by
    simp only [output?, evaluateSource, evaluatorOf, sameBindings, sameList,
      source?_eq_ok_iff.mpr supplied, source?_eq_ok_iff.mpr suppliedThere]
  simp only [report, outputOf]

end Run

theorem outputLine_printable (value : Value) :
    ∃ line, outputLine value = line ++ "\n" ∧ line = Json.print value.encode ∧
      ∀ c ∈ line.toList, 0x20 ≤ c.toNat := by
  refine ⟨Json.print value.encode, rfl, rfl, ?_⟩
  rw [Json.print, String.toList_ofList]
  exact value.encode_printable

/-- **How a run ends.**

A command line is a run with some options exactly if it spells settings that combine to them.
A binding without an equals sign or without a name ends the run with code 1 and an empty
standard output. If there is none, a run that lists the operators ends with code 0 and the
sorted names of the functions, and fetches no expression. Any other run ends with code 0
exactly if its expression can be fetched, is JSON without objects and evaluates to a value;
then the standard output is the JSON text of the value as one line without any other
character below U+0020. If not, the code is 1 and the standard output is empty. Two runs
that differ in how they get one text end alike. -/
theorem run_ends (environment : Environment) (arguments : List String) (options : Options) :
    (request? arguments = some (.run options) ↔
      ∃ settings, Spells none arguments settings ∧ Combines settings options) ∧
    (request? arguments = some (.run options) →
      let report := respond environment arguments
      ((∃ pair ∈ options.bindings, Misbound pair) → report.Fails) ∧
      ((∀ pair ∈ options.bindings, ¬ Misbound pair) → options.listOperators = true →
        report = .success "always\nidentity\nmatches\ntrue?\nvar\n" ∧
          operators.functionNames = ["always", "identity", "matches", "true?", "var"] ∧
          operators.functionNames.Pairwise (· < ·) ∧
          (∀ name, name ∈ operators.functionNames ↔ operators.functions.contains name = true) ∧
          options.fetches = false) ∧
      ((∀ pair ∈ options.bindings, ¬ Misbound pair) → options.listOperators = false →
        (report.code = 0 ↔ ∃ value, Yields environment options value) ∧
          (∀ value, Yields environment options value →
            ∃ line, report = .success (line ++ "\n") ∧ line = Json.print value.encode ∧
              ∀ c ∈ line.toList, 0x20 ≤ c.toNat) ∧
          ((¬ ∃ value, Yields environment options value) → report.Fails)) ∧
      ∀ (elsewhere : Environment) (others : List String) (otherOptions : Options) (text : String),
        request? others = some (.run otherOptions) → options.SameSettings otherOptions →
        Supplies environment options text → Supplies elsewhere otherOptions text →
        respond elsewhere others = report) := by
  have reported : ∀ {environment arguments options}, request? arguments = some (.run options) →
      respond environment arguments = report environment options := by
    intro environment arguments options accepted
    rw [respond, accepted]
  refine ⟨request?_eq_run_iff, fun accepted => ?_⟩
  dsimp only
  rw [reported accepted]
  refine ⟨report_fails_of_misbound, ?_, ?_, ?_⟩
  · intro wellBound lists
    obtain ⟨bindings, bound⟩ := exists_bindings? wellBound
    refine ⟨report_list bound lists, functionNames_operators, ?_, ?_, fetches_of_list lists⟩
    · exact operators_unique.strictly_sortedNames
    · exact operators.functions.mem_sortedNames_iff
  · intro wellBound evaluates
    refine ⟨code_eq_zero_iff evaluates, ?_, report_fails_of_not_yields evaluates⟩
    intro value yields
    obtain ⟨line, whole, printed, printable⟩ := outputLine_printable value
    exact ⟨line, whole ▸ report_of_yields evaluates yields, printed, printable⟩
  · intro elsewhere others otherOptions text acceptedThere same supplied suppliedThere
    rw [reported acceptedThere]
    exact report_congr same supplied suppliedThere

/-- A line feed in a bound value stands escaped in the one line of output. -/
def boundLine : Options :=
  { expression := some "[\"var\", \"name\"]", bindings := ["name=a\nb"], maxDepth := some 1 }

theorem run_ends_from_file :
    let given := ["--set=name=a\nb", "--max-depth", "+1", "--", "[\"var\", \"name\"]"]
    let named := ["-vf", "rule", "--max-depth=01", "-sname=a\nb"]
    let nothing : Environment := ⟨fun _ => none, none⟩
    let filed : Environment := ⟨fun _ => some "[\"var\", \"name\"]", none⟩
    (∃ settings, Spells none given settings ∧ Combines settings boundLine) ∧
      (∃ value, Yields nothing boundLine value) ∧
      respond nothing given = .success "\"a\\nb\"\n" ∧
      respond filed named = .success "\"a\\nb\"\n" := by
  intro given named nothing filed
  have accepted : request? given = some (.run boundLine) := by decide +kernel
  have acceptedThere : request? named = some (.run {
      file := some "rule"
      bindings := ["name=a\nb"]
      maxDepth := some 1
      verbose := true }) := by
    decide +kernel
  have wellBound : ∀ pair ∈ boundLine.bindings, ¬ Misbound pair := by
    unfold Misbound
    decide +kernel
  have succeeded : respond nothing given = .success "\"a\\nb\"\n" := by decide +kernel
  obtain ⟨spelled, ends⟩ := run_ends nothing given boundLine
  obtain ⟨-, -, evaluates, alike⟩ := ends accepted
  have yields := (evaluates wellBound rfl).1.mp (by rw [succeeded]; rfl)
  refine ⟨spelled.mp accepted, yields, succeeded, ?_⟩
  rw [alike filed named _ _ acceptedThere ⟨rfl, rfl, rfl⟩ (.expression rfl) (.file rfl rfl rfl)]
  exact succeeded

end RuleTree.CommandLine
