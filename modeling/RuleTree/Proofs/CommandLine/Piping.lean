import RuleTree.Proofs.CommandLine.Outcome
import RuleTree.Proofs.Evaluation.Result
import RuleTree.Proofs.Evaluation.Room

/-!
Contract: what a run prints can be bound in the next one.

No value of a run nests deeper than the reader of JSON allows: its literals are no lists,
and what is bound was read (`height_le_of_yields`). So its text is read back whole when it
stands behind the equals sign of a binding, and `var` hands it on as it is, a list too,
since what a function answers is not evaluated. The value read back has the text that was
printed (`output_pipes_back`).

Owns: how deep the values of runs nest, and runs that read one variable.
Does not own: the round trip of a text (`Proofs.Json.Document`).
-/

namespace RuleTree.CommandLine

open Evaluator

/-! ## How deep values nest -/

/-- What is bound nests no deeper than the reader allows. -/
def Shallow (bindings : Bindings) : Prop :=
  ∀ name value, bindings.find? name = some value → value.height ≤ jsonDepth

theorem height_bindingValue (text : String) : (bindingValue text).height ≤ jsonDepth := by
  unfold bindingValue
  split
  · next document parsed =>
      split
      · next value decoded =>
          exact Nat.le_trans (Value.height_decode decoded) (Json.nesting_le_of_read? parsed)
      · exact Nat.zero_le _
  · exact Nat.zero_le _

theorem Shallow.insert {bindings : Bindings} (shallow : Shallow bindings) (name text : String) :
    Shallow (bindings.insert name (bindingValue text)) := by
  intro other value found
  rw [Table.find?_insert] at found
  split at found
  · cases found
    exact height_bindingValue text
  · exact shallow other value found

theorem shallow_of_bindingsFrom? {pairs : List String} {start bindings : Bindings}
    (shallow : Shallow start) (read : bindingsFrom? start pairs = .ok bindings) :
    Shallow bindings := by
  induction pairs generalizing start with
  | nil =>
      cases read
      exact shallow
  | cons pair pairs inductionHypothesis =>
      rw [bindingsFrom?] at read
      split at read
      · cases read
      · next name value bound =>
          obtain ⟨text, rfl⟩ : ∃ text, value = bindingValue text := by
            unfold binding? at bound
            split at bound <;> cases bound
            exact ⟨_, rfl⟩
          exact inductionHypothesis (shallow.insert name text) read

theorem shallow_of_bindings? {pairs : List String} {bindings : Bindings}
    (read : bindings? pairs = .ok bindings) : Shallow bindings :=
  shallow_of_bindingsFrom? (fun _ _ found => by cases found) read

theorem height_le_of_yields {environment : Environment} {options : Options} {value : Value}
    (yields : Yields environment options value) : value.height ≤ jsonDepth := by
  obtain ⟨bound, -, -, -, -, -, evaluated⟩ := yields
  have keeps : operators.EveryFunction
      (Function.Keeps (fun value : Value => value.height ≤ jsonDepth) Shallow) :=
    operators_keeps (Nat.zero_le _) (fun _ => Nat.zero_le _) fun _ shallow => shallow
  -- A literal is no list, so its height is 0.
  have literals : ∀ tree : Value, tree.LiteralsKept fun value => value.height ≤ jsonDepth := by
    intro tree items _ position value _ _ literal
    cases value with
    | list items => cases literal
    | _ => exact Nat.zero_le _
  exact (evaluate_keeps operators_onlyIfElse keeps (Nat.zero_le _) (literals _)
    ⟨rfl, shallow_of_bindings? bound⟩).1 value evaluated

/-! ## The command line -/

/-- An array does not begin like an option. -/
theorem not_looksLikeOption_of_read?_array {depth : Nat} {text : String} {items : List Json}
    (parsed : Json.read? depth text = some (.array items)) : ¬ LooksLikeOption text := by
  rintro ⟨c, rest, chars⟩
  simp only [Json.read?, chars, Json.value?_number (.inl rfl)] at parsed
  split at parsed
  · next document rest number =>
      have flat := Json.nesting_number? number
      split at parsed
      · cases parsed
        cases flat
      · cases parsed
  · cases parsed

/-- One binding in long form, and an expression. -/
theorem request?_set {pair call : String} (plain : ¬ LooksLikeOption call) :
    request? ["--set=" ++ pair, call] =
      some (.run { expression := some call, bindings := [pair] }) := by
  have chars : ("--set=" ++ pair).toList =
      '-' :: '-' :: ((OptionName.value .set).long.toList ++ '=' :: pair.toList) := by
    rw [String.toList_append]
    rfl
  have said : Says ("--set=" ++ pair) [.value .set pair] none := .long chars (.assigned .set pair)
  apply request?_eq_run_iff.mpr
  refine ⟨_, .argument said (.argument (.expression plain) .done), ?_⟩
  constructor <;> simp

/-! ## A run that reads one variable -/

/-- The expression `["var", name]` as a document. -/
def varCall (name : String) : Json :=
  .array [.string "var", .string name]

theorem evaluate_var {bindings : Bindings} {name : String} {value : Value}
    (bound : bindings.find? name = some value) {options : Options} (room : 0 < options.limit) :
    ((evaluator bindings options).evaluate (.list [.string "var", .string name])).1 =
      .ok value := by
  have found : (evaluator bindings options).deeper.operators.resolve? "var" =
      some (.function varFunction) := rfl
  have called : varFunction [.string name] bindings = (.ok value, bindings) := by
    show (Except.ok (Value.ofOption id (bindings.find? name)), bindings) = _
    rw [bound]
    rfl
  rw [evaluate, enterTree, evaluateExpression_of_depth_lt room, dispatch_function _ _ _ found]
  exact congrArg Prod.fst called

theorem bindingValue_print {value : Value} (shallow : value.height ≤ jsonDepth) :
    bindingValue (Json.print value.encode) = value.documented := by
  rw [bindingValue, Json.read?_print shallow]
  simp only [Value.decode_encode]

/-- A value that is printed, bound and read again is printed alike. -/
theorem yields_bound {name : String} (named : name ≠ "") (plain : '=' ∉ name.toList)
    {value : Value} (shallow : value.height ≤ jsonDepth) {call : String}
    (parsed : Json.read? jsonDepth call = some (varCall name)) (environment : Environment) :
    Yields environment
      { expression := some call, bindings := [name ++ "=" ++ Json.print value.encode] }
      value.documented := by
  have chars : name ++ "=" ++ Json.print value.encode =
      String.ofList (name.toList ++ '=' :: (Json.print value.encode).toList) := by
    rw [← String.toList_inj]
    simp [String.toList_append]
  have read : bindings? [name ++ "=" ++ Json.print value.encode] =
      .ok (Table.empty.insert name value.documented) := by
    have nameChars : name.toList ≠ [] := fun none => named (String.toList_eq_nil_iff.mp none)
    rw [bindings?, bindingsFrom?, chars, binding?_of_name nameChars plain, String.ofList_toList,
      String.ofList_toList, bindingValue_print shallow]
    rfl
  have noObject : ¬ (varCall name).HoldsObject := by
    rw [← Value.decode_fails_iff]
    rintro ⟨error, ⟨⟩⟩
  refine .intro read (find?_bindings_eq_some_iff read) (.expression rfl) parsed noObject rfl
    (evaluate_var ?_ (Nat.succ_pos 255))
  rw [Table.find?_insert, if_pos rfl]

/-- The expression with the name as a JSON string. -/
def varText (name : String) : String :=
  "[\"var\", " ++ String.ofList (Json.quote name) ++ "]"

theorem read?_varText (name : String) :
    Json.read? jsonDepth (varText name) = some (varCall name) := by
  have chars : (varText name).toList =
      '[' :: '"' :: 'v' :: 'a' :: 'r' :: '"' :: ',' :: ' ' :: (Json.quote name ++ [']']) := by
    simp [varText, String.toList_append]
  obtain ⟨steps, enough⟩ : ∃ steps, 2 * (varText name).toList.length + 2 = steps + 5 := by
    refine ⟨2 * (varText name).toList.length - 3, ?_⟩
    rw [chars]
    simp only [List.length_cons]
    omega
  have head : ∀ rest, Json.value? (steps + 3) 126 ('"' :: 'v' :: 'a' :: 'r' :: '"' :: rest) =
      some (.string "var", rest) :=
    Json.value?_quote "var" (steps + 2) 126
  have argument : Json.value? (steps + 2) 126 (' ' :: (Json.quote name ++ [']'])) =
      some (.string name, [']']) :=
    Json.value?_quote name (steps + 1) 126 [']']
  have items : Json.items? (steps + 4) 126
      ('"' :: 'v' :: 'a' :: 'r' :: '"' :: ',' :: ' ' :: (Json.quote name ++ [']'])) =
        some ([.string "var", .string name], []) := by
    simp only [Json.items?, head, argument, Option.bind_eq_bind, Option.bind_some,
      Json.skipBlanks_cons (show Json.isBlank ',' = false by decide),
      Json.skipBlanks_cons (show Json.isBlank ']' = false by decide)]
    rfl
  simp only [Json.read?, enough]
  rw [chars, Json.value?_bracket (by decide) (by decide) (by decide),
    show jsonDepth - 1 = 126 from rfl, items]
  rfl

/-- **What a run prints can be piped into the next one.**

A run that evaluates and ends with code 0 prints one line. The run that binds the text of
that line to a name and asks for the variable of that name ends with code 0 and prints the
same line, whatever the text is and wherever the second run takes place. The expression may
be written in any way that reads as `["var", name]`, and it is written so with the name as a
JSON string. -/
theorem output_pipes_back
    {environment : Environment}
    {arguments : List String}
    {options : Options}
    (accepted : request? arguments = some (.run options))
    (evaluates : options.listOperators = false)
    {out : String}
    (succeeded : (respond environment arguments).code = 0)
    (printed : (respond environment arguments).standardOutput = out ++ "\n")
    {name : String}
    (named : name ≠ "")
    (plain : '=' ∉ name.toList)
    (elsewhere : Environment) :
    respond elsewhere ["--set=" ++ (name ++ "=" ++ out), varText name] =
        .success (out ++ "\n") ∧
      ∀ call, Json.read? jsonDepth call = some (varCall name) →
        respond elsewhere ["--set=" ++ (name ++ "=" ++ out), call] = .success (out ++ "\n") := by
  have reported : respond environment arguments = report environment options := by
    rw [respond, accepted]
  rw [reported] at succeeded printed
  obtain ⟨value, yields⟩ := (code_eq_zero_iff evaluates).mp succeeded
  obtain rfl : Json.print value.encode = out := by
    rw [report_of_yields evaluates yields] at printed
    exact (String.append_left_inj "\n").mp printed
  have anyCall : ∀ call, Json.read? jsonDepth call = some (varCall name) →
      respond elsewhere ["--set=" ++ (name ++ "=" ++ Json.print value.encode), call] =
        .success (Json.print value.encode ++ "\n") := by
    intro call parsed
    rw [respond, request?_set (not_looksLikeOption_of_read?_array parsed)]
    have again := yields_bound named plain (height_le_of_yields yields) parsed elsewhere
    have line := report_of_yields rfl again
    rw [outputLine, Value.encode_documented] at line
    exact line
  exact ⟨anyCall _ (read?_varText name), anyCall⟩

/-- A list that looks like a call, with an equals sign in a string and a large number. -/
theorem output_pipes_back_list :
    let nothing : Environment := ⟨fun _ => none, none⟩
    let arguments := ["-srule=[\"if-else\", \"a=\\\"b\\\"\", [1e21, -0.0]]", "[\"var\", \"rule\"]"]
    let out := "[\"if-else\",\"a=\\\"b\\\"\",[1e+21,0]]"
    respond nothing arguments = .success (out ++ "\n") ∧
      respond nothing ["--set=again=" ++ out, "[\"var\", \"again\"]"] = .success (out ++ "\n") := by
  intro nothing arguments out
  have first : respond nothing arguments = .success (out ++ "\n") := by decide +kernel
  have accepted : request? arguments = some (.run {
      expression := some "[\"var\", \"rule\"]"
      bindings := ["rule=[\"if-else\", \"a=\\\"b\\\"\", [1e21, -0.0]]"] }) := by
    decide +kernel
  have second := (output_pipes_back accepted rfl (by rw [first]; rfl) (by rw [first]; rfl)
    (show "again" ≠ "" by decide) (by decide) nothing).1
  exact ⟨first, second⟩

end RuleTree.CommandLine
