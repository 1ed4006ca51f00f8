import RuleTree.Builtins
import RuleTree.Evaluator

/-!
Contract: a host whose operators are given as data.

Its context is a journal: a log of values and a table of named values. Functions read
and write the journal; macros fill templates, or ask the evaluator they run in for
evaluations.

Owns: the journal, the functions and macros that data can describe, and registries
made of them. Does not own: how they are written down.
-/

namespace RuleTree.Host

structure Journal where
  log : List Value := []
  bindings : Table Value := .empty

def Journal.append (journal : Journal) (values : List Value) : Journal :=
  { journal with log := journal.log ++ values }

/-- A count as a value. -/
def countValue (count : Nat) : Value :=
  .ofInt count

/-! ## Functions -/

inductive FunctionRule where
  /-- Log the first argument and return it. -/
  | record
  | constant (value : Value)
  | arguments
  | count
  /-- The string forms of the arguments, joined. -/
  | concat
  | sum
  /-- The variable that the first argument names. -/
  | get
  /-- Set the variable named by the string form of the first argument. -/
  | set
  | logLength
  | fail (error : EvalError)

/-- The sum of numbers, from the left and starting at zero. -/
def sumFrom (total : Number) : List Value → Except EvalError Value
  | [] => .ok (.number total)
  | .number term :: rest => sumFrom (total.add term) rest
  | found :: _ => .error (.handler ("not a number: " ++ found.text))

def FunctionRule.handler (rule : FunctionRule) : Function Journal :=
  fun arguments journal =>
    let first := Value.argument arguments 0
    match rule with
    | .record => (.ok first, journal.append [first])
    | .constant value => (.ok value, journal)
    | .arguments => (.ok (.list arguments), journal)
    | .count => (.ok (countValue arguments.length), journal)
    | .concat => (.ok (.string (String.join (arguments.map Value.text))), journal)
    | .sum => (sumFrom Number.zero arguments, journal)
    | .get => (.ok (Value.ofOption id (first.string?.bind journal.bindings.find?)), journal)
    | .set =>
      let value := Value.argument arguments 1
      (.ok value, { journal with bindings := journal.bindings.insert first.text value })
    | .logLength => (.ok (countValue journal.log.length), journal)
    | .fail error => (.error error, journal)

/-! ## Macros -/

/-- An expression with places for arguments. -/
inductive Template where
  /-- All arguments, side by side. -/
  | allArguments
  | argument (index : Nat)
  | literal (value : Value)
  | list (items : List Template)

mutual

def Template.fill (arguments : List Value) : Template → List Value
  | .allArguments => arguments
  | .argument index => [Value.argument arguments index]
  | .literal value => [value]
  | .list items => [.list (Template.fillItems arguments items)]

def Template.fillItems (arguments : List Value) : List Template → List Value
  | [] => []
  | item :: items => item.fill arguments ++ Template.fillItems arguments items

end

inductive MacroRule where
  | template (items : List Template)
  /-- Evaluate the first argument. -/
  | evaluateFirst
  /-- Evaluate all arguments as one expression. -/
  | evaluateAll
  /-- Evaluate the first argument; an error becomes its message. -/
  | attempt
  /-- Log the arguments. -/
  | mark
  | limit
  | fail (error : EvalError)

/-- The expansion that gives a value as it is, unless it is a list. -/
def expansionOf (value : Value) : List Value :=
  [.string "identity", value]

def MacroRule.handler (rule : MacroRule) : Macro Journal :=
  fun arguments =>
    let finish (result : Except EvalError Value) : MacroProgram Journal (List Value) :=
      .finish (result.map expansionOf)
    match rule with
    | .template items => .finish (.ok (Template.fillItems arguments items))
    | .evaluateFirst => .evaluate (Value.argument arguments 0) finish
    | .evaluateAll => .evaluateItems arguments finish
    | .attempt =>
      .evaluate (Value.argument arguments 0) fun result =>
        match result with
        | .ok value => finish (.ok value)
        | .error error => finish (.ok (.string error.message))
    | .mark =>
      .readContext fun journal =>
        let marked := journal.append arguments
        .writeContext marked (finish (.ok (countValue marked.log.length)))
    | .limit => .ask .limit fun limit => finish (.ok (countValue limit))
    | .fail error => .finish (.error error)

/-! ## Registries -/

/-- The definitions of a host, in order. -/
structure Definitions where
  functions : List (String × FunctionRule)
  macros : List (String × MacroRule)

/-- The built-in operators with the definitions added one by one. -/
def Definitions.registry (definitions : Definitions) : Operators Journal :=
  let withFunctions := definitions.functions.foldl
    (fun operators entry => operators.insertFunction entry.1 entry.2.handler) .builtin
  definitions.macros.foldl
    (fun operators entry => operators.insertMacro entry.1 entry.2.handler) withFunctions

/-- The built-in operators with the definitions collected first and merged on top. -/
def Definitions.overrides (definitions : Definitions) : Operators Journal :=
  Operators.builtin.withOverrides
    (.ofList (definitions.functions.map fun entry => (entry.1, entry.2.handler)))
    (.ofList (definitions.macros.map fun entry => (entry.1, entry.2.handler)))

end RuleTree.Host
