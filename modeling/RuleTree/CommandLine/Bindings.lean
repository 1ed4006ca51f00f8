import RuleTree.Builtins
import RuleTree.CommandLine.Options
import RuleTree.Json.Reader
import RuleTree.Value.Json

/-!
Contract: the bindings of a run, and the operator that reads them.

A binding is a name, an equals sign and a value. The value is what it says as JSON
without objects; any other text stands for itself. Of two bindings of one name the
later one counts.
-/

namespace RuleTree.CommandLine

/-- How many arrays and objects may be nested in JSON text. -/
def jsonDepth : Nat := 127

abbrev Bindings := Table Value

/-- What is wrong with a binding. -/
inductive BindingError where
  | noValue (pair : String)
  | noName (pair : String)
deriving DecidableEq, Repr

def BindingError.message : BindingError → String
  | .noValue pair => "binding '" ++ pair ++ "' is not of the form NAME=VALUE"
  | .noName pair => "binding '" ++ pair ++ "' has an empty name"

/-- The value that a text in a binding stands for. -/
def bindingValue (text : String) : Value :=
  match Json.read? jsonDepth text with
  | some document =>
    match Value.decode document with
    | .ok value => value
    | .error _ => .string text
  | none => .string text

/-- The name and the value of a binding. -/
def binding? (pair : String) : Except BindingError (String × Value) :=
  match splitAtEquals pair.toList with
  | (_, none) => .error (.noValue pair)
  | ([], some _) => .error (.noName pair)
  | (name, some value) =>
    .ok (String.ofList name, bindingValue (String.ofList value))

/-- Read bindings into a table, up to the first one that is wrong. -/
def bindingsFrom? (bindings : Bindings) : List String → Except BindingError Bindings
  | [] => .ok bindings
  | pair :: pairs =>
    match binding? pair with
    | .error error => .error error
    | .ok (name, value) => bindingsFrom? (bindings.insert name value) pairs

def bindings? (pairs : List String) : Except BindingError Bindings :=
  bindingsFrom? .empty pairs

/-! ## Operators -/

/-- The value bound to the name that the first argument is, null if there is none. -/
def varFunction : Function Bindings := fun arguments bindings =>
  (.ok (Value.ofOption id ((Value.argument arguments 0).string?.bind bindings.find?)), bindings)

/-- The built-in operators and `var`. -/
def operators : Operators Bindings :=
  Operators.builtin.insertFunction "var" varFunction

end RuleTree.CommandLine
