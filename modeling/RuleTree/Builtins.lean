import RuleTree.Operators
import RuleTree.Pattern.Whole
import RuleTree.Unicode.Casing

/-!
Contract: the operators that every registry starts with.

The functions are `always`, `identity`, `true?` and `matches`; the one macro is
`if-else`, which evaluates its condition and expands to the chosen branch.

Owns: what these operators do. Does not own: how they are called (`Evaluator`).
-/

namespace RuleTree

/-! ## Functions -/

/-- Whether a text matches a pattern as a whole, both being lower-cased first. -/
def matchesPattern (value pattern : Value) : Except EvalError Bool :=
  let text := Unicode.lower value.operandChars
  let pattern := Unicode.lower pattern.operandChars
  match Pattern.matchesWhole? pattern text with
  | some matched => .ok matched
  | none => .error (.invalidPattern (String.ofList pattern))

namespace Builtin

variable {σ : Type}

/-- True whatever the arguments are. -/
def always : Function σ := fun _ context =>
  (.ok (.boolean true), context)

/-- The first argument. -/
def identity : Function σ := fun arguments context =>
  (.ok (Value.argument arguments 0), context)

/-- Whether the first argument reads as true. -/
def isTrue : Function σ := fun arguments context =>
  (.ok (.boolean (Value.argument arguments 0).readsTrue), context)

/-- Whether the first argument matches the pattern that the second one is. -/
def wholeMatch : Function σ := fun arguments context =>
  match arguments with
  | [value, pattern] => ((matchesPattern value pattern).map Value.boolean, context)
  | _ => (.error (.wrongCount "matches" 2 arguments.length), context)

/-! ## The macro -/

/-- Evaluate the condition as an argument of `true?`, and expand to the second
argument under `identity` if the answer reads as true, to the third one if not. -/
def ifElse : Macro σ := fun arguments =>
  .evaluate (.list [.string "true?", Value.argument arguments 0]) fun answer =>
    .finish (answer.map fun answer =>
      [.string "identity", Value.argument arguments (if answer.readsTrue then 1 else 2)])

end Builtin

/-- The registry of the built-in operators. -/
def Operators.builtin {σ : Type} : Operators σ where
  functions := .ofList [
    ("always", Builtin.always),
    ("identity", Builtin.identity),
    ("true?", Builtin.isTrue),
    ("matches", Builtin.wholeMatch)]
  macros := .ofList [("if-else", Builtin.ifElse)]

theorem Operators.find?_macros_builtin {σ : Type} (name : String) :
    (Operators.builtin : Operators σ).macros.find? name =
      if "if-else" = name then some Builtin.ifElse else none :=
  Table.find?_insert .empty "if-else" name Builtin.ifElse

end RuleTree
