import RuleTree.Value.Json

/-!
Contract: values written as JSON by a host, with the numbers that JSON lacks.

An object with the one member `f64`, a text, is the number that the text denotes.
-/

namespace RuleTree.Value

mutual

def decodeWide : Json → Except EvalError Value
  | .object [("f64", .string text)] =>
    match Number.ofText? text.toList with
    | some value => .ok (.number value)
    | none => .error .objectInTree
  | .array items => (decodeWideItems items).map .list
  | document => decode document

def decodeWideItems : List Json → Except EvalError (List Value)
  | [] => .ok []
  | item :: items =>
    match decodeWide item with
    | .error error => .error error
    | .ok value => (decodeWideItems items).map (value :: ·)

end

end RuleTree.Value
