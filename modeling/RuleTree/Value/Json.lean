import RuleTree.Error
import RuleTree.Json.Basic

/-!
Contract: rule trees as JSON documents.

Decoding takes every document without objects; each number becomes the nearest
64-bit number. Encoding writes integral numbers below `10 ^ 15` as integers, and
the numbers that JSON lacks as null.
-/

namespace RuleTree

/-- The document for a number: an integer where one is short enough, and null for
NaN and the infinities. -/
def Number.encode (number : Number) : Json :=
  match number.shortInteger? with
  | some value => .integer value
  | none => if number.isFinite then .fraction number else .null

namespace Value

mutual

def decode : Json → Except EvalError Value
  | .null => .ok .null
  | .boolean value => .ok (.boolean value)
  | .integer value => .ok (.ofInt value)
  | .fraction value => .ok (.number value)
  | .string value => .ok (.string value)
  | .array items => (decodeItems items).map .list
  | .object _ => .error .objectInTree

def decodeItems : List Json → Except EvalError (List Value)
  | [] => .ok []
  | item :: items =>
    match decode item with
    | .error error => .error error
    | .ok value => (decodeItems items).map (value :: ·)

end

mutual

def encode : Value → Json
  | .null => .null
  | .boolean value => .boolean value
  | .number value => value.encode
  | .string value => .string value
  | .list items => .array (encodeItems items)

def encodeItems : List Value → List Json
  | [] => []
  | item :: items => encode item :: encodeItems items

end

end Value

end RuleTree
