import RuleTree.Number.Layout

/-!
Contract: the values of rule trees.

A list in argument position is an expression whose first element names an operator;
a list that an operator returns is just a list. The string form of a value is what
operators compare and match; null reads as the empty text where an operator takes
a text.
-/

namespace RuleTree

inductive Value where
  | null
  | boolean (value : Bool)
  | number (value : Number)
  | string (value : String)
  | list (items : List Value)
deriving Inhabited, Repr

namespace Value

/-! ## String form -/

mutual

/-- The string form: strings as they are, lists in brackets. -/
def chars : Value → List Char
  | .null => "null".toList
  | .boolean true => "true".toList
  | .boolean false => "false".toList
  | .number value => value.text
  | .string value => value.toList
  | .list items => '[' :: itemsChars items ++ [']']

/-- The string forms of items with a comma and a blank between them. -/
def itemsChars : List Value → List Char
  | [] => []
  | [item] => chars item
  | item :: items => chars item ++ ',' :: ' ' :: itemsChars items

end

def text (value : Value) : String :=
  String.ofList value.chars

/-- The text that an operator reads: the string form, with nothing for null. -/
def operandChars : Value → List Char
  | .null => []
  | value => value.chars

/-- Whether a value reads as true: its string form is the word, in any case of its
ASCII letters. -/
def readsTrue (value : Value) : Bool :=
  value.operandChars.map Char.toLower == "true".toList

/-! ## Equality -/

mutual

/-- Equality of values, numbers being compared as numbers; values of different
kinds are never equal. -/
def equal : Value → Value → Bool
  | .null, .null => true
  | .boolean left, .boolean right => left == right
  | .number left, .number right => left.equal right
  | .string left, .string right => left == right
  | .list left, .list right => equalItems left right
  | _, _ => false

def equalItems : List Value → List Value → Bool
  | [], [] => true
  | left :: lefts, right :: rights => equal left right && equalItems lefts rights
  | _, _ => false

end

/-! ## Views -/

def isNull : Value → Bool
  | .null => true
  | _ => false

def string? : Value → Option String
  | .string value => some value
  | _ => none

def boolean? : Value → Option Bool
  | .boolean value => some value
  | _ => none

def number? : Value → Option Number
  | .number value => some value
  | _ => none

def items? : Value → Option (List Value)
  | .list items => some items
  | _ => none

/-- The argument at an index, null when there are fewer. -/
def argument (arguments : List Value) (index : Nat) : Value :=
  arguments.getD index .null

/-! ## Conversions -/

def ofInt (value : Int) : Value :=
  .number (.ofInt value)

/-- Nothing is null. -/
def ofOption {α : Type} (convert : α → Value) : Option α → Value
  | some value => convert value
  | none => .null

end Value

end RuleTree
