import RuleTree.Number.Basic

/-!
Contract: parsed JSON documents.

A number is kept as the kind of literal that stands for it: an integer of any size,
or a fraction, which is a finite number of the 64-bit format. An object keeps its
members in the order of the text.
-/

namespace RuleTree

inductive Json where
  | null
  | boolean (value : Bool)
  | integer (value : Int)
  | fraction (value : Number)
  | string (value : String)
  | array (items : List Json)
  | object (members : List (String × Json))
deriving Inhabited

namespace Json

/-- The last member of that name. -/
def member? (name : String) : Json → Option Json
  | .object members => (members.reverse.find? fun member => member.1 == name).map Prod.snd
  | _ => none

end Json

end RuleTree
