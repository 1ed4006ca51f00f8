import RuleTree.Unicode.AgeTable
import RuleTree.Unicode.BreakTable
import RuleTree.Unicode.CategoryTable
import RuleTree.Unicode.CodeSet
import RuleTree.Unicode.PropertyTable
import RuleTree.Unicode.ScriptTable

/-!
Contract: the sets of characters that a property name or a property with a value
stands for.

Names are matched loosely: blanks, hyphens, underscores and letter case do not
count, and neither does a leading `is`. A single name is looked up among the
two-valued properties, then the general categories, then the scripts.
-/

namespace RuleTree.Unicode

/-- The first set whose names hold the given one. -/
def lookup? (rows : List (List String × String)) (name : String) : Option CodeSet :=
  (rows.find? fun row => row.1.contains name).map fun row => CodeSet.ofText row.2

/-! ## General categories -/

/-- The categories that are unions of others. -/
def categoryGroups : List (List String × List String) := [
  (["l", "letter"], ["lu", "ll", "lt", "lm", "lo"]),
  (["lc", "casedletter"], ["lu", "ll", "lt"]),
  (["m", "mark", "combiningmark"], ["mn", "mc", "me"]),
  (["n", "number"], ["nd", "nl", "no"]),
  (["p", "punctuation", "punct"], ["pc", "pd", "ps", "pe", "pi", "pf", "po"]),
  (["s", "symbol"], ["sm", "sc", "sk", "so"]),
  (["z", "separator"], ["zs", "zl", "zp"])]

def category (name : String) : CodeSet :=
  (lookup? categoryRows name).getD CodeSet.empty

def categories (names : List String) : CodeSet :=
  CodeSet.ofList (names.map category)

def assigned : CodeSet :=
  CodeSet.ofList (categoryRows.map fun row => CodeSet.ofText row.2)

def unassigned : CodeSet :=
  CodeSet.scalars.diff assigned

def category? (name : String) : Option CodeSet :=
  match name with
  | "any" => some CodeSet.scalars
  | "ascii" => some CodeSet.ascii
  | "assigned" => some assigned
  | "cn" | "unassigned" => some unassigned
  | "c" | "other" => some (CodeSet.union unassigned (categories ["cc", "cf", "co"]))
  | _ =>
    match categoryGroups.find? fun row => row.1.contains name with
    | some row => some (categories row.2)
    | none => lookup? categoryRows name

/-! ## Other properties -/

def propertyOfRow (row : PropertyRow) : CodeSet :=
  ((categories row.categories).union (CodeSet.ofText row.included)).diff
    (CodeSet.ofText row.excluded)

def lookupProperty? (rows : List PropertyRow) (name : String) : Option CodeSet :=
  (rows.find? fun row => row.names.contains name).map propertyOfRow

def property? (name : String) : Option CodeSet :=
  lookupProperty? propertyRows name

def script? (name : String) : Option CodeSet :=
  lookup? scriptRows name

/-- The script with the characters that extend to it, less those of it that extend
to other scripts only. -/
def scriptExtension? (name : String) : Option CodeSet := do
  let row ← scriptRows.find? fun row => row.1.contains name
  let own := CodeSet.ofText row.2
  match scriptExtensionRows.find? fun extension => row.1.head? == some extension.1 with
  | some (_, included, excluded) =>
    return (own.union (CodeSet.ofText included)).diff (CodeSet.ofText excluded)
  | none => return own

/-- The characters assigned in a version or an earlier one. -/
def age? (name : String) : Option CodeSet := do
  let index ← ageRows.findIdx? fun row => row.1.contains name
  return CodeSet.ofList ((ageRows.take (index + 1)).map fun row => CodeSet.ofText row.2)

/-! ## Loose names -/

/-- Drop a leading `is`, then blanks, hyphens, underscores and all that is not
ASCII, and fold letters. What is left of `isc` would be another name, so that one
stays whole. -/
def foldName (name : String) : String :=
  let fold (chars : List Char) : List Char :=
    (chars.filter fun c => c != ' ' && c != '_' && c != '-' && c.toNat < 0x80).map Char.toLower
  match name.toList with
  | first :: second :: rest =>
    if first.toLower = 'i' ∧ second.toLower = 's' then
      let folded := fold rest
      String.ofList (if folded = ['c'] then ['i', 's', 'c'] else folded)
    else String.ofList (fold (first :: second :: rest))
  | chars => String.ofList (fold chars)

/-- The set that a name alone stands for. -/
def named? (name : String) : Option CodeSet :=
  let name := foldName name
  property? name <|> category? name <|> script? name

/-- The set that a property with a value stands for. -/
def valued? (property value : String) : Option CodeSet :=
  let value := foldName value
  match foldName property with
  | "gc" | "generalcategory" => category? value
  | "sc" | "script" => script? value
  | "scx" | "scriptextensions" => scriptExtension? value
  | "age" => age? value
  | "gcb" | "graphemeclusterbreak" => lookupProperty? graphemeBreakRows value
  | "wb" | "wordbreak" => lookupProperty? wordBreakRows value
  | "sb" | "sentencebreak" => lookupProperty? sentenceBreakRows value
  | _ => none

/-! ## The sets that patterns and names need -/

def alphabetic : CodeSet := (property? "alphabetic").getD CodeSet.empty

def decimalDigits : CodeSet := category "nd"

def whiteSpace : CodeSet := (property? "whitespace").getD CodeSet.empty

/-- Letters, marks, decimal digits, connecting punctuation and join controls. -/
def wordCharacters : CodeSet :=
  CodeSet.ofList [alphabetic, categories ["mn", "mc", "me", "nd", "pc"],
    (property? "joincontrol").getD CodeSet.empty]

end RuleTree.Unicode
