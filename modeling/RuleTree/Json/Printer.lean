import RuleTree.Json.Basic
import RuleTree.Number.Layout

/-!
Contract: the compact text of a JSON document.

No blank stands outside strings. Inside them the quotation mark, the backslash and
the characters below U+0020 are escaped, so the text has no such character at all;
every other character stands for itself.
-/

namespace RuleTree.Json

/-- Text without characters below U+0020. -/
def Printable (chars : List Char) : Prop :=
  ∀ c ∈ chars, 0x20 ≤ c.toNat

instance (chars : List Char) : Decidable (Printable chars) :=
  decidable_of_iff (chars.all fun c => 0x20 ≤ c.toNat) (by simp [Printable])

theorem Printable.cons {c : Char} {chars : List Char} (first : 0x20 ≤ c.toNat)
    (others : Printable chars) : Printable (c :: chars) :=
  List.forall_mem_cons.2 ⟨first, others⟩

theorem Printable.append {left right : List Char} (before : Printable left)
    (after : Printable right) : Printable (left ++ right) :=
  List.forall_mem_append.2 ⟨before, after⟩

/-- The lower-case hexadecimal digit of a value below sixteen. -/
def hexDigit (value : Nat) : Char :=
  Nat.digitChar value

/-- A character as it stands inside a string. -/
def escapeChar (c : Char) : List Char :=
  if c = '"' then ['\\', '"']
  else if c = '\\' then ['\\', '\\']
  else if c = '\x08' then ['\\', 'b']
  else if c = '\t' then ['\\', 't']
  else if c = '\n' then ['\\', 'n']
  else if c = '\x0c' then ['\\', 'f']
  else if c = '\r' then ['\\', 'r']
  else if c.toNat < 0x20 then
    ['\\', 'u', '0', '0', hexDigit (c.toNat / 16), hexDigit (c.toNat % 16)]
  else [c]

def quote (value : String) : List Char :=
  '"' :: value.toList.flatMap escapeChar ++ ['"']

mutual

def printChars : Json → List Char
  | .null => "null".toList
  | .boolean true => "true".toList
  | .boolean false => "false".toList
  | .integer value => integerNumeral value
  | .fraction (.finite negative position) => Number.documentText negative position
  | .fraction _ => "null".toList
  | .string value => quote value
  | .array items => '[' :: printItems items ++ [']']
  | .object members => '\x7b' :: printMembers members ++ ['\x7d']

/-- Items with commas between them. -/
def printItems : List Json → List Char
  | [] => []
  | [item] => printChars item
  | item :: items => printChars item ++ ',' :: printItems items

def printMembers : List (String × Json) → List Char
  | [] => []
  | [(name, value)] => quote name ++ ':' :: printChars value
  | (name, value) :: members =>
    quote name ++ ':' :: printChars value ++ ',' :: printMembers members

end

def print (document : Json) : String :=
  String.ofList (printChars document)

end RuleTree.Json
