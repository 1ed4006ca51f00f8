import RuleTree.Text.EscapeTable
import RuleTree.Unicode.CodeSet

/-!
Contract: a text in quotation marks, for messages.

The quotation mark, the backslash, tab, line feed, carriage return and NUL have
short escapes. Characters that would not show, or would join the one before them,
stand as their number in braces. All others stand for themselves.
-/

namespace RuleTree

def escaped : CodeSet := CodeSet.ofText escapedRanges

def quotedChar (c : Char) : List Char :=
  if c = '"' then ['\\', '"']
  else if c = '\\' then ['\\', '\\']
  else if c = '\t' then ['\\', 't']
  else if c = '\n' then ['\\', 'n']
  else if c = '\r' then ['\\', 'r']
  else if c = '\x00' then ['\\', '0']
  else if escaped.contains c.toNat then
    '\\' :: 'u' :: '\x7b' :: Nat.toDigits 16 c.toNat ++ ['\x7d']
  else [c]

def quoted (text : String) : String :=
  String.ofList ('"' :: text.toList.flatMap quotedChar ++ ['"'])

end RuleTree
