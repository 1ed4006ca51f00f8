import RuleTree.Unicode.Property

/-!
Contract: white space and comments in the text of a pattern.

They are skipped while the flag `x` is on, which every function here is told. A
comment goes from `#` through the end of its line.

Owns: skipping, looking past white space, and runs of characters with skipping
between them.
-/

namespace RuleTree.Pattern

def isSpace (c : Char) : Bool :=
  Unicode.whiteSpace.contains c.toNat

/-- Drop white space and comments; a comment goes from `#` through the end of its
line. -/
def skipFrom (inComment : Bool) : List Char → List Char
  | [] => []
  | c :: rest =>
    if inComment then skipFrom (c != '\n') rest
    else if isSpace c then skipFrom false rest
    else if c = '#' then skipFrom true rest
    else c :: rest

def skip (verbose : Bool) (source : List Char) : List Char :=
  if verbose then skipFrom false source else source

/-- The next character that counts after the current one, for looking ahead in a
class. White space is passed over, and one `#` with the white space after it; when
nothing else follows, the very next character is seen. -/
def peek? (verbose : Bool) (source : List Char) : Option Char :=
  if verbose then
    let ahead :=
      match source.dropWhile isSpace with
      | '#' :: rest => rest.dropWhile isSpace
      | rest => rest
    ahead.head? <|> source.head?
  else source.head?

/-- The characters at the front that `keep` takes, and what follows them. Once one
has been taken, skipping applies between and after them. -/
def spanSkipping (verbose : Bool) (keep : Char → Bool) :
    (inComment : Bool) → (taken : List Char) → List Char → List Char × List Char
  | _, taken, [] => (taken.reverse, [])
  | inComment, taken, c :: rest =>
    if inComment then spanSkipping verbose keep (c != '\n') taken rest
    else if keep c then spanSkipping verbose keep false (c :: taken) rest
    else if verbose && !taken.isEmpty && isSpace c then
      spanSkipping verbose keep false taken rest
    else if verbose && !taken.isEmpty && c == '#' then
      spanSkipping verbose keep true taken rest
    else (taken.reverse, c :: rest)

/-- The characters up to a closing brace, with skipping between them. -/
def untilBrace? (verbose : Bool) :
    (inComment : Bool) → (taken : List Char) → List Char → Option (List Char × List Char)
  | _, _, [] => none
  | inComment, taken, c :: rest =>
    if inComment then untilBrace? verbose (c != '\n') taken rest
    else if verbose && isSpace c then untilBrace? verbose false taken rest
    else if verbose && c == '#' then untilBrace? verbose true taken rest
    else if c = '\x7d' then some (taken.reverse, rest)
    else untilBrace? verbose false (c :: taken) rest

end RuleTree.Pattern
