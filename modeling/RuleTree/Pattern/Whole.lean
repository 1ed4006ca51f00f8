import RuleTree.Pattern.Match
import RuleTree.Pattern.Meaning
import RuleTree.Pattern.Reader
import RuleTree.Pattern.Size

/-!
Contract: regular expressions from their text, and the whole-text match.

A text is compiled when it is a regular expression by the grammar, is not nested
deeper than the limit, names only sets of characters that exist, and is not too
large. To match a whole text, the pattern is set between the two ends of the text
before it is read.
-/

namespace RuleTree.Pattern

def nestingLimit : Nat := 250

/-- The expression of a text by the grammar and the meaning of names alone. -/
def parse? (source : List Char) : Option Expr :=
  (read? source).bind Term.expr?

/-- The expression of a text that keeps the limits on nesting and size as well. -/
def compile? (source : List Char) : Option Expr := do
  let term ← read? source
  if nestingLimit < term.height then none
  else
    let expr ← term.expr?
    if expr.fits then some expr else none

/-- The pattern for a whole text: a group of its own between the ends. -/
def anchored (source : List Char) : List Char :=
  "^(?:".toList ++ source ++ ")$".toList

/-- Whether a pattern matches a whole text; none when it cannot be compiled. -/
def matchesWhole? (pattern text : List Char) : Option Bool :=
  (compile? (anchored pattern)).map (Expr.occursIn text)

end RuleTree.Pattern
