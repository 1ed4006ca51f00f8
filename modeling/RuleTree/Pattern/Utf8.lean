import RuleTree.Unicode.CodeSet

/-!
Contract: the UTF-8 forms of the characters of a set, as sequences of byte ranges.

A range of code points is cut until all its UTF-8 forms are one sequence of byte
ranges, each byte going through its range independently. The sequences of a set
stand in the order of the characters.
-/

namespace RuleTree.Pattern

structure ByteRange where
  first : Nat
  last : Nat
deriving DecidableEq

/-- The UTF-8 form of a code point below `0x110000`. -/
def utf8Bytes (point : Nat) : List Nat :=
  if point < 0x80 then [point]
  else if point < 0x800 then [0xC0 + point / 0x40, 0x80 + point % 0x40]
  else if point < 0x10000 then
    [0xE0 + point / 0x1000, 0x80 + point / 0x40 % 0x40, 0x80 + point % 0x40]
  else
    [0xF0 + point / 0x40000, 0x80 + point / 0x1000 % 0x40, 0x80 + point / 0x40 % 0x40,
      0x80 + point % 0x40]

/-- Where to cut a range of code points so that all its UTF-8 forms are one sequence
of byte ranges: the last point of the first part, or none when no cut is needed. -/
def cut? (first last : Nat) : Option Nat :=
  let lengthEnd := [0x7F, 0x7FF, 0xFFFF].find? fun stop => first ≤ stop && stop < last
  match lengthEnd with
  | some stop => some stop
  | none =>
    if last < 0x80 then none
    else
      [0x40, 0x1000, 0x40000].findSome? fun block =>
        if first / block = last / block then none
        else if first % block ≠ 0 then some (first / block * block + (block - 1))
        else if last % block ≠ block - 1 then some (last / block * block - 1)
        else none

/-- The sequences of byte ranges of a range of code points. -/
def byteSequences : (fuel : Nat) → (first last : Nat) → List (List ByteRange)
  | 0, _, _ => []
  | fuel + 1, first, last =>
    match cut? first last with
    | some stop => byteSequences fuel first stop ++ byteSequences fuel (stop + 1) last
    | none => [(utf8Bytes first).zipWith ByteRange.mk (utf8Bytes last)]

/-- The sequences of a set. Sixteen cuts in a row are more than any range needs. -/
def setSequences (set : CodeSet) : List (List ByteRange) :=
  (set.inter CodeSet.scalars).ranges.flatMap fun range => byteSequences 16 range.1 range.2

/-! ## Trees -/

/-- Sequences that share their beginnings: a byte range with what follows it, and
then the other sequences. What follows the last range of a sequence is `stop`. -/
inductive ByteTree where
  | stop
  | edge (range : ByteRange) (below others : ByteTree)

namespace ByteTree

def isStop : ByteTree → Bool
  | .stop => true
  | .edge _ _ _ => false

/-- A single sequence. -/
def ofSequence : List ByteRange → ByteTree
  | [] => .stop
  | range :: rest => .edge range (ofSequence rest) .stop

/-- Put a sequence in front of the others, inside the first one's beginning as far
as it is the same. -/
def insert : List ByteRange → ByteTree → ByteTree
  | [], tree => tree
  | range :: rest, .stop => ofSequence (range :: rest)
  | range :: rest, .edge first below others =>
    if range = first && !rest.isEmpty && !below.isStop then
      .edge first (insert rest below) others
    else .edge range (ofSequence rest) (.edge first below others)

def ofSequences (sequences : List (List ByteRange)) : ByteTree :=
  sequences.foldr insert .stop

end ByteTree

end RuleTree.Pattern
