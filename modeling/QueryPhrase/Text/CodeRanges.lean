import QueryPhrase.Text

/-!
# Sets of code points

A Unicode property is given as the ranges of code points that have it, in
ascending order, both ends included. The tables are those of Unicode 17.
-/

namespace QueryPhrase

/-- Ranges of code points, both ends included. -/
abbrev CodeRanges := List (Nat × Nat)

/-- Whether a character lies in one of the ranges. -/
def CodeRanges.has (ranges : CodeRanges) (c : Char) : Bool :=
  ranges.any fun range => range.1 ≤ c.toNat && c.toNat ≤ range.2

end QueryPhrase
