/-!
# Ranges of code points

A property of characters that a standard defines by enumeration is kept as a list of inclusive
ranges. The lists hold no ASCII, which the classes decide by arithmetic.
-/

namespace DirectImports.Text

/-- An inclusive range of code points, first and last. -/
abbrev CodeRange := Nat × Nat

/-- The code point lies in one of the ranges. -/
def CodeRange.holds (ranges : List CodeRange) (code : Nat) : Bool :=
  ranges.any fun range => decide (range.1 ≤ code) && decide (code ≤ range.2)

end DirectImports.Text
