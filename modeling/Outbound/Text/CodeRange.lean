/-
# Outbound.Text.CodeRange — sets of characters given by intervals

The character classes of this library are tables of closed intervals of code
points.  A table is a list of pairs in increasing order, and membership is a
linear search: a class is asked about few characters, and a list keeps small
instances easy to evaluate.
-/

namespace Outbound.Text

set_option autoImplicit false

/-- A set of code points as closed intervals in increasing order. -/
abbrev CodeRanges := List (Nat × Nat)

def CodeRanges.contains (table : CodeRanges) (n : Nat) : Bool :=
  table.any fun range => range.1 ≤ n && n ≤ range.2

end Outbound.Text
