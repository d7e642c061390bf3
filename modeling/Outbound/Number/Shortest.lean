/-
# Outbound.Number.Shortest — the shortest decimal of a double

The decimal of a positive double has the fewest digits that read back as the
double, and of those with fewest digits it is the nearest (an exact tie goes to
the even one).  The reals that read back as `m · 2 ^ q` form an interval around
it, with its ends when `m` is even.  For one, two, up to seventeen digits the two
neighbours of the double on that decimal grid are tested; if any point of a grid
lies in the interval, so does one of the two neighbours.

`DecimalFormat` holds the decisions of a notation: which decimal exponents are
written positionally and how the others are marked.
-/
import Outbound.Number.Binary64

namespace Outbound

set_option autoImplicit false

namespace Shortest

/-- The number of decimal digits of a natural, none for zero. -/
def decimalLength (n : Nat) : Nat := if n = 0 then 0 else (Nat.toDigits 10 n).length

/-- The greatest `e` with `10 ^ e ≤ num / den`, for positive naturals. -/
def decimalExponent (num den : Nat) : Int :=
  if den ≤ num then (decimalLength (num / den) : Int) - 1
  else -(decimalLength ((den + num - 1) / num - 1) : Int)

/-- A quotient multiplied by a power of ten. -/
def scaleTen (num den : Nat) (e : Int) : Nat × Nat :=
  if 0 ≤ e then (num * Nat.pow 10 e.toNat, den) else (num, den * Nat.pow 10 (-e).toNat)

/-- The decimal `d · 10 ^ g` reads back as the positive double `m · 2 ^ q`. -/
def readsBack (m : Nat) (q : Int) (d : Nat) (g : Int) : Bool :=
  -- all bounds in units of `2 ^ (q - 2)`
  let (n, unit) := scaleTen d 1 g
  let (n, unit) := Binary64.scale n unit (2 - q)
  let low := if m = Nat.pow 2 52 && q != -1074 then 4 * m - 1 else 4 * m - 2
  let high := 4 * m + 2
  if m % 2 = 0 then low * unit ≤ n && n ≤ high * unit else low * unit < n && n < high * unit

/-- The neighbour of `m · 2 ^ q` on the grid of `count` digits that reads back, as digits and
the exponent of the last one. -/
def onGrid? (m : Nat) (q : Int) (count : Nat) : Option (Nat × Int) :=
  let (num, den) := Binary64.scale m 1 q
  let g := decimalExponent num den - ((count : Int) - 1)
  let (n, d) := scaleTen num den (-g)
  let floor := n / d
  let nearest := Binary64.roundQuotient n d
  let other := if nearest = floor then floor + 1 else floor
  if readsBack m q nearest g then some (nearest, g)
  else if readsBack m q other g then some (other, g)
  else none

/-- The shortest decimal `d · 10 ^ g` of a positive double. -/
def decimal (m : Nat) (q : Int) : Nat × Int :=
  ((List.range' 1 17).findSome? (onGrid? m q)).getD (m, q)

end Shortest

/-- The decisions of a decimal notation. -/
structure DecimalFormat where
  /-- The least decimal exponent written positionally. -/
  leastPositional : Int
  /-- The first decimal exponent that is too large for positional notation. -/
  positionalEnd : Int
  /-- What a positional integer ends in. -/
  integerEnd : List Char
  /-- The least number of digits of a marked exponent. -/
  exponentDigits : Nat
  nanText : String
  infinityText : String

namespace DecimalFormat

/-- A marked exponent, always with its sign. -/
def exponentMark (format : DecimalFormat) (e : Int) : List Char :=
  let digits := Nat.toDigits 10 e.natAbs
  'e' :: (if e < 0 then '-' else '+') ::
    (List.replicate (format.exponentDigits - digits.length) '0' ++ digits)

/-- The digits of a positive decimal whose first digit stands at the exponent `e`. -/
def layOut (format : DecimalFormat) (digits : List Char) (e : Int) : List Char :=
  if format.leastPositional ≤ e ∧ e < format.positionalEnd then
    if e < 0 then '0' :: '.' :: (List.replicate ((-e).toNat - 1) '0' ++ digits)
    else
      let whole := e.toNat + 1
      if digits.length ≤ whole then
        digits ++ List.replicate (whole - digits.length) '0' ++ format.integerEnd
      else digits.take whole ++ '.' :: digits.drop whole
  else
    match digits with
    | [only] => only :: format.exponentMark e
    | first :: rest => first :: '.' :: (rest ++ format.exponentMark e)
    | [] => format.exponentMark e

/-- A positive decimal `d · 10 ^ g`, its trailing zeros dropped. -/
def positive (format : DecimalFormat) (d : Nat) (g : Int) : List Char :=
  let written := Nat.toDigits 10 d
  let digits := (written.reverse.dropWhile (· = '0')).reverse
  format.layOut digits (g + written.length - 1)

def render (format : DecimalFormat) (x : Binary64) : String :=
  let mark := if x.isNegative then "-" else ""
  match x.magnitude with
  | .nan => format.nanText
  | .infinite => mark ++ format.infinityText
  | .finite 0 _ => mark ++ String.ofList ('0' :: format.integerEnd)
  | .finite m q =>
    let (d, g) := Shortest.decimal m q
    mark ++ String.ofList (format.positive d g)

end DecimalFormat

end Outbound
