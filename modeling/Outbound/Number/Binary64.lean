/-
# Outbound.Number.Binary64 — double-precision numbers in exact arithmetic

A double is kept as its 64 bits.  A finite double denotes `m · 2 ^ q` for naturals
`m` and integers `q` (`parts`), and the double nearest to a quotient of naturals
is computed from the quotient itself (`ofQuotient`): the exponent is chosen so
that the significand has 53 bits, or all that the smallest exponent leaves, and
the significand is rounded to nearest with ties to even.  What lies beyond the
largest double becomes an infinity.
-/
import Outbound.Text.Numeral

namespace Outbound

set_option autoImplicit false

/-- A double-precision number, as its bits. -/
structure Binary64 where
  bits : UInt64
  deriving DecidableEq, Repr

namespace Binary64

/-! ## What the bits denote -/

/-- The absolute value of a double. -/
inductive Magnitude where
  | nan
  | infinite
  /-- The number `m · 2 ^ q`. -/
  | finite (m : Nat) (q : Int)
  deriving DecidableEq, Repr

def isNegative (x : Binary64) : Bool := x.bits.toNat / Nat.pow 2 63 = 1

def magnitude (x : Binary64) : Magnitude :=
  let exponent : Nat := x.bits.toNat / Nat.pow 2 52 % Nat.pow 2 11
  let fraction : Nat := x.bits.toNat % Nat.pow 2 52
  if exponent = 2047 then if fraction = 0 then .infinite else .nan
  else if exponent = 0 then .finite fraction (-1074)
  else .finite (Nat.pow 2 52 + fraction) ((exponent : Int) - 1075)

def ofSign (negative : Bool) (rest : Nat) : Binary64 :=
  ⟨UInt64.ofNat (if negative then Nat.pow 2 63 + rest else rest)⟩

def infinity (negative : Bool) : Binary64 := ofSign negative (2047 * Nat.pow 2 52)

/-- The one not-a-number that this library makes. -/
def nan : Binary64 := ofSign false (2047 * Nat.pow 2 52 + Nat.pow 2 51)

/-- The number is zero, of either sign. -/
def isZero (x : Binary64) : Bool := x.magnitude matches .finite 0 _

/-! ## Rounding -/

/-- The natural nearest to a quotient; of two, the even one. -/
def roundQuotient (num den : Nat) : Nat :=
  let floor := num / den
  let twice := 2 * (num % den)
  if twice < den then floor else if den < twice then floor + 1 else floor + floor % 2

/-- A quotient multiplied by a power of two. -/
def scale (num den : Nat) (e : Int) : Nat × Nat :=
  if 0 ≤ e then (num * Nat.pow 2 e.toNat, den) else (num, den * Nat.pow 2 (-e).toNat)

/-- The greatest `e` with `2 ^ e ≤ num / den`, for positive naturals. -/
def binaryExponent (num den : Nat) : Int :=
  let e := (Nat.log2 num : Int) - Nat.log2 den
  let (n, d) := scale num den (-e)
  if d ≤ n then e else e - 1

/-- The double nearest to a quotient of naturals with the given sign. -/
def ofQuotient (negative : Bool) (num den : Nat) : Binary64 :=
  if num = 0 then ofSign negative 0
  else
    let q := max (binaryExponent num den - 52) (-1074)
    let (n, d) := scale num den (-q)
    let rest := (q + 1074).toNat * Nat.pow 2 52 + roundQuotient n d
    ofSign negative (min rest (2047 * Nat.pow 2 52))

/-- The power of ten that is beyond all doubles. -/
def hugeExponent : Int := 309

/-- A power of two that is nearer to zero than to any double. -/
def tinyExponent : Int := -1100

/-- The double nearest to `mantissa · 10 ^ exponent`; a number beyond all doubles, or too near to
zero for them, is told by its exponent alone. -/
def ofDecimal (negative : Bool) (mantissa : Nat) (exponent : Int) : Binary64 :=
  if mantissa = 0 ∨ (Nat.log2 mantissa : Int) + 3 * exponent < tinyExponent then
    ofSign negative 0
  else if hugeExponent ≤ exponent then infinity negative
  else if 0 ≤ exponent then ofQuotient negative (mantissa * Nat.pow 10 exponent.toNat) 1
  else ofQuotient negative mantissa (Nat.pow 10 (-exponent).toNat)

/-- The double nearest to a natural, unless that is infinite. -/
def ofNat? (n : Nat) : Option Binary64 :=
  let x := ofQuotient false n 1
  if x = infinity false then none else some x

def divNat (x : Binary64) (divisor : Nat) : Binary64 :=
  match x.magnitude with
  | .finite m q =>
    let (n, d) := scale m divisor q
    ofQuotient x.isNegative n d
  | _ => x

/-! ## Integers -/

/-- The integer part of a finite double, rounded toward zero. -/
def truncate? (x : Binary64) : Option Int :=
  match x.magnitude with
  | .finite m q =>
    let (n, d) := scale m 1 q
    some (if x.isNegative then -((n / d : Nat) : Int) else ((n / d : Nat) : Int))
  | _ => none

/-- The double is finite and has no fractional part. -/
def isIntegral (x : Binary64) : Bool :=
  match x.magnitude with
  | .finite m q =>
    let (n, d) := scale m 1 q
    n % d = 0
  | _ => false

/-! ## Reading -/

/-- The integer of an optional sign and ASCII digits. -/
def exponentOf? (s : List Char) : Option Int :=
  let (negative, body) := Text.Numeral.sign s
  (Text.Numeral.asciiDigits? body).map fun ds => Text.Numeral.signed negative (Text.ofDigits ds)

/-- Reads a decimal numeral: a sign, digits with at most one point, and an exponent of ten; or
`nan`, or a word for infinity with a sign.  Case does not matter, nor do blanks around it. -/
def read? (s : List Char) : Option Binary64 :=
  let (negative, signless) := Text.Numeral.sign (Text.trimWhile Text.Numeral.isPadding s)
  let body := signless.map Char.toLower
  if body = "nan".toList then some nan
  else if body = "inf".toList ∨ body = "infinity".toList then some (infinity negative)
  else
    let isMark (c : Char) : Bool := c = 'e'
    let significand := body.takeWhile (!isMark ·)
    let whole := significand.takeWhile (· != '.')
    let decimals := (significand.dropWhile (· != '.')).drop 1
    let exponent? := match body.dropWhile (!isMark ·) with
      | [] => some 0
      | _ :: rest => exponentOf? rest
    match Text.Numeral.asciiDigits? (whole ++ decimals), exponent? with
    | some ds, some e => some (ofDecimal negative (Text.ofDigits ds) (e - decimals.length))
    | _, _ => none

example : ofQuotient false 1 10 = ⟨0x3FB999999999999A⟩ := by decide +kernel
example : read? "2.5".toList = some ⟨0x4004000000000000⟩ := by decide +kernel
example : ofDecimal false 5 (-324) = ⟨1⟩ := by decide +kernel

end Binary64

end Outbound
