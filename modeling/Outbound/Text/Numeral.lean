/-
# Outbound.Text.Numeral — integers written in digits

An integer is read from an optional sign and decimal digits of any script, with
single underscores between digits and blank characters around the whole; the
information separators U+001C to U+001F do not count as blank here.  A numeral
of more than `maxDigits` digits is refused, leading zeros counted and the sign
not.
-/
import Outbound.Text.Blank
import Outbound.Text.Digit

namespace Outbound.Text.Numeral

set_option autoImplicit false

def maxDigits : Nat := 4300

/-- A numeral has this many digits, which are too many. -/
structure TooLong where
  digits : Nat
  deriving DecidableEq, Repr

def TooLong.message (fault : TooLong) : String :=
  s!"Exceeds the limit ({maxDigits} digits) for integer string conversion: value has " ++
    s!"{fault.digits} digits; use sys.set_int_max_str_digits() to increase the limit"

/-- The number of at most `maxDigits` digits. -/
def ofDigits? (digits : List Nat) : Except TooLong Nat :=
  if maxDigits < digits.length then .error ⟨digits.length⟩ else .ok (ofDigits digits)

/-- The sign of a numeral, negative or not, and what follows it. -/
def sign : List Char → Bool × List Char
  | '-' :: rest => (true, rest)
  | '+' :: rest => (false, rest)
  | rest => (false, rest)

def signed (negative : Bool) (n : Nat) : Int := if negative then -(n : Int) else n

/-- The values of digits of any script with single underscores between them. -/
def digits? : List Char → Option (List Nat)
  | [] => none
  | [c] => (digitValue? c).map ([·])
  | c :: '_' :: rest => do
    let d ← digitValue? c
    let ds ← digits? rest
    return d :: ds
  | c :: rest => do
    let d ← digitValue? c
    let ds ← digits? rest
    return d :: ds

/-- Blank, and no information separator. -/
def isPadding (c : Char) : Bool := isBlank c && !(0x1C ≤ c.toNat && c.toNat ≤ 0x1F)

def read? (s : List Char) : Option Int := do
  let (negative, body) := sign (trimWhile isPadding s)
  let n ← (ofDigits? (← digits? body)).toOption
  return signed negative n

def asciiDigits? (s : List Char) : Option (List Nat) :=
  if s ≠ [] ∧ s.all isAsciiDigit then some (s.map fun c => c.toNat - 48) else none

end Outbound.Text.Numeral
