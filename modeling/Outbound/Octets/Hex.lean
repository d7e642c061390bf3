/-
# Outbound.Octets.Hex — octets and hexadecimal digits

An octet string is a list of eight-bit words.  A hexadecimal digit is written
in either case, and read in both.
-/

namespace Outbound

set_option autoImplicit false

abbrev Octets := List UInt8

namespace Octets

/-- The upper-case hexadecimal digit of a number below sixteen. -/
def hexDigit (n : Nat) : Char := if n < 10 then Char.ofNat (48 + n) else Char.ofNat (55 + n)

def hexValue? (c : Char) : Option Nat :=
  if '0' ≤ c ∧ c ≤ '9' then some (c.toNat - 48)
  else if 'A' ≤ c ∧ c ≤ 'F' then some (c.toNat - 55)
  else if 'a' ≤ c ∧ c ≤ 'f' then some (c.toNat - 87)
  else none

def hexPair (b : UInt8) : List Char :=
  [(hexDigit (b.toNat / 16)).toLower, (hexDigit (b.toNat % 16)).toLower]

def hex (bytes : Octets) : String := String.ofList (bytes.flatMap hexPair)

def ofHex? : List Char → Option Octets
  | [] => some []
  | a :: b :: rest => do
    let high ← hexValue? a
    let low ← hexValue? b
    let bytes ← ofHex? rest
    return UInt8.ofNat (16 * high + low) :: bytes
  | [_] => none

/-- The low `width` hexadecimal digits of a number, lower case, most significant first. -/
def hexNumber (width n : Nat) : List Char :=
  (List.range width).reverse.map fun i => (hexDigit (n / Nat.pow 16 i % 16)).toLower

/-- A written digit is read back. -/
@[simp] theorem hexValue?_hexDigit {n : Nat} (h : n < 16) : hexValue? (hexDigit n) = some n := by
  have : ∀ m : Fin 16, hexValue? (hexDigit m.val) = some m.val := by decide
  exact this ⟨n, h⟩

end Octets

end Outbound
