/-
# Outbound.Proofs.Octets.Base64 — octets are read back from their characters

The decoder takes the characters in groups of four, as RFC 4648 has them: six bits
a character, and one or two equals signs at the end of a last group that stands for
two octets or for one.  An equals sign is no digit (`symbol_ne_pad`), so a group that
is not the last one is never taken for it.

What was encoded is decoded to the same octets (`decode?_encode`), whatever their
number leaves modulo three.
-/
import Outbound.Octets.Base64

namespace Outbound.Octets.Base64

set_option autoImplicit false

/-! ## Reading -/

def value? (c : Char) : Option Nat :=
  if 'A' ≤ c ∧ c ≤ 'Z' then some (c.toNat - 65)
  else if 'a' ≤ c ∧ c ≤ 'z' then some (c.toNat - 71)
  else if '0' ≤ c ∧ c ≤ '9' then some (c.toNat + 4)
  else if c = '+' then some 62
  else if c = '/' then some 63
  else none

def decodeChars? : List Char → Option Octets
  | [] => some []
  | a :: b :: c :: d :: rest => do
    let x ← value? a
    let y ← value? b
    let first := UInt8.ofNat (x * 4 + y / 16)
    if c = '=' ∧ d = '=' ∧ rest = [] then return [first]
    let z ← value? c
    let second := UInt8.ofNat (y % 16 * 16 + z / 4)
    if d = '=' ∧ rest = [] then return [first, second]
    let w ← value? d
    return first :: second :: UInt8.ofNat (z % 4 * 64 + w) :: (← decodeChars? rest)
  | _ => none

def decode? (text : String) : Option Octets := decodeChars? text.toList

/-! ## One character -/

@[simp] theorem value?_symbol {n : Nat} (small : n < 64) : value? (symbol n) = some n := by
  revert n
  decide

theorem symbol_ne_pad {n : Nat} (small : n < 64) : symbol n ≠ '=' := by
  intro same
  have isValue := value?_symbol small
  rw [same] at isValue
  cases isValue

/-- An octet put together from its bits. -/
theorem octet_eq {b : UInt8} {n : Nat} (bits : n = b.toNat) : UInt8.ofNat n = b := by
  rw [bits, UInt8.ofNat_toNat]

/-! ## All characters -/

@[simp] theorem decodeChars?_encodeChars (bytes : Octets) :
    decodeChars? (encodeChars bytes) = some bytes := by
  induction bytes using encodeChars.induct with
  | case1 => rfl
  | case2 a =>
      have octet := a.toNat_lt
      have back : UInt8.ofNat (a.toNat / 4 * 4 + a.toNat % 4 * 16 / 16) = a := octet_eq (by omega)
      simp (disch := omega) only [encodeChars, decodeChars?, value?_symbol, Option.bind_eq_bind,
        Option.bind_some, back, and_self, if_true, Option.pure_def]
  | case3 a b =>
      have octets := And.intro a.toNat_lt b.toNat_lt
      have first : UInt8.ofNat (a.toNat / 4 * 4 + (a.toNat % 4 * 16 + b.toNat / 16) / 16) = a :=
        octet_eq (by omega)
      have second : UInt8.ofNat ((a.toNat % 4 * 16 + b.toNat / 16) % 16 * 16 +
          b.toNat % 16 * 4 / 4) = b := octet_eq (by omega)
      have digit : symbol (b.toNat % 16 * 4) ≠ '=' := symbol_ne_pad (by omega)
      simp (disch := omega) only [encodeChars, decodeChars?, value?_symbol, Option.bind_eq_bind,
        Option.bind_some, first, second, digit, false_and, if_false, and_self, if_true,
        Option.pure_def]
  | case4 a b c rest ih =>
      have octets := And.intro a.toNat_lt (And.intro b.toNat_lt c.toNat_lt)
      have first : UInt8.ofNat (a.toNat / 4 * 4 + (a.toNat % 4 * 16 + b.toNat / 16) / 16) = a :=
        octet_eq (by omega)
      have second : UInt8.ofNat ((a.toNat % 4 * 16 + b.toNat / 16) % 16 * 16 +
          (b.toNat % 16 * 4 + c.toNat / 64) / 4) = b := octet_eq (by omega)
      have third : UInt8.ofNat ((b.toNat % 16 * 4 + c.toNat / 64) % 4 * 64 + c.toNat % 64) = c :=
        octet_eq (by omega)
      have digit : symbol (c.toNat % 64) ≠ '=' := symbol_ne_pad (by omega)
      simp (disch := omega) only [encodeChars, decodeChars?, value?_symbol, ih, Option.bind_eq_bind,
        Option.bind_some, first, second, third, digit, false_and, and_false, if_false,
        Option.pure_def]

/-- **Octets are read back from base 64.** -/
@[simp] theorem decode?_encode (bytes : Octets) : decode? (encode bytes) = some bytes := by
  simp [decode?, encode]

end Outbound.Octets.Base64
