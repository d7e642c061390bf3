/-
# Outbound.Octets.Base64 — octets in sixty-four characters

Three octets are written as four characters; a last group of one or two octets is
filled up with equals signs.
-/
import Outbound.Octets.Hex

namespace Outbound.Octets.Base64

set_option autoImplicit false

/-- The character of a number below sixty-four. -/
def symbol (n : Nat) : Char :=
  if n < 26 then Char.ofNat (65 + n)
  else if n < 52 then Char.ofNat (71 + n)
  else if n < 62 then Char.ofNat (n - 4)
  else if n = 62 then '+' else '/'

def encodeChars : Octets → List Char
  | [] => []
  | [a] => [symbol (a.toNat / 4), symbol (a.toNat % 4 * 16), '=', '=']
  | [a, b] =>
    [symbol (a.toNat / 4), symbol (a.toNat % 4 * 16 + b.toNat / 16), symbol (b.toNat % 16 * 4),
      '=']
  | a :: b :: c :: rest =>
    symbol (a.toNat / 4) :: symbol (a.toNat % 4 * 16 + b.toNat / 16) ::
      symbol (b.toNat % 16 * 4 + c.toNat / 64) :: symbol (c.toNat % 64) :: encodeChars rest

def encode (bytes : Octets) : String := String.ofList (encodeChars bytes)

example : encode [0x66, 0x6F, 0x6F, 0x62] = "Zm9vYg==" := by decide +kernel

end Outbound.Octets.Base64
