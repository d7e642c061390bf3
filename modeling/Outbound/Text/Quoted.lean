/-
# Outbound.Text.Quoted — texts and octets shown between quotes

A text is shown between single quotes, or between double quotes when it holds a
single quote and no double one.  The backslash, the enclosing quote, tab, line
feed and carriage return are escaped by a backslash, and every character that is
not printable by its code point.  Octets are shown the same way after a `b`.
-/
import Outbound.Text.Printable
import Outbound.Octets.Hex

namespace Outbound.Text

set_option autoImplicit false

/-- A code point written with the shortest of the three escapes that can hold it. -/
def escapeCode (n : Nat) : List Char :=
  if n < 0x100 then '\\' :: 'x' :: Octets.hexNumber 2 n
  else if n < 0x10000 then '\\' :: 'u' :: Octets.hexNumber 4 n
  else '\\' :: 'U' :: Octets.hexNumber 8 n

def quoteChar (mark c : Char) : List Char :=
  if c = mark || c = '\\' then ['\\', c]
  else if c = '\n' then ['\\', 'n']
  else if c = '\r' then ['\\', 'r']
  else if c = '\t' then ['\\', 't']
  else if isPrintable c then [c]
  else escapeCode c.toNat

/-- The quote that encloses a text. -/
def quoteMark (s : List Char) : Char := if '\'' ∈ s ∧ '"' ∉ s then '"' else '\''

def quote (s : String) : String :=
  let mark := quoteMark s.toList
  String.ofList (mark :: s.toList.flatMap (quoteChar mark) ++ [mark])

/-- An octet between the given quotes: ASCII as a character, all else by its number. -/
def quoteOctet (mark : Char) (b : UInt8) : List Char :=
  if b.toNat < 0x7F then quoteChar mark (Char.ofNat b.toNat) else escapeCode b.toNat

def quoteOctets (bytes : Octets) : String :=
  let mark := quoteMark (bytes.map fun b => Char.ofNat b.toNat)
  String.ofList ('b' :: mark :: bytes.flatMap (quoteOctet mark) ++ [mark])

example : quote "it's" = "\"it's\"" := by decide +kernel
example : quote "a\u00a0\n" = "'a\\xa0\\n'" := by decide +kernel

end Outbound.Text
