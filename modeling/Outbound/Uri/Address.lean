/-
# Outbound.Uri.Address — numeric hosts

A bracketed host is an address of version 6, with an optional zone after a
percent sign, or an address of some future version.  Version 4 is recognised to
be refused in brackets, and as the tail of version 6.

An address of version 6 is eight groups of one to four hexadecimal digits; one
run of at least one group may be left out, which shows as two colons, and a
dotted address may stand for the last two groups.
-/
import Outbound.Octets.Hex
import Outbound.Text.Cut
import Outbound.Text.Digit

namespace Outbound.Uri

set_option autoImplicit false

/-- A decimal number up to 255 without leading zeros. -/
def isDottedPart (s : List Char) : Bool :=
  s != [] && s.all Text.isAsciiDigit && s.length ≤ 3 && (s == ['0'] || s.head? != some '0') &&
    Text.ofDigits (s.map fun c => c.toNat - 48) ≤ 255

/-- Four decimal numbers between full stops. -/
def isVersion4 (s : List Char) : Bool :=
  let parts := Text.split '.' s
  parts.length = 4 && parts.all isDottedPart

/-- One to four hexadecimal digits. -/
def isGroup (s : List Char) : Bool :=
  s != [] && s.length ≤ 4 && s.all fun c => (Octets.hexValue? c).isSome

/-- The groups of an address, a dotted tail replaced by two groups; `none` when the dotted tail
is no address of version 4. -/
def groups? (s : List Char) : Option (List (List Char)) :=
  let parts := Text.split ':' s
  match parts.getLast? with
  | some tail =>
    if '.' ∉ tail then some parts
    else if isVersion4 tail then some (parts.dropLast ++ [['0'], ['0']])
    else none
  | none => none

/-- The groups on one side of the gap: none at all, or groups only. -/
def isSide (side : List (List Char)) : Bool := side = [[]] || side.all isGroup

/-- How many groups stand on one side of the gap. -/
def sideCount (side : List (List Char)) : Nat := if side = [[]] then 0 else side.length

/-- Groups, with an empty one between others where some are left out. -/
def areGroups (parts : List (List Char)) : Bool :=
  match (parts.drop 1).dropLast.filter (· = []) with
  | [] => parts.length = 8 && parts.all isGroup
  | [_] =>
    -- the gap is the first empty group after the first group
    let left := parts.take 1 ++ (parts.drop 1).takeWhile (· ≠ [])
    let right := ((parts.drop 1).dropWhile (· ≠ [])).drop 1
    isSide left && isSide right && sideCount left + sideCount right ≤ 7
  | _ => false

/-- An address of version 6 with an optional zone. -/
def isVersion6 (s : List Char) : Bool :=
  let zoneOk := match Text.after? '%' s with
    | none => true
    | some zone => zone ≠ [] && '%' ∉ zone
  zoneOk && match groups? (Text.before '%' s) with
    | some parts => areGroups parts
    | none => false

/-- `v`, hexadecimal digits, a full stop, and more. -/
def isFutureAddress (s : List Char) : Bool :=
  match s with
  | 'v' :: rest =>
    let isHex (c : Char) : Bool := (Octets.hexValue? c).isSome
    rest.takeWhile isHex ≠ [] && match rest.dropWhile isHex with
      | '.' :: more => more ≠ [] && '\n' ∉ more
      | _ => false
  | _ => false

example : isVersion6 "2001:db8::1.2.3.4%eth0".toList = true := by decide +kernel
example : isVersion6 "1::2::3".toList = false := by decide +kernel
example : isVersion4 "1.2.3.04".toList = false := by decide +kernel

end Outbound.Uri
