/-
# Outbound.Datum.Octets — data as octets

Octets are made of octets however they are held, of a collection of numbers below
256, of a path, or of a number, which gives as many zeros.  A text does not make
octets, since it does not say in which charset.
-/
import Outbound.Datum.Basic
import Outbound.Text.Utf8

namespace Outbound.Datum

set_option autoImplicit false

/-- Why a datum makes no octets. -/
inductive OctetsFault where
  /-- A text needs a charset. -/
  | charsetMissing
  | negativeCount
  /-- No count has so many digits. -/
  | countTooLarge
  /-- So many octets cannot be addressed. -/
  | tooLong
  /-- There is no room for so many octets. -/
  | noRoom
  /-- An element is a number, but not of an octet. -/
  | elementOutOfRange
  /-- An element of this type is no number. -/
  | elementNotNumber (typeName : String)
  /-- A datum of this type is no collection. -/
  | inconvertible (typeName : String)
  deriving DecidableEq, Repr

def OctetsFault.message : OctetsFault → String
  | .charsetMissing => "string argument without an encoding"
  | .negativeCount => "negative count"
  | .countTooLarge => "cannot fit 'int' into an index-sized integer"
  | .tooLong => "byte string is too large"
  | .noRoom => ""
  | .elementOutOfRange => "bytes must be in range(0, 256)"
  | .elementNotNumber typeName => s!"'{typeName}' object cannot be interpreted as an integer"
  | .inconvertible typeName => s!"cannot convert '{typeName}' object to bytes"

/-- The number of values of a word that holds a count, of which half are negative. -/
def countValues : Nat := Nat.pow 2 64

/-- The octets that are needed besides those of a string. -/
def overhead : Nat := 33

/-- The number of octets for which there is room. -/
def room : Nat := Nat.pow 2 47

def zeros (n : Int) : Except OctetsFault Octets :=
  if 2 * n < -countValues ∨ (countValues : Int) ≤ 2 * n then .error .countTooLarge
  else if n < 0 then .error .negativeCount
  else if countValues / 2 ≤ n.toNat + overhead then .error .tooLong
  else if room ≤ n.toNat then .error .noRoom
  else .ok (List.replicate n.toNat 0)

def octet (n : Int) : Except OctetsFault UInt8 :=
  if 0 ≤ n ∧ n < 256 then .ok (UInt8.ofNat n.toNat) else .error .elementOutOfRange

def elementOctet : Datum → Except OctetsFault UInt8
  | .int n => octet n
  | .bool b => octet b.toInt
  | d => .error (.elementNotNumber d.typeName)

def toOctets : Datum → Except OctetsFault Octets
  | .octets _ bytes => .ok bytes
  | .text _ => .error .charsetMissing
  | .int n => zeros n
  | .bool b => zeros b.toInt
  | .path p => .ok (Text.Utf8.encode p.text.toList)
  | d =>
    match d.elements? with
    | .ok elements => elements.mapM elementOctet
    | .error _ => .error (.inconvertible d.typeName)

end Outbound.Datum
