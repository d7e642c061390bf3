/-
# Outbound.Text.Percent — percent coding of query components

Encoding leaves the unreserved characters and writes every other octet of the
UTF-8 form as `%` and two upper-case digits.  Decoding reads the form-urlencoded
way: a plus sign is a space, and every `%` must be followed by two hexadecimal
digits of either case.

A text may mix escapes with characters beyond ASCII.  Each maximal run of ASCII
characters is turned into octets and decoded by itself, so a fault is placed
within its run.
-/
import Outbound.Text.Utf8

namespace Outbound.Text.Percent

set_option autoImplicit false

/-! ## Encoding -/

/-- The octets that stand for themselves: letters, digits and `-._~`. -/
def isUnreserved (b : UInt8) : Bool :=
  (0x30 ≤ b && b ≤ 0x39) || (0x41 ≤ b && b ≤ 0x5A) || (0x61 ≤ b && b ≤ 0x7A) ||
    b == 0x2D || b == 0x2E || b == 0x5F || b == 0x7E

/-- One octet, escaped unless it is unreserved. -/
def encodeOctet (b : UInt8) : List Char :=
  if isUnreserved b then [Char.ofNat b.toNat]
  else ['%', Octets.hexDigit (b.toNat / 16), Octets.hexDigit (b.toNat % 16)]

def encodeChars (s : List Char) : List Char := (Utf8.encode s).flatMap encodeOctet

def encode (s : String) : String := String.ofList (encodeChars s.toList)

/-! ## Decoding -/

/-- Why a text cannot be decoded. -/
inductive Fault where
  /-- A `%` without two hexadecimal digits, in this text. -/
  | malformed (text : String)
  /-- The octets of a run are no UTF-8. -/
  | notUtf8 (fault : Utf8.Fault)
  deriving DecidableEq, Repr

def Fault.message : Fault → String
  | .malformed text => s!"Malformed percent-escape in '{text}'"
  | .notUtf8 fault => fault.message

def escaped? (high low : Char) : Option UInt8 := do
  let h ← Octets.hexValue? high
  let l ← Octets.hexValue? low
  return UInt8.ofNat (16 * h + l)

/-- Every `%` is followed by two hexadecimal digits. -/
def wellEscaped : List Char → Bool
  | [] => true
  | c :: rest =>
    (c != '%' || match rest with
      | high :: low :: _ => (escaped? high low).isSome
      | _ => false) && wellEscaped rest

/-- An element of a text to be decoded: an octet of an ASCII run, or a character beyond. -/
inductive Unit where
  | octet (b : UInt8)
  | char (c : Char)
  deriving DecidableEq, Repr

/-- The elements of a text whose escapes are well formed. -/
def units : List Char → List Unit
  | [] => []
  | '%' :: high :: low :: rest =>
    match escaped? high low with
    | some b => .octet b :: units rest
    | none => .octet 0x25 :: units (high :: low :: rest)
  | c :: rest =>
    (if c = '+' then .octet 0x20
      else if c.toNat < 0x80 then .octet (UInt8.ofNat c.toNat)
      else .char c) :: units rest

/-- The run of octets at the start, and each character with the run behind it. -/
def runs : List Unit → Octets × List (Char × Octets)
  | [] => ([], [])
  | .octet b :: rest =>
    let (run, others) := runs rest
    (b :: run, others)
  | .char c :: rest =>
    let (run, others) := runs rest
    ([], (c, run) :: others)

/-- Decodes the runs of octets between characters, each by itself. -/
def decodeRuns (units : List Unit) : Except Utf8.Fault (List Char) := do
  let (run, others) := runs units
  let first ← Utf8.decode run
  let decoded ← others.mapM fun (c, run) => (Utf8.decode run).map (c :: ·)
  return first ++ decoded.flatten

def decodeChars (s : List Char) : Except Fault (List Char) :=
  if wellEscaped s then (decodeRuns (units s)).mapError .notUtf8
  else .error (.malformed (String.ofList s))

def decode (s : String) : Except Fault String := (decodeChars s.toList).map String.ofList

example : encode "a b/é" = "a%20b%2F%C3%A9" := by decide +kernel
example : (decodeChars "a+b%2f%C3%A9".toList).toOption = some "a b/é".toList := by
  decide +kernel
example : decodeChars "50%".toList = .error (.malformed "50%") := by rfl

end Outbound.Text.Percent
