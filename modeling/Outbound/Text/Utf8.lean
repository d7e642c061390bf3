/-
# Outbound.Text.Utf8 — texts as octets and back

Encoding is one to four octets a character.  Decoding reads octet by octet: a
lead octet announces how many continuation octets follow and confines the first
of them, so that overlong forms, surrogates and numbers beyond U+10FFFF are
refused at the first octet that rules them out.  A refusal names the octets read
of the character that could not be completed.
-/
import Outbound.Octets.Hex

namespace Outbound.Text.Utf8

set_option autoImplicit false

def encode (s : List Char) : Octets := s.flatMap String.utf8EncodeChar

/-! ## Faults -/

inductive Defect where
  /-- An octet that starts no character. -/
  | badStart
  /-- An octet that cannot continue the character begun. -/
  | badContinuation
  /-- The octets end inside a character. -/
  | truncated
  deriving DecidableEq, Repr

/-- The octets `first` to `last`, counted from zero, are no character; `lead` is the first of
them. -/
structure Fault where
  defect : Defect
  lead : UInt8
  first : Nat
  last : Nat
  deriving DecidableEq, Repr

def Defect.message : Defect → String
  | .badStart => "invalid start byte"
  | .badContinuation => "invalid continuation byte"
  | .truncated => "unexpected end of data"

def Fault.message (fault : Fault) : String :=
  let place :=
    if fault.first = fault.last then
      s!"byte 0x{String.ofList (Octets.hexPair fault.lead)} in position {fault.first}"
    else s!"bytes in position {fault.first}-{fault.last}"
  s!"'utf-8' codec can't decode {place}: {fault.defect.message}"

/-! ## Decoding -/

/-- A character begun: the octets still owed, the interval of the next one, the payload so far,
the octets read, and the first of them. -/
structure Pending where
  owed : Nat
  low : UInt8
  high : UInt8
  payload : Nat
  taken : Nat
  lead : UInt8

/-- What a lead octet of two to four octets announces. -/
def Pending.ofLead? (b : UInt8) : Option Pending :=
  if 0xC2 ≤ b ∧ b ≤ 0xDF then some ⟨1, 0x80, 0xBF, b.toNat - 0xC0, 1, b⟩
  else if b = 0xE0 then some ⟨2, 0xA0, 0xBF, 0, 1, b⟩
  else if b = 0xED then some ⟨2, 0x80, 0x9F, 0xD, 1, b⟩
  else if 0xE1 ≤ b ∧ b ≤ 0xEF then some ⟨2, 0x80, 0xBF, b.toNat - 0xE0, 1, b⟩
  else if b = 0xF0 then some ⟨3, 0x90, 0xBF, 0, 1, b⟩
  else if 0xF1 ≤ b ∧ b ≤ 0xF3 then some ⟨3, 0x80, 0xBF, b.toNat - 0xF0, 1, b⟩
  else if b = 0xF4 then some ⟨3, 0x80, 0x8F, 4, 1, b⟩
  else none

def Pending.fault (p : Pending) (defect : Defect) (start : Nat) : Fault :=
  ⟨defect, p.lead, start, start + p.taken - 1⟩

/-- Decodes octets, the next character starting at position `start`. -/
def decodeFrom (start : Nat) : Option Pending → Octets → Except Fault (List Char)
  | none, [] => .ok []
  | some p, [] => .error (p.fault .truncated start)
  | none, b :: rest =>
    if b < 0x80 then (decodeFrom (start + 1) none rest).map (Char.ofNat b.toNat :: ·)
    else
      match Pending.ofLead? b with
      | some p => decodeFrom start (some p) rest
      | none => .error ⟨.badStart, b, start, start⟩
  | some p, b :: rest =>
    if p.low ≤ b ∧ b ≤ p.high then
      let payload := 64 * p.payload + (b.toNat - 0x80)
      if p.owed ≤ 1 then
        (decodeFrom (start + p.taken + 1) none rest).map (Char.ofNat payload :: ·)
      else decodeFrom start (some ⟨p.owed - 1, 0x80, 0xBF, payload, p.taken + 1, p.lead⟩) rest
    else .error (p.fault .badContinuation start)

def decode (bytes : Octets) : Except Fault (List Char) := decodeFrom 0 none bytes

example : (decode (encode "aé日😀".toList)).toOption = some "aé日😀".toList := by decide +kernel
example : decode [0x61, 0xE1, 0x80] = .error ⟨.truncated, 0xE1, 1, 2⟩ := by rfl
example : decode [0xED, 0xA0, 0x80] = .error ⟨.badContinuation, 0xED, 0, 0⟩ := by rfl

end Outbound.Text.Utf8
