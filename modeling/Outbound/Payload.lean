/-
# Outbound.Payload — objects that bodies come from

A payload is an object known by what it offers: it may write a body, yield it in
chunks, be read, or name a file.  A stream gives its octets only once, so reading
one leaves a trace (`Drained`); every other reading can be repeated.
-/
import Outbound.Octets.Hex

namespace Outbound

set_option autoImplicit false

/-- What an object gives when it is read. -/
inductive Readable where
  /-- The same octets each time. -/
  | constant (bytes : Octets)
  /-- Octets that can be read once; the handle tells streams apart. -/
  | stream (handle : Nat) (bytes : Octets)
  deriving DecidableEq, Repr

/-- An object that a body comes from. -/
structure Payload where
  /-- The name of its type, which faults show. -/
  typeName : String
  /-- The chunks that it writes. -/
  writes : Option (List Octets) := none
  /-- The chunks that it yields. -/
  yields : Option (List Octets) := none
  reads : Option Readable := none
  /-- The path that it stands for. -/
  path : Option String := none
  deriving DecidableEq, Repr

/-- The handles of the streams that have been read. -/
abbrev Drained := List Nat

/-- What is read, given the streams that have been read before, and those read after it. -/
def Readable.read (drained : Drained) : Readable → Octets × Drained
  | .constant bytes => (bytes, drained)
  | .stream handle bytes =>
    if drained.contains handle then ([], drained) else (bytes, handle :: drained)

/-- The lines of octets, each with the line feed that ends it. -/
def Octets.lines (bytes : Octets) : List Octets :=
  bytes.foldr (fun b lines =>
    match b == 0x0A, lines with
    | false, line :: rest => (b :: line) :: rest
    | _, _ => [b] :: lines) []

namespace Payload

def stream? (payload : Payload) : Option (Nat × Octets) :=
  match payload.reads with
  | some (.stream handle bytes) => some (handle, bytes)
  | _ => none

example : Octets.lines [1, 10, 10, 2] = [[1, 10], [10], [2]] := by decide +kernel

end Payload

end Outbound
