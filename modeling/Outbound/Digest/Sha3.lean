/-
# Outbound.Digest.Sha3 — the SHA-3 family

A sponge over twenty-five lanes of 64 bits.  The message, padded to a multiple of
the rate, is added to the first lanes block by block with a permutation of
twenty-four rounds after each block; the digest is the start of the lanes.  A
round is the composition of its five steps, each a map on the lanes.
-/
import Outbound.Digest.Words

namespace Outbound.Digest.Sha3

set_option autoImplicit false

/-- The lanes, lane `(x, y)` at `x + 5 * y`. -/
abbrev Lanes := List (BitVec 64)

/-- The lane at two coordinates modulo five. -/
def lane (s : Lanes) (x y : Nat) : BitVec 64 := wordAt s (x % 5 + 5 * (y % 5))

def ofCoordinates (f : Nat → Nat → BitVec 64) : Lanes :=
  (List.range 25).map fun i => f (i % 5) (i / 5)

def offsets : List Nat :=
  [0, 1, 62, 28, 27, 36, 44, 6, 55, 20, 3, 10, 43, 25, 39, 41, 45, 15, 21, 8, 18, 2, 61, 56, 14]

def roundConstants : List (BitVec 64) :=
  [
    0x1, 0x8082, 0x800000000000808A, 0x8000000080008000, 0x808B, 0x80000001, 0x8000000080008081,
    0x8000000000008009, 0x8A, 0x88, 0x80008009, 0x8000000A, 0x8000808B, 0x800000000000008B,
    0x8000000000008089, 0x8000000000008003, 0x8000000000008002, 0x8000000000000080, 0x800A,
    0x800000008000000A, 0x8000000080008081, 0x8000000000008080, 0x80000001, 0x8000000080008008
  ]

/-- The sum of a column without carry. -/
def column (s : Lanes) (x : Nat) : BitVec 64 :=
  (List.range 5).foldl (fun sum y => sum ^^^ lane s x y) 0

/-- Adds to every lane the sums of the two columns beside it. -/
def theta (s : Lanes) : Lanes :=
  ofCoordinates fun x y => lane s x y ^^^ column s (x + 4) ^^^ (column s (x + 1)).rotateLeft 1

/-- Rotates every lane by its offset. -/
def rho (s : Lanes) : Lanes := List.zipWith BitVec.rotateLeft s offsets

/-- Moves the lane `(x, y)` to `(y, 2 * x + 3 * y)`. -/
def pi (s : Lanes) : Lanes := ofCoordinates fun x y => lane s (x + 3 * y) x

/-- Combines every lane with the next two of its row. -/
def chi (s : Lanes) : Lanes :=
  ofCoordinates fun x y => lane s x y ^^^ (~~~lane s (x + 1) y &&& lane s (x + 2) y)

/-- Adds the round's constant to the first lane. -/
def iota (constant : BitVec 64) (s : Lanes) : Lanes :=
  match s with
  | first :: rest => (first ^^^ constant) :: rest
  | [] => []

def permute (s : Lanes) : Lanes :=
  roundConstants.foldl (fun s constant => iota constant (chi (pi (rho (theta s))))) s

def absorb (s : Lanes) (block : Octets) : Lanes :=
  let words := wordsLittle 64 block
  permute (ofCoordinates fun x y => lane s x y ^^^ wordAt words (x + 5 * y))

/-- A message followed by the bits that end it, up to a multiple of the rate. -/
def padded (rate : Nat) (message : Octets) : Octets :=
  let free := rate - message.length % rate
  if free = 1 then message ++ [0x86]
  else message ++ 0x06 :: (List.replicate (free - 2) 0 ++ [0x80])

/-- The octets of a block for a digest of this length. -/
def rate (length : Nat) : Nat := 200 - 2 * length

def digest (length : Nat) (message : Octets) : Octets :=
  let start : Lanes := List.replicate 25 0
  let s := (blocks (rate length) (padded (rate length) message)).foldl absorb start
  (octetsLittle s).take length

end Outbound.Digest.Sha3
