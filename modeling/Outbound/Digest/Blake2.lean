/-
# Outbound.Digest.Blake2 — the BLAKE2 family, without a key

Both members mix sixteen words in columns and diagonals, in an order of message
words that changes from round to round.  They differ in word width, rounds and
rotations.  The count of octets taken in enters every block, and the last block,
filled with zeros, is marked; an empty message has one block of zeros.
-/
import Outbound.Digest.Sha2

namespace Outbound.Digest.Blake2

set_option autoImplicit false

/-- The order of message words in each round; later rounds start again. -/
def orders : List (List Nat) :=
  [
    [0, 1, 2, 3, 4, 5, 6, 7, 8, 9, 10, 11, 12, 13, 14, 15],
    [14, 10, 4, 8, 9, 15, 13, 6, 1, 12, 0, 2, 11, 7, 5, 3],
    [11, 8, 12, 0, 5, 2, 15, 13, 10, 14, 3, 6, 7, 1, 9, 4],
    [7, 9, 3, 1, 13, 12, 11, 14, 2, 6, 5, 10, 4, 0, 15, 8],
    [9, 0, 5, 7, 2, 4, 10, 15, 14, 1, 11, 12, 6, 8, 3, 13],
    [2, 12, 6, 10, 0, 11, 8, 3, 4, 13, 7, 5, 15, 14, 1, 9],
    [12, 5, 1, 15, 14, 13, 4, 10, 0, 7, 6, 3, 9, 2, 8, 11],
    [13, 11, 7, 14, 12, 1, 3, 9, 5, 0, 15, 4, 8, 6, 2, 10],
    [6, 15, 14, 9, 11, 3, 0, 8, 12, 2, 13, 7, 1, 4, 10, 5],
    [10, 2, 8, 4, 7, 6, 1, 5, 15, 11, 9, 14, 3, 12, 13, 0]
  ]

/-- The words mixed together in a round: four columns, then four diagonals. -/
def quarters : List (Nat × Nat × Nat × Nat) :=
  [(0, 4, 8, 12), (1, 5, 9, 13), (2, 6, 10, 14), (3, 7, 11, 15), (0, 5, 10, 15), (1, 6, 11, 12),
    (2, 7, 8, 13), (3, 4, 9, 14)]

structure Member (w : Nat) where
  initial : List (BitVec w)
  rounds : Nat
  rotations : Nat × Nat × Nat × Nat

/-- Words of 64 bits, twelve rounds. -/
def wide : Member 64 := ⟨Sha2.squareRoots, 12, (32, 24, 16, 63)⟩

/-- Words of 32 bits, ten rounds. -/
def narrow : Member 32 := ⟨Sha2.upperHalves Sha2.squareRoots, 10, (16, 12, 8, 7)⟩

variable {w : Nat}

def mix (member : Member w) (v : List (BitVec w)) (quarter : Nat × Nat × Nat × Nat)
    (x y : BitVec w) : List (BitVec w) :=
  let (ia, ib, ic, id) := quarter
  let (r1, r2, r3, r4) := member.rotations
  let a := wordAt v ia + wordAt v ib + x
  let d := (wordAt v id ^^^ a).rotateRight r1
  let c := wordAt v ic + d
  let b := (wordAt v ib ^^^ c).rotateRight r2
  let a := a + b + y
  let d := (d ^^^ a).rotateRight r3
  let c := c + d
  let b := (b ^^^ c).rotateRight r4
  (((v.set ia a).set ib b).set ic c).set id d

def round (member : Member w) (block : List (BitVec w)) (v : List (BitVec w)) (i : Nat) :
    List (BitVec w) :=
  let order := orders.getD (i % 10) []
  quarters.zipIdx.foldl
    (fun v (quarter, j) =>
      mix member v quarter (wordAt block (order.getD (2 * j) 0))
        (wordAt block (order.getD (2 * j + 1) 0)))
    v

/-- The chaining value after a block, `count` octets having been taken in with it. -/
def compress (member : Member w) (h : List (BitVec w)) (block : List (BitVec w)) (count : Nat)
    (last : Bool) : List (BitVec w) :=
  let counter := [BitVec.ofNat w count, BitVec.ofNat w (count >>> w),
    if last then BitVec.allOnes w else 0, 0]
  let tail := List.zipWith (· ^^^ ·) (member.initial.drop 4) counter
  let v := (List.range member.rounds).foldl (round member block) (h ++ member.initial.take 4 ++ tail)
  List.zipWith (· ^^^ ·) h (List.zipWith (· ^^^ ·) (v.take 8) (v.drop 8))

/-- The digest of a message, as long as half a block. -/
def digest (member : Member w) (message : Octets) : Octets :=
  let size := 2 * w
  let count := max 1 ((message.length + size - 1) / size)
  let filled := message ++ List.replicate (count * size - message.length) 0
  let start := match member.initial with
    | first :: rest => (first ^^^ BitVec.ofNat w (0x01010000 + w)) :: rest
    | [] => []
  octetsLittle ((blocks size filled).zipIdx.foldl
    (fun h (block, i) =>
      let last := i + 1 = count
      compress member h (wordsLittle w block)
        (if last then message.length else (i + 1) * size) last)
    start)

def blake2b : Octets → Octets := digest wide

def blake2s : Octets → Octets := digest narrow

end Outbound.Digest.Blake2
