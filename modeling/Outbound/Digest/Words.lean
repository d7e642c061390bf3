/-
# Outbound.Digest.Words — octets as words and back

The digests work on words of 32 or 64 bits.  A word is read from consecutive
octets with the most or the least significant one first, and a message is cut
into blocks of equal length after it was padded to a multiple of that length.
-/
import Outbound.Octets.Endian

namespace Outbound.Digest

set_option autoImplicit false

/-- The consecutive pieces of a length, without a shorter last one. -/
def blocks {α : Type} (length : Nat) (s : List α) : List (List α) :=
  (List.range (s.length / length)).map fun i => (s.drop (i * length)).take length

/-- The words of octets, each most significant octet first. -/
def wordsBig (w : Nat) (bytes : Octets) : List (BitVec w) :=
  (blocks (w / 8) bytes).map fun b => BitVec.ofNat w (Octets.ofBigEndian b)

/-- The words of octets, each least significant octet first. -/
def wordsLittle (w : Nat) (bytes : Octets) : List (BitVec w) :=
  (blocks (w / 8) bytes).map fun b => BitVec.ofNat w (Octets.ofBigEndian b.reverse)

/-- The octets of words, each most significant octet first. -/
def octetsBig {w : Nat} (words : List (BitVec w)) : Octets :=
  words.flatMap fun x => Octets.bigEndian (w / 8) x.toNat

/-- The octets of words, each least significant octet first. -/
def octetsLittle {w : Nat} (words : List (BitVec w)) : Octets :=
  words.flatMap fun x => Octets.littleEndian (w / 8) x.toNat

/-- A word of a list, zero beyond its end. -/
def wordAt {w : Nat} (words : List (BitVec w)) (i : Nat) : BitVec w := words.getD i 0

/-- A message followed by one set bit, by zeros, and by its length in bits, which fills the last
octets of a block. -/
def padded (block : Nat) (lengthField : Nat → Octets) (message : Octets) : Octets :=
  let field := lengthField (8 * message.length)
  let used := message.length + 1 + field.length
  message ++ 0x80 :: (List.replicate ((block - used % block) % block) 0 ++ field)

end Outbound.Digest
