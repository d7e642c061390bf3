/-
# Outbound.Digest.Sha1 — SHA-1

Five words of 32 bits are kept, and eighty rounds of four kinds run over each
block, whose sixteen words are extended to eighty; the most significant octet of
a word comes first.
-/
import Outbound.Digest.Words

namespace Outbound.Digest.Sha1

set_option autoImplicit false

structure Working where
  a : BitVec 32
  b : BitVec 32
  c : BitVec 32
  d : BitVec 32
  e : BitVec 32

/-- The schedule of a block, latest word first. -/
def schedule (block : List (BitVec 32)) : List (BitVec 32) :=
  (List.range 64).foldl
    (fun words _ =>
      (wordAt words 2 ^^^ wordAt words 7 ^^^ wordAt words 13 ^^^ wordAt words 15).rotateLeft 1 ::
        words)
    block.reverse

/-- What a round mixes in, constant included. -/
def mix (v : Working) (i : Nat) : BitVec 32 :=
  if i < 20 then ((v.b &&& v.c) ||| (~~~v.b &&& v.d)) + 0x5A827999
  else if i < 40 then (v.b ^^^ v.c ^^^ v.d) + 0x6ED9EBA1
  else if i < 60 then ((v.b &&& v.c) ||| (v.b &&& v.d) ||| (v.c &&& v.d)) + 0x8F1BBCDC
  else (v.b ^^^ v.c ^^^ v.d) + 0xCA62C1D6

def round (v : Working) (word : BitVec 32 × Nat) : Working :=
  ⟨v.a.rotateLeft 5 + mix v word.2 + v.e + word.1, v.a, v.b.rotateLeft 30, v.c, v.d⟩

def compress (h : Working) (block : List (BitVec 32)) : Working :=
  let v := (schedule block).reverse.zipIdx.foldl round h
  ⟨h.a + v.a, h.b + v.b, h.c + v.c, h.d + v.d, h.e + v.e⟩

def digest (message : Octets) : Octets :=
  let words := (blocks 64 (padded 64 (Octets.bigEndian 8) message)).map (wordsBig 32)
  let h := words.foldl compress ⟨0x67452301, 0xEFCDAB89, 0x98BADCFE, 0x10325476, 0xC3D2E1F0⟩
  octetsBig [h.a, h.b, h.c, h.d, h.e]

end Outbound.Digest.Sha1
