/-
# Outbound.Digest.Md5 — MD5

Four words of 32 bits are kept, and sixty-four rounds of four kinds run over each
block of sixteen words; the least significant octet of a word comes first.
-/
import Outbound.Digest.Words

namespace Outbound.Digest.Md5

set_option autoImplicit false


/-- The integer parts of 2³² times the sines of 1 to 64, signs dropped. -/
def sines : List (BitVec 32) :=
  [
    0xD76AA478, 0xE8C7B756, 0x242070DB, 0xC1BDCEEE, 0xF57C0FAF, 0x4787C62A, 0xA8304613,
    0xFD469501, 0x698098D8, 0x8B44F7AF, 0xFFFF5BB1, 0x895CD7BE, 0x6B901122, 0xFD987193,
    0xA679438E, 0x49B40821, 0xF61E2562, 0xC040B340, 0x265E5A51, 0xE9B6C7AA, 0xD62F105D, 0x2441453,
    0xD8A1E681, 0xE7D3FBC8, 0x21E1CDE6, 0xC33707D6, 0xF4D50D87, 0x455A14ED, 0xA9E3E905,
    0xFCEFA3F8, 0x676F02D9, 0x8D2A4C8A, 0xFFFA3942, 0x8771F681, 0x6D9D6122, 0xFDE5380C,
    0xA4BEEA44, 0x4BDECFA9, 0xF6BB4B60, 0xBEBFBC70, 0x289B7EC6, 0xEAA127FA, 0xD4EF3085, 0x4881D05,
    0xD9D4D039, 0xE6DB99E5, 0x1FA27CF8, 0xC4AC5665, 0xF4292244, 0x432AFF97, 0xAB9423A7,
    0xFC93A039, 0x655B59C3, 0x8F0CCC92, 0xFFEFF47D, 0x85845DD1, 0x6FA87E4F, 0xFE2CE6E0,
    0xA3014314, 0x4E0811A1, 0xF7537E82, 0xBD3AF235, 0x2AD7D2BB, 0xEB86D391
  ]

def shifts : List (List Nat) := [[7, 12, 17, 22], [5, 9, 14, 20], [4, 11, 16, 23], [6, 10, 15, 21]]

structure Working where
  a : BitVec 32
  b : BitVec 32
  c : BitVec 32
  d : BitVec 32

/-- What a round mixes in, and the index of its word. -/
def mix (v : Working) (i : Nat) : BitVec 32 × Nat :=
  if i < 16 then ((v.b &&& v.c) ||| (~~~v.b &&& v.d), i)
  else if i < 32 then ((v.d &&& v.b) ||| (~~~v.d &&& v.c), (5 * i + 1) % 16)
  else if i < 48 then (v.b ^^^ v.c ^^^ v.d, (3 * i + 5) % 16)
  else (v.c ^^^ (v.b ||| ~~~v.d), 7 * i % 16)

def round (block : List (BitVec 32)) (v : Working) (i : Nat) : Working :=
  let (mixed, index) := mix v i
  let sum := v.a + mixed + wordAt sines i + wordAt block index
  let shift := (shifts.getD (i / 16) []).getD (i % 4) 0
  ⟨v.d, v.b + sum.rotateLeft shift, v.b, v.c⟩

def compress (h : Working) (block : List (BitVec 32)) : Working :=
  let v := (List.range 64).foldl (round block) h
  ⟨h.a + v.a, h.b + v.b, h.c + v.c, h.d + v.d⟩

def digest (message : Octets) : Octets :=
  let words := (blocks 64 (padded 64 (Octets.littleEndian 8) message)).map (wordsLittle 32)
  let h := words.foldl compress ⟨0x67452301, 0xEFCDAB89, 0x98BADCFE, 0x10325476⟩
  octetsLittle [h.a, h.b, h.c, h.d]

end Outbound.Digest.Md5
