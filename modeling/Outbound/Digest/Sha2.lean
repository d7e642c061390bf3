/-
# Outbound.Digest.Sha2 — the SHA-2 family

The family has one compression for words of 32 and of 64 bits; the two widths
differ in rotations, rounds and the length field.  The round constants are the
fractional parts of the cube roots of the first eighty primes, and the initial
values those of square roots, so the 32-bit tables are the upper halves of the
64-bit ones; only SHA-224 starts from the lower halves of SHA-384's values.
-/
import Outbound.Digest.Words

namespace Outbound.Digest.Sha2

set_option autoImplicit false

/-! ## Constants -/

/-- The fractional parts of the cube roots of the first eighty primes. -/
def cubeRoots : List (BitVec 64) :=
  [
    0x428A2F98D728AE22, 0x7137449123EF65CD, 0xB5C0FBCFEC4D3B2F, 0xE9B5DBA58189DBBC,
    0x3956C25BF348B538, 0x59F111F1B605D019, 0x923F82A4AF194F9B, 0xAB1C5ED5DA6D8118,
    0xD807AA98A3030242, 0x12835B0145706FBE, 0x243185BE4EE4B28C, 0x550C7DC3D5FFB4E2,
    0x72BE5D74F27B896F, 0x80DEB1FE3B1696B1, 0x9BDC06A725C71235, 0xC19BF174CF692694,
    0xE49B69C19EF14AD2, 0xEFBE4786384F25E3, 0xFC19DC68B8CD5B5, 0x240CA1CC77AC9C65,
    0x2DE92C6F592B0275, 0x4A7484AA6EA6E483, 0x5CB0A9DCBD41FBD4, 0x76F988DA831153B5,
    0x983E5152EE66DFAB, 0xA831C66D2DB43210, 0xB00327C898FB213F, 0xBF597FC7BEEF0EE4,
    0xC6E00BF33DA88FC2, 0xD5A79147930AA725, 0x6CA6351E003826F, 0x142929670A0E6E70,
    0x27B70A8546D22FFC, 0x2E1B21385C26C926, 0x4D2C6DFC5AC42AED, 0x53380D139D95B3DF,
    0x650A73548BAF63DE, 0x766A0ABB3C77B2A8, 0x81C2C92E47EDAEE6, 0x92722C851482353B,
    0xA2BFE8A14CF10364, 0xA81A664BBC423001, 0xC24B8B70D0F89791, 0xC76C51A30654BE30,
    0xD192E819D6EF5218, 0xD69906245565A910, 0xF40E35855771202A, 0x106AA07032BBD1B8,
    0x19A4C116B8D2D0C8, 0x1E376C085141AB53, 0x2748774CDF8EEB99, 0x34B0BCB5E19B48A8,
    0x391C0CB3C5C95A63, 0x4ED8AA4AE3418ACB, 0x5B9CCA4F7763E373, 0x682E6FF3D6B2B8A3,
    0x748F82EE5DEFB2FC, 0x78A5636F43172F60, 0x84C87814A1F0AB72, 0x8CC702081A6439EC,
    0x90BEFFFA23631E28, 0xA4506CEBDE82BDE9, 0xBEF9A3F7B2C67915, 0xC67178F2E372532B,
    0xCA273ECEEA26619C, 0xD186B8C721C0C207, 0xEADA7DD6CDE0EB1E, 0xF57D4F7FEE6ED178,
    0x6F067AA72176FBA, 0xA637DC5A2C898A6, 0x113F9804BEF90DAE, 0x1B710B35131C471B,
    0x28DB77F523047D84, 0x32CAAB7B40C72493, 0x3C9EBE0A15C9BEBC, 0x431D67C49C100D4C,
    0x4CC5D4BECB3E42B6, 0x597F299CFC657E2A, 0x5FCB6FAB3AD6FAEC, 0x6C44198C4A475817
  ]

/-- The fractional parts of the square roots of the first eight primes. -/
def squareRoots : List (BitVec 64) :=
  [
    0x6A09E667F3BCC908, 0xBB67AE8584CAA73B, 0x3C6EF372FE94F82B, 0xA54FF53A5F1D36F1,
    0x510E527FADE682D1, 0x9B05688C2B3E6C1F, 0x1F83D9ABFB41BD6B, 0x5BE0CD19137E2179
  ]

/-- The fractional parts of the square roots of the next eight primes. -/
def laterSquareRoots : List (BitVec 64) :=
  [
    0xCBBB9D5DC1059ED8, 0x629A292A367CD507, 0x9159015A3070DD17, 0x152FECD8F70E5939,
    0x67332667FFC00B31, 0x8EB44A8768581511, 0xDB0C2E0D64F98FA7, 0x47B5481DBEFA4FA4
  ]

def upperHalves (words : List (BitVec 64)) : List (BitVec 32) :=
  words.map (BitVec.extractLsb' 32 32)

def lowerHalves (words : List (BitVec 64)) : List (BitVec 32) :=
  words.map (BitVec.extractLsb' 0 32)

/-! ## Compression -/

/-- What distinguishes the two word widths. -/
structure Width (w : Nat) where
  constants : List (BitVec w)
  /-- The rotations of the two sums of a round. -/
  bigSigma0 : Nat × Nat × Nat
  bigSigma1 : Nat × Nat × Nat
  /-- Two rotations and a shift of the schedule's two sums. -/
  smallSigma0 : Nat × Nat × Nat
  smallSigma1 : Nat × Nat × Nat

/-- Words of 32 bits, sixty-four rounds. -/
def narrow : Width 32 where
  constants := upperHalves (cubeRoots.take 64)
  bigSigma0 := (2, 13, 22)
  bigSigma1 := (6, 11, 25)
  smallSigma0 := (7, 18, 3)
  smallSigma1 := (17, 19, 10)

/-- Words of 64 bits, eighty rounds. -/
def wide : Width 64 where
  constants := cubeRoots
  bigSigma0 := (28, 34, 39)
  bigSigma1 := (14, 18, 41)
  smallSigma0 := (1, 8, 7)
  smallSigma1 := (19, 61, 6)

variable {w : Nat}

/-- Three rotations of a word, added without carry. -/
def rotations (r : Nat × Nat × Nat) (x : BitVec w) : BitVec w :=
  x.rotateRight r.1 ^^^ x.rotateRight r.2.1 ^^^ x.rotateRight r.2.2

/-- Two rotations and a shift of a word, added without carry. -/
def rotationsShift (r : Nat × Nat × Nat) (x : BitVec w) : BitVec w :=
  x.rotateRight r.1 ^^^ x.rotateRight r.2.1 ^^^ x >>> r.2.2

/-- The schedule of a block, latest word first. -/
def schedule (width : Width w) (block : List (BitVec w)) : List (BitVec w) :=
  (List.range (width.constants.length - 16)).foldl
    (fun words _ =>
      (rotationsShift width.smallSigma1 (wordAt words 1) + wordAt words 6 +
        rotationsShift width.smallSigma0 (wordAt words 14) + wordAt words 15) :: words)
    block.reverse

/-- The eight working words of a round. -/
structure Working (w : Nat) where
  a : BitVec w
  b : BitVec w
  c : BitVec w
  d : BitVec w
  e : BitVec w
  f : BitVec w
  g : BitVec w
  h : BitVec w

def round (width : Width w) (v : Working w) (constant word : BitVec w) : Working w :=
  let t1 := v.h + rotations width.bigSigma1 v.e + ((v.e &&& v.f) ^^^ (~~~v.e &&& v.g)) + constant +
    word
  let t2 := rotations width.bigSigma0 v.a + ((v.a &&& v.b) ^^^ (v.a &&& v.c) ^^^ (v.b &&& v.c))
  ⟨t1 + t2, v.a, v.b, v.c, v.d + t1, v.e, v.f, v.g⟩

def compress (width : Width w) (h : List (BitVec w)) (block : List (BitVec w)) :
    List (BitVec w) :=
  let start : Working w := ⟨wordAt h 0, wordAt h 1, wordAt h 2, wordAt h 3, wordAt h 4,
    wordAt h 5, wordAt h 6, wordAt h 7⟩
  let v := (width.constants.zip (schedule width block).reverse).foldl
    (fun v kw => round width v kw.1 kw.2) start
  List.zipWith (· + ·) h [v.a, v.b, v.c, v.d, v.e, v.f, v.g, v.h]

/-- The digest of a message, `length` octets of the last chaining value. -/
def digest (width : Width w) (initial : List (BitVec w)) (length : Nat) (message : Octets) :
    Octets :=
  let block := 2 * w
  let words := (blocks block (padded block (Octets.bigEndian (w / 4)) message)).map (wordsBig w)
  (octetsBig (words.foldl (compress width) initial)).take length

def sha224 : Octets → Octets := digest narrow (lowerHalves laterSquareRoots) 28

def sha256 : Octets → Octets := digest narrow (upperHalves squareRoots) 32

def sha384 : Octets → Octets := digest wide laterSquareRoots 48

def sha512 : Octets → Octets := digest wide squareRoots 64

end Outbound.Digest.Sha2
