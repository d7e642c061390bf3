/-
# Outbound.Digest.Hmac — digest algorithms and keyed digests

An algorithm has a name, a block size and a digest.  The keyed digest of a
message under a secret digests the message between two layers of the secret; a
secret longer than a block is digested first.
-/
import Outbound.Digest.Blake2
import Outbound.Digest.Md5
import Outbound.Digest.Sha1
import Outbound.Digest.Sha3

namespace Outbound

set_option autoImplicit false

/-- A digest algorithm with a fixed output length. -/
inductive Algorithm where
  | md5
  | sha1
  | sha224
  | sha256
  | sha384
  | sha512
  | sha3_224
  | sha3_256
  | sha3_384
  | sha3_512
  | blake2b
  | blake2s
  deriving DecidableEq, Repr

namespace Algorithm

def names : List (String × Algorithm) :=
  [("md5", .md5), ("sha1", .sha1), ("sha224", .sha224), ("sha256", .sha256), ("sha384", .sha384),
    ("sha512", .sha512), ("sha3_224", .sha3_224), ("sha3_256", .sha3_256),
    ("sha3_384", .sha3_384), ("sha3_512", .sha3_512), ("blake2b", .blake2b),
    ("blake2s", .blake2s)]

def named? (name : String) : Option Algorithm := names.lookup name

def name : Algorithm → String
  | .md5 => "md5"
  | .sha1 => "sha1"
  | .sha224 => "sha224"
  | .sha256 => "sha256"
  | .sha384 => "sha384"
  | .sha512 => "sha512"
  | .sha3_224 => "sha3_224"
  | .sha3_256 => "sha3_256"
  | .sha3_384 => "sha3_384"
  | .sha3_512 => "sha3_512"
  | .blake2b => "blake2b"
  | .blake2s => "blake2s"

def blockSize : Algorithm → Nat
  | .md5 | .sha1 | .sha224 | .sha256 | .blake2s => 64
  | .sha384 | .sha512 | .blake2b => 128
  | .sha3_224 => Digest.Sha3.rate 28
  | .sha3_256 => Digest.Sha3.rate 32
  | .sha3_384 => Digest.Sha3.rate 48
  | .sha3_512 => Digest.Sha3.rate 64

def digest : Algorithm → Octets → Octets
  | .md5 => Digest.Md5.digest
  | .sha1 => Digest.Sha1.digest
  | .sha224 => Digest.Sha2.sha224
  | .sha256 => Digest.Sha2.sha256
  | .sha384 => Digest.Sha2.sha384
  | .sha512 => Digest.Sha2.sha512
  | .sha3_224 => Digest.Sha3.digest 28
  | .sha3_256 => Digest.Sha3.digest 32
  | .sha3_384 => Digest.Sha3.digest 48
  | .sha3_512 => Digest.Sha3.digest 64
  | .blake2b => Digest.Blake2.blake2b
  | .blake2s => Digest.Blake2.blake2s

def secretBlock (algorithm : Algorithm) (secret : Octets) : Octets :=
  let short := if algorithm.blockSize < secret.length then algorithm.digest secret else secret
  short ++ List.replicate (algorithm.blockSize - short.length) 0

def hmac (algorithm : Algorithm) (secret message : Octets) : Octets :=
  let block := algorithm.secretBlock secret
  algorithm.digest
    (block.map (· ^^^ 0x5C) ++ algorithm.digest (block.map (· ^^^ 0x36) ++ message))

end Algorithm

end Outbound
