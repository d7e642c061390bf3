/-
# Outbound.Octets.Endian — numbers as octets

A number is written in a fixed count of octets, its higher part dropped, with the
least or the most significant octet first.  A number with no higher part is read back
(`ofBigEndian_bigEndian`).
-/
import Outbound.Octets.Hex

namespace Outbound.Octets

set_option autoImplicit false

/-- The low `count` octets of a number, least significant first. -/
def littleEndian : Nat → Nat → Octets
  | 0, _ => []
  | count + 1, n => UInt8.ofNat (n % 256) :: littleEndian count (n / 256)

/-- The low `count` octets of a number, most significant first. -/
def bigEndian (count n : Nat) : Octets := (littleEndian count n).reverse

def ofBigEndian (bytes : Octets) : Nat := bytes.foldl (fun n b => 256 * n + b.toNat) 0

/-! ## Reading back -/

@[simp] theorem length_littleEndian (count n : Nat) : (littleEndian count n).length = count := by
  induction count generalizing n with
  | zero => rfl
  | succ count ih => simp [littleEndian, ih]

@[simp] theorem length_bigEndian (count n : Nat) : (bigEndian count n).length = count := by
  simp [bigEndian]

/-- A number that has room in the octets is read back from them. -/
@[simp] theorem ofBigEndian_bigEndian {count n : Nat} (room : n < Nat.pow 256 count) :
    ofBigEndian (bigEndian count n) = n := by
  rw [ofBigEndian, bigEndian, List.foldl_reverse]
  induction count generalizing n with
  | zero =>
      obtain rfl : n = 0 := Nat.lt_one_iff.1 room
      rfl
  | succ count ih =>
      have rest : n / 256 < Nat.pow 256 count := Nat.div_lt_of_lt_mul (Nat.mul_comm .. ▸ room)
      rw [littleEndian, List.foldr_cons, ih rest]
      simp only [UInt8.toNat_ofNat', Nat.mod_mod]
      exact Nat.div_add_mod n 256

end Outbound.Octets
