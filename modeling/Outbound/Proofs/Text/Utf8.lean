/-
# Outbound.Proofs.Text.Utf8 — a text is read back from its octets

The decoder holds a character begun as a state between octets.  Each lead octet
of a well-formed character announces its payload bits and an interval for the next
octet (`ofLead?_two`, `ofLead?_three`, `ofLead?_four`); each further octet adds six
bits (`decodeFrom_tail`).  Scalar values keep clear of the surrogates, which is
why the confined intervals after `0xE0`, `0xED`, `0xF0` and `0xF4` are met.
-/
import Mathlib.Tactic.IntervalCases
import Outbound.Text.Utf8

namespace Outbound.Text.Utf8

set_option autoImplicit false

theorem toNat_ofNat {n : Nat} (h : n < 256) : (UInt8.ofNat n).toNat = n := by
  simpa using h

/-! ## One octet -/

theorem ofLead?_two {q : Nat} (low : 2 ≤ q) (high : q < 32) :
    Pending.ofLead? (UInt8.ofNat (q + 0xC0)) =
      some ⟨1, 0x80, 0xBF, q, 1, UInt8.ofNat (q + 0xC0)⟩ := by
  interval_cases q <;> rfl

theorem ofLead?_three {q : Nat} (high : q < 16) :
    Pending.ofLead? (UInt8.ofNat (q + 0xE0)) =
      some ⟨2, if q = 0 then 0xA0 else 0x80, if q = 13 then 0x9F else 0xBF, q, 1,
        UInt8.ofNat (q + 0xE0)⟩ := by
  interval_cases q <;> rfl

theorem ofLead?_four {q : Nat} (high : q < 5) :
    Pending.ofLead? (UInt8.ofNat (q + 0xF0)) =
      some ⟨3, if q = 0 then 0x90 else 0x80, if q = 4 then 0x8F else 0xBF, q, 1,
        UInt8.ofNat (q + 0xF0)⟩ := by
  interval_cases q <;> rfl

theorem decodeFrom_lead {start n : Nat} {p : Pending} (rest : Octets) (beyond : 0x80 ≤ n)
    (octet : n < 256) (lead : Pending.ofLead? (UInt8.ofNat n) = some p) :
    decodeFrom start none (UInt8.ofNat n :: rest) = decodeFrom start (some p) rest := by
  have notAscii : ¬ UInt8.ofNat n < 0x80 := by
    rw [UInt8.lt_iff_toNat_lt, toNat_ofNat octet]
    simpa using beyond
  simp [decodeFrom, notAscii, lead]

/-- A continuation octet of six payload bits within the interval that is awaited. -/
theorem decodeFrom_tail {start x : Nat} {p : Pending} (rest : Octets) (six : x < 64)
    (low : p.low.toNat ≤ x + 0x80) (high : x + 0x80 ≤ p.high.toNat) :
    decodeFrom start (some p) (UInt8.ofNat (x + 0x80) :: rest) =
      if p.owed ≤ 1 then
        (decodeFrom (start + p.taken + 1) none rest).map (Char.ofNat (64 * p.payload + x) :: ·)
      else
        decodeFrom start (some ⟨p.owed - 1, 0x80, 0xBF, 64 * p.payload + x, p.taken + 1, p.lead⟩)
          rest := by
  have value := toNat_ofNat (n := x + 0x80) (by omega)
  have within : p.low ≤ UInt8.ofNat (x + 0x80) ∧ UInt8.ofNat (x + 0x80) ≤ p.high := by
    simp only [UInt8.le_iff_toNat_le, value]
    exact ⟨low, high⟩
  rw [decodeFrom, if_pos within]
  simp only [value, Nat.add_sub_cancel]

/-! ## One character -/

theorem utf8EncodeChar_ascii {c : Char} (ascii : c.toNat < 0x80) :
    String.utf8EncodeChar c = [UInt8.ofNat c.toNat] :=
  if_pos (Nat.le_of_lt_succ ascii)

theorem decodeFrom_encodeChar (start : Nat) (c : Char) (rest : Octets) :
    decodeFrom start none (String.utf8EncodeChar c ++ rest) =
      (decodeFrom (start + (String.utf8EncodeChar c).length) none rest).map (c :: ·) := by
  have scalar : c.val.toNat < 0xD800 ∨ 0xDFFF < c.val.toNat ∧ c.val.toNat < 0x110000 := c.valid
  have back : ∀ n, n = c.val.toNat → Char.ofNat n = c := by
    rintro n rfl
    exact Char.ofNat_toNat c
  unfold String.utf8EncodeChar
  generalize c.val.toNat = v at scalar back
  simp only
  split
  · rename_i small
    have value := toNat_ofNat (n := v) (by omega)
    have ascii : UInt8.ofNat v < 0x80 := by
      rw [UInt8.lt_iff_toNat_lt, value]
      exact Nat.lt_succ_of_le small
    rw [List.singleton_append, decodeFrom, if_pos ascii, value, back v rfl, List.length_singleton]
  split
  · simp only [List.cons_append, List.nil_append]
    rw [decodeFrom_lead _ (by omega) (by omega) (ofLead?_two (by omega) (by omega)),
      decodeFrom_tail _ (by omega) (by simp) (by simp; omega)]
    simp [back _ (show 64 * (v / 64 % 0x20) + v % 0x40 = v by omega)]
  split
  · simp only [List.cons_append, List.nil_append]
    rw [decodeFrom_lead _ (by omega) (by omega) (ofLead?_three (by omega)),
      decodeFrom_tail _ (by omega) (by dsimp only; split <;> simp; omega)
        (by dsimp only; split <;> simp <;> omega), if_neg (by simp),
      decodeFrom_tail _ (by omega) (by simp) (by simp; omega)]
    simp [back _ (show 64 * (64 * (v / 4096 % 0x10) + v / 64 % 0x40) + v % 0x40 = v by omega)]
  · simp only [List.cons_append, List.nil_append]
    rw [decodeFrom_lead _ (by omega) (by omega) (ofLead?_four (by omega)),
      decodeFrom_tail _ (by omega) (by dsimp only; split <;> simp; omega)
        (by dsimp only; split <;> simp <;> omega), if_neg (by simp),
      decodeFrom_tail _ (by omega) (by simp) (by simp; omega), if_neg (by simp),
      decodeFrom_tail _ (by omega) (by simp) (by simp; omega)]
    simp [back _ (show 64 * (64 * (64 * (v / 262144 % 8) + v / 4096 % 0x40) + v / 64 % 0x40) +
      v % 0x40 = v by omega)]

@[simp] theorem decodeFrom_encode (start : Nat) (s : List Char) :
    decodeFrom start none (encode s) = .ok s := by
  induction s generalizing start with
  | nil => rfl
  | cons c s ih =>
      rw [encode, List.flatMap_cons, decodeFrom_encodeChar]
      exact congrArg (Except.map (c :: ·)) (ih _)

/-- **A text is read back from its octets.** -/
@[simp] theorem decode_encode (s : List Char) : decode (encode s) = .ok s := decodeFrom_encode 0 s

end Outbound.Text.Utf8
