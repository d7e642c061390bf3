/-
# Outbound.Proofs.Text.Numeral — numerals that are written as their number is

A number is written without zeros in front.  So the digits of a numeral are those
that its number is written with unless a zero stands in front of more of them
(`toDigits_ofDigits_iff`).  One direction is by induction on the digits from the
last one, the other on the number.
-/
import Mathlib.Data.List.Induction
import Outbound.Text.Numeral

namespace Outbound.Text

set_option autoImplicit false

def asciiValue (c : Char) : Nat := c.toNat - 48

theorem digitChar_asciiValue {c : Char} (digit : isAsciiDigit c = true) :
    (asciiValue c).digitChar = c ∧ asciiValue c < 10 := by
  have bounds : 48 ≤ c.toNat ∧ c.toNat ≤ 57 := by
    simpa [isAsciiDigit, Char.le_def, UInt32.le_iff_toNat_le] using digit
  have small : asciiValue c < 10 := by
    unfold asciiValue
    omega
  refine ⟨?_, small⟩
  rw [← Char.toNat_inj, Nat.toNat_digitChar_of_lt_ten small]
  unfold asciiValue
  omega

theorem ofDigits_concat (ds : List Nat) (d : Nat) : ofDigits (ds ++ [d]) = 10 * ofDigits ds + d := by
  simp [ofDigits]

/-- Digits without a zero in front of others are those of their number. -/
theorem toDigits_ofDigits {s : List Char} (some_digit : s ≠ []) (digits : s.all isAsciiDigit)
    (plain : s.head? = some '0' → s = ['0']) :
    Nat.toDigits 10 (ofDigits (s.map asciiValue)) = s := by
  induction s using List.reverseRecOn with
  | nil => exact absurd rfl some_digit
  | append_singleton s c ih =>
      rw [List.all_append, Bool.and_eq_true] at digits
      have last : isAsciiDigit c = true := by simpa using digits.2
      obtain ⟨isChar, small⟩ := digitChar_asciiValue last
      rw [List.map_append, List.map_singleton, ofDigits_concat]
      cases s with
      | nil =>
          have value : 10 * ofDigits ([].map asciiValue) + asciiValue c = asciiValue c := by
            simp [ofDigits]
          rw [value, Nat.toDigits_of_lt_base small, isChar]
          rfl
      | cons first more =>
          have notZero : first ≠ '0' := by
            rintro rfl
            have whole := plain rfl
            simp at whole
          have plainFront : (first :: more).head? = some '0' → first :: more = ['0'] := by
            intro zero
            exact absurd (Option.some.inj zero) notZero
          have front := ih (List.cons_ne_nil first more) digits.1 plainFront
          -- The digits in front are those of a positive number, so the last one is appended to them.
          have positive : 0 < ofDigits ((first :: more).map asciiValue) := by
            apply Nat.pos_of_ne_zero
            intro zero
            rw [zero, Nat.toDigits_zero] at front
            exact notZero (List.cons.inj front).1.symm
          rw [← Nat.toDigits_append_toDigits (by decide) positive small, front,
            Nat.toDigits_of_lt_base small, isChar]

/-- A number is written without a zero in front of other digits. -/
theorem toDigits_plain (n : Nat) :
    (Nat.toDigits 10 n).head? = some '0' → Nat.toDigits 10 n = ['0'] := by
  induction n using Nat.strongRecOn with
  | ind n ih =>
      intro first
      rw [Nat.toDigits_eq_if (by decide)] at first ⊢
      split at first
      · rename_i small
        rw [if_pos small]
        simpa using first
      · rename_i large
        have front : (Nat.toDigits 10 (n / 10)).head? = some '0' := by
          cases digits : Nat.toDigits 10 (n / 10) with
          | nil => exact absurd digits Nat.toDigits_ne_nil
          | cons c more =>
              rw [digits] at first
              exact first
        have zero := ih (n / 10) (by omega) front
        have value : n / 10 = 0 := by
          rw [← @Nat.ofDigitChars_ten_toDigits (n / 10), zero]
          rfl
        omega

/-- The digits that a number is written with are read as the number. -/
theorem asciiDigits?_toDigits (n : Nat) : ∃ digits,
    Numeral.asciiDigits? (Nat.toDigits 10 n) = some digits ∧ ofDigits digits = n := by
  have digits : (Nat.toDigits 10 n).all isAsciiDigit := by
    rw [List.all_eq_true]
    intro c mem
    have digit := Nat.isDigit_of_mem_toDigits (by decide) (by decide) mem
    simpa [isAsciiDigit, Char.isDigit, Char.le_def] using digit
  refine ⟨(Nat.toDigits 10 n).map asciiValue, if_pos ⟨Nat.toDigits_ne_nil, digits⟩, ?_⟩
  have same := toDigits_ofDigits Nat.toDigits_ne_nil digits (toDigits_plain n)
  have value := congrArg (fun digits => Nat.ofDigitChars 10 digits 0) same
  simpa using value

/-- **The number of a numeral is written with the same digits exactly when there is no zero in
front of others.** -/
theorem toDigits_ofDigits_iff {s : List Char} {digits : List Nat}
    (read : Numeral.asciiDigits? s = some digits) :
    Nat.toDigits 10 (ofDigits digits) = s ↔ (s.head? = some '0' → s = ['0']) := by
  rw [Numeral.asciiDigits?] at read
  split at read
  · rename_i numeral
    obtain rfl := Option.some.inj read
    constructor
    · intro same
      rw [← same]
      exact toDigits_plain _
    · exact toDigits_ofDigits numeral.1 numeral.2
  · cases read

end Outbound.Text
