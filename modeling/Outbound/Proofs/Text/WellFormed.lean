/-
# Outbound.Proofs.Text.WellFormed — which octets are a text

The decoder refuses octets as soon as it can, and takes no others for a text than
those that some text is encoded to (`decode_eq_ok_iff`): whatever it lets pass
after a lead octet completes the octets of a character (`completes_of_lead`).

A lead octet is no octet inside a character.  So where the octets of a text have
those of a character in them, the character is in the text there, and the octets
on both sides are texts as well (`encode_eq_append_iff`): a text can be decoded in
parts, cut before and behind any character.
-/
import Outbound.Proofs.Fallible
import Outbound.Proofs.Text.Utf8

namespace Outbound.Text.Utf8

set_option autoImplicit false

/-! ## Octets that make a character -/

theorem ofNat_eq {b : UInt8} {n : Nat} (value : n = b.toNat) : UInt8.ofNat n = b := by
  rw [value, UInt8.ofNat_toNat]

theorem toNat_val_ofNat {n : Nat} (scalar : n.isValidChar) : (Char.ofNat n).val.toNat = n := by
  rw [Char.ofNat, dif_pos scalar]
  rfl

theorem encodeChar_two {b c : UInt8} {q : Nat} (lead : b.toNat = 0xC0 + q) (range : 2 ≤ q ∧ q < 32)
    (next : 0x80 ≤ c.toNat ∧ c.toNat ≤ 0xBF) :
    String.utf8EncodeChar (Char.ofNat (64 * q + (c.toNat - 0x80))) = [b, c] := by
  have scalar : (64 * q + (c.toNat - 0x80)).isValidChar := .inl (by omega)
  simp only [String.utf8EncodeChar, toNat_val_ofNat scalar]
  rw [if_neg (by omega), if_pos (by omega), ofNat_eq (b := b) (by omega),
    ofNat_eq (b := c) (by omega)]

/-- The first octet after `0xE0` must not make the form overlong, and after `0xED` not a
surrogate. -/
theorem encodeChar_three {b c d : UInt8} {q : Nat} (lead : b.toNat = 0xE0 + q) (range : q < 16)
    (next : 0x80 ≤ c.toNat ∧ c.toNat ≤ 0xBF) (last : 0x80 ≤ d.toNat ∧ d.toNat ≤ 0xBF)
    (notOverlong : q = 0 → 0xA0 ≤ c.toNat) (noSurrogate : q = 13 → c.toNat ≤ 0x9F) :
    String.utf8EncodeChar
      (Char.ofNat (64 * (64 * q + (c.toNat - 0x80)) + (d.toNat - 0x80))) = [b, c, d] := by
  have scalar : (64 * (64 * q + (c.toNat - 0x80)) + (d.toNat - 0x80)).isValidChar := by
    unfold Nat.isValidChar
    omega
  simp only [String.utf8EncodeChar, toNat_val_ofNat scalar]
  rw [if_neg (by omega), if_neg (by omega), if_pos (by omega), ofNat_eq (b := b) (by omega),
    ofNat_eq (b := c) (by omega), ofNat_eq (b := d) (by omega)]

/-- The first octet after `0xF0` must not make the form overlong, and after `0xF4` not a number
beyond U+10FFFF. -/
theorem encodeChar_four {b c d e : UInt8} {q : Nat} (lead : b.toNat = 0xF0 + q) (range : q < 5)
    (next : 0x80 ≤ c.toNat ∧ c.toNat ≤ 0xBF) (third : 0x80 ≤ d.toNat ∧ d.toNat ≤ 0xBF)
    (last : 0x80 ≤ e.toNat ∧ e.toNat ≤ 0xBF) (notOverlong : q = 0 → 0x90 ≤ c.toNat)
    (notBeyond : q = 4 → c.toNat ≤ 0x8F) :
    String.utf8EncodeChar (Char.ofNat (64 * (64 * (64 * q + (c.toNat - 0x80)) +
      (d.toNat - 0x80)) + (e.toNat - 0x80))) = [b, c, d, e] := by
  have scalar : (64 * (64 * (64 * q + (c.toNat - 0x80)) + (d.toNat - 0x80)) +
      (e.toNat - 0x80)).isValidChar := by
    unfold Nat.isValidChar
    omega
  simp only [String.utf8EncodeChar, toNat_val_ofNat scalar]
  rw [if_neg (by omega), if_neg (by omega), if_neg (by omega), ofNat_eq (b := b) (by omega),
    ofNat_eq (b := c) (by omega), ofNat_eq (b := d) (by omega), ofNat_eq (b := e) (by omega)]

/-! ## What the decoder lets pass -/

/-- An octet in the given interval, and continuation octets behind it up to the number that is owed,
complete those that were taken to the octets of a character. -/
def Completes (taken : Octets) (payload : Nat) (low high : UInt8) : Nat → Prop
  | 0 => String.utf8EncodeChar (Char.ofNat payload) = taken
  | owed + 1 => ∀ b : UInt8, low.toNat ≤ b.toNat ∧ b.toNat ≤ high.toNat →
      Completes (taken ++ [b]) (64 * payload + (b.toNat - 0x80)) 0x80 0xBF owed

section

variable {b low high : UInt8} {q : Nat}

theorem completes_three (lead : b.toNat = 0xE0 + q) (range : q < 16)
    (within : 0x80 ≤ low.toNat ∧ high.toNat ≤ 0xBF) (notOverlong : q = 0 → 0xA0 ≤ low.toNat)
    (noSurrogate : q = 13 → high.toNat ≤ 0x9F) : Completes [b] q low high 2 := by
  intro c next d last
  exact encodeChar_three lead range ⟨by omega, by omega⟩ last (by omega) (by omega)

theorem completes_four (lead : b.toNat = 0xF0 + q) (range : q < 5)
    (within : 0x80 ≤ low.toNat ∧ high.toNat ≤ 0xBF) (notOverlong : q = 0 → 0x90 ≤ low.toNat)
    (notBeyond : q = 4 → high.toNat ≤ 0x8F) : Completes [b] q low high 3 := by
  intro c next d third e last
  exact encodeChar_four lead range ⟨by omega, by omega⟩ third last (by omega) (by omega)

end

/-- Whatever passes after a lead octet makes a character with it. -/
theorem completes_of_lead {b : UInt8} {p : Pending} (lead : Pending.ofLead? b = some p) :
    0 < p.owed ∧ Completes [b] p.payload p.low p.high p.owed := by
  rw [Pending.ofLead?] at lead
  simp only [UInt8.le_iff_toNat_le, ← UInt8.toNat_inj, UInt8.reduceToNat] at lead
  -- One case for two octets, and for three and four the leads that confine the next octet apart.
  split_ifs at lead <;> cases lead <;> refine ⟨Nat.succ_pos _, ?_⟩ <;> dsimp only
  · exact fun c next => encodeChar_two (by omega) (by omega) next
  · exact completes_three (by omega) (by omega) (by decide) (by decide) (by decide)
  · exact completes_three (by omega) (by omega) (by decide) (by decide) (by decide)
  · exact completes_three (by omega) (by omega) (by decide) (by omega) (by omega)
  · exact completes_four (by omega) (by omega) (by decide) (by decide) (by decide)
  · exact completes_four (by omega) (by omega) (by decide) (by omega) (by omega)
  · exact completes_four (by omega) (by omega) (by decide) (by decide) (by decide)

@[simp] theorem encode_cons (c : Char) (s : List Char) :
    encode (c :: s) = String.utf8EncodeChar c ++ encode s :=
  List.flatMap_cons

/-- Octets that are read are those of the characters that are read, with those that were taken of
the character begun. -/
theorem encode_of_decodeFrom (bytes : Octets) :
    (∀ {start : Nat} {t : List Char}, decodeFrom start none bytes = .ok t → encode t = bytes) ∧
      ∀ {start : Nat} {p : Pending} {taken : Octets} {t : List Char},
        0 < p.owed ∧ Completes taken p.payload p.low p.high p.owed →
        decodeFrom start (some p) bytes = .ok t → encode t = taken ++ bytes := by
  -- An octet may begin a character or complete one, so both states go through one induction.
  induction bytes with
  | nil =>
      constructor
      · intro start t read
        cases read
        rfl
      · intro start p taken t _ read
        cases read
  | cons b bytes ih =>
      constructor
      · intro start t read
        rw [decodeFrom] at read
        split at read
        · rename_i ascii
          obtain ⟨rest, isRest, rfl⟩ := map_eq_ok_iff.1 read
          have small : b.toNat < 0x80 := UInt8.lt_iff_toNat_lt.1 ascii
          have value : (Char.ofNat b.toNat).toNat = b.toNat := toNat_val_ofNat (.inl (by omega))
          rw [encode_cons, utf8EncodeChar_ascii (by rw [value]; exact small), value,
            UInt8.ofNat_toNat, ih.1 isRest]
          rfl
        split at read
        · rename_i p lead
          exact ih.2 (completes_of_lead lead) read
        · cases read
      · rintro start p taken t ⟨owes, completes⟩ read
        obtain ⟨owed, isOwed⟩ := Nat.exists_eq_succ_of_ne_zero (Nat.ne_of_gt owes)
        rw [isOwed] at completes
        rw [decodeFrom] at read
        split at read
        · rename_i within
          have next := completes b
            ⟨UInt8.le_iff_toNat_le.1 within.1, UInt8.le_iff_toNat_le.1 within.2⟩
          rw [List.append_cons]
          simp only at read
          split at read
          · rename_i last
            obtain ⟨rest, isRest, rfl⟩ := map_eq_ok_iff.1 read
            obtain rfl : owed = 0 := by omega
            rw [encode_cons, ih.1 isRest, next]
          · refine ih.2 ⟨?_, ?_⟩ read
            · show 0 < p.owed - 1
              omega
            · show Completes _ _ 0x80 0xBF (p.owed - 1)
              rw [isOwed]
              exact next
        · cases read

/-- **Octets are a text exactly when it is encoded to them.** -/
theorem decode_eq_ok_iff {bytes : Octets} {t : List Char} :
    decode bytes = .ok t ↔ encode t = bytes := by
  constructor
  · exact (encode_of_decodeFrom bytes).1
  · rintro rfl
    exact decode_encode t

/-! ## Cuts beside a character -/

/-- The octets of a text that starts with a character are those of the character, and of a text. -/
theorem encode_eq_encodeChar_append {c : Char} {t : List Char} {bytes : Octets}
    (same : encode t = String.utf8EncodeChar c ++ bytes) :
    ∃ rest, t = c :: rest ∧ encode rest = bytes := by
  have read := decodeFrom_encode 0 t
  rw [same, decodeFrom_encodeChar] at read
  obtain ⟨rest, isRest, rfl⟩ := map_eq_ok_iff.1 read
  exact ⟨rest, rfl, (encode_of_decodeFrom bytes).1 isRest⟩

theorem isUTF8FirstByte_of_append {c : Char} {b : UInt8} {back rest : Octets}
    (split : String.utf8EncodeChar c ++ back = b :: rest) : b.IsUTF8FirstByte := by
  have first := UInt8.isUTF8FirstByte_getElem_zero_utf8EncodeChar (c := c)
  cases octets : String.utf8EncodeChar c with
  | nil => exact absurd octets String.utf8EncodeChar_ne_nil
  | cons d more =>
      simp only [octets, List.getElem_cons_zero] at first
      rw [octets] at split
      rw [← (List.cons.inj split).1]
      exact first

/-- No octet inside a character starts another. -/
theorem not_isUTF8FirstByte_of_append {c : Char} {b : UInt8} {front back : Octets}
    (split : String.utf8EncodeChar c = front ++ b :: back) (inside : front ≠ []) :
    ¬ b.IsUTF8FirstByte := by
  have place : front.length < (String.utf8EncodeChar c).length := by
    rw [split]
    simp
  have isOctet : (String.utf8EncodeChar c)[front.length] = b := by
    simp [split]
  intro first
  rw [← isOctet, UInt8.isUTF8FirstByte_getElem_utf8EncodeChar, List.length_eq_zero_iff] at first
  exact inside first

/-- **The octets of a text are those of a character with others on both sides exactly when the
character is in the text, and the others are those of what precedes and follows it.** -/
theorem encode_eq_append_iff {c : Char} {t : List Char} {front back : Octets} :
    encode t = front ++ (String.utf8EncodeChar c ++ back) ↔
      ∃ before after, t = before ++ c :: after ∧ encode before = front ∧ encode after = back := by
  constructor
  · intro same
    induction t generalizing front with
    | nil =>
        have none := (List.append_eq_nil_iff.1 (List.append_eq_nil_iff.1 same.symm).2).1
        exact absurd none String.utf8EncodeChar_ne_nil
    | cons d t ih =>
        by_cases atStart : front = []
        · rw [atStart, List.nil_append] at same
          obtain ⟨after, isText, isBack⟩ := encode_eq_encodeChar_append same
          exact ⟨[], after, isText, atStart.symm, isBack⟩
        rw [encode_cons, List.append_eq_append_iff] at same
        rcases same with ⟨more, rfl, same⟩ | ⟨inside, isChar, same⟩
        · obtain ⟨before, after, rfl, isBefore, isBack⟩ := ih same
          exact ⟨d :: before, after, rfl, by simp [isBefore], isBack⟩
        · cases inside with
          | nil =>
              obtain ⟨after, rfl, isBack⟩ := encode_eq_encodeChar_append same.symm
              rw [List.append_nil] at isChar
              exact ⟨[d], after, rfl, by rw [encode_cons, isChar]; exact List.append_nil _, isBack⟩
          | cons b more =>
              -- The first octet of `c` would be inside `d`.
              exact absurd (isUTF8FirstByte_of_append same)
                (not_isUTF8FirstByte_of_append isChar atStart)
  · rintro ⟨before, after, rfl, rfl, rfl⟩
    rw [encode, List.flatMap_append, List.flatMap_cons]
    rfl

end Outbound.Text.Utf8
