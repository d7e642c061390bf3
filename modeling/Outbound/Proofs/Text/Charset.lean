/-
# Outbound.Proofs.Text.Charset — encoded texts as a reader has them

What the octets of a text are in a charset is said here from the side of a reader, who
has no encoder (`Charset.Spells`).  UTF-8 is that of the standard library.  An octet of
a page is looked up in the page.  The octets of the wider forms are words of one width
(`Words`), whose numbers are those of the characters, or of two surrogates for a
character that one word has no room for (`Units`).

Whatever the encoder makes of a text spells it so (`spells_of_encode`).
-/
import Mathlib.Data.List.TakeWhile
import Outbound.Text.Charset

namespace Outbound.Text

set_option autoImplicit false

/-- The octets of UTF-8 are those of the standard library. -/
theorem Utf8.encode_toList (s : String) : Utf8.encode s.toList = s.toByteArray.data.toList := by
  have same := congrArg ByteArray.data (String.toByteArray_ofList (l := s.toList))
  rw [String.ofList_toList] at same
  rw [same]
  exact List.toList_data_toByteArray.symm

/-! ## Pages -/

namespace Page

variable {page : Page}

/-- The octet of a character stands for it. -/
theorem char?_of_octet? {c : Char} {b : UInt8} (isOctet : page.octet? c = some b) :
    page.char? b = some c := by
  have octets : page.same.val ≤ 256 := Fin.is_le page.same
  rw [octet?] at isOctet
  split at isOctet
  · rename_i below
    obtain rfl := Option.some.inj isOctet
    have value : (UInt8.ofNat c.toNat).toNat = c.toNat := by simp; omega
    rw [char?, value, if_pos below, Char.ofNat_toNat]
  · split at isOctet
    · cases isOctet
    · rename_i mapped
      obtain ⟨i, isIndex, rfl⟩ := Option.map_eq_some_iff.1 isOctet
      obtain ⟨inside, isChar, -⟩ := List.idxOf?_eq_some_iff.1 isIndex
      have room : i < 256 - page.same :=
        inside.trans_le (List.length_take_le _ _)
      have value : (UInt8.ofNat (page.same + i)).toNat = page.same + i := by simp; omega
      rw [char?, value, if_neg (by omega), Nat.add_sub_cancel_left,
        List.getElem?_eq_getElem inside, isChar]
      simp [mapped]

/-- Characters that have octets are read back from them. -/
theorem map_char?_filterMap {s : List Char} (fits : ∀ c ∈ s, (page.octet? c).isSome) :
    (s.filterMap page.octet?).map page.char? = s.map some := by
  induction s with
  | nil => rfl
  | cons c s ih =>
      rw [List.forall_mem_cons] at fits
      obtain ⟨b, isOctet⟩ := Option.isSome_iff_exists.1 fits.1
      rw [List.filterMap_cons_some isOctet, List.map_cons, List.map_cons,
        char?_of_octet? isOctet, ih fits.2]

end Page

/-! ## Words -/

def Endian.number (order : Endian) (word : Octets) : Nat :=
  match order with
  | .little => Octets.ofBigEndian word.reverse
  | .big => Octets.ofBigEndian word

/-- The octets are words of a width, with these numbers. -/
def Words (order : Endian) (width : Nat) (bytes : Octets) (numbers : List Nat) : Prop :=
  ∃ words : List Octets, bytes = words.flatten ∧ (∀ w ∈ words, w.length = width) ∧
    words.map order.number = numbers

/-- The numbers of words of two octets for a text: those of its characters, or of two surrogates for
a character that one word has no room for. -/
inductive Units : List Char → List Nat → Prop where
  | nil : Units [] []
  | one {c : Char} {s : List Char} {units : List Nat} (small : c.toNat < 0x10000)
      (rest : Units s units) : Units (c :: s) (c.toNat :: units)
  | two {c : Char} {s : List Char} {units : List Nat} {high low : Nat} (ten : high < 0x400)
      (ten' : low < 0x400) (value : c.toNat = 0x10000 + 0x400 * high + low) (rest : Units s units) :
      Units (c :: s) ((0xD800 + high) :: (0xDC00 + low) :: units)

namespace Charset

variable {order : Endian} {width : Nat}

theorem toNat_lt (c : Char) : c.toNat < 0x110000 := by
  have scalar : c.val.toNat < 0xD800 ∨ 0xDFFF < c.val.toNat ∧ c.val.toNat < 0x110000 := c.valid
  show c.val.toNat < 0x110000
  omega

theorem number_word {n : Nat} (room : n < Nat.pow 256 width) :
    order.number (word order width n) = n := by
  cases order with
  | little =>
      show Octets.ofBigEndian (Octets.bigEndian width n) = n
      exact Octets.ofBigEndian_bigEndian room
  | big => exact Octets.ofBigEndian_bigEndian room

@[simp] theorem length_word (order : Endian) (width n : Nat) :
    (word order width n).length = width := by
  cases order <;> simp [word]

theorem words_flatMap {numbers : List Nat} (room : ∀ n ∈ numbers, n < Nat.pow 256 width) :
    Words order width (numbers.flatMap (word order width)) numbers := by
  refine ⟨numbers.map (word order width), List.flatMap_def, by simp, ?_⟩
  rw [List.map_map]
  exact List.map_congr_left (fun n mem => number_word (room n mem)) |>.trans (List.map_id _)

/-- The words of a text of two octets each. -/
theorem exists_units (order : Endian) (s : List Char) :
    ∃ units, Units s units ∧ (∀ u ∈ units, u < 0x10000) ∧
      s.flatMap (utf16Char order) = units.flatMap (word order 2) := by
  induction s with
  | nil => exact ⟨[], .nil, nofun, rfl⟩
  | cons c s ih =>
      obtain ⟨units, isUnits, room, same⟩ := ih
      have scalar := toNat_lt c
      rw [List.flatMap_cons, same, utf16Char]
      split
      · rename_i small
        exact ⟨_, .one small isUnits, List.forall_mem_cons.2 ⟨small, room⟩, rfl⟩
      · have ten : (c.toNat - 0x10000) / 0x400 < 0x400 := by omega
        have ten' : (c.toNat - 0x10000) % 0x400 < 0x400 := by omega
        refine ⟨_, .two ten ten' (by omega) isUnits, ?_, ?_⟩
        · simp only [List.forall_mem_cons]
          exact ⟨by omega, by omega, room⟩
        · simp only [List.flatMap_cons, List.append_assoc]

/-! ## Charsets -/

/-- A reader of the charset has the text from the octets. -/
inductive Spells (s : String) : Charset → Octets → Prop where
  | utf8 : Spells s (.utf8 false) s.toByteArray.data.toList
  | utf8Marked : Spells s (.utf8 true) (0xEF :: 0xBB :: 0xBF :: s.toByteArray.data.toList)
  | narrow {page : Page} {bytes : Octets} (read : bytes.map page.char? = s.toList.map some) :
      Spells s (.narrow page) bytes
  | utf16 {order : Endian} {units : List Nat} {bytes : Octets} (isUnits : Units s.toList units)
      (words : Words order 2 bytes units) : Spells s (.utf16 (some order)) bytes
  | utf16Marked {units : List Nat} {bytes : Octets} (isUnits : Units s.toList units)
      (words : Words .little 2 bytes (0xFEFF :: units)) : Spells s (.utf16 none) bytes
  | utf32 {order : Endian} {bytes : Octets}
      (words : Words order 4 bytes (s.toList.map Char.toNat)) : Spells s (.utf32 (some order)) bytes
  | utf32Marked {bytes : Octets}
      (words : Words .little 4 bytes (0xFEFF :: s.toList.map Char.toNat)) :
      Spells s (.utf32 none) bytes

/-- **What the encoder makes of a text, a reader of the charset reads as the text.** -/
theorem spells_of_encode {charset : Charset} {s : String} {bytes : Octets}
    (encoded : charset.encode s.toList = .ok bytes) : Spells s charset bytes := by
  cases charset with
  | utf8 isMarked =>
      obtain rfl := Except.ok.inj encoded
      rw [Utf8.encode_toList]
      cases isMarked with
      | false => exact .utf8
      | true => exact .utf8Marked
  | narrow page =>
      rw [encode, encodeNarrow] at encoded
      split at encoded
      · rename_i fits
        obtain rfl := Except.ok.inj encoded
        exact .narrow (Page.map_char?_filterMap (List.dropWhile_eq_nil_iff.1 fits))
      · cases encoded
  | utf16 order =>
      obtain rfl := Except.ok.inj encoded
      cases order with
      | none =>
          obtain ⟨units, isUnits, room, same⟩ := exists_units .little s.toList
          refine .utf16Marked isUnits ?_
          rw [marked, same]
          exact words_flatMap (List.forall_mem_cons.2 ⟨by decide, room⟩)
      | some order =>
          obtain ⟨units, isUnits, room, same⟩ := exists_units order s.toList
          refine .utf16 isUnits ?_
          rw [marked, same]
          exact words_flatMap room
  | utf32 order =>
      obtain rfl := Except.ok.inj encoded
      have room : ∀ n ∈ s.toList.map Char.toNat, n < Nat.pow 256 4 := by
        intro n mem
        obtain ⟨c, -, rfl⟩ := List.mem_map.1 mem
        exact (toNat_lt c).trans (by decide)
      cases order with
      | none =>
          refine .utf32Marked ?_
          rw [marked, ← List.flatMap_map]
          exact words_flatMap (List.forall_mem_cons.2 ⟨by decide, room⟩)
      | some order =>
          refine .utf32 ?_
          rw [marked, ← List.flatMap_map]
          exact words_flatMap room

end Charset

end Outbound.Text
