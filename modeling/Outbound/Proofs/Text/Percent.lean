/-
# Outbound.Proofs.Text.Percent — a text is read back from its percent-encoded form

An encoded text is a run of literal characters and escapes (`coded_encodeChars`), so
no delimiter of a query or a URI occurs in it, whatever was encoded.  Every octet
is one unit of what is decoded (`units_encodeOctet`), all of them ASCII, hence one
run, whose UTF-8 form is that of the text (`decodeChars_encodeChars`).

A text of literal characters is left as it is (`encodeChars_of_literal`).
-/
import Outbound.Proofs.Fallible
import Outbound.Proofs.Text.Utf8
import Outbound.Text.Percent

namespace Outbound.Text.Percent

set_option autoImplicit false

/-- A character that is written as it is: a letter, a digit, or one of `-._~`. -/
def isLiteral (c : Char) : Bool := c.isAlphanum || c = '-' || c = '.' || c = '_' || c = '~'

/-! ## One octet -/

theorem literal_of_unreserved {b : UInt8} (unreserved : isUnreserved b = true) :
    isLiteral (Char.ofNat b.toNat) = true ∧ (Char.ofNat b.toNat).toNat = b.toNat := by
  have all : ∀ n < 256, isUnreserved (UInt8.ofNat n) = true →
      isLiteral (Char.ofNat n) = true ∧ (Char.ofNat n).toNat = n := by
    decide +kernel
  exact all b.toNat b.toNat_lt (by simpa using unreserved)

theorem lt_of_isAlphanum {c : Char} (alphanumeric : c.isAlphanum = true) : c.toNat < 0x80 := by
  have upTo : ∀ last : Char, last.toNat < 0x80 → c.val ≤ last.val → c.toNat < 0x80 := by
    intro last ascii range
    exact Nat.lt_of_le_of_lt (UInt32.le_iff_toNat_le.1 range) ascii
  rcases Bool.or_eq_true_iff.1 alphanumeric with letter | digit
  · rcases Bool.or_eq_true_iff.1 letter with upper | lower
    · exact upTo 'Z' (by decide) (of_decide_eq_true upper).2
    · exact upTo 'z' (by decide) (of_decide_eq_true (Bool.and_eq_true_iff.1 lower).2)
  · exact upTo '9' (by decide) (of_decide_eq_true (Bool.and_eq_true_iff.1 digit).2)

theorem unreserved_of_literal {c : Char} (literal : isLiteral c = true) :
    c.toNat < 0x80 ∧ isUnreserved (UInt8.ofNat c.toNat) = true := by
  have ascii : c.toNat < 0x80 := by
    simp only [isLiteral, Bool.or_eq_true, decide_eq_true_eq] at literal
    rcases literal with (((alphanumeric | rfl) | rfl) | rfl) | rfl
    · exact lt_of_isAlphanum alphanumeric
    all_goals decide
  have all : ∀ n < 0x80, isLiteral (Char.ofNat n) = true → isUnreserved (UInt8.ofNat n) = true := by
    decide +kernel
  exact ⟨ascii, all c.toNat ascii (by simpa using literal)⟩

theorem isLiteral_hexDigit {n : Nat} (digit : n < 16) : isLiteral (Octets.hexDigit n) = true := by
  have all : ∀ m : Fin 16, isLiteral (Octets.hexDigit m.val) = true := by decide
  exact all ⟨n, digit⟩

@[simp] theorem escaped?_hexDigit (b : UInt8) :
    escaped? (Octets.hexDigit (b.toNat / 16)) (Octets.hexDigit (b.toNat % 16)) = some b := by
  have octet := b.toNat_lt
  simp (disch := omega) only [escaped?, Octets.hexValue?_hexDigit]
  show some (UInt8.ofNat (16 * (b.toNat / 16) + b.toNat % 16)) = some b
  rw [Nat.div_add_mod, UInt8.ofNat_toNat]

theorem mem_encodeOctet {b : UInt8} {c : Char} (h : c ∈ encodeOctet b) :
    isLiteral c = true ∨ c = '%' := by
  have octet := b.toNat_lt
  unfold encodeOctet at h
  split at h
  · rename_i unreserved
    obtain rfl := List.mem_singleton.1 h
    exact .inl (literal_of_unreserved unreserved).1
  · simp only [List.mem_cons, List.not_mem_nil, or_false] at h
    rcases h with rfl | rfl | rfl
    · exact .inr rfl
    · exact .inl (isLiteral_hexDigit (by omega))
    · exact .inl (isLiteral_hexDigit (by omega))

/-! ## The alphabet of encoded texts -/

/-- An encoded text consists of literal characters and percent signs. -/
theorem mem_encodeChars {s : List Char} {c : Char} (h : c ∈ encodeChars s) :
    isLiteral c = true ∨ c = '%' := by
  obtain ⟨b, -, mem⟩ := List.mem_flatMap.1 h
  exact mem_encodeOctet mem

/-- A character that is neither literal nor a percent sign is in no encoded text. -/
theorem not_mem_encodeChars {c : Char} (notLiteral : isLiteral c = false) (notPercent : c ≠ '%')
    (s : List Char) : c ∉ encodeChars s := by
  intro mem
  rcases mem_encodeChars mem with literal | percent
  · rw [notLiteral] at literal
    cases literal
  · exact notPercent percent

/-! ## Decoding what was encoded -/

theorem units_cons {c : Char} (notPercent : c ≠ '%') (rest : List Char) :
    units (c :: rest) =
      (if c = '+' then .octet 0x20
        else if c.toNat < 0x80 then .octet (UInt8.ofNat c.toNat)
        else .char c) :: units rest := by
  rw [units]
  rintro high low tail rfl
  exact absurd rfl notPercent

theorem units_literal {c : Char} (literal : isLiteral c = true) (rest : List Char) :
    units (c :: rest) = .octet (UInt8.ofNat c.toNat) :: units rest := by
  have notPercent : c ≠ '%' := by rintro rfl; exact absurd literal (by decide)
  have notPlus : c ≠ '+' := by rintro rfl; exact absurd literal (by decide)
  rw [units_cons notPercent, if_neg notPlus, if_pos (unreserved_of_literal literal).1]

@[simp] theorem units_encodeOctet (b : UInt8) (rest : List Char) :
    units (encodeOctet b ++ rest) = .octet b :: units rest := by
  unfold encodeOctet
  split
  · rename_i unreserved
    obtain ⟨literal, value⟩ := literal_of_unreserved unreserved
    rw [List.singleton_append, units_literal literal, value, UInt8.ofNat_toNat]
  · simp [units]

@[simp] theorem wellEscaped_cons {c : Char} (notPercent : c ≠ '%') (rest : List Char) :
    wellEscaped (c :: rest) = wellEscaped rest := by
  simp [wellEscaped, notPercent]

@[simp] theorem wellEscaped_encodeOctet (b : UInt8) (rest : List Char) :
    wellEscaped (encodeOctet b ++ rest) = wellEscaped rest := by
  have literal_ne : ∀ {c}, isLiteral c = true → c ≠ '%' := by
    rintro _ literal rfl
    exact absurd literal (by decide)
  have octet := b.toNat_lt
  unfold encodeOctet
  split
  · rename_i unreserved
    simp [literal_ne (literal_of_unreserved unreserved).1]
  · have high := literal_ne (isLiteral_hexDigit (n := b.toNat / 16) (by omega))
    have low := literal_ne (isLiteral_hexDigit (n := b.toNat % 16) (by omega))
    simp only [List.cons_append, List.nil_append]
    rw [wellEscaped]
    simp [high, low]

@[simp] theorem units_flatMap_encodeOctet (bytes : Octets) :
    units (bytes.flatMap encodeOctet) = bytes.map .octet := by
  induction bytes with
  | nil => rfl
  | cons b bytes ih => simp [ih]

@[simp] theorem wellEscaped_flatMap_encodeOctet (bytes : Octets) :
    wellEscaped (bytes.flatMap encodeOctet) = true := by
  induction bytes with
  | nil => rfl
  | cons b bytes ih => simp [ih]

@[simp] theorem runs_map_octet (bytes : Octets) : runs (bytes.map .octet) = (bytes, []) := by
  induction bytes with
  | nil => rfl
  | cons b bytes ih => simp [runs, ih]

/-- **A text is read back from its encoded form.** -/
@[simp] theorem decodeChars_encodeChars (s : List Char) : decodeChars (encodeChars s) = .ok s := by
  simp [decodeChars, encodeChars, decodeRuns, bind, Except.bind, pure, Except.pure]

theorem encodeChars_injective : Function.Injective encodeChars := by
  intro s t same
  have := decodeChars_encodeChars s
  rw [same, decodeChars_encodeChars t] at this
  exact (Except.ok.inj this).symm

/-! ## Literal texts -/

theorem encodeChars_cons (c : Char) (s : List Char) :
    encodeChars (c :: s) = encodeChars [c] ++ encodeChars s := by
  simp only [encodeChars, Utf8.encode, List.flatMap_cons, List.flatMap_nil, List.append_nil,
    List.flatMap_append]

theorem encodeChars_singleton {c : Char} (literal : isLiteral c = true) :
    encodeChars [c] = [c] := by
  obtain ⟨ascii, unreserved⟩ := unreserved_of_literal literal
  have value : (UInt8.ofNat c.toNat).toNat = c.toNat := Utf8.toNat_ofNat (by omega)
  simp only [encodeChars, Utf8.encode, List.flatMap_cons, List.flatMap_nil, List.append_nil,
    Utf8.utf8EncodeChar_ascii ascii, encodeOctet, unreserved, if_true, value, Char.ofNat_toNat]

theorem encodeChars_of_literal {s : List Char} (literal : ∀ c ∈ s, isLiteral c = true) :
    encodeChars s = s := by
  induction s with
  | nil => rfl
  | cons c s ih =>
      rw [List.forall_mem_cons] at literal
      rw [encodeChars_cons, encodeChars_singleton literal.1, ih literal.2, List.singleton_append]

/-! ## Literal characters and escapes -/

def escapeDigits : List Char := "0123456789ABCDEF".toList

/-- Literal characters and escapes, one after the other. -/
inductive Coded : List Char → Prop where
  | nil : Coded []
  | literal {c : Char} {rest : List Char} (isPlain : isLiteral c = true) (coded : Coded rest) :
      Coded (c :: rest)
  | escape {high low : Char} {rest : List Char} (isHigh : high ∈ escapeDigits)
      (isLow : low ∈ escapeDigits) (coded : Coded rest) : Coded ('%' :: high :: low :: rest)

theorem hexDigit_mem_escapeDigits {n : Nat} (digit : n < 16) :
    Octets.hexDigit n ∈ escapeDigits := by
  have all : ∀ m : Fin 16, Octets.hexDigit m.val ∈ escapeDigits := by decide
  exact all ⟨n, digit⟩

/-- An octet is written as a literal character or as one escape. -/
theorem Coded.encodeOctet (b : UInt8) {rest : List Char} (coded : Coded rest) :
    Coded (encodeOctet b ++ rest) := by
  have octet := b.toNat_lt
  unfold Percent.encodeOctet
  split
  · rename_i unreserved
    exact .literal (literal_of_unreserved unreserved).1 coded
  · exact .escape (hexDigit_mem_escapeDigits (by omega)) (hexDigit_mem_escapeDigits (by omega)) coded

theorem coded_encodeChars (s : List Char) : Coded (encodeChars s) := by
  rw [encodeChars]
  induction Utf8.encode s with
  | nil => exact .nil
  | cons b bytes ih => exact ih.encodeOctet b

/-- What separates the parts of a query and of a URI, or stands for a space. -/
def delimiters : List Char := ['&', '=', '+', '#', '?', '/']

/-- An encoded text is ASCII, and none of its characters is a delimiter. -/
theorem ascii_of_mem_encodeChars {s : List Char} {c : Char} (mem : c ∈ encodeChars s) :
    c.toNat < 0x80 ∧ c ∉ delimiters := by
  rcases mem_encodeChars mem with literal | rfl
  · refine ⟨(unreserved_of_literal literal).1, fun isDelimiter => ?_⟩
    have none : delimiters.all (!isLiteral ·) = true := by decide
    have other := List.all_eq_true.1 none c isDelimiter
    rw [literal] at other
    cases other
  · decide

/-- **Encoding can be undone and is safe**: the text is read back, so no two texts are encoded
alike; the encoded text consists of literal characters and escapes with upper-case digits, which are
all ASCII and no delimiters. -/
theorem encode_reversible_and_safe :
    (∀ s, decode (encode s) = .ok s ∧ Coded (encode s).toList ∧
      ∀ c ∈ (encode s).toList, c.toNat < 0x80 ∧ c ∉ delimiters) ∧
    Function.Injective encode := by
  have readBack (s : String) : decode (encode s) = .ok s := by
    simp [decode, encode, Except.map]
  refine ⟨fun s => ⟨readBack s, ?_, ?_⟩, ?_⟩
  · rw [encode, String.toList_ofList]
    exact coded_encodeChars s.toList
  · rw [encode, String.toList_ofList]
    exact fun c mem => ascii_of_mem_encodeChars mem
  · intro s t same
    have chars : encodeChars s.toList = encodeChars t.toList := String.ofList_injective same
    exact String.toList_inj.1 (encodeChars_injective chars)

/-- A text of delimiters and an escape, with a character of each length in UTF-8. -/
theorem encode_reversible_and_safe_delimiters :
    encode "%2B&é日😀" = "%252B%26%C3%A9%E6%97%A5%F0%9F%98%80" ∧
      decode "%252B%26%C3%A9%E6%97%A5%F0%9F%98%80" = .ok "%2B&é日😀" ∧
      'C' ∈ (encode "%2B&é日😀").toList ∧ 'C' ∉ delimiters := by
  have encoded : encode "%2B&é日😀" = "%252B%26%C3%A9%E6%97%A5%F0%9F%98%80" := by decide +kernel
  obtain ⟨readBack, -, safe⟩ := encode_reversible_and_safe.1 "%2B&é日😀"
  have mem : 'C' ∈ (encode "%2B&é日😀").toList := by
    rw [encoded]
    decide
  exact ⟨encoded, encoded ▸ readBack, mem, (safe 'C' mem).2⟩

end Outbound.Text.Percent
