/-
# Outbound.Proofs.Text.Decoding — escapes are decoded as octets

A text is decoded run by run, where a run is as many ASCII characters as stand
together.  The runs are of no consequence: the text is decoded as if all of it were
first turned into octets, then every escape among these into the octet that it
stands for and every plus sign into a space (`unescape`), and what comes out read
as UTF-8 (`decode_by_octets`).

That an escaped character cannot be split by one that is not is due to the latter
being beyond ASCII, hence a character by itself in whatever octets
(`Utf8.encode_eq_append_iff`).
-/
import Outbound.Proofs.Text.Percent
import Outbound.Proofs.Text.WellFormed

namespace Outbound.Text.Percent

set_option autoImplicit false

/-! ## The text as octets -/

/-- Octets, with the octet that it stands for in place of each escape and a space in place of each
plus sign. -/
def unescape : Octets → Octets
  | [] => []
  | 0x25 :: high :: low :: rest =>
    match escaped? (Char.ofNat high.toNat) (Char.ofNat low.toNat) with
    | some b => b :: unescape rest
    | none => 0x25 :: unescape (high :: low :: rest)
  | b :: rest => (if b = 0x2B then 0x20 else b) :: unescape rest

theorem unescape_cons {b : UInt8} (notPercent : b ≠ 0x25) (rest : Octets) :
    unescape (b :: rest) = (if b = 0x2B then 0x20 else b) :: unescape rest := by
  rw [unescape]
  rintro high low tail rfl
  exact absurd rfl notPercent

/-- Octets beyond ASCII stand for themselves. -/
theorem unescape_append {front : Octets} (beyond : ∀ b ∈ front, 0x80 ≤ b.toNat) (back : Octets) :
    unescape (front ++ back) = front ++ unescape back := by
  induction front with
  | nil => rfl
  | cons b front ih =>
      rw [List.forall_mem_cons] at beyond
      have notPercent : b ≠ 0x25 := by
        rintro rfl
        exact absurd beyond.1 (by decide)
      have notPlus : b ≠ 0x2B := by
        rintro rfl
        exact absurd beyond.1 (by decide)
      rw [List.cons_append, unescape_cons notPercent, if_neg notPlus, ih beyond.2, List.cons_append]

example : unescape [0x61, 0x2B, 0x25, 0x33, 0x44] = [0x61, 0x20, 0x3D] := by decide

/-! ## Escapes -/

def hexDigits : List Char := "0123456789ABCDEFabcdef".toList

/-- Every percent sign is followed by two hexadecimal digits. -/
def Escaped (s : List Char) : Prop :=
  ∀ before after, s = before ++ '%' :: after →
    ∃ high low rest, after = high :: low :: rest ∧ high ∈ hexDigits ∧ low ∈ hexDigits

theorem lt_of_mem_hexDigits {c : Char} (mem : c ∈ hexDigits) : c.toNat < 0x80 := by
  have all : hexDigits.all (·.toNat < 0x80) = true := by decide
  exact of_decide_eq_true (List.all_eq_true.1 all c mem)

theorem hexValue?_isSome_iff {c : Char} : (Octets.hexValue? c).isSome ↔ c ∈ hexDigits := by
  have all : ∀ n < 0x80, (Octets.hexValue? (Char.ofNat n)).isSome ↔ Char.ofNat n ∈ hexDigits := by
    decide +kernel
  by_cases ascii : c.toNat < 0x80
  · simpa using all c.toNat ascii
  · have above : ∀ d : Char, d.toNat < 0x80 → ¬ c ≤ d := by
      intro d low below
      have order : c.toNat ≤ d.toNat := UInt32.le_iff_toNat_le.1 below
      omega
    rw [Octets.hexValue?, if_neg, if_neg, if_neg]
    · exact ⟨nofun, fun mem => absurd (lt_of_mem_hexDigits mem) ascii⟩
    · exact fun range => above 'f' (by decide) range.2
    · exact fun range => above 'F' (by decide) range.2
    · exact fun range => above '9' (by decide) range.2

@[simp] theorem escaped?_isSome_iff {high low : Char} :
    (escaped? high low).isSome ↔ high ∈ hexDigits ∧ low ∈ hexDigits := by
  rw [← hexValue?_isSome_iff, ← hexValue?_isSome_iff, escaped?]
  cases Octets.hexValue? high <;> cases Octets.hexValue? low <;> simp

theorem escaped_cons {c : Char} {s : List Char} : Escaped (c :: s) ↔
    (c = '%' → ∃ high low rest, s = high :: low :: rest ∧ high ∈ hexDigits ∧ low ∈ hexDigits) ∧
      Escaped s := by
  constructor
  · intro escaped
    refine ⟨?_, fun before after split => escaped (c :: before) after (by rw [split]; rfl)⟩
    rintro rfl
    exact escaped [] s rfl
  · rintro ⟨first, others⟩ before after split
    cases before with
    | nil =>
        obtain ⟨rfl, rfl⟩ := List.cons.inj split
        exact first rfl
    | cons d before => exact others before after (List.cons.inj split).2

theorem wellEscaped_iff {s : List Char} : wellEscaped s = true ↔ Escaped s := by
  induction s with
  | nil =>
      refine ⟨fun _ before after split => ?_, fun _ => rfl⟩
      cases before <;> cases split
  | cons c s ih =>
      rw [escaped_cons, ← ih]
      by_cases percent : c = '%'
      · subst percent
        rcases s with _ | ⟨high, _ | ⟨low, rest⟩⟩
        · simp [wellEscaped]
        · simp [wellEscaped]
        · rw [wellEscaped]
          simp
      · simp [percent]

/-! ## Elements and octets -/

def Unit.octets : Unit → Octets
  | .octet b => [b]
  | .char c => String.utf8EncodeChar c

theorem octet_ne_of_ne {c : Char} (ascii : c.toNat < 0x80) (d : Char) (ascii' : d.toNat < 0x80)
    (other : c ≠ d) : UInt8.ofNat c.toNat ≠ UInt8.ofNat d.toNat := by
  intro same
  have values := congrArg UInt8.toNat same
  rw [Utf8.toNat_ofNat (by omega), Utf8.toNat_ofNat (by omega)] at values
  exact other (Char.toNat_inj.1 values)

/-- A character beyond ASCII has only octets beyond ASCII. -/
theorem le_of_mem_encodeChar {c : Char} (beyond : 0x80 ≤ c.toNat) {b : UInt8}
    (mem : b ∈ String.utf8EncodeChar c) : 0x80 ≤ b.toNat := by
  have notAscii : ¬ c.val.toNat ≤ 127 := Nat.not_le_of_gt beyond
  simp only [String.utf8EncodeChar, if_neg notAscii] at mem
  have octet : ∀ n, 0x80 ≤ n → n < 0x100 → 0x80 ≤ (UInt8.ofNat n).toNat := by
    intro n high small
    rw [Utf8.toNat_ofNat small]
    exact high
  split_ifs at mem <;> simp only [List.mem_cons, List.not_mem_nil, or_false] at mem
  · rcases mem with rfl | rfl <;> exact octet _ (by omega) (by omega)
  · rcases mem with rfl | rfl | rfl <;> exact octet _ (by omega) (by omega)
  · rcases mem with rfl | rfl | rfl | rfl <;> exact octet _ (by omega) (by omega)

/-- The elements of a text are its octets after its escapes were replaced. -/
theorem unescape_encode {s : List Char} (escaped : Escaped s) :
    unescape (Utf8.encode s) = (units s).flatMap Unit.octets := by
  induction s using units.induct with
  | case1 => rfl
  | case2 high low rest b octet ih =>
      have digits : high ∈ hexDigits ∧ low ∈ hexDigits := by
        rw [← escaped?_isSome_iff, octet]
        rfl
      have rest := (escaped_cons.1 (escaped_cons.1 (escaped_cons.1 escaped).2).2).2
      have back : ∀ c ∈ hexDigits, Char.ofNat (UInt8.ofNat c.toNat).toNat = c := by
        intro c mem
        have ascii := lt_of_mem_hexDigits mem
        rw [Utf8.toNat_ofNat (by omega), Char.ofNat_toNat]
      rw [Utf8.encode_cons, Utf8.encode_cons, Utf8.encode_cons,
        Utf8.utf8EncodeChar_ascii (by decide), Utf8.utf8EncodeChar_ascii (lt_of_mem_hexDigits digits.1),
        Utf8.utf8EncodeChar_ascii (lt_of_mem_hexDigits digits.2)]
      show unescape (0x25 :: UInt8.ofNat high.toNat :: UInt8.ofNat low.toNat :: Utf8.encode _) = _
      rw [unescape, back high digits.1, back low digits.2, octet, units, octet, ih rest]
      rfl
  | case3 high low rest malformed ih =>
      obtain ⟨_, _, _, split, digits⟩ := (escaped_cons.1 escaped).1 rfl
      cases split
      rw [← escaped?_isSome_iff, malformed] at digits
      cases digits
  | case4 c rest notEscape ih =>
      have notPercent : c ≠ '%' := by
        rintro rfl
        obtain ⟨high, low, more, rfl, -⟩ := (escaped_cons.1 escaped).1 rfl
        exact notEscape high low more rfl rfl
      rw [units_cons notPercent, List.flatMap_cons, ← ih (escaped_cons.1 escaped).2,
        Utf8.encode_cons]
      by_cases ascii : c.toNat < 0x80
      · have other := octet_ne_of_ne ascii
        rw [Utf8.utf8EncodeChar_ascii ascii, List.singleton_append,
          unescape_cons (other '%' (by decide) notPercent)]
        by_cases plus : c = '+'
        · subst plus
          rfl
        · have notPlus : UInt8.ofNat c.toNat ≠ 0x2B := other '+' (by decide) plus
          rw [if_neg notPlus, if_neg plus, if_pos ascii]
          rfl
      · have notPlus : c ≠ '+' := by
          rintro rfl
          exact ascii (by decide)
        have beyond := Nat.le_of_not_lt ascii
        rw [unescape_append (fun b => le_of_mem_encodeChar beyond), if_neg notPlus, if_neg ascii]
        rfl

/-! ## Runs -/

theorem flatMap_octets_eq (us : List Unit) : us.flatMap Unit.octets =
    (runs us).1 ++ (runs us).2.flatMap fun p => String.utf8EncodeChar p.1 ++ p.2 := by
  induction us with
  | nil => rfl
  | cons u us ih =>
      cases u <;> simp [runs, Unit.octets, ih]

/-- Runs and the characters between them are decoded to a text exactly when it is encoded to
them. -/
theorem decode_runs_iff {run : Octets} {others : List (Char × Octets)} {t : List Char} :
    (∃ first decoded, Utf8.decode run = .ok first ∧
        others.mapM (fun (c, run) => (Utf8.decode run).map (c :: ·)) = .ok decoded ∧
        first ++ decoded.flatten = t) ↔
      Utf8.encode t = run ++ others.flatMap fun p => String.utf8EncodeChar p.1 ++ p.2 := by
  induction others generalizing run t with
  | nil =>
      rw [List.flatMap_nil, List.append_nil, ← Utf8.decode_eq_ok_iff]
      constructor
      · rintro ⟨first, decoded, isFirst, none, rfl⟩
        obtain rfl : [] = decoded := Except.ok.inj none
        rw [List.flatten_nil, List.append_nil]
        exact isFirst
      · intro isText
        exact ⟨t, [], isText, rfl, List.append_nil t⟩
  | cons p others ih =>
      rw [List.flatMap_cons, List.append_assoc, Utf8.encode_eq_append_iff]
      constructor
      · rintro ⟨first, decoded, isFirst, areDecoded, rfl⟩
        obtain ⟨part, rest, isPart, others, rfl⟩ := mapM_cons_eq_ok_iff.1 areDecoded
        obtain ⟨next, isNext, rfl⟩ := map_eq_ok_iff.1 isPart
        refine ⟨first, next ++ rest.flatten, rfl, Utf8.decode_eq_ok_iff.1 isFirst, ?_⟩
        exact ih.1 ⟨next, rest, isNext, others, rfl⟩
      · rintro ⟨before, after, rfl, isBefore, isAfter⟩
        obtain ⟨next, rest, isNext, others, rfl⟩ := ih.2 isAfter
        exact ⟨before, (p.1 :: next) :: rest, Utf8.decode_eq_ok_iff.2 isBefore,
          mapM_cons_eq_ok_iff.2 ⟨_, rest, map_eq_ok_iff.2 ⟨next, isNext, rfl⟩, others, rfl⟩, rfl⟩

/-- **The elements of a text are decoded as their octets are**, run by run or not. -/
theorem decodeRuns_eq_ok_iff {us : List Unit} {t : List Char} :
    decodeRuns us = .ok t ↔ Utf8.encode t = us.flatMap Unit.octets := by
  rw [flatMap_octets_eq, ← decode_runs_iff, decodeRuns, bind_eq_ok_iff]
  constructor
  · rintro ⟨first, isFirst, rest⟩
    obtain ⟨decoded, areDecoded, whole⟩ := bind_eq_ok_iff.1 rest
    exact ⟨first, decoded, isFirst, areDecoded, Except.ok.inj whole⟩
  · rintro ⟨first, decoded, isFirst, areDecoded, rfl⟩
    exact ⟨first, isFirst, bind_eq_ok_iff.2 ⟨decoded, areDecoded, rfl⟩⟩

/-! ## The whole text -/

/-- **A text is decoded as if all of it were octets.**  It is decoded to the text that is encoded to
its octets, escapes replaced; it is malformed when a percent sign has no digits behind it; and it is
no UTF-8 when it is not malformed and no text is encoded to those octets. -/
theorem decode_by_octets (s : String) :
    (∀ t : String, decode s = .ok t ↔
      Escaped s.toList ∧ Utf8.encode t.toList = unescape (Utf8.encode s.toList)) ∧
    (decode s = .error (.malformed s) ↔ ¬ Escaped s.toList) ∧
    ((∃ fault, decode s = .error (.notUtf8 fault)) ↔
      Escaped s.toList ∧ ¬ ∃ t, Utf8.encode t = unescape (Utf8.encode s.toList)) := by
  rw [decode, decodeChars]
  by_cases escaped : Escaped s.toList
  · have exactly : ∀ t, decodeRuns (units s.toList) = .ok t ↔
        Utf8.encode t = unescape (Utf8.encode s.toList) := by
      intro t
      rw [unescape_encode escaped]
      exact decodeRuns_eq_ok_iff
    rw [if_pos (wellEscaped_iff.2 escaped)]
    simp only [escaped, true_and, not_true_eq_false, iff_false, ← exactly]
    cases decodeRuns (units s.toList) with
    | ok t => simp [Except.map, Except.mapError, ← String.toList_inj]
    | error fault => simp [Except.map, Except.mapError]
  · rw [if_neg (by rwa [wellEscaped_iff])]
    simp [escaped, Except.map]

example : (decodeChars "%C3%A9".toList).toOption = some ['é'] := by decide +kernel
example : (decodeChars "%C3é%A9".toList).toOption = none := by decide +kernel

end Outbound.Text.Percent
