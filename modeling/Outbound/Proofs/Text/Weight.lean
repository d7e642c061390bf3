/-
# Outbound.Proofs.Text.Weight — decoding makes a text lighter

An element of a text weighs one, and a plus sign two.  Reading an escape or a plus
sign takes weight away, even when the escape is one of a plus sign, and nothing
that is read adds any; so a decoded text weighs as much as before only when it has
neither (`weight_of_decodeChars`).  Such a text is left as it is
(`decodeChars_of_free`); of encoded texts these are the literal ones
(`percent_not_mem_encodeChars_iff`).
-/
import Outbound.Proofs.Fallible
import Outbound.Proofs.Text.Percent

namespace Outbound.Text

set_option autoImplicit false

/-- The weight of a list in which one element counts twice. -/
def weight {α : Type} [BEq α] (plus : α) (s : List α) : Nat := s.length + s.count plus

section

variable {α : Type} [DecidableEq α] (plus : α)

@[simp] theorem weight_nil : weight plus [] = 0 := rfl

@[simp] theorem weight_cons (a : α) (s : List α) :
    weight plus (a :: s) = weight plus s + if a = plus then 2 else 1 := by
  rw [weight, weight, List.length_cons, List.count_cons]
  by_cases same : a = plus <;> simp [same] <;> omega

@[simp] theorem weight_append (s t : List α) :
    weight plus (s ++ t) = weight plus s + weight plus t := by
  simp only [weight, List.length_append, List.count_append]
  omega

theorem lt_weight_cons (a : α) (s : List α) : weight plus s < weight plus (a :: s) := by
  rw [weight_cons]
  split <;> omega

theorem weight_cons_le (a : α) (s : List α) : weight plus (a :: s) ≤ weight plus s + 2 := by
  rw [weight_cons]
  split <;> omega

end

/-! ## Octets -/

theorem ofNat_eq_plus_iff {b : UInt8} : Char.ofNat b.toNat = '+' ↔ b = 0x2B := by
  have all : ∀ n < 256, Char.ofNat n = '+' → UInt8.ofNat n = 0x2B := by decide +kernel
  constructor
  · intro h
    simpa using all b.toNat b.toNat_lt h
  · rintro rfl
    rfl

/-- Octets weigh at least what they stand for; a character that is begun has one octet before
them, or more. -/
theorem Utf8.weight_of_decodeFrom {start : Nat} {pending : Option Utf8.Pending} {bytes : Octets}
    {s : List Char} (decoded : Utf8.decodeFrom start pending bytes = .ok s) :
    weight '+' s ≤ weight 0x2B bytes + if pending.isSome then 1 else 0 := by
  induction bytes generalizing start pending s with
  | nil =>
      cases pending with
      | none =>
          obtain rfl := Except.ok.inj decoded
          exact Nat.le_refl 0
      | some p => cases decoded
  | cons b rest ih =>
      have heavier := lt_weight_cons 0x2B b rest
      cases pending with
      | none =>
          rw [Utf8.decodeFrom] at decoded
          split at decoded
          · obtain ⟨t, tail, rfl⟩ := map_eq_ok_iff.1 decoded
            have lighter := ih tail
            simp only [weight_cons, ofNat_eq_plus_iff, Option.isSome_none] at lighter ⊢
            omega
          · split at decoded
            · have lighter := ih decoded
              simp only [Option.isSome_some, if_true] at lighter
              simp only [Option.isSome_none]
              omega
            · cases decoded
      | some p =>
          rw [Utf8.decodeFrom] at decoded
          simp only [Option.isSome_some, if_true]
          split at decoded
          · simp only at decoded
            split at decoded
            · obtain ⟨t, tail, rfl⟩ := map_eq_ok_iff.1 decoded
              have lighter := ih tail
              have one := weight_cons_le '+' (Char.ofNat (64 * p.payload + (b.toNat - 0x80))) t
              simp only [Option.isSome_none, Bool.false_eq_true, if_false] at lighter
              omega
            · have lighter := ih decoded
              simp only [Option.isSome_some, if_true] at lighter
              omega
          · cases decoded

/-! ## Runs -/

namespace Percent

def unitsWeight : List Unit → Nat
  | [] => 0
  | .octet b :: us => weight 0x2B [b] + unitsWeight us
  | .char c :: us => weight '+' [c] + unitsWeight us

def othersWeight : List (Char × Octets) → Nat
  | [] => 0
  | (c, run) :: others => weight '+' [c] + weight 0x2B run + othersWeight others

theorem unitsWeight_eq (us : List Unit) :
    unitsWeight us = weight 0x2B (runs us).1 + othersWeight (runs us).2 := by
  induction us with
  | nil => rfl
  | cons u us ih =>
      cases u with
      | octet b =>
          simp only [unitsWeight, runs, ih, weight_cons, weight_nil]
          omega
      | char c =>
          simp only [unitsWeight, runs, ih, othersWeight, weight_nil]
          omega

theorem weight_of_mapM_decode {others : List (Char × Octets)} {decoded : List (List Char)}
    (h : others.mapM (fun (c, run) => (Utf8.decode run).map (c :: ·)) = .ok decoded) :
    weight '+' decoded.flatten ≤ othersWeight others := by
  induction others generalizing decoded with
  | nil =>
      obtain rfl := Except.ok.inj h
      exact Nat.le_refl 0
  | cons p others ih =>
      obtain ⟨c, run⟩ := p
      obtain ⟨t, rest, first, tail, rfl⟩ := mapM_cons_eq_ok_iff.1 h
      obtain ⟨s, read, rfl⟩ := map_eq_ok_iff.1 first
      have head := Utf8.weight_of_decodeFrom read
      have others := ih tail
      simp only [Option.isSome_none, Bool.false_eq_true, if_false] at head
      simp only [othersWeight, List.flatten_cons, List.cons_append, weight_cons, weight_nil,
        weight_append]
      omega

theorem weight_of_decodeRuns {us : List Unit} {s : List Char} (decoded : decodeRuns us = .ok s) :
    weight '+' s ≤ unitsWeight us := by
  rw [unitsWeight_eq]
  rw [decodeRuns] at decoded
  obtain ⟨first, head, decoded⟩ := bind_eq_ok_iff.1 decoded
  obtain ⟨others, tail, decoded⟩ := bind_eq_ok_iff.1 decoded
  obtain rfl := Except.ok.inj decoded
  have head := Utf8.weight_of_decodeFrom head
  have tail := weight_of_mapM_decode tail
  simp only [Option.isSome_none, Bool.false_eq_true, if_false] at head
  rw [weight_append]
  omega

/-! ## Texts -/

theorem wellEscaped_of_cons {c : Char} {rest : List Char}
    (escaped : wellEscaped (c :: rest) = true) : wellEscaped rest = true := by
  unfold wellEscaped at escaped
  exact (Bool.and_eq_true_iff.1 escaped).2

/-- The elements of a text with escapes or plus signs weigh less than the text. -/
theorem unitsWeight_units {s : List Char} (escaped : wellEscaped s = true) :
    unitsWeight (units s) ≤ weight '+' s ∧
      (unitsWeight (units s) = weight '+' s → '%' ∉ s ∧ '+' ∉ s) := by
  induction s using units.induct with
  | case1 => simp [units, unitsWeight]
  | case2 high low rest b octet ih =>
      have lighter :=
        (ih (wellEscaped_of_cons (wellEscaped_of_cons (wellEscaped_of_cons escaped)))).1
      have one := weight_cons_le 0x2B b []
      have first := lt_weight_cons '+' '%' (high :: low :: rest)
      have second := lt_weight_cons '+' high (low :: rest)
      have third := lt_weight_cons '+' low rest
      rw [units, octet]
      simp only [unitsWeight, weight_nil] at one ⊢
      exact ⟨by omega, fun same => by omega⟩
  | case3 high low rest malformed ih =>
      rw [wellEscaped, malformed] at escaped
      cases escaped
  | case4 c rest notEscape ih =>
      have notPercent : c ≠ '%' := by
        rintro rfl
        rw [wellEscaped] at escaped
        · cases escaped
        · exact fun high low more => notEscape high low more rfl
      obtain ⟨lighter, free⟩ := ih (wellEscaped_of_cons escaped)
      rw [units_cons notPercent, weight_cons]
      by_cases plus : c = '+'
      · have one : weight 0x2B [(0x20 : UInt8)] = 1 := rfl
        rw [if_pos plus, if_pos plus, unitsWeight, one]
        exact ⟨by omega, fun same => by omega⟩
      · have one : ∀ u, unitsWeight (u :: units rest) = unitsWeight (units rest) + 1 →
            unitsWeight (u :: units rest) ≤ weight '+' rest + 1 ∧
              (unitsWeight (u :: units rest) = weight '+' rest + 1 →
                '%' ∉ c :: rest ∧ '+' ∉ c :: rest) := by
          intro u added
          refine ⟨by omega, fun same => ?_⟩
          obtain ⟨percent, plus'⟩ := free (by omega)
          simp [Ne.symm notPercent, Ne.symm plus, percent, plus']
        rw [if_neg plus, if_neg plus]
        apply one
        split
        · rename_i ascii
          have octet : UInt8.ofNat c.toNat ≠ 0x2B := by
            rw [Ne, ← ofNat_eq_plus_iff, Utf8.toNat_ofNat (by omega), Char.ofNat_toNat]
            exact plus
          simp only [unitsWeight, weight_cons, weight_nil, if_neg octet]
          omega
        · simp only [unitsWeight, weight_cons, weight_nil, if_neg plus]
          omega

/-- **A decoded text weighs less than before**, unless it has no escapes and no plus signs. -/
theorem weight_of_decodeChars {s t : List Char} (decoded : decodeChars s = .ok t) :
    weight '+' t ≤ weight '+' s ∧ (weight '+' t = weight '+' s → '%' ∉ s ∧ '+' ∉ s) := by
  rw [decodeChars] at decoded
  split at decoded
  · rename_i escaped
    obtain ⟨lighter, free⟩ := unitsWeight_units escaped
    have runs := weight_of_decodeRuns (mapError_eq_ok_iff.1 decoded)
    exact ⟨by omega, fun same => free (by omega)⟩
  · cases decoded

/-! ## What stays -/

/-- The runs of a text without escapes and plus signs are the octets of its pieces. -/
theorem runs_units_of_free {s : List Char} (percent : '%' ∉ s) (plus : '+' ∉ s) :
    ∃ (first : List Char) (others : List (Char × List Char)), runs (units s) =
        (Utf8.encode first, others.map fun p => (p.1, Utf8.encode p.2)) ∧
      first ++ (others.map fun p => p.1 :: p.2).flatten = s := by
  induction s with
  | nil => exact ⟨[], [], rfl, rfl⟩
  | cons c rest ih =>
      rw [List.mem_cons, not_or] at percent plus
      obtain ⟨first, others, cut, whole⟩ := ih percent.2 plus.2
      rw [units_cons (Ne.symm percent.1), if_neg (Ne.symm plus.1)]
      by_cases ascii : c.toNat < 0x80
      · refine ⟨c :: first, others, ?_, by rw [List.cons_append, whole]⟩
        rw [if_pos ascii, runs, cut]
        simp [Utf8.encode, Utf8.utf8EncodeChar_ascii ascii]
      · refine ⟨[], (c, first) :: others, ?_, by simp [whole]⟩
        rw [if_neg ascii, runs, cut]
        rfl

/-- A text without escapes and plus signs is decoded as it is. -/
theorem decodeChars_of_free {s : List Char} (percent : '%' ∉ s) (plus : '+' ∉ s) :
    decodeChars s = .ok s := by
  have escaped : wellEscaped s = true := by
    clear plus
    induction s with
    | nil => rfl
    | cons c rest ih =>
        rw [List.mem_cons, not_or] at percent
        simp [Ne.symm percent.1, ih percent.2]
  obtain ⟨first, others, cut, whole⟩ := runs_units_of_free percent plus
  have read : ∀ p ∈ others,
      ((fun (c, run) => (Utf8.decode run).map (c :: ·)) ∘
        fun p : Char × List Char => (p.1, Utf8.encode p.2)) p = .ok (p.1 :: p.2) := by
    intro p _
    simp
  rw [decodeChars, if_pos escaped, mapError_eq_ok_iff, decodeRuns, cut]
  refine bind_eq_ok_iff.2 ⟨first, Utf8.decode_encode first, bind_eq_ok_iff.2
    ⟨others.map fun p => p.1 :: p.2, ?_, ?_⟩⟩
  · rw [List.mapM_map]
    exact mapM_eq_ok read
  · exact congrArg Except.ok whole

/-- An encoded text has escapes unless it is literal. -/
theorem percent_not_mem_encodeChars_iff (s : List Char) :
    '%' ∉ encodeChars s ↔ ∀ c ∈ s, isLiteral c = true := by
  constructor
  · intro percent c mem
    have plus : '+' ∉ encodeChars s :=
      not_mem_encodeChars (by decide) (by decide) s
    have stays := decodeChars_of_free percent plus
    rw [decodeChars_encodeChars] at stays
    rw [Except.ok.inj stays] at mem
    rcases mem_encodeChars mem with literal | rfl
    · exact literal
    · exact absurd mem percent
  · intro literal
    rw [encodeChars_of_literal literal]
    intro mem
    exact absurd (literal _ mem) (by decide)

end Percent

end Outbound.Text
