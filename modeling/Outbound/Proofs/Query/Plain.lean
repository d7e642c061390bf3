/-
# Outbound.Proofs.Query.Plain — segments that are read as they are meant

In a form, a segment means the parameter that both its sides decode to
(`formParameter`).  The reader takes some segments for something else (`stated`):
one with nothing in front of its first `=`, and one without an `=` that has escapes
or plus signs, which it leaves coded.  All other segments are `Plain`.

Whether a list of segments is read as it is meant can be told from the parameters
alone, in whatever order they come (`perm_iff_plain`): a segment that is not plain
adds to the `burden` of names without values, and no segment takes away from it.
-/
import Outbound.Proofs.Query.Reading
import Outbound.Proofs.Text.Weight

namespace Outbound.Query

set_option autoImplicit false

open Text (weight)
open Text.Percent (encodeChars isLiteral)

/-- A segment that is read as it is meant in a form. -/
def Plain (s : List Char) : Prop := s.head? ≠ some '=' ∧ ('=' ∉ s → '%' ∉ s ∧ '+' ∉ s)

instance : DecidablePred Plain := fun _ => inferInstanceAs (Decidable (_ ∧ _))

/-- The weight of a name without a value. -/
def burden (p : Parameter) : Nat := if p.2 = none then weight '+' p.1.toList else 0

/-! ## One segment -/

/-- What a segment is taken for, beside what it means. -/
theorem compare_segment {s : List Char} {taken meant : Parameter}
    (took : stated .encoded s = .ok taken) (means : formParameter s = .ok meant) :
    burden meant ≤ burden taken ∧ (burden meant = burden taken → Plain s) ∧
      (Plain s → taken = meant) := by
  by_cases mem : '=' ∈ s
  · obtain ⟨name, value, rfl, free⟩ := List.eq_append_cons_of_mem mem
    rw [formParameter_valued free] at means
    obtain ⟨n, readName, means⟩ := bind_eq_ok_iff.1 means
    obtain ⟨v, readValue, means⟩ := bind_eq_ok_iff.1 means
    obtain rfl := Except.ok.inj means
    cases name with
    | nil =>
        rw [List.nil_append, stated_nameless] at took
        obtain rfl := Except.ok.inj took
        have heavy := Text.lt_weight_cons '+' '=' value
        simp only [burden, reduceCtorEq, if_false, if_true, String.toList_ofList]
        refine ⟨Nat.zero_le _, fun same => by omega, ?_⟩
        rintro ⟨first, -⟩
        exact absurd rfl first
    | cons c more =>
        rw [stated_named .encoded free (List.cons_ne_nil c more), readName, readValue] at took
        obtain rfl := Except.ok.inj took
        refine ⟨Nat.le_refl _, fun _ => ⟨?_, fun none => absurd mem none⟩, fun _ => rfl⟩
        rw [List.mem_cons, not_or] at free
        simpa using Ne.symm free.1
  · rw [stated_valueless .encoded mem] at took
    obtain rfl := Except.ok.inj took
    rw [formParameter_valueless mem] at means
    obtain ⟨name, readName, rfl⟩ := map_eq_ok_iff.1 means
    obtain ⟨decoded, read, rfl⟩ := map_eq_ok_iff.1 readName
    obtain ⟨lighter, free⟩ := Text.Percent.weight_of_decodeChars read
    simp only [burden, if_true, String.toList_ofList]
    refine ⟨lighter, fun same => ⟨fun first => ?_, fun _ => free same⟩, ?_⟩
    · exact mem (List.mem_of_mem_head? first)
    · rintro ⟨-, plain⟩
      obtain ⟨percent, plus⟩ := plain mem
      rw [Text.Percent.decodeChars_of_free percent plus] at read
      rw [Except.ok.inj read]

/-! ## A list of segments -/

section

variable {ss : List (List Char)} {taken meant : List Parameter}

theorem compare_segments (took : ss.mapM (stated .encoded) = .ok taken)
    (means : ss.mapM formParameter = .ok meant) :
    (meant.map burden).sum ≤ (taken.map burden).sum ∧
      ((meant.map burden).sum = (taken.map burden).sum → ∀ s ∈ ss, Plain s) ∧
      ((∀ s ∈ ss, Plain s) → taken = meant) := by
  induction ss generalizing taken meant with
  | nil =>
      obtain rfl := Except.ok.inj took
      obtain rfl := Except.ok.inj means
      exact ⟨Nat.le_refl _, fun _ s mem => absurd mem List.not_mem_nil, fun _ => rfl⟩
  | cons s ss ih =>
      obtain ⟨t, othersTaken, firstTaken, took', rfl⟩ := mapM_cons_eq_ok_iff.1 took
      obtain ⟨m, othersMeant, firstMeant, means', rfl⟩ := mapM_cons_eq_ok_iff.1 means
      obtain ⟨lighter, plain, same⟩ := compare_segment firstTaken firstMeant
      obtain ⟨lighter', plain', same'⟩ := ih took' means'
      simp only [List.map_cons, List.sum_cons, List.forall_mem_cons]
      refine ⟨Nat.add_le_add lighter lighter', fun equal => ⟨plain ?_, plain' ?_⟩, ?_⟩
      · omega
      · omega
      · rintro ⟨first, others⟩
        rw [same first, same' others]

/-- **Segments are read as they are meant exactly when all of them are plain**, even if the order
of the parameters does not count. -/
theorem perm_iff_plain (took : ss.mapM (stated .encoded) = .ok taken)
    (means : ss.mapM formParameter = .ok meant) : meant.Perm taken ↔ ∀ s ∈ ss, Plain s := by
  obtain ⟨-, plain, same⟩ := compare_segments took means
  constructor
  · intro perm
    exact plain (List.Perm.sum_nat (perm.map burden))
  · intro all
    rw [same all]

end

/-! ## Encoded segments -/

theorem plain_segment_iff (p : Parameter) :
    Plain (segment .encoded p) ↔
      (p.2 = none → ∀ c ∈ p.1.toList, isLiteral c = true) ∧ (p.1 = "" → p.2 = none) := by
  obtain ⟨name, value⟩ := p
  have free := equals_not_mem_encodeChars name.toList
  have plus : '+' ∉ encodeChars name.toList :=
    Text.Percent.not_mem_encodeChars (by decide) (by decide) _
  cases value with
  | none =>
      have head : (encodeChars name.toList).head? ≠ some '=' := fun first =>
        free (List.mem_of_mem_head? first)
      simp [Plain, segment, component, head, free, plus,
        Text.Percent.percent_not_mem_encodeChars_iff]
  | some value =>
      cases coded : encodeChars name.toList with
      | nil =>
          obtain rfl := encodeChars_eq_nil_iff.1 coded
          rw [segment, component, coded]
          simp [Plain]
      | cons c more =>
          have filled : name ≠ "" := fun empty => by
            rw [encodeChars_eq_nil_iff.2 empty] at coded
            cases coded
          rw [coded, List.mem_cons, not_or] at free
          simp [Plain, segment, component, coded, filled, Ne.symm free.1]

theorem map_readBack_of_plain {parameters : List Parameter}
    (plain : ∀ p ∈ parameters, Plain (segment .encoded p)) :
    parameters.map readBack = parameters := by
  have compared := compare_segments (mapM_stated_segments parameters)
    (mapM_formParameter_segments parameters)
  exact compared.2.2 (List.forall_mem_map.2 plain)

theorem perm_map_readBack_iff {parameters : List Parameter} :
    parameters.Perm (parameters.map readBack) ↔ ∀ p ∈ parameters, Plain (segment .encoded p) := by
  rw [perm_iff_plain (mapM_stated_segments parameters) (mapM_formParameter_segments parameters),
    List.forall_mem_map]

end Outbound.Query
