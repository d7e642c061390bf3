/-
# Outbound.Proofs.Text.Trimmed — what is left of a text without the blanks around it

Trimming takes the blank characters from the front, then from the end.  What is left
is said without an order (`Trims`): a part of the text with blanks only around it,
which neither begins nor ends with one.  There is one such part of every text
(`trim_eq_iff`); of a text of blanks it is empty.
-/
import Mathlib.Data.List.DropRight
import Outbound.Text.Blank

namespace Outbound.Text

set_option autoImplicit false

/-- A part of a text that has the blanks at both ends around it and no more of them at its own
ends. -/
structure Trims (s t : List Char) : Prop where
  within : ∃ front back, s = front ++ t ++ back ∧
    (∀ c ∈ front, isBlank c = true) ∧ ∀ c ∈ back, isBlank c = true
  first : ∀ c, t.head? = some c → isBlank c = false
  last : ∀ c, t.getLast? = some c → isBlank c = false

theorem trim_eq (s : List Char) : trim s = (s.dropWhile isBlank).rdropWhile isBlank := rfl

theorem trims_trim (s : List Char) : Trims s (trim s) := by
  rw [trim_eq]
  generalize isRest : s.dropWhile isBlank = rest
  have stays : rest.rdropWhile isBlank <+: rest := List.rdropWhile_prefix isBlank rest
  refine ⟨⟨s.takeWhile isBlank, rest.rtakeWhile isBlank, ?_, ?_, ?_⟩, ?_, ?_⟩
  · rw [List.append_assoc, List.rdropWhile_append_rtakeWhile, ← isRest,
      List.takeWhile_append_dropWhile]
  · exact fun c mem => List.mem_takeWhile_imp mem
  · exact fun c mem => List.mem_rtakeWhile_imp mem
  · intro c isFirst
    have first : rest.head? = some c := by
      obtain ⟨more, whole⟩ := stays
      rw [← whole, List.head?_append, isFirst, Option.some_or]
    have stops := List.head?_dropWhile_not isBlank s
    rw [isRest, first] at stops
    simpa using stops
  · intro c isLast
    cases filled : rest.rdropWhile isBlank with
    | nil =>
        rw [filled] at isLast
        cases isLast
    | cons d more =>
        have some_left : rest.rdropWhile isBlank ≠ [] := by simp [filled]
        have stops := List.rdropWhile_last_not isBlank rest some_left
        rw [List.getLast?_eq_some_getLast some_left] at isLast
        rw [Option.some.inj isLast] at stops
        simpa using stops

theorem dropWhile_append_blank {front rest : List Char} (blank : ∀ c ∈ front, isBlank c = true)
    (stops : ∀ c, rest.head? = some c → isBlank c = false) :
    (front ++ rest).dropWhile isBlank = rest := by
  rw [List.dropWhile_append_of_pos blank]
  cases rest with
  | nil => rfl
  | cons c more => rw [List.dropWhile_cons_of_neg (by simp [stops c rfl])]

/-- **Trimming leaves the one part of a text that has blanks only around it and none at its
ends.** -/
theorem trim_eq_iff {s t : List Char} : trim s = t ↔ Trims s t := by
  constructor
  · rintro rfl
    exact trims_trim s
  · rintro ⟨⟨front, back, rfl, blankFront, blankBack⟩, first, last⟩
    rw [trim_eq, List.append_assoc]
    cases t with
    | nil =>
        have blank : ∀ c ∈ front ++ ([] ++ back), isBlank c = true := by
          rw [List.nil_append, List.forall_mem_append]
          exact ⟨blankFront, blankBack⟩
        rw [List.dropWhile_eq_nil_iff.2 blank]
        rfl
    | cons d more =>
        have opened : (front ++ (d :: more ++ back)).dropWhile isBlank = d :: more ++ back :=
          dropWhile_append_blank blankFront first
        have stops : ∀ c, (d :: more).reverse.head? = some c → isBlank c = false := by
          intro c isLast
          rw [List.head?_reverse] at isLast
          exact last c isLast
        rw [opened, List.rdropWhile, List.reverse_append,
          dropWhile_append_blank (by simpa using blankBack) stops, List.reverse_reverse]

end Outbound.Text
