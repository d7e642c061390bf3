/-
# Outbound.Proofs.Query.Sorted — parameters in the order of their names

`sorted` puts named things in the order of their names, and leaves those of one
name in the order in which they came.  A list in this order is determined by what
it has under each name (`eq_of_ordered`), which sorting does not touch
(`filter_sorted`).  Hence

* it does not matter whether names are sorted and their parameters then listed, or
  the other way round (`sorted_spread`);
* distinct names are sorted to the same list exactly when they are the same names
  with the same things, in whatever order they came (`sorted_eq_iff_perm`).

A receiver of a query reads its parameters, sorts them and writes them again
(`received`); from an encoded query it gets the sorted parameters that the query
was written from (`received_write`).
-/
import Outbound.Proofs.Query.Grouping
import Outbound.Proofs.Query.Reading

namespace Outbound.Query

set_option autoImplicit false

variable {β : Type}

/-! ## Stable order -/

/-- Named things in the order of their names; those of one name stay in the order they had. -/
def sorted (l : List (String × β)) : List (String × β) := l.mergeSort fun a b => a.1 ≤ b.1

/-- The names of a list come in order. -/
def Ordered (l : List (String × β)) : Prop := l.Pairwise fun a b => a.1 ≤ b.1

@[simp] theorem sorted_nil : sorted ([] : List (String × β)) = [] := List.mergeSort_nil

theorem name_le_trans (a b c : String × β) :
    decide (a.1 ≤ b.1) = true → decide (b.1 ≤ c.1) = true → decide (a.1 ≤ c.1) = true := by
  simp only [decide_eq_true_eq]
  exact String.le_trans

theorem name_le_total (a b : String × β) :
    (decide (a.1 ≤ b.1) || decide (b.1 ≤ a.1)) = true := by
  simp only [Bool.or_eq_true, decide_eq_true_eq]
  exact String.le_total a.1 b.1

theorem sorted_perm (l : List (String × β)) : (sorted l).Perm l := List.mergeSort_perm _ _

theorem ordered_sorted (l : List (String × β)) : Ordered (sorted l) := by
  have ordered := List.pairwise_mergeSort name_le_trans name_le_total l
  exact ordered.imp fun le => of_decide_eq_true le

/-- Sorting leaves what there is under a name, in the order it had. -/
@[simp] theorem filter_sorted (name : String) (l : List (String × β)) :
    (sorted l).filter (·.1 = name) = l.filter (·.1 = name) := by
  have one_name : (l.filter (·.1 = name)).Pairwise fun a b => decide (a.1 ≤ b.1) = true := by
    refine List.pairwise_of_forall_mem_list fun a isA b isB => ?_
    have nameA : a.1 = name := by simpa using List.of_mem_filter isA
    have nameB : b.1 = name := by simpa using List.of_mem_filter isB
    rw [nameA, nameB]
    exact decide_eq_true (String.le_refl name)
  have kept := List.sublist_mergeSort name_le_trans name_le_total one_name List.filter_sublist
  have within := kept.filter (·.1 = name)
  rw [List.filter_filter] at within
  simp only [Bool.and_self] at within
  exact (within.eq_of_length ((sorted_perm l).filter _).length_eq.symm).symm

/-- An ordered list is determined by what it has under each name. -/
theorem eq_of_ordered {l l' : List (String × β)} (ordered : Ordered l) (ordered' : Ordered l')
    (same : ∀ name, l.filter (·.1 = name) = l'.filter (·.1 = name)) : l = l' := by
  induction l generalizing l' with
  | nil =>
      cases l' with
      | nil => rfl
      | cons b l' =>
          have none := same b.1
          simp at none
  | cons a l ih =>
      have mem_iff : ∀ x, x ∈ a :: l ↔ x ∈ l' := by
        intro x
        have := congrArg (x ∈ ·) (same x.1)
        simpa [List.mem_filter] using this
      cases l' with
      | nil => exact absurd ((mem_iff a).1 List.mem_cons_self) List.not_mem_nil
      | cons b l' =>
          obtain ⟨first, rest⟩ := List.pairwise_cons.1 ordered
          obtain ⟨first', rest'⟩ := List.pairwise_cons.1 ordered'
          -- Each head precedes the other, so both have one name, of which they are the first.
          have le : a.1 ≤ b.1 := by
            rcases List.mem_cons.1 ((mem_iff b).2 List.mem_cons_self) with rfl | mem
            · exact String.le_refl _
            · exact first b mem
          have ge : b.1 ≤ a.1 := by
            rcases List.mem_cons.1 ((mem_iff a).1 List.mem_cons_self) with rfl | mem
            · exact String.le_refl _
            · exact first' a mem
          have name : b.1 = a.1 := String.le_antisymm ge le
          have head := same a.1
          rw [List.filter_cons_of_pos (by simp), List.filter_cons_of_pos (by simp [name])] at head
          obtain ⟨rfl, -⟩ := List.cons.inj head
          have tail : ∀ name, l.filter (·.1 = name) = l'.filter (·.1 = name) := by
            intro other
            have both := same other
            simp only [List.filter_cons] at both
            split at both
            · exact (List.cons.inj both).2
            · exact both
          rw [ih rest rest' tail]

/-- Distinct names are sorted to one list exactly when they are the same, with the same things. -/
theorem sorted_eq_iff_perm {l l' : List (String × β)} (distinct : (l.map Prod.fst).Nodup) :
    sorted l = sorted l' ↔ l.Perm l' := by
  constructor
  · intro same
    exact (sorted_perm l).symm.trans (same ▸ sorted_perm l')
  · intro perm
    have whole : (sorted l).Perm (sorted l') :=
      (sorted_perm l).trans (perm.trans (sorted_perm l').symm)
    refine whole.eq_of_pairwise ?_ (ordered_sorted l) (ordered_sorted l')
    intro a b isA isB le ge
    have isB' := perm.mem_iff.2 ((sorted_perm l').mem_iff.1 isB)
    exact List.inj_on_of_nodup_map distinct ((sorted_perm l).mem_iff.1 isA) isB'
      (String.le_antisymm le ge)

/-! ## Parameters -/

@[simp] theorem filter_spread (name : String) (entries : List Contribution) :
    (spread entries).filter (·.1 = name) = spread (entries.filter (·.1 = name)) := by
  induction entries with
  | nil => rfl
  | cons e entries ih =>
      by_cases same : e.1 = name <;> simp [same, ih, List.filter_map, Function.comp_def]

theorem ordered_spread {entries : List Contribution} (ordered : Ordered entries) :
    Ordered (spread entries) := by
  refine List.pairwise_flatMap.2 ⟨fun e _ => ?_, ordered.imp fun {a b} le => ?_⟩
  · exact List.pairwise_map.2 (List.pairwise_of_forall fun _ _ => String.le_refl e.1)
  · intro p isP q isQ
    obtain ⟨v, -, rfl⟩ := List.mem_map.1 isP
    obtain ⟨w, -, rfl⟩ := List.mem_map.1 isQ
    exact le

/-- Sorting names with their values and listing the parameters can be done in either order. -/
@[simp] theorem sorted_spread (entries : List Contribution) :
    sorted (spread entries) = spread (sorted entries) := by
  refine eq_of_ordered (ordered_sorted _) (ordered_spread (ordered_sorted entries)) fun name => ?_
  simp

/-! ## What a receiver makes of a query -/

/-- What a receiver that sorts parameters makes of a query: its segments are cut at their first
`=`, both sides decoded, and the parameters written again in the order of their names. -/
def received (query : Option String) : Except Text.Percent.Fault String :=
  match query with
  | none => .ok ""
  | some query =>
    ((query.toList.splitOn '&').mapM formParameter).map fun parameters =>
      write .encoded (sorted parameters)

/-- The receiver has the parameters that an encoded query was written from. -/
@[simp] theorem received_write (parameters : List Parameter) :
    received (some (write .encoded parameters)) = .ok (write .encoded (sorted parameters)) := by
  cases parameters with
  | nil =>
      have read : ((write .encoded []).toList.splitOn '&').mapM formParameter =
          .ok [("", none)] := rfl
      simp only [received, read, Except.map, sorted, List.mergeSort_singleton, List.mergeSort_nil]
      rfl
  | cons p parameters =>
      have cut := splitOn_write (List.cons_ne_nil p parameters)
      rw [received, cut, mapM_formParameter_segments]
      rfl

/-- What the receiver makes of the query that is written from names with values. -/
theorem received_spread (entries : List Contribution) :
    received (if entries = [] then none else some (write .encoded (spread entries))) =
      .ok (write .encoded (spread (sorted entries))) := by
  by_cases none : entries = []
  · subst none
    rw [if_pos rfl, sorted_nil]
    rfl
  · simp [none]

end Outbound.Query
