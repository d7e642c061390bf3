/-
# Outbound.Proofs.Text.Cut — cutting at a character and joining undo each other

A text without the character passes a cut untouched.  It may stand in front of a cut
at the first occurrence (`before_append`, `after?_append`), and behind one at the last
(`afterLast_append`, `beforeLast?_append`).  Pieces without the separator are what their
joined text splits into (`split_join`); `split` and `join` are `List.splitOn` and
`List.intercalate`, from which that law comes.
-/
import Outbound.Text.Cut

namespace Outbound.Text

set_option autoImplicit false

variable {α : Type} [DecidableEq α]

/-! ## At the first occurrence -/

@[simp, grind =] theorem before_append {c : α} {s : List α} (free : c ∉ s) (t : List α) :
    before c (s ++ t) = s ++ before c t := by
  induction s with
  | nil => rfl
  | cons x xs ih =>
      rw [List.mem_cons, not_or] at free
      simp [before, Ne.symm free.1, ih free.2]

@[simp, grind =] theorem after?_append {c : α} {s : List α} (free : c ∉ s) (t : List α) :
    after? c (s ++ t) = after? c t := by
  induction s with
  | nil => rfl
  | cons x xs ih =>
      rw [List.mem_cons, not_or] at free
      simp [after?, Ne.symm free.1, ih free.2]

@[simp, grind =] theorem before_of_not_mem {c : α} {s : List α} (free : c ∉ s) : before c s = s := by
  simpa [before] using before_append free []

@[simp, grind =] theorem before_cons_self (c : α) (t : List α) : before c (c :: t) = [] := by
  simp [before]

@[simp, grind =] theorem after?_cons_self (c : α) (t : List α) :
    after? c (c :: t) = some t := by
  simp [after?]

@[simp, grind =] theorem after?_of_not_mem {c : α} {s : List α} (free : c ∉ s) :
    after? c s = none :=
  after?_eq_none_iff.2 free

theorem before_eq_takeWhile (c : α) (s : List α) : before c s = s.takeWhile (· ≠ c) := by
  induction s with
  | nil => rfl
  | cons x xs ih => by_cases h : x = c <;> simp [before, h, ih]

theorem after?_eq_dropWhile (c : α) (s : List α) :
    after? c s = match s.dropWhile (· ≠ c) with
      | [] => none
      | _ :: rest => some rest := by
  induction s with
  | nil => rfl
  | cons x xs ih => by_cases h : x = c <;> simp [after?, h, ih]

@[grind →] theorem eq_before_append_of_after? {c : α} {s t : List α} (found : after? c s = some t) :
    s = before c s ++ c :: t := by
  have := before_append_after? c s
  rwa [found] at this

/-- A list is cut at the first `c`, if there is one. -/
theorem exists_eq_before_append (c : α) (s : List α) : ∃ suffix, s = before c s ++ suffix ∧
    (suffix = [] ∧ after c s = [] ∨ suffix = c :: after c s) := by
  refine ⟨_, before_append_after? c s, ?_⟩
  rw [after]
  cases after? c s with
  | none => exact .inl ⟨rfl, rfl⟩
  | some rest => exact .inr rfl

/-- A cut is where it was when what follows an element behind it was cut off before. -/
theorem before_before {c d : α} {s : List α} (free : d ∉ before c s) :
    before c (before d s) = before c s := by
  induction s with
  | nil => rfl
  | cons x xs ih =>
      by_cases first : x = c
      · subst first
        by_cases same : x = d <;> simp [before, same]
      · rw [before, if_neg first, List.mem_cons, not_or] at free
        simp [before, first, Ne.symm free.1, ih free.2]

/-- What precedes the first occurrence and what follows it are determined by the whole. -/
theorem append_cons_inj {c : α} {s s' t t' : List α} (free : c ∉ s) (free' : c ∉ s') :
    s ++ c :: t = s' ++ c :: t' ↔ s = s' ∧ t = t' := by
  constructor
  · intro same
    have first := congrArg (before c) same
    have rest := congrArg (after? c) same
    exact ⟨by simpa [free, free'] using first, by simpa [free, free'] using rest⟩
  · rintro ⟨rfl, rfl⟩
    rfl

/-- So are what precedes the last occurrence and what follows it. -/
theorem append_cons_inj_last {c : α} {s s' t t' : List α} (free : c ∉ t) (free' : c ∉ t') :
    s ++ c :: t = s' ++ c :: t' ↔ s = s' ∧ t = t' := by
  have mirrored : ∀ s t : List α, (s ++ c :: t).reverse = t.reverse ++ c :: s.reverse := by simp
  rw [← List.reverse_inj, mirrored, mirrored, append_cons_inj (by simpa using free)
    (by simpa using free'), List.reverse_inj, List.reverse_inj, and_comm]

/-! ## At the last occurrence -/

theorem before_reverse_append {c : α} {t : List α} (free : c ∉ t) (s : List α) :
    before c (s ++ c :: t).reverse = t.reverse ∧ after? c (s ++ c :: t).reverse = some s.reverse := by
  have mirrored : (s ++ c :: t).reverse = t.reverse ++ c :: s.reverse := by simp
  rw [mirrored]
  simp [free]

@[simp] theorem afterLast_append {c : α} {t : List α} (free : c ∉ t) (s : List α) :
    afterLast c (s ++ c :: t) = t := by
  rw [afterLast, (before_reverse_append free s).1, List.reverse_reverse]

@[simp] theorem beforeLast?_append {c : α} {t : List α} (free : c ∉ t) (s : List α) :
    beforeLast? c (s ++ c :: t) = some s := by
  rw [beforeLast?, (before_reverse_append free s).2, Option.map_some, List.reverse_reverse]

@[simp] theorem afterLast_of_not_mem {c : α} {s : List α} (free : c ∉ s) : afterLast c s = s := by
  simp [afterLast, free]

@[simp] theorem beforeLast?_of_not_mem {c : α} {s : List α} (free : c ∉ s) :
    beforeLast? c s = none := by
  simp [beforeLast?, free]

/-! ## Nothing is added -/

@[grind →] theorem mem_of_mem_before {c d : α} {s : List α} (mem : d ∈ before c s) : d ∈ s := by
  rw [before_append_after? c s]
  exact List.mem_append_left _ mem

@[grind →] theorem mem_of_mem_after? {c d : α} {s t : List α} (found : after? c s = some t)
    (mem : d ∈ t) : d ∈ s := by
  rw [eq_before_append_of_after? found]
  exact List.mem_append_right _ (List.mem_cons_of_mem _ mem)

@[grind →] theorem mem_of_mem_afterLast {c d : α} {s : List α} (mem : d ∈ afterLast c s) :
    d ∈ s :=
  List.mem_reverse.1 (mem_of_mem_before (List.mem_reverse.1 mem))

@[grind →] theorem mem_of_mem_beforeLast? {c d : α} {s t : List α}
    (found : beforeLast? c s = some t) (mem : d ∈ t) : d ∈ s := by
  obtain ⟨r, cut, rfl⟩ := Option.map_eq_some_iff.1 found
  exact List.mem_reverse.1 (mem_of_mem_after? cut (List.mem_reverse.1 mem))

theorem head?_of_head?_before {c d : α} {s : List α} (first : (before c s).head? = some d) :
    s.head? = some d := by
  rw [before_append_after? c s, List.head?_append, first]
  rfl

/-! ## At every occurrence -/

theorem split_eq_splitOn (c : α) (s : List α) : split c s = s.splitOn c := by
  induction s with
  | nil => rfl
  | cons x xs ih =>
      rw [List.splitOn_cons_eq_if_modifyHead, split, ← ih]
      by_cases h : x = c
      · simp [h]
      · simp only [h, if_false, beq_eq_false_iff_ne.2 h, Bool.false_eq_true]
        cases hs : split c xs with
        | nil => exact absurd hs (split_ne_nil c xs)
        | cons piece pieces => rfl

/-- Joined pieces without the separator split into the same pieces. -/
@[simp] theorem split_join {c : α} {pieces : List (List α)} (some_piece : pieces ≠ [])
    (free : ∀ piece ∈ pieces, c ∉ piece) : split c (join c pieces) = pieces := by
  rw [split_eq_splitOn]
  exact List.splitOn_intercalate c free some_piece

omit [DecidableEq α] in
theorem mem_join {c d : α} {pieces : List (List α)} (mem : d ∈ join c pieces) :
    d = c ∨ ∃ piece ∈ pieces, d ∈ piece := by
  rw [join, List.mem_flatten] at mem
  obtain ⟨part, isPart, mem⟩ := mem
  induction pieces with
  | nil => cases isPart
  | cons piece rest ih =>
      cases rest with
      | nil => exact .inr ⟨part, isPart, mem⟩
      | cons next rest =>
          rw [List.intersperse_cons_cons, List.mem_cons, List.mem_cons] at isPart
          rcases isPart with rfl | rfl | isPart
          · exact .inr ⟨part, List.mem_cons_self, mem⟩
          · exact .inl (List.mem_singleton.1 mem)
          · rcases ih isPart with separator | ⟨other, isPiece, mem⟩
            · exact .inl separator
            · exact .inr ⟨other, List.mem_cons_of_mem _ isPiece, mem⟩

end Outbound.Text
