/-
# Outbound.Text.Cut — cutting a text at a character

A text is cut at the first or the last occurrence of a character, or at all of
them.  Nothing but the separator is lost at a cut (`before_append_after?`), and
`join` puts pieces together again with separators between them.
-/

namespace Outbound.Text

set_option autoImplicit false

variable {α : Type} [DecidableEq α]

/-! ## At the first and the last occurrence -/

/-- What precedes the first `c`; the whole list when there is none. -/
def before (c : α) : List α → List α
  | [] => []
  | x :: xs => if x = c then [] else x :: before c xs

/-- What follows the first `c`, when there is one. -/
def after? (c : α) : List α → Option (List α)
  | [] => none
  | x :: xs => if x = c then some xs else after? c xs

/-- What follows the first `c`; nothing when there is none. -/
def after (c : α) (s : List α) : List α := (after? c s).getD []

/-- What follows the last `c`; the whole list when there is none. -/
def afterLast (c : α) (s : List α) : List α := (before c s.reverse).reverse

/-- What precedes the last `c`, when there is one. -/
def beforeLast? (c : α) (s : List α) : Option (List α) := (after? c s.reverse).map List.reverse

theorem before_append_after? (c : α) (s : List α) :
    s = before c s ++ (match after? c s with | some r => c :: r | none => []) := by
  induction s with
  | nil => rfl
  | cons x xs ih =>
    by_cases h : x = c
    · simp [before, after?, h]
    · simpa [before, after?, h] using ih

@[simp, grind .] theorem not_mem_before (c : α) (s : List α) : c ∉ before c s := by
  induction s with
  | nil => simp [before]
  | cons x xs ih =>
    by_cases h : x = c
    · simp [before, h]
    · simpa [before, h] using ⟨fun e => h e.symm, ih⟩

@[simp, grind =] theorem after?_eq_none_iff {c : α} {s : List α} : after? c s = none ↔ c ∉ s := by
  induction s with
  | nil => simp [after?]
  | cons x xs ih =>
    by_cases h : x = c
    · simp [after?, h]
    · simpa [after?, h, ih] using fun _ => fun e => h e.symm

/-! ## At every occurrence -/

/-- The pieces between the occurrences of `c`; a text without one is a single piece. -/
def split (c : α) : List α → List (List α)
  | [] => [[]]
  | x :: xs =>
    if x = c then [] :: split c xs
    else
      match split c xs with
      | [] => [[x]]
      | piece :: pieces => (x :: piece) :: pieces

/-- The pieces one after the other with `c` between any two. -/
def join (c : α) (pieces : List (List α)) : List α := pieces.intersperse [c] |>.flatten

@[simp] theorem split_ne_nil (c : α) (s : List α) : split c s ≠ [] := by
  cases s with
  | nil => simp [split]
  | cons x xs =>
    by_cases h : x = c
    · simp [split, h]
    · simp only [split, h, if_false]
      split <;> simp

end Outbound.Text
