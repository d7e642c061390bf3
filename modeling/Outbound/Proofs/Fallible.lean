/-
# Outbound.Proofs.Fallible — computations that may fail, and did not

What can be said of the parts of a computation from the fact that it gave a
result.  Such facts are read off backwards: a bind that gave a result had one from
its first part, and so on for each element of a list.
-/
import Mathlib.Data.List.Forall2

namespace Outbound

set_option autoImplicit false

variable {α β ε δ : Type}

theorem exists_eq_ok {x : Except ε α} (isOk : x.toOption.isSome) : ∃ a, x = .ok a := by
  cases x with
  | ok a => exact ⟨a, rfl⟩
  | error e => cases isOk

@[simp] theorem toOption_eq_some_iff {x : Except ε α} {a : α} :
    x.toOption = some a ↔ x = .ok a := by
  cases x <;> simp [Except.toOption]

@[simp] theorem map_eq_ok_iff {f : α → β} {x : Except ε α} {b : β} :
    x.map f = .ok b ↔ ∃ a, x = .ok a ∧ f a = b := by
  cases x <;> simp [Except.map]

@[simp] theorem bind_eq_ok_iff {f : α → Except ε β} {x : Except ε α} {b : β} :
    (x >>= f) = .ok b ↔ ∃ a, x = .ok a ∧ f a = .ok b := by
  cases x <;> simp [bind, Except.bind]

@[simp] theorem mapError_eq_ok_iff {f : ε → δ} {x : Except ε α} {a : α} :
    x.mapError f = .ok a ↔ x = .ok a := by
  cases x with
  | error e => exact ⟨nofun, nofun⟩
  | ok b =>
      constructor
      · intro h
        rw [Except.ok.inj h]
      · intro h
        rw [Except.ok.inj h]
        rfl

theorem mapM_cons_eq_ok_iff {f : α → Except ε β} {a : α} {l : List α} {bs : List β} :
    (a :: l).mapM f = .ok bs ↔ ∃ b rest, f a = .ok b ∧ l.mapM f = .ok rest ∧ bs = b :: rest := by
  rw [List.mapM_cons, bind_eq_ok_iff]
  constructor
  · rintro ⟨b, first, h⟩
    obtain ⟨rest, others, h⟩ := bind_eq_ok_iff.1 h
    exact ⟨b, rest, first, others, (Except.ok.inj h).symm⟩
  · rintro ⟨b, rest, first, others, rfl⟩
    exact ⟨b, first, bind_eq_ok_iff.2 ⟨rest, others, rfl⟩⟩

/-- A list stops at the first element that fails. -/
theorem cut_of_mapM_eq_error {f : α → Except ε β} {l : List α} {e : ε} (failed : l.mapM f = .error e) :
    ∃ before a after bs, l = before ++ a :: after ∧ before.mapM f = .ok bs ∧ f a = .error e := by
  induction l with
  | nil => cases failed
  | cons a l ih =>
      rw [List.mapM_cons] at failed
      cases first : f a with
      | error e' =>
          rw [first] at failed
          obtain rfl := Except.error.inj failed
          exact ⟨[], a, l, [], rfl, rfl, first⟩
      | ok b =>
          cases others : l.mapM f with
          | ok bs =>
              rw [first, others] at failed
              cases failed
          | error e' =>
              rw [first, others] at failed
              obtain rfl := Except.error.inj failed
              obtain ⟨before, c, after, bs, rfl, readable, unreadable⟩ := ih others
              exact ⟨a :: before, c, after, b :: bs, rfl,
                mapM_cons_eq_ok_iff.2 ⟨b, bs, first, readable, rfl⟩, unreadable⟩

/-- A list gives these results when its elements give them one by one. -/
theorem mapM_eq_ok_iff {f : α → Except ε β} {l : List α} {bs : List β} :
    l.mapM f = .ok bs ↔ List.Forall₂ (fun a b => f a = .ok b) l bs := by
  induction l generalizing bs with
  | nil =>
      rw [List.forall₂_nil_left_iff]
      exact ⟨fun h => (Except.ok.inj h).symm, fun h => congrArg Except.ok h.symm⟩
  | cons a l ih =>
      rw [mapM_cons_eq_ok_iff, List.forall₂_cons_left_iff]
      simp only [ih]

theorem length_of_mapM {f : α → Except ε β} {l : List α} {bs : List β}
    (h : l.mapM f = .ok bs) : bs.length = l.length :=
  (mapM_eq_ok_iff.1 h).length_eq.symm

/-- A list gives results when each of its elements does. -/
@[simp] theorem exists_mapM_eq_ok_iff {f : α → Except ε β} {l : List α} :
    (∃ bs, l.mapM f = .ok bs) ↔ ∀ a ∈ l, ∃ b, f a = .ok b := by
  induction l with
  | nil => exact ⟨fun _ _ mem => absurd mem List.not_mem_nil, fun _ => ⟨[], rfl⟩⟩
  | cons a l ih =>
      rw [List.forall_mem_cons, ← ih]
      simp only [mapM_cons_eq_ok_iff]
      constructor
      · rintro ⟨bs, b, rest, first, others, rfl⟩
        exact ⟨⟨b, first⟩, rest, others⟩
      · rintro ⟨⟨b, first⟩, rest, others⟩
        exact ⟨b :: rest, b, rest, first, others, rfl⟩

/-- A list of which no element fails. -/
theorem mapM_eq_ok {f : α → Except ε β} {g : α → β} {l : List α}
    (h : ∀ a ∈ l, f a = .ok (g a)) : l.mapM f = .ok (l.map g) := by
  induction l with
  | nil => rfl
  | cons a l ih =>
      rw [List.forall_mem_cons] at h
      exact mapM_cons_eq_ok_iff.2 ⟨g a, l.map g, h.1, ih h.2, rfl⟩

end Outbound
