/-
# Outbound.Proofs.FieldMap.Lookup — what is found under a name

No two entries of a map have one key, so a look-up finds an entry exactly when the
map has it (`find?_eq_some_iff`), wherever it stands.  What was put under a name is
found there (`get?_put`), and maps of texts find the same under every name exactly
when their entries are the same up to order (`Lists.perm_iff_get?`).
-/
import Outbound.Proofs.FieldMap.Texts

namespace Outbound.FieldMap

set_option autoImplicit false

open Query (Contribution)

variable {α : Type}

/-! ## Entries -/

theorem find?_eq_some_iff {m : FieldMap α} {name : Name} {f : Field α} :
    m.find? name = some f ↔ f ∈ m.fields ∧ m.keying.key f.name = m.keying.key name := by
  constructor
  · intro found
    rw [find?] at found
    exact ⟨List.mem_of_find?_eq_some found, by simpa using List.find?_some found⟩
  · rintro ⟨mem, key⟩
    rw [find?]
    cases found : m.fields.find? fun f => m.keying.key f.name = m.keying.key name with
    | none => exact absurd (decide_eq_true key) (List.find?_eq_none.1 found f mem)
    | some g =>
        have isKey : m.keying.key g.name = m.keying.key name := by simpa using List.find?_some found
        rw [List.inj_on_of_nodup_map m.distinct (List.mem_of_find?_eq_some found) mem
          (isKey.trans key.symm)]

theorem get?_eq_some_iff {m : FieldMap α} {name : Name} {values : List α} :
    m.get? name = some values ↔
      ∃ f ∈ m.fields, m.keying.key f.name = m.keying.key name ∧ f.values = values := by
  rw [get?, Option.map_eq_some_iff]
  simp only [find?_eq_some_iff, and_assoc]

/-! ## Putting -/

/-- What is put under a name is all there is under it. -/
@[simp] theorem get?_put (m : FieldMap α) (name : Name) (values : List α) :
    (m.put name values).get? name = some values := by
  simp [get?, find?_eq_at?]

/-- A text that replaces what there was under a name. -/
@[simp] theorem replaceDatum_text (m : Fields) (name : String) (value : Datum) :
    m.replaceDatum (.text name) [value] = .ok (m.put (.text name) [value]) := rfl

/-- A value that replaced what there was under a name replaces itself. -/
theorem replaceDatum_again {m left : Fields} {name value : Datum}
    (replaced : m.replaceDatum name [value] = .ok left) :
    left.replaceDatum name [value] = .ok left := by
  rcases entering_eq_ok replaced with ⟨rfl, rfl⟩ | ⟨found, named, rfl⟩
  · exact replaced
  · have present : name ≠ .absent := by
      rintro rfl
      cases keying : m.keying <;> rw [keying] at named <;> cases named
    show entering replace (m.put found [value]) name [value] = .ok (m.put found [value])
    simp [entering_of_present present, named, Except.map, replace]

/-- The values under each name are those that there were before, or the value that replaced them. -/
theorem values_of_replaceDatum {m left : Fields} {name value : Datum}
    (replaced : m.replaceDatum name [value] = .ok left) :
    ∀ f ∈ left.fields, f ∈ m.fields ∨ f.values = [value] := by
  intro f mem
  rcases entering_eq_ok replaced with ⟨-, rfl⟩ | ⟨found, -, rfl⟩
  · exact .inl mem
  · have mem : f ∈ (m.put found [value]).fields := mem
    grind

/-! ## Maps of texts -/

theorem Lists.get?_eq_some_iff {m : Fields} {entries : List Contribution} (lists : m.Lists entries)
    {name : Name} {values : List Datum} :
    m.get? name = some values ↔
      ∃ e ∈ entries, Keying.exact.key (.text e.1) = Keying.exact.key name ∧
        e.2.map Datum.ofText? = values := by
  rw [FieldMap.get?_eq_some_iff, lists.keying, lists.fields]
  simp only [List.mem_map, exists_exists_and_eq_and, Query.field]

theorem Lists.mem_iff_get? {m : Fields} {entries : List Contribution} (lists : m.Lists entries)
    {e : Contribution} :
    e ∈ entries ↔ m.get? (.text e.1) = some (e.2.map Datum.ofText?) := by
  rw [lists.get?_eq_some_iff]
  constructor
  · intro mem
    exact ⟨e, mem, rfl, rfl⟩
  · rintro ⟨d, mem, key, values⟩
    have same : Query.field d = Query.field e := by
      have name : d.1 = e.1 := by simpa [Keying.key, Keying.fold, Name.key] using key
      rw [Query.field, Query.field, name, values]
    exact field_injective same ▸ mem

/-- Maps of texts with the same entries in any order are those that find the same under every
name. -/
theorem Lists.perm_iff_get? {m n : Fields} {entries others : List Contribution}
    (lists : m.Lists entries) (lists' : n.Lists others) :
    entries.Perm others ↔ ∀ name, m.get? name = n.get? name := by
  constructor
  · intro perm name
    ext values
    rw [lists.get?_eq_some_iff, lists'.get?_eq_some_iff]
    simp only [perm.mem_iff]
  · intro same
    refine (List.perm_ext_iff_of_nodup lists.distinct.of_map lists'.distinct.of_map).2 fun e => ?_
    rw [lists.mem_iff_get?, lists'.mem_iff_get?, same]

end Outbound.FieldMap
