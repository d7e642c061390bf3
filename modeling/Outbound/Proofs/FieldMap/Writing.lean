/-
# Outbound.Proofs.FieldMap.Writing — what is read after a map is written to

A map is known by its keys in order and by the entry of each key: the entries are
those found under the keys (`fields_eq_filterMap`).  Each way of writing is
specified by what it does to the two.

* Adding and putting keep the keys that there are, and append the key of a new
  name (`keys_add`, `keys_put`); under another key nothing is changed (`at?_add`,
  `at?_put`).
* Erasing leaves the other keys and what is found under them (`keys_erase`,
  `at?_erase`); erasing the first entry is erasing its name
  (`eraseFirst_eq_erase`).
-/
import Mathlib.Data.List.Nodup
import Outbound.FieldMap.Basic

namespace Outbound.FieldMap

set_option autoImplicit false

variable {α : Type}

def keys (m : FieldMap α) : List Key := m.fields.map fun f => m.keying.key f.name

def at? (m : FieldMap α) (key : Key) : Option (Field α) :=
  m.fields.find? fun f => m.keying.key f.name = key

theorem find?_eq_at? (m : FieldMap α) (name : Name) : m.find? name = m.at? (m.keying.key name) :=
  rfl

@[simp] theorem keys_empty (k : Keying) : (empty k : FieldMap α).keys = [] := rfl

theorem isSome_at?_iff {m : FieldMap α} {key : Key} : (m.at? key).isSome ↔ key ∈ m.keys := by
  simp [at?, keys, List.find?_isSome]

/-- The entries are those that are found under the keys. -/
theorem fields_eq_filterMap (m : FieldMap α) : m.fields = m.keys.filterMap m.at? := by
  have found : ∀ f ∈ m.fields, m.at? (m.keying.key f.name) = some f := by
    intro f mem
    have some_of : (m.at? (m.keying.key f.name)).isSome :=
      isSome_at?_iff.2 (List.mem_map_of_mem mem)
    obtain ⟨g, isFound⟩ := Option.isSome_iff_exists.1 some_of
    have isKey : m.keying.key g.name = m.keying.key f.name := by
      simpa using List.find?_some isFound
    rw [isFound, List.inj_on_of_nodup_map m.distinct (List.mem_of_find?_eq_some isFound) mem isKey]
  rw [keys, List.filterMap_map]
  calc m.fields = m.fields.filterMap some := List.filterMap_some.symm
    _ = _ := (List.filterMap_congr found).symm

theorem eq_of_fields {m n : FieldMap α} (keying : m.keying = n.keying) (fields : m.fields = n.fields) :
    m = n := by
  cases m
  cases n
  simp_all

/-- Maps are equal when they have the same keys in order and the same entry for each. -/
theorem eq_of_at? {m n : FieldMap α} (keying : m.keying = n.keying) (keys : m.keys = n.keys)
    (entries : ∀ key, m.at? key = n.at? key) : m = n := by
  apply eq_of_fields keying
  rw [m.fields_eq_filterMap, n.fields_eq_filterMap, keys, funext entries]

/-! ## One entry changed or appended -/

section

variable {k : Keying} {key : Key} (f : Field α → Field α) (new : Field α)

theorem map_key_upsertFields (hnew : k.key new.name = key)
    (hf : ∀ g, k.key g.name = key → k.key (f g).name = key) (fields : List (Field α)) :
    (upsertFields k key f new fields).map (fun g => k.key g.name) =
      (fields.map fun g => k.key g.name) ++
        if key ∈ fields.map (fun g => k.key g.name) then [] else [key] := by
  induction fields with
  | nil => simp [upsertFields, hnew]
  | cons field rest ih =>
      by_cases same : k.key field.name = key
      · simp [upsertFields, same, hf field same]
      · simp [upsertFields, same, ih, Ne.symm same]

theorem find?_upsertFields (hnew : k.key new.name = key)
    (hf : ∀ g, k.key g.name = key → k.key (f g).name = key) (fields : List (Field α)) (other : Key) :
    (upsertFields k key f new fields).find? (fun g => k.key g.name = other) =
      if key = other then some (((fields.find? fun g => k.key g.name = other).map f).getD new)
      else fields.find? fun g => k.key g.name = other := by
  induction fields with
  | nil => by_cases same : key = other <;> simp [upsertFields, hnew, same]
  | cons field rest ih =>
      by_cases here : k.key field.name = key
      · by_cases same : key = other
        · simp [upsertFields, here, hf field here, same]
        · simp [upsertFields, here, hf field here, same]
      · by_cases same : key = other
        · subst same
          simp [upsertFields, here, ih]
        · simp only [upsertFields, here, if_false, List.find?_cons, ih, same]

end

variable (m : FieldMap α) (name : Name) (values : List α)

@[simp] theorem keying_put : (m.put name values).keying = m.keying := rfl

/-! ## Adding and putting -/

@[simp] theorem keys_add : (m.add name values).keys =
    m.keys ++ if m.keying.key name ∈ m.keys then [] else [m.keying.key name] :=
  map_key_upsertFields (fun g => { g with values := g.values ++ values }) ⟨name, values⟩ rfl
    (fun _ same => same) m.fields

@[simp] theorem at?_add (key : Key) : (m.add name values).at? key =
    if m.keying.key name = key then
      some (((m.at? key).map fun f => { f with values := f.values ++ values }).getD ⟨name, values⟩)
    else m.at? key :=
  find?_upsertFields (fun g => { g with values := g.values ++ values }) ⟨name, values⟩ rfl
    (fun _ same => same) m.fields key

@[simp] theorem keys_put : (m.put name values).keys =
    m.keys ++ if m.keying.key name ∈ m.keys then [] else [m.keying.key name] :=
  map_key_upsertFields (fun _ => ⟨name, values⟩) ⟨name, values⟩ rfl (fun _ _ => rfl) m.fields

@[simp] theorem at?_put (key : Key) : (m.put name values).at? key =
    if m.keying.key name = key then some ⟨name, values⟩ else m.at? key := by
  have found : (m.put name values).at? key = if m.keying.key name = key then
      some (((m.at? key).map fun _ => ⟨name, values⟩).getD ⟨name, values⟩) else m.at? key :=
    find?_upsertFields (fun _ => ⟨name, values⟩) ⟨name, values⟩ rfl (fun _ _ => rfl) m.fields key
  rw [found]
  cases m.at? key <;> rfl

@[grind →] theorem mem_fields_put {m : FieldMap α} {name : Name} {values : List α} {f : Field α}
    (mem : f ∈ (m.put name values).fields) : f ∈ m.fields ∨ f = ⟨name, values⟩ := by
  rw [fields_eq_filterMap, List.mem_filterMap] at mem
  obtain ⟨key, -, found⟩ := mem
  rw [at?_put] at found
  split at found
  · exact .inr (Option.some.inj found).symm
  · exact .inl (List.mem_of_find?_eq_some found)

/-- Of two values that are put under one name one after the other, the second is left. -/
@[simp] theorem put_put (other : List α) :
    (m.put name values).put name other = m.put name other := by
  refine eq_of_at? rfl ?_ ?_
  · by_cases known : m.keying.key name ∈ m.keys <;> simp [known]
  · intro key
    by_cases same : m.keying.key name = key <;> simp [same]

/-! ## Erasing -/

@[simp] theorem keys_erase : (m.erase name).keys = m.keys.filter (· ≠ m.keying.key name) := by
  simp only [keys, erase, List.filter_map]
  rfl

@[simp] theorem at?_erase (key : Key) : (m.erase name).at? key =
    if m.keying.key name = key then none else m.at? key := by
  simp only [at?, erase, List.find?_filter]
  by_cases same : m.keying.key name = key
  · subst same
    simp +contextual
  · rw [if_neg same]
    congr 1
    funext f
    by_cases isKey : m.keying.key f.name = key
    · simp [isKey, Ne.symm same]
    · simp [isKey]

/-- A name that is not there is erased by doing nothing. -/
theorem erase_of_unknown {m : FieldMap α} {name : Name} (unknown : m.get? name = none) :
    m.erase name = m := by
  rw [get?, Option.map_eq_none_iff, find?_eq_at?] at unknown
  refine eq_of_fields rfl (List.filter_eq_self.2 fun f mem => ?_)
  have other : m.keying.key f.name ≠ m.keying.key name := by
    intro same
    have known : (m.at? (m.keying.key name)).isSome :=
      isSome_at?_iff.2 (same ▸ List.mem_map_of_mem mem)
    rw [unknown] at known
    cases known
  simpa using other

/-- The first entry is erased as that of its name. -/
theorem eraseFirst_eq_erase {m : FieldMap α} {f : Field α} {rest : List (Field α)}
    (first : m.fields = f :: rest) : m.eraseFirst = m.erase f.name := by
  have distinct := m.distinct
  rw [first, List.map_cons, List.nodup_cons] at distinct
  refine eq_of_fields rfl ?_
  have others : ∀ g ∈ rest, m.keying.key g.name ≠ m.keying.key f.name := by
    intro g mem same
    exact distinct.1 (same ▸ List.mem_map_of_mem mem)
  have kept : rest.filter (fun g => m.keying.key g.name ≠ m.keying.key f.name) = rest :=
    List.filter_eq_self.2 fun g mem => by simpa using others g mem
  simp only [eraseFirst, erase, first, List.tail_cons]
  rw [List.filter_cons_of_neg (by simp), kept]

end Outbound.FieldMap
