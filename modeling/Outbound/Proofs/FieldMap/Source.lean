/-
# Outbound.Proofs.FieldMap.Source — maps that are made of data

What is entered under a datum is entered under the name that it is, unless it is
absent (`entering_eq_ok`).  A map is `Regular` when each of its names is the one
that is found when the name is given as a datum.  Every map that is made of data is
regular (`regular_ofDatum`), and stays so when data are entered; entering the
entries of a regular map one after the other makes the same map, so a copy of it
is the map itself (`recast_of_regular`).
-/
import Outbound.FieldMap.Source
import Outbound.Proofs.FieldMap.Writing
import Outbound.Proofs.Fallible

namespace Outbound

set_option autoImplicit false

/-! ## Names -/

namespace Keying

theorem name?_ne_none {k : Keying} {d : Datum} (present : d ≠ .absent) : k.name? d ≠ .ok none := by
  intro none
  cases d with
  | absent => exact present rfl
  | octets holder bytes => cases k <;> cases holder <;> cases none
  | record typeName isFixed fields => cases k <;> cases isFixed <;> cases none
  | _ => cases k <;> cases none

/-- The name that a datum is is the name that it is when it is given as a datum again. -/
theorem name?_toDatum {k : Keying} {d : Datum} {name : Name} (named : k.name? d = .ok (some name)) :
    k.name? name.toDatum = .ok (some name) := by
  cases d with
  | octets holder bytes => cases k <;> cases holder <;> cases named <;> rfl
  | record typeName isFixed fields =>
      cases k <;> cases isFixed <;> cases named
      rfl
  | _ => cases k <;> cases named <;> rfl

end Keying

namespace FieldMap

/-! ## Entering data -/

section

variable {enter : Fields → Name → List Datum → Fields} {m left : Fields} {d : Datum}
  {values : List Datum}

theorem entering_of_present (present : d ≠ .absent) : entering enter m d values =
    (m.keying.name? d).map fun found => match found with
      | some found => enter m found values
      | none => m := by
  cases d <;> first | rfl | exact absurd rfl present

/-- Values are entered for the name that a datum is; an absent one enters nothing. -/
theorem entering_eq_ok (entered : entering enter m d values = .ok left) :
    d = .absent ∧ left = m ∨
      ∃ name, m.keying.name? d = .ok (some name) ∧ left = enter m name values := by
  by_cases absent : d = .absent
  · subst absent
    exact .inl ⟨rfl, (Except.ok.inj entered).symm⟩
  · rw [entering_of_present absent] at entered
    obtain ⟨found, named, isLeft⟩ := map_eq_ok_iff.1 entered
    cases found with
    | none => exact absurd named (Keying.name?_ne_none absent)
    | some name => exact .inr ⟨name, named, isLeft.symm⟩

theorem enterEntry_eq_ok {enter : Fields → Datum → List Datum → Except Misuse Fields}
    {entry : Datum × Datum} (entered : enterEntry enter m entry = .ok left) :
    ∃ values, entry.2.asValues? = .ok values ∧ enter m entry.1 values = .ok left :=
  bind_eq_ok_iff.1 entered

/-- Entries are entered one after the other. -/
theorem merge_cons_eq_ok {enter : Fields → Datum → List Datum → Except Misuse Fields}
    {entry : Datum × Datum} {rest : List (Datum × Datum)}
    (merged : merge enter m (entry :: rest) = (left, .ok ())) :
    ∃ entered, enterEntry enter m entry = .ok entered ∧ merge enter entered rest = (left, .ok ()) := by
  rw [merge] at merged
  cases first : enterEntry enter m entry with
  | error misuse =>
      rw [first] at merged
      cases merged
  | ok entered =>
      rw [first] at merged
      exact ⟨entered, rfl, merged⟩

end

/-- A map that is made of a datum has the entries of the datum entered. -/
theorem ofDatum_of_present {k : Keying} {d : Datum} (present : d ≠ .absent) :
    ofDatum k d = (mergeSource addDatum (empty k) d).2.map
      fun _ => (mergeSource addDatum (empty k) d).1 := by
  cases d <;> first | rfl | exact absurd rfl present

theorem merge_of_ofDatum {k : Keying} {d : Datum} {m : Fields} (made : ofDatum k d = .ok m)
    (present : d ≠ .absent) :
    ∃ entries, d.entries? = .ok entries ∧ merge addDatum (empty k) entries = (m, .ok ()) := by
  rw [ofDatum_of_present present, mergeSource] at made
  cases isMap : d.entries? with
  | error misuse =>
      rw [isMap] at made
      cases made
  | ok entries =>
      rw [isMap] at made
      obtain ⟨u, all, isLeft⟩ := map_eq_ok_iff.1 made
      exact ⟨entries, rfl, Prod.ext isLeft all⟩

/-! ## Regular maps -/

/-- The names of the map are compared in a way, and each is the name that it is as a datum. -/
structure Regular (k : Keying) (m : Fields) : Prop where
  keying : m.keying = k
  named : ∀ f ∈ m.fields, k.name? f.name.toDatum = .ok (some f.name)

section

variable {k : Keying} {m left : Fields}

theorem regular_empty : (empty k : Fields).Regular k := ⟨rfl, nofun⟩

@[grind →] theorem mem_upsertFields {key : Key} {f : Field Datum → Field Datum} {new g : Field Datum}
    {fields : List (Field Datum)} (mem : g ∈ upsertFields k key f new fields) :
    g = new ∨ g ∈ fields ∨ ∃ field ∈ fields, g = f field := by
  induction fields with
  | nil => exact .inl (List.mem_singleton.1 mem)
  | cons field rest ih =>
      rw [upsertFields] at mem
      split at mem <;> grind

namespace Regular

variable (regular : m.Regular k) {name : Name} (named : k.name? name.toDatum = .ok (some name))
  (values : List Datum)

include regular

theorem erase (name : Name) : (m.erase name).Regular k :=
  ⟨regular.keying, fun f mem => regular.named f (List.mem_of_mem_filter mem)⟩

include named

theorem add : (m.add name values).Regular k := by
  refine ⟨regular.keying, fun g mem => ?_⟩
  rcases mem_upsertFields mem with rfl | held | ⟨f, held, rfl⟩
  · exact named
  · exact regular.named g held
  · exact regular.named f held

theorem put : (m.put name values).Regular k := by
  refine ⟨regular.keying, fun g mem => ?_⟩
  rcases mem_upsertFields mem with rfl | held | ⟨f, held, rfl⟩
  · exact named
  · exact regular.named g held
  · exact named

theorem replace : (m.replace name values).Regular k := by
  rw [FieldMap.replace]
  split
  · exact regular.erase name
  · exact regular.put named values

omit named

theorem addDatum {d : Datum} (entered : m.addDatum d values = .ok left) : left.Regular k := by
  rcases entering_eq_ok entered with ⟨-, rfl⟩ | ⟨name, named, rfl⟩
  · exact regular
  · rw [regular.keying] at named
    exact regular.add (Keying.name?_toDatum named) values

theorem replaceDatum {d : Datum} (entered : m.replaceDatum d values = .ok left) :
    left.Regular k := by
  rcases entering_eq_ok entered with ⟨-, rfl⟩ | ⟨name, named, rfl⟩
  · exact regular
  · rw [regular.keying] at named
    exact regular.replace (Keying.name?_toDatum named) values

omit values

theorem merge {entries : List (Datum × Datum)}
    (merged : merge FieldMap.addDatum m entries = (left, .ok ())) : left.Regular k := by
  induction entries generalizing m with
  | nil =>
      obtain rfl := congrArg Prod.fst merged
      exact regular
  | cons entry rest ih =>
      obtain ⟨entered, first, merged⟩ := merge_cons_eq_ok merged
      obtain ⟨values, -, first⟩ := enterEntry_eq_ok first
      exact ih (regular.addDatum values first) merged

end Regular

theorem regular_ofDatum {d : Datum} (made : ofDatum k d = .ok m) : m.Regular k := by
  by_cases absent : d = .absent
  · subst absent
    obtain rfl := Except.ok.inj made
    exact regular_empty
  · obtain ⟨entries, -, merged⟩ := merge_of_ofDatum made absent
    exact regular_empty.merge merged

/-! ## Copies -/

theorem upsertFields_of_unknown {key : Key} {f : Field Datum → Field Datum} {new : Field Datum}
    {fields : List (Field Datum)} (unknown : key ∉ fields.map fun g => k.key g.name) :
    upsertFields k key f new fields = fields ++ [new] := by
  induction fields with
  | nil => rfl
  | cons field rest ih => grind [upsertFields]

theorem addDatum_toDatum {name : Name} (named : m.keying.name? name.toDatum = .ok (some name))
    (values : List Datum) : m.addDatum name.toDatum values = .ok (m.add name values) := by
  rw [addDatum, entering_of_present (by cases name <;> nofun), named]
  rfl

/-- Entries of other names are entered as they are. -/
theorem merge_fields {fields : List (Field Datum)}
    (named : ∀ f ∈ fields, m.keying.name? f.name.toDatum = .ok (some f.name))
    (distinct : ((m.fields ++ fields).map fun f => m.keying.key f.name).Nodup) :
    ∃ merged, merge addDatum m (fields.map fun f => (f.name.toDatum, .list f.values)) =
      (merged, .ok ()) ∧ merged.keying = m.keying ∧ merged.fields = m.fields ++ fields := by
  induction fields generalizing m with
  | nil => exact ⟨m, rfl, rfl, (List.append_nil _).symm⟩
  | cons f rest ih =>
      rw [List.forall_mem_cons] at named
      have unknown : m.keying.key f.name ∉ m.fields.map fun g => m.keying.key g.name := by
        rw [List.map_append, List.map_cons] at distinct
        exact fun known => List.disjoint_of_nodup_append distinct known List.mem_cons_self
      have added : (m.add f.name f.values).fields = m.fields ++ [f] :=
        upsertFields_of_unknown unknown
      have first : enterEntry addDatum m (f.name.toDatum, .list f.values) =
          .ok (m.add f.name f.values) := addDatum_toDatum named.1 f.values
      rw [List.append_cons, ← added] at distinct
      obtain ⟨merged, all, keying, fields⟩ := ih (m := m.add f.name f.values) named.2 distinct
      refine ⟨merged, ?_, keying, ?_⟩
      · rw [List.map_cons, merge, first]
        exact all
      · rw [fields, added, List.append_assoc, List.singleton_append]

/-- **A copy of a map is the map.** -/
theorem recast_of_regular (regular : m.Regular k) : recast k m = .ok m := by
  obtain ⟨rfl, named⟩ := regular
  obtain ⟨merged, all, keying, fields⟩ := merge_fields (m := empty m.keying) named m.distinct
  have entries : m.toDatum.entries? =
      .ok (m.fields.map fun f => (f.name.toDatum, .list f.values)) := by
    show Except.ok _ = _
    rw [List.map_map]
    rfl
  have present : m.toDatum ≠ .absent := by
    rw [toDatum]
    nofun
  rw [recast, ofDatum_of_present present, mergeSource, entries]
  simp only [all]
  exact congrArg Except.ok (eq_of_fields keying fields)

end

end FieldMap

end Outbound
