/-
# Outbound.Proofs.FieldMap.Texts — parameter maps of texts

Names that are texts and values that are texts or missing are contributions
(`Query.Contribution`).  A map that `Lists` contributions holds exactly these, in
this order.  Adding to it is entering (`Lists.add`), filling it from a source is
entering what the source contributes (`Lists.merge`), and its query is written
from its parameters one by one (`Lists.ofParams?`).
-/
import Outbound.Proofs.FieldMap.Source
import Outbound.Proofs.Query.Grouping

namespace Outbound

set_option autoImplicit false

open Query (Contribution enter spread grouped)

def Query.field (c : Contribution) : Field Datum := ⟨.text c.1, c.2.map Datum.ofText?⟩

def Datum.value? : Datum → Option (Option String)
  | .text s => some (some s)
  | .absent => some none
  | _ => none

/-- What an entry of a source contributes when its name is a text and its values are texts or
missing. -/
def Query.contribution? (entry : Datum × Datum) : Option Contribution := do
  let name ← entry.1.asText?
  let values ← entry.2.asValues?.toOption
  return (name, ← values.mapM Datum.value?)

/-- What a source contributes; an absent one contributes nothing. -/
def Datum.contributions? (source : Datum) : Option (List Contribution) :=
  match source with
  | .absent => some []
  | d => d.entries?.toOption.bind (·.mapM Query.contribution?)

theorem Datum.eq_ofText?_of_value? {d : Datum} {value : Option String}
    (h : d.value? = some value) : d = .ofText? value := by
  cases d <;> simp only [Datum.value?, Option.some.injEq, reduceCtorEq] at h <;> subst h <;> rfl

theorem Datum.eq_map_of_mapM_value? {ds : List Datum} {values : List (Option String)}
    (h : ds.mapM Datum.value? = some values) : ds = values.map .ofText? := by
  induction ds generalizing values with
  | nil =>
      rw [List.mapM_nil] at h
      obtain rfl := Option.some.inj h
      rfl
  | cons d ds ih =>
      rw [List.mapM_cons] at h
      obtain ⟨value, first, h⟩ := Option.bind_eq_some_iff.1 h
      obtain ⟨more, rest, h⟩ := Option.bind_eq_some_iff.1 h
      obtain rfl := Option.some.inj h
      rw [Datum.eq_ofText?_of_value? first, ih rest, List.map_cons]

namespace FieldMap

/-- The map holds these names and values in this order, its names being compared as they are. -/
structure Lists (m : Fields) (entries : List Contribution) : Prop where
  keying : m.keying = .exact
  fields : m.fields = entries.map Query.field

theorem lists_empty : (empty .exact : Fields).Lists [] := ⟨rfl, rfl⟩

theorem Lists.distinct {m : Fields} {entries : List Contribution} (lists : m.Lists entries) :
    (entries.map Prod.fst).Nodup := by
  have keys : m.fields.map (fun f => m.keying.key f.name) =
      (entries.map Prod.fst).map Key.text := by
    rw [lists.keying, lists.fields]
    simp [Query.field, Keying.key, Keying.fold, Name.key]
  have distinct := m.distinct
  rw [keys] at distinct
  exact distinct.of_map _

theorem field_injective : Function.Injective Query.field := by
  intro c d same
  have values : Function.Injective Datum.ofText? := by
    intro v w h
    cases v <;> cases w <;> simp_all [Datum.ofText?]
  obtain ⟨name, vs⟩ := c
  obtain ⟨name', ws⟩ := d
  simp only [Query.field, Field.mk.injEq, Name.text.injEq] at same
  rw [same.1, List.map_injective_iff.2 values same.2]

/-- Maps that list contributions are equal when they list the same ones. -/
theorem Lists.eq_iff {m n : Fields} {entries others : List Contribution} (lists : m.Lists entries)
    (lists' : n.Lists others) : m = n ↔ entries = others := by
  constructor
  · rintro rfl
    have same := lists.fields
    rw [lists'.fields] at same
    exact (List.map_injective_iff.2 field_injective same).symm
  · rintro rfl
    cases m
    cases n
    obtain ⟨rfl, rfl⟩ := lists
    obtain ⟨rfl, rfl⟩ := lists'
    rfl

theorem upsertFields_map_field (c : Contribution) (entries : List Contribution) :
    upsertFields .exact (Keying.key .exact (.text c.1))
        (fun g => { g with values := g.values ++ c.2.map Datum.ofText? })
        (Query.field c) (entries.map Query.field) = (enter c entries).map Query.field := by
  induction entries with
  | nil => rfl
  | cons e rest ih =>
      rw [List.map_cons, upsertFields, enter]
      have same_iff : Keying.exact.key (Query.field e).name = Keying.exact.key (.text c.1) ↔
          e.1 = c.1 := by
        simp [Query.field, Keying.key, Keying.fold, Name.key]
      by_cases same : e.1 = c.1
      · rw [if_pos (same_iff.2 same), if_pos same, List.map_cons]
        simp [Query.field]
      · rw [if_neg (fun h => same (same_iff.1 h)), if_neg same, List.map_cons, ih]

theorem Lists.add {m : Fields} {entries : List Contribution} (lists : m.Lists entries)
    (c : Contribution) :
    (m.add (.text c.1) (c.2.map Datum.ofText?)).Lists (enter c entries) := by
  refine ⟨lists.keying, ?_⟩
  simp only [FieldMap.add, lists.keying, lists.fields]
  exact upsertFields_map_field c entries

theorem Lists.addDatum {m : Fields} {entries : List Contribution} (lists : m.Lists entries)
    (c : Contribution) :
    ∃ added, m.addDatum (.text c.1) (c.2.map Datum.ofText?) = .ok added ∧
      added.Lists (enter c entries) := by
  refine ⟨_, ?_, lists.add c⟩
  simp only [FieldMap.addDatum, entering, Keying.name?]
  rfl

/-- Distinct names with any values are listed by the map that is made of them. -/
theorem lists_ofFields {entries : List Contribution} (distinct : (entries.map Prod.fst).Nodup) :
    (ofFields .exact (entries.map Query.field)).Lists entries := by
  have added : ∀ {m : Fields} {before : List Contribution} (cs : List Contribution),
      m.Lists before → ((cs.map Query.field).foldl (fun m f => m.add f.name f.values) m).Lists
        (cs.foldl (fun entries c => enter c entries) before) := by
    intro m before cs lists
    induction cs generalizing m before with
    | nil => exact lists
    | cons c cs ih => exact ih (lists.add c)
  have whole := added entries lists_empty
  rw [← Query.grouped_eq_foldl, Query.grouped_of_nodup distinct] at whole
  exact whole

/-- Entries of texts are entered one after the other, and all of them. -/
theorem Lists.merge {m : Fields} {entries : List Contribution} (lists : m.Lists entries)
    {source : List (Datum × Datum)} {cs : List Contribution}
    (texts : source.mapM Query.contribution? = some cs) :
    ∃ merged, merge FieldMap.addDatum m source = (merged, .ok ()) ∧
      merged.Lists (cs.foldl (fun entries c => enter c entries) entries) := by
  induction source generalizing m entries cs with
  | nil =>
      rw [List.mapM_nil] at texts
      obtain rfl := Option.some.inj texts
      exact ⟨m, rfl, lists⟩
  | cons entry source ih =>
      rw [List.mapM_cons] at texts
      obtain ⟨c, first, texts⟩ := Option.bind_eq_some_iff.1 texts
      obtain ⟨more, rest, texts⟩ := Option.bind_eq_some_iff.1 texts
      obtain rfl := Option.some.inj texts
      obtain ⟨name, isName, first⟩ := Option.bind_eq_some_iff.1 first
      obtain ⟨data, areValues, first⟩ := Option.bind_eq_some_iff.1 first
      obtain ⟨values, areTexts, first⟩ := Option.bind_eq_some_iff.1 first
      obtain rfl := Option.some.inj first
      obtain ⟨added, isAdded, addedLists⟩ := lists.addDatum (name, values)
      obtain ⟨merged, isMerged, mergedLists⟩ := ih addedLists rest
      refine ⟨merged, ?_, mergedLists⟩
      have entered : enterEntry FieldMap.addDatum m entry = .ok added := by
        rw [← isAdded, ← Datum.eq_map_of_mapM_value? areTexts]
        obtain ⟨key, value⟩ := entry
        have named : key = .text name := by simpa using isName
        have valued : value.asValues? = .ok data := by simpa using areValues
        simp only [enterEntry, named, valued, Except.bind]
      rw [FieldMap.merge, entered]
      exact isMerged

/-- A map made of texts lists what its source contributes. -/
theorem lists_ofDatum {source : Datum} {cs : List Contribution}
    (texts : source.contributions? = some cs) :
    ∃ m, ofDatum .exact source = .ok m ∧ m.Lists (grouped cs) := by
  by_cases absent : source = .absent
  · subst absent
    obtain rfl := Option.some.inj texts
    exact ⟨_, rfl, lists_empty⟩
  · have contributed : source.entries?.toOption.bind (·.mapM Query.contribution?) = some cs := by
      cases source <;> simp_all [Datum.contributions?]
    obtain ⟨entries, areEntries, areTexts⟩ := Option.bind_eq_some_iff.1 contributed
    have isSource : source.entries? = .ok entries := by simpa using areEntries
    obtain ⟨m, merged, lists⟩ := lists_empty.merge areTexts
    refine ⟨m, ?_, Query.grouped_eq_foldl cs ▸ lists⟩
    simp only [ofDatum_of_present absent, mergeSource, isSource, merged, Except.map]

/-! ## Writing -/

theorem mapM_parameter? (parameters : List Query.Parameter) :
    (parameters.map fun p => (Name.text p.1, Datum.ofText? p.2)).mapM Query.parameter? =
      some parameters := by
  induction parameters with
  | nil => rfl
  | cons p parameters ih =>
      obtain ⟨name, value⟩ := p
      rw [List.map_cons, List.mapM_cons, ih]
      cases value <;> rfl

/-- The entries of a map of texts are its parameters. -/
theorem mapM_parameter?_pairs (entries : List Contribution) :
    (Query.pairs (entries.map Query.field)).mapM Query.parameter? = some (spread entries) := by
  have pairs : Query.pairs (entries.map Query.field) =
      (spread entries).map fun p => (Name.text p.1, Datum.ofText? p.2) := by
    simp [Query.pairs, Query.field, spread, List.flatMap_map, List.map_flatMap, Function.comp_def]
  rw [pairs, mapM_parameter?]

theorem Lists.ofParams? {m : Fields} {entries : List Contribution} (lists : m.Lists entries)
    (form : QueryForm) :
    Query.ofParams? form (some m) =
      .ok (if entries = [] then none else some (Query.write form (spread entries))) := by
  have isEmpty_iff : m.isEmpty = true ↔ entries = [] := by
    simp [FieldMap.isEmpty, lists.fields]
  by_cases none : entries = []
  · simp [Query.ofParams?, isEmpty_iff.2 none, none]
  · rw [Query.ofParams?, if_neg (fun h => none (isEmpty_iff.1 h)), Query.writePairs, lists.fields,
      mapM_parameter?_pairs, if_neg none]
    rfl

end FieldMap

end Outbound
