/-
# Outbound.Proofs.Query.Grouping — parameters grouped by their names

Parameters arrive as contributions, each a name with the values it is given.
`grouped` says what a map of parameters makes of them: the names in the order in
which they first came, each with all its values in the order in which they came.
`spread` lists the parameters of contributions one by one.

* `enter_grouped`: entering one more contribution, at the place of its name or at
  the end, gives the grouping of all of them;
* `spread_grouped_perm`: grouping neither loses nor adds a parameter;
* `grouped_spread`: distinct names with at least one value each are grouped as
  they are, also when their values come one by one;
* `gather_eq_flatMap`: parameters one by one are, after grouping, those of each name
  in the order in which they came.
-/
import Mathlib.Data.List.Induction
import Mathlib.Data.List.Nodup
import Outbound.Query

namespace Outbound.Query

set_option autoImplicit false

/-- A name with the values it is given. -/
abbrev Contribution := String × List (Option String)

/-- The names of contributions, each where it first came. -/
def namesOf (cs : List Contribution) : List String := (cs.map Prod.fst).eraseDups

/-- All values that contributions give a name. -/
def valuesOf (name : String) (cs : List Contribution) : List (Option String) :=
  (cs.filter (·.1 = name)).flatMap Prod.snd

/-- The contributions grouped by name. -/
def grouped (cs : List Contribution) : List Contribution :=
  (namesOf cs).map fun name => (name, valuesOf name cs)

/-- The parameters of contributions one by one. -/
def spread (cs : List Contribution) : List Parameter := cs.flatMap fun c => c.2.map (c.1, ·)

/-- A parameter as a contribution of one value. -/
def single (parameter : Parameter) : Contribution := (parameter.1, [parameter.2])

/-- Gives a name more values, where it stands or else at the end. -/
def enter (c : Contribution) : List Contribution → List Contribution
  | [] => [c]
  | e :: rest => if e.1 = c.1 then (e.1, e.2 ++ c.2) :: rest else e :: enter c rest

/-! ## Names -/

theorem eraseDups_concat (names : List String) (name : String) :
    (names ++ [name]).eraseDups =
      if name ∈ names then names.eraseDups else names.eraseDups ++ [name] := by
  rw [List.eraseDups_append, List.removeAll]
  by_cases known : name ∈ names <;> simp [known, List.eraseDups_cons]

@[simp] theorem nodup_eraseDups (names : List String) : names.eraseDups.Nodup := by
  induction names using List.reverseRecOn with
  | nil => exact List.nodup_nil
  | append_singleton names name ih =>
      rw [eraseDups_concat]
      split
      · exact ih
      · rename_i unknown
        exact ih.append (List.nodup_singleton name) (by simpa using unknown)

@[simp] theorem namesOf_concat (cs : List Contribution) (c : Contribution) :
    namesOf (cs ++ [c]) = if c.1 ∈ cs.map Prod.fst then namesOf cs else namesOf cs ++ [c.1] := by
  rw [namesOf, List.map_append]
  exact eraseDups_concat _ _

@[simp] theorem valuesOf_concat (name : String) (cs : List Contribution) (c : Contribution) :
    valuesOf name (cs ++ [c]) = valuesOf name cs ++ if c.1 = name then c.2 else [] := by
  by_cases same : c.1 = name <;> simp [valuesOf, List.filter_append, same]

theorem valuesOf_of_unknown {name : String} {cs : List Contribution}
    (unknown : name ∉ cs.map Prod.fst) : valuesOf name cs = [] := by
  have none : cs.filter (·.1 = name) = [] := by
    rw [List.filter_eq_nil_iff]
    intro c mem same
    exact unknown (List.mem_map.2 ⟨c, mem, by simpa using same⟩)
  rw [valuesOf, none, List.flatMap_nil]

/-! ## Entering -/

/-- Entering among names that are distinct changes the values of one of them, or appends it. -/
theorem enter_map {names : List String} (distinct : names.Nodup)
    (values : String → List (Option String)) (c : Contribution) :
    enter c (names.map fun name => (name, values name)) =
      (names.map fun name => (name, values name ++ if c.1 = name then c.2 else [])) ++
        if c.1 ∈ names then [] else [c] := by
  induction names with
  | nil => rfl
  | cons name names ih =>
      rw [List.nodup_cons] at distinct
      by_cases same : name = c.1
      · subst same
        have untouched : ∀ other ∈ names, ¬ c.1 = other := by
          rintro other mem rfl
          exact distinct.1 mem
        simp +contextual [enter, untouched]
      · rw [List.map_cons, enter, if_neg same, ih distinct.2]
        simp [Ne.symm same]

theorem enter_grouped (cs : List Contribution) (c : Contribution) :
    enter c (grouped cs) = grouped (cs ++ [c]) := by
  have distinct : (namesOf cs).Nodup := nodup_eraseDups _
  have isKnown : c.1 ∈ namesOf cs ↔ c.1 ∈ cs.map Prod.fst := List.mem_eraseDups
  rw [grouped, enter_map distinct, grouped, namesOf_concat]
  by_cases known : c.1 ∈ cs.map Prod.fst
  · simp only [isKnown, known, if_true, valuesOf_concat, List.append_nil]
  · simp [isKnown, known, valuesOf_of_unknown known]

theorem grouped_eq_foldl (cs : List Contribution) :
    grouped cs = cs.foldl (fun entries c => enter c entries) [] := by
  induction cs using List.reverseRecOn with
  | nil => rfl
  | append_singleton cs c ih =>
      rw [← enter_grouped, ih, List.foldl_append, List.foldl_cons, List.foldl_nil]

theorem grouped_append (cs ds : List Contribution) :
    grouped (cs ++ ds) = ds.foldl (fun entries c => enter c entries) (grouped cs) := by
  rw [grouped_eq_foldl, List.foldl_append, ← grouped_eq_foldl]

@[simp] theorem grouped_eq_nil_iff {cs : List Contribution} : grouped cs = [] ↔ cs = [] := by
  cases cs with
  | nil => exact ⟨fun _ => rfl, fun _ => rfl⟩
  | cons c cs => simp [grouped, namesOf, List.eraseDups_cons]

@[simp] theorem map_fst_grouped (cs : List Contribution) :
    (grouped cs).map Prod.fst = namesOf cs := by
  simp [grouped, Function.comp_def]

/-! ## Nothing is lost -/

@[simp] theorem spread_append (cs ds : List Contribution) :
    spread (cs ++ ds) = spread cs ++ spread ds :=
  List.flatMap_append

@[simp] theorem spread_nil : spread [] = [] := rfl

@[simp] theorem spread_cons (c : Contribution) (cs : List Contribution) :
    spread (c :: cs) = c.2.map (c.1, ·) ++ spread cs :=
  List.flatMap_cons

@[simp] theorem spread_map_single (parameters : List Parameter) :
    spread (parameters.map single) = parameters := by
  induction parameters with
  | nil => rfl
  | cons p parameters ih => simp [single, ih]

theorem mem_spread {entries : List Contribution} {p : Parameter} :
    p ∈ spread entries ↔ ∃ e ∈ entries, e.1 = p.1 ∧ p.2 ∈ e.2 := by
  simp only [spread, List.mem_flatMap, List.mem_map]
  constructor
  · rintro ⟨e, mem, value, hasValue, rfl⟩
    exact ⟨e, mem, rfl, hasValue⟩
  · rintro ⟨e, mem, name, hasValue⟩
    exact ⟨e, mem, p.2, hasValue, by rw [name]⟩

theorem spread_enter_perm (c : Contribution) (entries : List Contribution) :
    (spread (enter c entries)).Perm (spread entries ++ c.2.map (c.1, ·)) := by
  induction entries with
  | nil => simp [enter, spread]
  | cons e rest ih =>
      rw [enter]
      split
      · rename_i same
        simpa [← same] using List.perm_append_comm.append_left _
      · simpa using ih.append_left _

/-- Grouping only changes the order of parameters. -/
theorem spread_grouped_perm (cs : List Contribution) : (spread (grouped cs)).Perm (spread cs) := by
  induction cs using List.reverseRecOn with
  | nil => exact .refl _
  | append_singleton cs c ih =>
      rw [← enter_grouped, spread_append]
      refine (spread_enter_perm c _).trans (ih.append ?_)
      simp [spread]

/-- Grouping parameters gives no name without values. -/
theorem ne_nil_of_mem_grouped {parameters : List Parameter} {e : Contribution}
    (mem : e ∈ grouped (parameters.map single)) : e.2 ≠ [] := by
  obtain ⟨name, isName, rfl⟩ := List.mem_map.1 mem
  rw [namesOf, List.mem_eraseDups, List.map_map] at isName
  obtain ⟨p, isParameter, rfl⟩ := List.mem_map.1 isName
  have value : p.2 ∈ valuesOf p.1 (parameters.map single) := by
    rw [valuesOf, List.mem_flatMap]
    refine ⟨single p, List.mem_filter.2 ⟨List.mem_map_of_mem isParameter, ?_⟩, ?_⟩
    · simp [single]
    · exact List.mem_singleton_self _
  exact List.ne_nil_of_mem value

/-! ## What is grouped already -/

theorem enter_of_unknown {c : Contribution} {entries : List Contribution}
    (unknown : c.1 ∉ entries.map Prod.fst) : enter c entries = entries ++ [c] := by
  induction entries with
  | nil => rfl
  | cons e rest ih => grind [enter]

theorem enter_last {name : String} {values more : List (Option String)}
    {entries : List Contribution} (unknown : name ∉ entries.map Prod.fst) :
    enter (name, more) (entries ++ [(name, values)]) = entries ++ [(name, values ++ more)] := by
  induction entries with
  | nil => simp [enter]
  | cons e rest ih => grind [enter]

/-- Values that come one by one for a name that is new. -/
theorem foldl_enter_single {name : String} {entries : List Contribution}
    (unknown : name ∉ entries.map Prod.fst) (values more : List (Option String)) :
    (more.map fun value => single (name, value)).foldl (fun entries c => enter c entries)
        (entries ++ [(name, values)]) = entries ++ [(name, values ++ more)] := by
  induction more generalizing values with
  | nil => simp
  | cons value more ih =>
      rw [List.map_cons, List.foldl_cons, single, enter_last unknown, ih, List.append_assoc,
        List.singleton_append]

theorem grouped_of_nodup {entries : List Contribution}
    (distinct : (entries.map Prod.fst).Nodup) : grouped entries = entries := by
  induction entries using List.reverseRecOn with
  | nil => rfl
  | append_singleton entries e ih =>
      rw [List.map_append] at distinct
      have unknown : e.1 ∉ entries.map Prod.fst := fun known =>
        List.disjoint_of_nodup_append distinct known (List.mem_singleton_self _)
      rw [← enter_grouped, ih (distinct.sublist (List.sublist_append_left _ _)),
        enter_of_unknown unknown]

/-- Distinct names that have values are grouped as they are when the values come one by one. -/
theorem grouped_spread {entries : List Contribution} (distinct : (entries.map Prod.fst).Nodup)
    (valued : ∀ e ∈ entries, e.2 ≠ []) : grouped ((spread entries).map single) = entries := by
  induction entries using List.reverseRecOn with
  | nil => rfl
  | append_singleton entries e ih =>
      rw [List.map_append] at distinct
      have unknown : e.1 ∉ entries.map Prod.fst := fun known =>
        List.disjoint_of_nodup_append distinct known (List.mem_singleton_self _)
      have before := ih (distinct.sublist (List.sublist_append_left _ _)) fun d mem =>
        valued d (List.mem_append_left _ mem)
      obtain ⟨name, values⟩ := e
      cases values with
      | nil => exact absurd rfl (valued _ (List.mem_append_right _ (List.mem_singleton_self _)))
      | cons value more =>
          rw [spread_append, List.map_append, grouped_append, before]
          simp only [spread, List.flatMap_cons, List.flatMap_nil, List.append_nil, List.map_cons,
            List.map_map, List.foldl_cons]
          rw [enter_of_unknown (c := single (name, value)) unknown]
          exact foldl_enter_single unknown [value] more

/-! ## Parameters one by one -/

/-- Parameters with those of one name together, in the order in which they came. -/
def gather (parameters : List Parameter) : List Parameter :=
  spread (grouped (parameters.map single))

theorem gather_perm (parameters : List Parameter) : (gather parameters).Perm parameters := by
  simpa [gather] using spread_grouped_perm (parameters.map single)

theorem valuesOf_map_single (name : String) (parameters : List Parameter) :
    valuesOf name (parameters.map single) = (parameters.filter (·.1 = name)).map Prod.snd := by
  simp only [valuesOf, List.filter_map, List.flatMap_map]
  exact List.flatMap_pure_eq_map _ _

/-- Gathered parameters are, name by name, those of the name in the order in which they came. -/
theorem gather_eq_flatMap (parameters : List Parameter) :
    gather parameters = (parameters.map Prod.fst).eraseDups.flatMap fun name =>
      parameters.filter (·.1 = name) := by
  have names : namesOf (parameters.map single) = (parameters.map Prod.fst).eraseDups := by
    simp [namesOf, single, Function.comp_def]
  have values : ∀ name, (valuesOf name (parameters.map single)).map (name, ·) =
      parameters.filter (·.1 = name) := by
    intro name
    rw [valuesOf_map_single, List.map_map]
    refine (List.map_congr_left ?_).trans (List.map_id _)
    intro p mem
    have isName : p.1 = name := by simpa using (List.mem_filter.1 mem).2
    simp [← isName]
  rw [gather, grouped, names, spread, List.flatMap_map]
  simp only [values]

@[simp] theorem gather_gather (parameters : List Parameter) :
    gather (gather parameters) = gather parameters := by
  have distinct : ((grouped (parameters.map single)).map Prod.fst).Nodup := by simp [namesOf]
  have again := grouped_spread distinct fun e mem => ne_nil_of_mem_grouped mem
  exact congrArg spread again

example : grouped [("a", [some "1"]), ("b", []), ("a", [none, some "2"])] =
    [("a", [some "1", none, some "2"]), ("b", [])] := by decide

end Outbound.Query
