/-
# Outbound.Proofs.FieldMap.Effects — a map is what its effects make of it

What is done to a map is a list of effects, each of which gives a name values or
removes an entry.  For a lookup key only the effects since its last removal count
(`since`): values that replace take the place of all before them and set the name
that is shown, values that are added follow those there are (`described`).  A key
has its place where the first of these effects stands (`present`).

`Records` ties a map to such a history: its keys are the present ones, and under
each key it has the entry that is described.  Adding, putting and erasing keep it
(`Records.add`, `Records.put`, `Records.erase`), and it says all there is to say of
a map (`Records.fields_eq_listed`).
-/
import Mathlib.Data.List.DropRight
import Outbound.FieldMap.Source
import Outbound.Proofs.FieldMap.Writing

namespace Outbound

set_option autoImplicit false

/-- The lookup key of a text: the text itself, or its lower case. -/
def Keying.lookup : Keying → String → String
  | .exact, s => s
  | .folded, s => Text.lower s

@[simp] theorem Keying.key_text (k : Keying) (s : String) :
    k.key (.text s) = .text (k.lookup s) := by
  cases k <;> rfl

namespace FieldMap

/-! ## Effects -/

/-- A name that is given values: these alone, or these after the ones it has. -/
structure Giving where
  name : String
  values : List Datum
  replaces : Bool

/-- What an edit does to a map. -/
inductive Effect where
  | give (giving : Giving)
  /-- Removes the entry of a lookup key. -/
  | remove (key : String)
  | clear

namespace Effect

def ofAdd (name : String) (values : List Datum) : Effect := .give ⟨name, values, false⟩

/-- The effect of replacing the values of a name; no values remove its entry. -/
def ofReplace (k : Keying) (name : String) (values : List Datum) : Effect :=
  if values.isEmpty then .remove (k.lookup name) else .give ⟨name, values, true⟩

def removes (key : String) : Effect → Bool
  | .give _ => false
  | .remove other => other = key
  | .clear => true

def giving? (k : Keying) (key : String) : Effect → Option Giving
  | .give giving => if k.lookup giving.name = key then some giving else none
  | _ => none

/-- The effect of an entry whose name is a text. -/
def ofEntry? (make : String → List Datum → Effect) (entry : Datum × Datum) : Option Effect := do
  return make (← entry.1.asText?) (← entry.2.asValues?.toOption)

end Effect

/-! ## What a history says -/

/-- What a key was given since its entry was last removed. -/
def since (k : Keying) (key : String) (history : List Effect) : List Giving :=
  (history.rtakeWhile (!·.removes key)).filterMap (·.giving? k key)

/-- The entry that comes of what a key was given: the values of the last replacement and all that
were added after it, under the name of that replacement or else the one given first. -/
def described (given : List Giving) : Option (Field Datum) :=
  given.head?.map fun first =>
    let replacement := (given.rdropWhile (!·.replaces)).getLast?
    let added := given.rtakeWhile (!·.replaces)
    { name := .text (replacement.getD first).name
      values := replacement.elim [] Giving.values ++ added.flatMap Giving.values }

/-- The keys whose entry begins in the second part of a history and is never removed after that,
in the order in which they begin. -/
def presentFrom (k : Keying) (before : List Effect) : List Effect → List String
  | [] => []
  | effect :: after =>
    let later := presentFrom k (before ++ [effect]) after
    match effect with
    | .give giving =>
      let key := k.lookup giving.name
      if (since k key before).isEmpty && after.all (!·.removes key) then key :: later else later
    | _ => later

/-- The keys that have an entry, each at the place of the first effect since its last removal. -/
def present (k : Keying) (history : List Effect) : List String := presentFrom k [] history

/-- The entries that a history makes. -/
def listed (k : Keying) (history : List Effect) : List (Field Datum) :=
  (present k history).filterMap fun key => described (since k key history)

/-! ## One effect more -/

theorem since_concat (k : Keying) (key : String) (history : List Effect) (effect : Effect) :
    since k key (history ++ [effect]) =
      if effect.removes key then []
      else since k key history ++ (effect.giving? k key).toList := by
  simp only [since, List.rtakeWhile_concat]
  by_cases removed : effect.removes key = true
  · simp [removed]
  · cases given : effect.giving? k key <;> simp [removed, given]

theorem described_concat (given : List Giving) (g : Giving) :
    described (given ++ [g]) = some (if g.replaces then ⟨.text g.name, g.values⟩
      else ((described given).map fun f => { f with values := f.values ++ g.values }).getD
        ⟨.text g.name, g.values⟩) := by
  have first : (given ++ [g]).head? = some (given.head?.getD g) := by cases given <;> rfl
  simp only [described, first, List.rtakeWhile_concat, List.rdropWhile_concat, Option.map_some]
  by_cases replaces : g.replaces = true
  · simp [replaces]
  · cases given <;> simp [replaces]

@[simp] theorem described_eq_none_iff {given : List Giving} :
    described given = none ↔ given = [] := by
  cases given <;> simp [described]

/-- One effect more removes keys, or lets a key begin that had nothing. -/
theorem presentFrom_concat (k : Keying) (before after : List Effect) (effect : Effect) :
    presentFrom k before (after ++ [effect]) =
      (presentFrom k before after).filter (!effect.removes ·) ++
        match effect with
        | .give g =>
          if since k (k.lookup g.name) (before ++ after) = [] then [k.lookup g.name] else []
        | _ => [] := by
  induction after generalizing before with
  | nil => cases effect <;> simp [presentFrom]
  | cons earlier after ih =>
      have later := ih (before ++ [earlier])
      rw [List.append_assoc, List.singleton_append] at later
      cases earlier with
      | give g =>
          simp only [List.cons_append, presentFrom, later, List.all_append, List.all_cons,
            List.all_nil, Bool.and_true, ← Bool.and_assoc]
          by_cases begins : ((since k (k.lookup g.name) before).isEmpty &&
              after.all (!·.removes (k.lookup g.name))) = true
          · simp only [begins, Bool.true_and, if_true, List.filter_cons]
            cases effect.removes (k.lookup g.name) <;> simp
          · simp [begins]
      | _ => simpa only [List.cons_append, presentFrom] using later

theorem present_concat (k : Keying) (history : List Effect) (effect : Effect) :
    present k (history ++ [effect]) = (present k history).filter (!effect.removes ·) ++
      match effect with
      | .give g => if since k (k.lookup g.name) history = [] then [k.lookup g.name] else []
      | _ => [] :=
  presentFrom_concat k [] history effect

/-! ## Maps and their histories -/

/-- The map has the keys that its history makes present, and the entries that it describes. -/
structure Records (k : Keying) (history : List Effect) (m : Fields) : Prop where
  keying : m.keying = k
  keys : m.keys = (present k history).map Key.text
  entries : ∀ key, m.at? (.text key) = described (since k key history)

theorem records_empty (k : Keying) : Records k [] (empty k) where
  keying := rfl
  keys := rfl
  entries _ := rfl

namespace Records

variable {k : Keying} {history : List Effect} {m : Fields}

theorem mem_present_iff (records : Records k history m) (key : String) :
    key ∈ present k history ↔ since k key history ≠ [] := by
  have mem : key ∈ present k history ↔ Key.text key ∈ m.keys := by simp [records.keys]
  simp [mem, ← isSome_at?_iff, records.entries, Option.isSome_iff_ne_none]

theorem key_text (records : Records k history m) (name : String) :
    m.keying.key (.text name) = .text (k.lookup name) := by
  simp [records.keying]

theorem contains_iff (records : Records k history m) (name : String) :
    m.contains (.text name) = true ↔ since k (k.lookup name) history ≠ [] := by
  simp [contains, find?_eq_at?, records.key_text, records.entries, Option.isSome_iff_ne_none]

/-- What is given to a name is in its entry, at the place of the entry or at the end. -/
theorem give (records : Records k history m) (g : Giving) {written : Fields}
    (keying : written.keying = m.keying)
    (keys : written.keys = m.keys ++
      if Key.text (k.lookup g.name) ∈ m.keys then [] else [.text (k.lookup g.name)])
    (entries : ∀ key, written.at? (.text key) = if Key.text (k.lookup g.name) = .text key then
      described (since k key history ++ [g]) else m.at? (.text key)) :
    Records k (history ++ [.give g]) written where
  keying := keying.trans records.keying
  keys := by
    rw [keys, present_concat]
    have mem_iff := records.mem_present_iff (k.lookup g.name)
    by_cases unknown : since k (k.lookup g.name) history = [] <;>
      simp_all [records.keys, Effect.removes]
  entries key := by
    rw [entries, since_concat]
    by_cases same : k.lookup g.name = key <;> simp [Effect.removes, Effect.giving?, same,
      records.entries]

theorem add (records : Records k history m) (name : String) (values : List Datum) :
    Records k (history ++ [.ofAdd name values]) (m.add (.text name) values) := by
  refine records.give ⟨name, values, false⟩ rfl ?_ fun key => ?_
  · simp [records.key_text]
  · simp [records.key_text, described_concat, records.entries]

theorem put (records : Records k history m) (name : String) (values : List Datum) :
    Records k (history ++ [.give ⟨name, values, true⟩]) (m.put (.text name) values) := by
  refine records.give ⟨name, values, true⟩ rfl ?_ fun key => ?_
  · simp [records.key_text]
  · simp [records.key_text, described_concat]

theorem erase (records : Records k history m) {name : Name} {key : String}
    (isKey : m.keying.key name = .text key) :
    Records k (history ++ [.remove key]) (m.erase name) where
  keying := records.keying
  keys := by
    rw [keys_erase, records.keys, isKey, present_concat, List.append_nil, List.filter_map]
    congr 1
    apply List.filter_congr
    intro other _
    simp [Effect.removes, eq_comm]
  entries other := by
    rw [at?_erase, isKey, since_concat, records.entries]
    by_cases same : key = other <;> simp [Effect.removes, Effect.giving?, same, described]

theorem clear (records : Records k history m) : Records k (history ++ [.clear]) m.clear where
  keying := records.keying
  keys := by
    simp [present_concat, FieldMap.clear, Effect.removes]
  entries key := by
    rw [since_concat]
    rfl

theorem replace (records : Records k history m) (name : String) (values : List Datum) :
    Records k (history ++ [.ofReplace k name values]) (m.replace (.text name) values) := by
  rw [FieldMap.replace, Effect.ofReplace]
  split
  · exact records.erase (records.key_text name)
  · exact records.put name values

/-- A map is what its history says. -/
theorem fields_eq_listed (records : Records k history m) : m.fields = listed k history := by
  rw [fields_eq_filterMap, records.keys, List.filterMap_map, listed]
  congr 1
  funext key
  exact records.entries key

end Records

end FieldMap

end Outbound
