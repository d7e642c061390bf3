/-
# Outbound.Proofs.FieldMap.History — an edited map is what its history says

Every edit of names that are texts has effects, one for each entry it is given
(`Edit.effects?`).  Setting a default and popping the first entry depend on what was
done before, and it is the history that says whether a name is there and which
entry is the first, not the map.

An edit that returned leaves the map that is recorded after its effects
(`Records.edit`), hence a map that was edited any number of times is exactly what
its history says (`fields_of_history`).
-/
import Outbound.FieldMap.Edit
import Outbound.Proofs.FieldMap.Effects

namespace Outbound

set_option autoImplicit false

@[simp] theorem Keying.name?_text (k : Keying) (s : String) :
    k.name? (.text s) = .ok (some (.text s)) := by
  cases k <;> rfl

theorem Datum.exists_text_of_asText? {d : Datum} (isText : d.asText?.isSome) : ∃ s, d = .text s := by
  cases d with
  | text s => exact ⟨s, rfl⟩
  | _ => cases isText

namespace FieldMap

/-! ## Edits -/

def Edit.names : Edit → List Datum
  | .add name _ | .replace name _ | .assign name _ | .setDefault name _ => [name]
  | .delete name | .remove name | .pop name _ => [name]
  | .addAll source | .replaceAll source => (source.entries?.toOption.getD []).map (·.1)
  | .update source =>
    match source.entries?, source.elements? with
    | .ok entries, _ => entries.map (·.1)
    | .error _, items =>
      (items.toOption.getD []).filterMap fun d => (pair? d).toOption.map (·.1)
  | .deleteAll names => names.elements?.toOption.getD []
  | .popFirst | .clear => []

/-- What an edit of names that are texts does, after what was done before it. -/
def Edit.effects? (k : Keying) (history : List Effect) : Edit → Option (List Effect)
  | .add name values => return [.ofAdd (← name.asText?) values]
  | .replace name values => return [.ofReplace k (← name.asText?) values]
  | .assign name value => return [← Effect.ofEntry? (.ofReplace k) (name, value)]
  | .setDefault name value => do
    if (since k (k.lookup (← name.asText?)) history).isEmpty then
      return [← Effect.ofEntry? (.ofReplace k) (name, value)]
    else return []
  | .addAll source => do (← source.entries?.toOption).mapM (Effect.ofEntry? .ofAdd)
  | .replaceAll source => do (← source.entries?.toOption).mapM (Effect.ofEntry? (.ofReplace k))
  | .update source =>
    match source.entries?, source.elements? with
    | .ok entries, _ => entries.mapM (Effect.ofEntry? (.ofReplace k))
    | .error _, items => do
      (← items.toOption).mapM fun d => (pair? d).toOption.bind (Effect.ofEntry? (.ofReplace k))
  | .delete name | .remove name | .pop name _ => return [.remove (k.lookup (← name.asText?))]
  | .deleteAll names => do
    return (← (← names.elements?.toOption).mapM Datum.asText?).map fun s => .remove (k.lookup s)
  | .popFirst => return (present k history).head?.toList.map .remove
  | .clear => return [.clear]

/-- A history with what an edit does. -/
def recorded? (k : Keying) (history : List Effect) (edit : Edit) : Option (List Effect) :=
  (edit.effects? k history).map (history ++ ·)

def edited? (m : Fields) (edit : Edit) : Option Fields :=
  match m.run edit with
  | (left, .ok _) => some left
  | (_, .error _) => none

namespace Records

variable {k : Keying} {history : List Effect} {m : Fields}

/-! ## Edits of several names -/

section

variable {write : Fields → Name → List Datum → Fields} {make : String → List Datum → Effect}
  (writes : ∀ {history : List Effect} {m : Fields}, Records k history m →
    ∀ name values, Records k (history ++ [make name values]) (write m (.text name) values))

include writes

theorem enterEntry (records : Records k history m) {entry : Datum × Datum}
    (named : entry.1.asText?.isSome) {left : Fields}
    (entered : enterEntry (entering write) m entry = .ok left) :
    ∃ effect, Effect.ofEntry? make entry = some effect ∧ Records k (history ++ [effect]) left := by
  obtain ⟨name, value⟩ := entry
  obtain ⟨s, rfl⟩ := Datum.exists_text_of_asText? named
  rw [FieldMap.enterEntry] at entered
  cases isValues : value.asValues? with
  | error misuse =>
      rw [isValues] at entered
      cases entered
  | ok values =>
      rw [isValues] at entered
      obtain rfl := Except.ok.inj entered
      refine ⟨make s values, ?_, writes records s values⟩
      simp only [Effect.ofEntry?, isValues]
      rfl

theorem merge (records : Records k history m) {entries : List (Datum × Datum)}
    (named : ∀ entry ∈ entries, entry.1.asText?.isSome) {left : Fields}
    (merged : merge (entering write) m entries = (left, .ok ())) :
    ∃ effects, entries.mapM (Effect.ofEntry? make) = some effects ∧
      Records k (history ++ effects) left := by
  induction entries generalizing history m with
  | nil =>
      cases merged
      exact ⟨[], rfl, by rwa [List.append_nil]⟩
  | cons entry rest ih =>
      rw [List.forall_mem_cons] at named
      rw [FieldMap.merge] at merged
      cases entered : FieldMap.enterEntry (entering write) m entry with
      | error misuse =>
          rw [entered] at merged
          cases merged
      | ok next =>
          rw [entered] at merged
          obtain ⟨effect, isEffect, records⟩ := records.enterEntry writes named.1 entered
          obtain ⟨effects, areEffects, records⟩ := ih records named.2 merged
          rw [List.append_assoc] at records
          refine ⟨effect :: effects, ?_, records⟩
          rw [List.mapM_cons, isEffect, areEffects]
          rfl

end

theorem mergePairs (records : Records k history m) {items : List Datum}
    (named : ∀ name ∈ items.filterMap fun d => (pair? d).toOption.map (·.1), name.asText?.isSome)
    {left : Fields} (merged : mergePairs m items = (left, .ok ())) :
    ∃ effects, (items.mapM fun d => (pair? d).toOption.bind (Effect.ofEntry? (.ofReplace k))) =
        some effects ∧ Records k (history ++ effects) left := by
  induction items generalizing history m with
  | nil =>
      cases merged
      exact ⟨[], rfl, by rwa [List.append_nil]⟩
  | cons d rest ih =>
      rw [FieldMap.mergePairs] at merged
      cases isPair : pair? d with
      | error fault =>
          rw [isPair] at merged
          cases merged
      | ok entry =>
          rw [List.filterMap_cons, isPair] at named
          rw [isPair] at merged
          have named := List.forall_mem_cons.1 named
          cases entered : FieldMap.enterEntry replaceDatum m entry with
          | error misuse =>
              simp only [Except.bind, entered] at merged
              cases merged
          | ok next =>
              simp only [Except.bind, entered] at merged
              obtain ⟨effect, isEffect, records⟩ := records.enterEntry replace named.1 entered
              obtain ⟨effects, areEffects, records⟩ := ih records named.2 merged
              rw [List.append_assoc] at records
              refine ⟨effect :: effects, ?_, records⟩
              rw [List.mapM_cons, areEffects, isPair]
              simp only [Except.toOption, Option.bind_some, isEffect]
              rfl

theorem get?_eq_none_iff (records : Records k history m) (name : String) :
    m.get? (.text name) = none ↔ since k (k.lookup name) history = [] := by
  simp [get?, find?_eq_at?, records.key_text, records.entries]

theorem eraseDatum (records : Records k history m) (name : String) :
    Records k (history ++ [.remove (k.lookup name)]) (m.eraseDatum (.text name)) := by
  have erased : m.eraseDatum (.text name) = m.erase (.text name) := by
    simp [FieldMap.eraseDatum]
  rw [erased]
  exact records.erase (records.key_text name)

/-- What is not there is removed by doing nothing. -/
theorem remove_unknown (records : Records k history m) {name : String}
    (unknown : m.get? (.text name) = none) :
    Records k (history ++ [.remove (k.lookup name)]) m := by
  have erased := records.erase (records.key_text name)
  rwa [erase_of_unknown unknown] at erased

theorem deleteDatum (records : Records k history m) (name : String) :
    Records k (history ++ [.remove (k.lookup name)]) (m.deleteDatum (.text name)) := by
  have deleted : m.deleteDatum (.text name) =
      if m.contains (.text name) then m.eraseDatum (.text name) else m := rfl
  rw [deleted]
  split
  · exact records.eraseDatum name
  · rename_i unknown
    exact records.remove_unknown (by simpa [contains, get?] using unknown)

theorem deleteAll (records : Records k history m) (names : List String) :
    Records k (history ++ names.map fun s => .remove (k.lookup s))
      ((names.map Datum.text).foldl FieldMap.deleteDatum m) := by
  induction names generalizing history m with
  | nil => simpa using records
  | cons name names ih =>
      have rest := ih (records.deleteDatum name)
      rwa [List.append_assoc] at rest

theorem eraseFirst (records : Records k history m) {f : Field Datum} {rest : List (Field Datum)}
    (first : m.fields = f :: rest) :
    ∃ key, (present k history).head? = some key ∧
      Records k (history ++ [.remove key]) m.eraseFirst := by
  have keys := records.keys
  rw [FieldMap.keys, first, List.map_cons] at keys
  cases isPresent : present k history with
  | nil =>
      rw [isPresent] at keys
      cases keys
  | cons key others =>
      rw [isPresent, List.map_cons] at keys
      rw [eraseFirst_eq_erase first]
      exact ⟨key, rfl, records.erase (List.cons.inj keys).1⟩

end Records

/-! ## Every edit -/

theorem edited?_eq_some_iff {m left : Fields} {edit : Edit} :
    edited? m edit = some left ↔ ∃ reply, m.run edit = (left, .ok reply) := by
  rw [edited?]
  cases m.run edit with
  | mk left' outcome => cases outcome <;> simp [eq_comm]

theorem run_popFirst (m : Fields) : m.run .popFirst = match m.fields with
    | field :: _ => (m.eraseFirst, .ok (.field field))
    | [] => (m, .error .exhausted) :=
  rfl

theorem whole_eq_ok {m left : Fields} {β : Type} {r reply : β} {changed : Except Misuse Fields}
    (returned : whole m r changed = (left, .ok reply)) : changed = .ok left := by
  cases changed with
  | ok changed => exact congrArg Except.ok (congrArg Prod.fst returned)
  | error misuse => cases returned

theorem andThen_eq_ok {left left' : Fields} {β : Type} {r reply : β} {outcome : Except Fault Unit}
    (returned : andThen r (left', outcome) = (left, .ok reply)) : left' = left ∧ outcome = .ok () := by
  cases outcome with
  | ok u => exact ⟨congrArg Prod.fst returned, rfl⟩
  | error fault => cases returned

@[simp] theorem lookup?_text (m : Fields) (s : String) :
    m.lookup? (.text s) = .ok (m.get? (.text s)) := by
  rw [lookup?, Keying.name?_text]
  rfl

theorem exists_texts (items : List Datum) (named : ∀ d ∈ items, d.asText?.isSome) :
    ∃ texts, items = texts.map Datum.text ∧ items.mapM Datum.asText? = some texts := by
  induction items with
  | nil => exact ⟨[], rfl, rfl⟩
  | cons d items ih =>
      rw [List.forall_mem_cons] at named
      obtain ⟨s, rfl⟩ := Datum.exists_text_of_asText? named.1
      obtain ⟨texts, rfl, areTexts⟩ := ih named.2
      refine ⟨s :: texts, rfl, ?_⟩
      rw [List.mapM_cons, areTexts]
      rfl

section

variable {k : Keying} {history : List Effect} {m left : Fields} {reply : Reply}

/-- Entering a source has the effects of its entries. -/
theorem Records.mergeSource {write : Fields → Name → List Datum → Fields}
    {make : String → List Datum → Effect}
    (writes : ∀ {history : List Effect} {m : Fields}, Records k history m →
      ∀ name values, Records k (history ++ [make name values]) (write m (.text name) values))
    (records : Records k history m) {source : Datum}
    (named : ∀ name ∈ (source.entries?.toOption.getD []).map (·.1), name.asText?.isSome)
    (returned : andThen .map (mergeAll (entering write) m source) = (left, .ok reply)) :
    ∃ effects, source.entries?.toOption.bind (·.mapM (Effect.ofEntry? make)) = some effects ∧
      Records k (history ++ effects) left := by
  rw [mergeAll, FieldMap.mergeSource] at returned
  cases isSource : source.entries? with
  | error misuse =>
      rw [isSource] at returned
      cases returned
  | ok entries =>
      rw [isSource] at returned named
      cases merged : FieldMap.merge (entering write) m entries with
      | mk next outcome =>
          simp only [merged] at returned
          cases outcome with
          | error misuse => cases returned
          | ok u =>
              obtain ⟨rfl, -⟩ := andThen_eq_ok returned
              exact records.merge writes (by simpa [Except.toOption] using named) merged

theorem Records.update (records : Records k history m) {source : Datum}
    (named : ∀ name ∈ (Edit.update source).names, name.asText?.isSome)
    (returned : m.run (.update source) = (left, .ok reply)) :
    ∃ effects, (Edit.update source).effects? k history = some effects ∧
      Records k (history ++ effects) left := by
  rw [run, FieldMap.update] at returned
  rw [Edit.names] at named
  rw [Edit.effects?]
  cases isMap : source.entries? with
  | ok entries =>
      rw [isMap] at returned named
      cases merged : FieldMap.merge replaceDatum m entries with
      | mk next outcome =>
          simp only [merged] at returned
          cases outcome with
          | error misuse => cases returned
          | ok u =>
              obtain ⟨rfl, -⟩ := andThen_eq_ok returned
              exact records.merge Records.replace (by simpa using named) merged
  | error misuse =>
      rw [isMap] at returned named
      cases areItems : source.elements? with
      | error misuse =>
          rw [areItems] at returned
          cases returned
      | ok items =>
          rw [areItems] at returned named
          have left_and : (FieldMap.mergePairs m items).1 = left ∧
              (FieldMap.mergePairs m items).2 = .ok () := andThen_eq_ok returned
          obtain ⟨rfl, outcome⟩ := left_and
          exact records.mergePairs (by simpa [Except.toOption] using named) (Prod.ext rfl outcome)

/-- **An edit that returned leaves the map that is recorded after it.** -/
theorem Records.edit (records : Records k history m) {edit : Edit}
    (named : ∀ name ∈ edit.names, name.asText?.isSome)
    (returned : m.run edit = (left, .ok reply)) :
    ∃ effects, edit.effects? k history = some effects ∧ Records k (history ++ effects) left := by
  cases edit with
  | update source => exact records.update named returned
  | addAll source => exact records.mergeSource Records.add named returned
  | replaceAll source => exact records.mergeSource Records.replace named returned
  | add name values =>
      obtain ⟨s, rfl⟩ := Datum.exists_text_of_asText? (named name (List.mem_singleton_self name))
      obtain rfl := Except.ok.inj (whole_eq_ok (m := m) returned)
      exact ⟨_, rfl, records.add s values⟩
  | replace name values =>
      obtain ⟨s, rfl⟩ := Datum.exists_text_of_asText? (named name (List.mem_singleton_self name))
      obtain rfl := Except.ok.inj (whole_eq_ok (m := m) returned)
      exact ⟨_, rfl, records.replace s values⟩
  | assign name value =>
      obtain ⟨effect, isEffect, records⟩ := records.enterEntry Records.replace
        (named name (List.mem_singleton_self name)) (whole_eq_ok returned)
      refine ⟨[effect], ?_, records⟩
      rw [Edit.effects?, isEffect]
      rfl
  | setDefault name value =>
      obtain ⟨s, rfl⟩ := Datum.exists_text_of_asText? (named name (List.mem_singleton_self name))
      rw [run, lookup?_text] at returned
      cases found : m.get? (.text s) with
      | some old =>
          rw [found] at returned
          obtain rfl := congrArg Prod.fst returned
          have known : since k (k.lookup s) history ≠ [] := by
            rw [ne_eq, ← records.get?_eq_none_iff, found]
            simp
          refine ⟨[], ?_, by rwa [List.append_nil]⟩
          simp [Edit.effects?, known]
      | none =>
          rw [found] at returned
          obtain ⟨effect, isEffect, entered⟩ :=
            records.enterEntry Records.replace rfl (whole_eq_ok returned)
          have unknown := (records.get?_eq_none_iff s).1 found
          refine ⟨[effect], ?_, entered⟩
          simp [Edit.effects?, unknown, isEffect]
  | delete name =>
      obtain ⟨s, rfl⟩ := Datum.exists_text_of_asText? (named name (List.mem_singleton_self name))
      obtain rfl := congrArg Prod.fst returned
      exact ⟨_, rfl, records.deleteDatum s⟩
  | deleteAll names =>
      rw [run] at returned
      rw [Edit.names] at named
      cases areItems : names.elements? with
      | error misuse =>
          rw [areItems] at returned
          cases returned
      | ok items =>
          rw [areItems] at returned named
          obtain ⟨texts, rfl, areTexts⟩ := exists_texts items named
          obtain rfl := congrArg Prod.fst returned
          refine ⟨_, ?_, records.deleteAll texts⟩
          rw [Edit.effects?, areItems]
          simp [Except.toOption, areTexts]
  | remove name =>
      obtain ⟨s, rfl⟩ := Datum.exists_text_of_asText? (named name (List.mem_singleton_self name))
      rw [run] at returned
      split at returned
      · obtain rfl := congrArg Prod.fst returned
        exact ⟨_, rfl, records.eraseDatum s⟩
      · cases returned
  | pop name fallback =>
      obtain ⟨s, rfl⟩ := Datum.exists_text_of_asText? (named name (List.mem_singleton_self name))
      unfold run at returned
      cases found : m.get? (.text s) with
      | some old =>
          simp only [lookup?_text, found] at returned
          obtain rfl := congrArg Prod.fst returned
          exact ⟨_, rfl, records.eraseDatum s⟩
      | none =>
          simp only [lookup?_text, found] at returned
          cases fallback with
          | none => cases returned
          | some d =>
              obtain rfl := congrArg Prod.fst returned
              exact ⟨_, rfl, records.remove_unknown found⟩
  | popFirst =>
      rw [run_popFirst] at returned
      cases first : m.fields with
      | nil =>
          simp only [first] at returned
          cases returned
      | cons f rest =>
          simp only [first] at returned
          obtain rfl := congrArg Prod.fst returned
          obtain ⟨key, isKey, records⟩ := records.eraseFirst first
          refine ⟨[.remove key], ?_, records⟩
          rw [Edit.effects?, isKey]
          rfl
  | clear =>
      obtain rfl := congrArg Prod.fst returned
      exact ⟨_, rfl, records.clear⟩

end

/-! ## Any number of edits -/

theorem records_of_edits {k : Keying} {history : List Effect} {m left : Fields}
    (records : Records k history m) {edits : List Edit}
    (named : ∀ edit ∈ edits, ∀ name ∈ edit.names, name.asText?.isSome)
    (returned : edits.foldlM edited? m = some left) :
    ∃ history', edits.foldlM (recorded? k) history = some history' ∧ Records k history' left := by
  induction edits generalizing history m with
  | nil =>
      obtain rfl := Option.some.inj returned
      exact ⟨history, rfl, records⟩
  | cons edit edits ih =>
      rw [List.forall_mem_cons] at named
      rw [List.foldlM_cons] at returned
      obtain ⟨next, first, rest⟩ := Option.bind_eq_some_iff.1 returned
      obtain ⟨reply, first⟩ := edited?_eq_some_iff.1 first
      obtain ⟨effects, areEffects, records⟩ := records.edit named.1 first
      obtain ⟨history', isHistory, records⟩ := ih records named.2 rest
      refine ⟨history', ?_, records⟩
      rw [List.foldlM_cons, recorded?, areEffects]
      exact isHistory

/-- **A map that was edited any number of times is what its history says**: it has an entry for each
key that was given anything since its last removal, with the values and the name that are described,
in the order in which these keys began; and the first entry is the one that is popped. -/
theorem fields_of_history (k : Keying) {edits : List Edit} {m : Fields}
    (named : ∀ edit ∈ edits, ∀ name ∈ edit.names, name.asText?.isSome)
    (returned : edits.foldlM edited? (empty k) = some m) :
    ∃ history, edits.foldlM (recorded? k) [] = some history ∧
      (∀ name, m.contains (.text name) = true ↔ since k (k.lookup name) history ≠ []) ∧
      (∀ name, m.find? (.text name) = described (since k (k.lookup name) history)) ∧
      m.fields = listed k history ∧
      (m.run .popFirst).2 = match listed k history with
        | field :: _ => .ok (.field field)
        | [] => .error .exhausted := by
  obtain ⟨history, isHistory, records⟩ := records_of_edits (records_empty k) named returned
  have fields := records.fields_eq_listed
  refine ⟨history, isHistory, records.contains_iff, fun name => ?_, fields, ?_⟩
  · rw [find?_eq_at?, records.key_text, records.entries]
  · rw [run_popFirst, ← fields]
    cases m.fields <;> rfl

/-- Names that are added and replaced in other cases, an entry that is popped, one that is assigned
no values, and one that begins anew. -/
theorem fields_of_history_folded :
    let edits : List Edit := [.add (.text "B") [.text "1"], .add (.text "Accept") [],
      .add (.text "b") [.text "2"], .setDefault (.text "ACCEPT") (.text "9"),
      .replace (.text "accept") [.text "3"], .addAll (.dict [(.text "Accept", .text "4")]),
      .popFirst, .add (.text "C") [], .assign (.text "c") (.list []),
      .update (.list [.list [.text "B", .absent]])]
    ∃ m, edits.foldlM edited? (empty .folded) = some m ∧
      m.fields = [⟨.text "accept", [.text "3", .text "4"]⟩, ⟨.text "B", [.absent]⟩] := by
  intro edits
  have returned : ∃ m, edits.foldlM edited? (empty .folded) = some m := ⟨_, rfl⟩
  obtain ⟨m, returned⟩ := returned
  have named : ∀ edit ∈ edits, ∀ name ∈ edit.names, name.asText?.isSome := by
    decide
  obtain ⟨history, isHistory, -, -, fields, -⟩ := fields_of_history .folded named returned
  refine ⟨m, returned, ?_⟩
  obtain rfl := Option.some.inj isHistory
  rw [fields]
  rfl

end FieldMap

end Outbound
