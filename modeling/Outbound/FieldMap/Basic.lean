/-
# Outbound.FieldMap.Basic — names with several values, in order

A field map lists entries, each a name and its values, in the order in which the
names first came.  Names are compared by a key: the name itself for parameters,
its lower case for headers.  No two entries have one key, and the type carries
that fact, so a look-up needs no premise.

Adding keeps the name as first given and appends values; replacing overwrites the
name in place along with its values, and replacing by no values erases the entry.
Both are an update of one entry (`upsert`).
-/
import Outbound.Datum.Name

namespace Outbound

set_option autoImplicit false

structure Field (α : Type) where
  name : Name
  values : List α
  deriving DecidableEq, Repr

/-- Names with values, no two names of one key. -/
structure FieldMap (α : Type) where
  /-- How names are compared. -/
  keying : Keying
  fields : List (Field α)
  distinct : (fields.map fun f => keying.key f.name).Nodup
  deriving DecidableEq

namespace FieldMap

variable {α : Type}

/-! ## Lists of fields -/

/-- Changes the first field of a key by `f`, or appends `new` when there is none. -/
def upsertFields (k : Keying) (key : Key) (f : Field α → Field α) (new : Field α) :
    List (Field α) → List (Field α)
  | [] => [new]
  | field :: rest =>
    if k.key field.name = key then f field :: rest
    else field :: upsertFields k key f new rest

theorem mem_keys_upsertFields {k : Keying} {key x : Key} {f : Field α → Field α} {new : Field α}
    (hnew : k.key new.name = key) (hf : ∀ g, k.key g.name = key → k.key (f g).name = key)
    (fields : List (Field α)) :
    x ∈ (upsertFields k key f new fields).map (fun g => k.key g.name) ↔
      x = key ∨ x ∈ fields.map fun g => k.key g.name := by
  induction fields with
  | nil => simp only [upsertFields, List.map_cons, List.map_nil, List.mem_singleton, hnew,
      List.not_mem_nil, or_false]
  | cons field rest ih =>
    by_cases h : k.key field.name = key
    · simp only [upsertFields, h, if_true, List.map_cons, List.mem_cons, hf field h]
      exact ⟨.inr, fun o => o.elim .inl id⟩
    · simp only [upsertFields, h, if_false, List.map_cons, List.mem_cons, ih]
      exact ⟨fun o => o.elim (fun e => .inr (.inl e)) (fun o => o.imp_right .inr),
        fun o => o.elim (fun e => .inr (.inl e)) (fun o => o.imp_right .inr)⟩

theorem nodup_upsertFields {k : Keying} {key : Key} {f : Field α → Field α} {new : Field α}
    (hnew : k.key new.name = key) (hf : ∀ g, k.key g.name = key → k.key (f g).name = key)
    {fields : List (Field α)} (h : (fields.map fun g => k.key g.name).Nodup) :
    ((upsertFields k key f new fields).map fun g => k.key g.name).Nodup := by
  induction fields with
  | nil => simp [upsertFields]
  | cons field rest ih =>
    rw [List.map_cons, List.nodup_cons] at h
    by_cases hk : k.key field.name = key
    · simp only [upsertFields, hk, if_true, List.map_cons, hf field hk, List.nodup_cons]
      exact ⟨hk ▸ h.1, h.2⟩
    · simp only [upsertFields, hk, if_false, List.map_cons, List.nodup_cons]
      refine ⟨fun m => ?_, ih h.2⟩
      rcases (mem_keys_upsertFields hnew hf rest).1 m with e | m
      · exact hk e
      · exact h.1 m

/-! ## Reading -/

def empty (keying : Keying) : FieldMap α := ⟨keying, [], .nil⟩

def find? (m : FieldMap α) (name : Name) : Option (Field α) :=
  m.fields.find? fun f => m.keying.key f.name = m.keying.key name

def get? (m : FieldMap α) (name : Name) : Option (List α) := (m.find? name).map (·.values)

def contains (m : FieldMap α) (name : Name) : Bool := (m.find? name).isSome

def first? (m : FieldMap α) (name : Name) : Option α := (m.get? name).bind List.head?

def names (m : FieldMap α) : List Name := m.fields.map (·.name)

def size (m : FieldMap α) : Nat := m.fields.length

def isEmpty (m : FieldMap α) : Bool := m.fields.isEmpty

/-! ## Writing -/

/-- Appends values to a name, which is entered when it is new. -/
def add (m : FieldMap α) (name : Name) (values : List α) : FieldMap α :=
  ⟨m.keying,
    upsertFields m.keying (m.keying.key name) (fun g => { g with values := g.values ++ values })
      ⟨name, values⟩ m.fields,
    by
      refine nodup_upsertFields ?_ ?_ m.distinct
      · rfl
      · exact fun _ h => h⟩

/-- Gives a name these values in place of all it had, in the place it had. -/
def put (m : FieldMap α) (name : Name) (values : List α) : FieldMap α :=
  ⟨m.keying,
    upsertFields m.keying (m.keying.key name) (fun _ => ⟨name, values⟩) ⟨name, values⟩ m.fields,
    by
      refine nodup_upsertFields ?_ ?_ m.distinct
      · rfl
      · exact fun _ _ => rfl⟩

def erase (m : FieldMap α) (name : Name) : FieldMap α :=
  ⟨m.keying, m.fields.filter fun f => m.keying.key f.name ≠ m.keying.key name,
    m.distinct.sublist (List.filter_sublist.map _)⟩

/-- Replaces the values of a name; no values remove the entry. -/
def replace (m : FieldMap α) (name : Name) (values : List α) : FieldMap α :=
  if values.isEmpty then m.erase name else m.put name values

def eraseFirst (m : FieldMap α) : FieldMap α :=
  ⟨m.keying, m.fields.tail, m.distinct.sublist ((List.tail_sublist _).map _)⟩

def clear (m : FieldMap α) : FieldMap α := empty m.keying

def ofFields (keying : Keying) (fields : List (Field α)) : FieldMap α :=
  fields.foldl (fun m f => m.add f.name f.values) (empty keying)

example : (((empty .folded).add (.text "A") [1] |>.add (.text "b") [2] |>.add (.text "a") [3] :
    FieldMap Nat)).fields = [⟨.text "A", [1, 3]⟩, ⟨.text "b", [2]⟩] := by decide +kernel
example : (((empty .folded).add (.text "A") [1] |>.add (.text "b") [2] |>.replace (.text "a") [3] :
    FieldMap Nat)).fields = [⟨.text "a", [3]⟩, ⟨.text "b", [2]⟩] := by decide +kernel

end FieldMap

end Outbound
