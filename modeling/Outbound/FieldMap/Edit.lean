/-
# Outbound.FieldMap.Edit — the ways of changing a field map

Every way of changing a map is an `Edit`, and `run` performs it: it gives the map
left behind, which a failing edit may have changed in part, and the answer.
-/
import Outbound.FieldMap.Source

namespace Outbound.FieldMap

set_option autoImplicit false

/-! ## Faults -/

/-- Why a map cannot be read or changed. -/
inductive Fault where
  | misuse (misuse : Misuse)
  /-- There is no entry of this key, shown quoted. -/
  | missing (quotedKey : String)
  /-- There is no entry at all. -/
  | exhausted
  /-- An entry of this type is no pair. -/
  | notPair (typeName : String)
  /-- An entry has this many parts, fewer than two. -/
  | shortPair (parts : Nat)
  /-- An entry has more than two parts. -/
  | longPair
  deriving DecidableEq, Repr

def Fault.message : Fault → String
  | .misuse cause => cause.message
  | .missing quotedKey => quotedKey
  | .exhausted => ""
  | .notPair typeName => s!"cannot unpack non-iterable {typeName} object"
  | .shortPair parts => s!"not enough values to unpack (expected 2, got {parts})"
  | .longPair => "too many values to unpack (expected 2)"

/-- A result that is at hand, its misuse being a fault of the map. -/
def lift {α : Type} (result : Except Misuse α) : Except Fault α := result.mapError .misuse

/-! ## Look-up of what must be there -/

def missing (m : Fields) (name : Datum) : Fault :=
  match m.keying.name? name with
  | .ok (some found) => .missing (m.keying.fold found).literal
  | _ => .missing name.literal

def lookup (m : Fields) (name : Datum) : Except Fault (List Datum) := do
  match ← lift (m.lookup? name) with
  | some values => return values
  | none => throw (m.missing name)

/-- The map without the entry of a name, which may be missing. -/
def eraseDatum (m : Fields) (name : Datum) : Fields :=
  match m.keying.name? name with
  | .ok (some found) => m.erase found
  | _ => m

/-- The map without the entry of a text; what is no text is no name to delete. -/
def deleteDatum (m : Fields) (name : Datum) : Fields :=
  if m.containsText name then m.eraseDatum name else m

/-! ## Pairs -/

def pair? (d : Datum) : Except Fault (Datum × Datum) :=
  match d.elements? with
  | .ok [name, value] => .ok (name, value)
  | .ok parts => .error (if parts.length < 2 then .shortPair parts.length else .longPair)
  | .error _ => .error (.notPair d.typeName)

/-- Enters pairs one after the other, up to the first fault. -/
def mergePairs : Fields → List Datum → Fields × Except Fault Unit
  | m, [] => (m, .ok ())
  | m, d :: rest =>
    match (pair? d).bind fun entry => lift (enterEntry replaceDatum m entry) with
    | .ok entered => mergePairs entered rest
    | .error fault => (m, .error fault)

/-- Replaces by the entries of a map, or else by pairs. -/
def update (m : Fields) (source : Datum) : Fields × Except Fault Unit :=
  match source.entries?, source.elements? with
  | .ok entries, _ =>
    let (left, outcome) := merge replaceDatum m entries
    (left, lift outcome)
  | .error _, .ok items => mergePairs m items
  | .error _, .error misuse => (m, .error (.misuse misuse))

/-! ## Edits -/

inductive Edit where
  | add (name : Datum) (values : List Datum)
  | addAll (source : Datum)
  | replace (name : Datum) (values : List Datum)
  | replaceAll (source : Datum)
  /-- Replaces the values of a name by those that a value gives. -/
  | assign (name value : Datum)
  /-- Assigns only when the name is missing. -/
  | setDefault (name value : Datum)
  | update (source : Datum)
  | delete (name : Datum)
  | deleteAll (names : Datum)
  /-- Removes an entry that must be there. -/
  | remove (name : Datum)
  /-- Removes an entry and answers its values; it must be there unless there is a fallback. -/
  | pop (name : Datum) (fallback : Option Datum)
  /-- Removes the first entry and answers it. -/
  | popFirst
  | clear

inductive Reply where
  | map
  | value (value : Datum)
  | field (field : Field Datum)

/-- The answer `r` after a change that may have met a fault. -/
def andThen {β : Type} (r : β) (left : Fields × Except Fault Unit) : Fields × Except Fault β :=
  (left.1, left.2.map fun _ => r)

/-- The answer `r` after a change that is made as a whole or not at all. -/
def whole {β : Type} (m : Fields) (r : β) (changed : Except Misuse Fields) :
    Fields × Except Fault β :=
  match changed with
  | .ok changed => (changed, .ok r)
  | .error misuse => (m, .error (.misuse misuse))

def mergeAll (enter : Fields → Datum → List Datum → Except Misuse Fields) (m : Fields)
    (source : Datum) : Fields × Except Fault Unit :=
  let (left, outcome) := mergeSource enter m source
  (left, lift outcome)

def run (m : Fields) : Edit → Fields × Except Fault Reply
  | .add name values => whole m .map (m.addDatum name values)
  | .replace name values => whole m .map (m.replaceDatum name values)
  | .addAll source => andThen .map (mergeAll addDatum m source)
  | .replaceAll source => andThen .map (mergeAll replaceDatum m source)
  | .update source => andThen (.value .absent) (m.update source)
  | .assign name value => whole m (.value .absent) (enterEntry replaceDatum m (name, value))
  | .setDefault name value =>
    match m.lookup? name with
    | .ok (some old) => (m, .ok (.value (.list old)))
    | .ok none => whole m (.value value) (enterEntry replaceDatum m (name, value))
    | .error misuse => (m, .error (.misuse misuse))
  | .delete name => (m.deleteDatum name, .ok .map)
  | .deleteAll names =>
    match names.elements? with
    | .ok names => (names.foldl deleteDatum m, .ok .map)
    | .error misuse => (m, .error (.misuse misuse))
  | .remove name =>
    match m.lookup name with
    | .ok _ => (m.eraseDatum name, .ok (.value .absent))
    | .error fault => (m, .error fault)
  | .pop name fallback =>
    match m.lookup? name with
    | .ok (some old) => (m.eraseDatum name, .ok (.value (.list old)))
    | .ok none =>
      match fallback with
      | some d => (m, .ok (.value d))
      | none => (m, .error (m.missing name))
    | .error misuse => (m, .error (.misuse misuse))
  | .popFirst =>
    match m.fields with
    | field :: _ => (m.eraseFirst, .ok (.field field))
    | [] => (m, .error .exhausted)
  | .clear => (m.clear, .ok (.value .absent))

end Outbound.FieldMap
