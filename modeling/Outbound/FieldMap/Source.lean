/-
# Outbound.FieldMap.Source — field maps of values of no fixed type

The names and the values that a caller gives are data.  An absent name changes
nothing; a name that cannot be one is a misuse, and changes nothing either.

A map is filled from a source entry by entry, and what was entered before a fault
stays (`merge`).  The values of an entry are read before its name.
-/
import Outbound.Datum.Joined
import Outbound.Datum.Same
import Outbound.FieldMap.Basic

namespace Outbound

set_option autoImplicit false

/-- Names with values of no fixed type. -/
abbrev Fields := FieldMap Datum

namespace FieldMap

/-! ## Look-up by a datum -/

def lookup? (m : Fields) (name : Datum) : Except Misuse (Option (List Datum)) :=
  (m.keying.name? name).map fun found => found.bind m.get?

def firstValue (m : Fields) (name : Datum) : Except Misuse Datum :=
  (m.lookup? name).map fun values => (values.bind List.head?).getD .absent

def containsText (m : Fields) (name : Datum) : Bool :=
  name.asText?.any fun s => m.contains (.text s)

/-- The values of a name in one text or in octets, absent when it is not in the map. -/
def joined (m : Fields) (name delimiter : Datum) : Except Misuse Datum := do
  match ← m.lookup? name with
  | some values => Datum.join delimiter values
  | none => return .absent

/-! ## Entering data -/

/-- Enters values for a name in the given way; an absent name changes nothing. -/
def entering (enter : Fields → Name → List Datum → Fields) (m : Fields) (name : Datum)
    (values : List Datum) : Except Misuse Fields :=
  match name with
  | .absent => .ok m
  | name => (m.keying.name? name).map fun found =>
    match found with
    | some found => enter m found values
    | none => m

def addDatum (m : Fields) (name : Datum) (values : List Datum) : Except Misuse Fields :=
  entering add m name values

def replaceDatum (m : Fields) (name : Datum) (values : List Datum) : Except Misuse Fields :=
  entering replace m name values

def enterEntry (enter : Fields → Datum → List Datum → Except Misuse Fields) (m : Fields)
    (entry : Datum × Datum) : Except Misuse Fields :=
  entry.2.asValues?.bind (enter m entry.1)

/-- Enters entries one after the other, up to the first fault. -/
def merge (enter : Fields → Datum → List Datum → Except Misuse Fields) :
    Fields → List (Datum × Datum) → Fields × Except Misuse Unit
  | m, [] => (m, .ok ())
  | m, entry :: rest =>
    match enterEntry enter m entry with
    | .ok entered => merge enter entered rest
    | .error misuse => (m, .error misuse)

def mergeSource (enter : Fields → Datum → List Datum → Except Misuse Fields) (m : Fields)
    (source : Datum) : Fields × Except Misuse Unit :=
  match source.entries? with
  | .ok entries => merge enter m entries
  | .error misuse => (m, .error misuse)

/-! ## Maps and data -/

/-- The map that a datum makes; an absent one makes the empty map. -/
def ofDatum (keying : Keying) (d : Datum) : Except Misuse Fields :=
  match d with
  | .absent => .ok (empty keying)
  | d =>
    let (m, outcome) := mergeSource addDatum (empty keying) d
    outcome.map fun _ => m

def toDatum (m : Fields) : Datum :=
  .fields m.keying (m.fields.map fun f => (f.name, f.values))

def recast (keying : Keying) (m : Fields) : Except Misuse Fields := ofDatum keying m.toDatum

/-- The map that a datum is, its names being compared as they were; what is no map makes one. -/
def adopt? (keying : Keying) (d : Datum) : Except Misuse Fields :=
  match d with
  | .fields own _ => ofDatum own d
  | d => ofDatum keying d

def equals (m : Fields) (d : Datum) : Bool := m.toDatum.same d

example (m : Fields) (values : List Datum) : m.addDatum .absent values = .ok m := rfl

end FieldMap

end Outbound
