/-
# Outbound.Datum.Same — when two data are the same value

Numbers are compared by value across their types, octets by what they hold, lists
item by item, and maps by their names and values in any order, whatever kind of
map they are.
-/
import Outbound.Datum.Written

namespace Outbound.Datum

set_option autoImplicit false

def key? (d : Datum) : Option Key := d.name?.map Name.key

def asMap? (d : Datum) : Option (List (Datum × Datum)) := d.entries?.toOption

/-- The datum is no number although its type is that of doubles. -/
def isNan : Datum → Bool
  | .double x => x.magnitude == .nan
  | _ => false

mutual
def same : Datum → Datum → Bool
  | .absent, d => !d.isPresent
  | .list as, .list bs => sameItems as bs
  | .dict as, d =>
    match d.asMap? with
    | some bs => as.length == bs.length && entriesWithin as bs
    | none => false
  | .fields _ as, d =>
    match d.asMap? with
    | some bs => as.length == bs.length && fieldsWithin as bs
    | none => false
  | .octets _ as, .octets _ bs => as == bs
  | .payload a, .payload b => a.stream?.isSome && a.stream? == b.stream?
  | .record s _ as, .record t _ bs => s == t && sameFields as bs
  | a, b => !a.isNan && a.key?.isSome && a.key? == b.key?

def sameItems : List Datum → List Datum → Bool
  | [], [] => true
  | a :: as, b :: bs => same a b && sameItems as bs
  | _, _ => false

def sameFields : List (String × Datum) → List (String × Datum) → Bool
  | [], [] => true
  | (_, a) :: as, b :: bs => same a b.2 && sameFields as bs
  | _, _ => false

def entriesWithin : List (Datum × Datum) → List (Datum × Datum) → Bool
  | [], _ => true
  | (k, d) :: rest, bs => bs.any (fun b => same k b.1 && same d b.2) && entriesWithin rest bs

def fieldsWithin : List (Name × List Datum) → List (Datum × Datum) → Bool
  | [], _ => true
  | (name, values) :: rest, bs =>
    bs.any (fun b => b.1.key? == some name.key && match b.2 with
      | .list items => sameItems values items
      | _ => false) && fieldsWithin rest bs
end

/-- Gives a key a value; a repeated key keeps its place and takes the last value. -/
def enter (entries : List (Datum × Datum)) (entry : Datum × Datum) : List (Datum × Datum) :=
  if entries.any (same entry.1 ·.1) then
    entries.map fun e => if same entry.1 e.1 then (e.1, entry.2) else e
  else entries ++ [entry]

/-- The dictionary that entries make when they are entered one after the other. -/
def ofEntries (entries : List (Datum × Datum)) : Datum := .dict (entries.foldl enter [])

/-- The same dictionary, unless a key cannot be one. -/
def ofEntries? (entries : List (Datum × Datum)) : Except Misuse Datum :=
  match entries.find? (·.1.name?.isNone) with
  | some entry => .error (.unhashable entry.1.typeName)
  | none => .ok (ofEntries entries)

example : same (.list [.bool true, .int 2]) (.list [.int 1, .int 2]) = true := by decide +kernel
example : same (.octets .growing [1]) (.octets .fixed [1]) = true := by decide +kernel

end Outbound.Datum
