/-
# Outbound.Datum.Basic — values of no fixed type

What a caller gives is kept as it was given, and its type is looked at only when
it is used.  A datum has the name of its type, which fault messages show, a truth
value, and up to two ways of being read as a collection: as entries (`entries?`)
and as elements (`elements?`).

`asValues?` is how a datum becomes the values of a name: absent, text and fixed
octets are one value, a collection is its elements.
-/
import Outbound.Datum.Misuse
import Outbound.Datum.Name
import Outbound.Payload
import Outbound.Uri.Basic

namespace Outbound

set_option autoImplicit false

/-- A value of no fixed type. -/
inductive Datum where
  | absent
  | bool (b : Bool)
  | int (n : Int)
  | double (x : Binary64)
  | text (s : String)
  | octets (holder : OctetHolder) (bytes : Octets)
  | list (items : List Datum)
  | dict (entries : List (Datum × Datum))
  /-- A map of names to values. -/
  | fields (keying : Keying) (entries : List (Name × List Datum))
  | path (path : Path)
  | uri (uri : Uri)
  /-- An object that a body may come from. -/
  | payload (payload : Payload)
  /-- Named fields; a record that never changes can be a name. -/
  | record (typeName : String) (isFixed : Bool) (fields : List (String × Datum))
  /-- A value that never changes, of which no more is known than its type and how it is shown. -/
  | shown (typeName literal : String)
  deriving Repr

def Name.toDatum : Name → Datum
  | .text s => .text s
  | .octets holder bytes => .octets holder bytes
  | .bool b => .bool b
  | .int n => .int n
  | .double x => .double x
  | .path p => .path p
  | .object typeName literal => .shown typeName literal

namespace Datum

/-- The name of a datum's type, with the module of one that is built in. -/
def typeName : Datum → String
  | .absent => "NoneType"
  | .bool _ => "bool"
  | .int _ => "int"
  | .double _ => "float"
  | .text _ => "str"
  | .octets holder _ => holder.typeName
  | .list _ => "list"
  | .dict _ => "dict"
  | .fields keying _ => keying.typeName
  | .path _ => Path.typeName
  | .uri _ => "Uri"
  | .payload object => object.typeName
  | .record typeName _ _ => typeName
  | .shown typeName _ => typeName

/-- The name of a datum's type without its module. -/
def ownTypeName (d : Datum) : String :=
  String.ofList (Text.afterLast '.' d.typeName.toList)

def lacks (d : Datum) (capability : String) : Misuse := .lacks d.typeName capability

/-- Whether a datum counts as true: zero and everything empty do not. -/
def isTrue : Datum → Bool
  | .absent => false
  | .bool b => b
  | .int n => n != 0
  | .double x => !x.isZero
  | .text s => s != ""
  | .octets _ bytes => bytes != []
  | .list items => !items.isEmpty
  | .dict entries => !entries.isEmpty
  | .fields _ entries => !entries.isEmpty
  | _ => true

def isPresent : Datum → Bool
  | .absent => false
  | _ => true

def asText? : Datum → Option String
  | .text s => some s
  | _ => none

@[simp] theorem asText?_text (s : String) : asText? (.text s) = some s := rfl

@[simp] theorem asText?_eq_some_iff {d : Datum} {s : String} :
    d.asText? = some s ↔ d = .text s := by
  cases d <;> simp [asText?]

def ofText? : Option String → Datum
  | some s => .text s
  | none => .absent

def ofBool? : Option Bool → Datum
  | some b => .bool b
  | none => .absent

def orElse (d fallback : Datum) : Datum := if d.isTrue then d else fallback

/-! ## Collections -/

def entries? : Datum → Except Misuse (List (Datum × Datum))
  | .dict entries => .ok entries
  | .fields _ entries => .ok (entries.map fun entry => (entry.1.toDatum, .list entry.2))
  | d => .error (d.lacks "items")

/-- The elements of a collection: characters, octets, items, the names of a map, or the lines of
a stream. -/
def elements? : Datum → Except Misuse (List Datum)
  | .text s => .ok (s.toList.map fun c => .text (String.ofList [c]))
  | .octets _ bytes => .ok (bytes.map fun b => .int b.toNat)
  | .list items => .ok items
  | .dict entries => .ok (entries.map (·.1))
  | .fields _ entries => .ok (entries.map (·.1.toDatum))
  | .payload object =>
    match object.stream? with
    | some (_, bytes) => .ok (bytes.lines.map (.octets .fixed))
    | none => .error (.notIterable object.typeName)
  | d => .error (.notIterable d.typeName)

def asValues? : Datum → Except Misuse (List Datum)
  | .absent => .ok [.absent]
  | .text s => .ok [.text s]
  | .octets .fixed bytes => .ok [.octets .fixed bytes]
  | d => d.elements?

def field (fields : List (String × Datum)) (name : String) : Datum :=
  (fields.lookup name).getD .absent

end Datum

end Outbound
