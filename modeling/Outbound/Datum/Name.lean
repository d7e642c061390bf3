/-
# Outbound.Datum.Name — values that can be names

A name is a value by which an entry of a map is found: a text as a rule, but any
value that never changes can be one.  Names are compared by their keys: numbers by
their value, whatever their type, and octets by what they hold.  A map may ignore
the case of its names (`Keying`); then the key of a text is its lower case.
-/
import Outbound.File.Path
import Outbound.Number.Shortest
import Outbound.Text.Case
import Outbound.Text.Quoted

namespace Outbound

set_option autoImplicit false

/-- How a string of octets is held. -/
inductive OctetHolder where
  | fixed
  | growing
  | view
  deriving DecidableEq, Repr

def OctetHolder.typeName : OctetHolder → String
  | .fixed => "bytes"
  | .growing => "bytearray"
  | .view => "memoryview"

def OctetHolder.literal (bytes : Octets) : OctetHolder → String
  | .fixed => Text.quoteOctets bytes
  | .growing => "bytearray(" ++ Text.quoteOctets bytes ++ ")"
  | .view => "<memory>"

/-- Doubles are written positionally from 10⁻⁴ up to 10¹⁶, with one decimal at least. -/
def Datum.doubleFormat : DecimalFormat where
  leastPositional := -4
  positionalEnd := 16
  integerEnd := ['.', '0']
  exponentDigits := 2
  nanText := "nan"
  infinityText := "inf"

def Path.typeName : String := "PurePosixPath"

def Path.literal (path : Path) : String := Path.typeName ++ "(" ++ Text.quote path.text ++ ")"

/-- A value that can be a name. -/
inductive Name where
  | text (s : String)
  | octets (holder : OctetHolder) (bytes : Octets)
  | bool (b : Bool)
  | int (n : Int)
  | double (x : Binary64)
  | path (path : Path)
  /-- Any other value, known by its type and by how it is shown. -/
  | object (typeName literal : String)
  deriving DecidableEq, Repr

/-- What a name is compared by. -/
inductive Key where
  | text (s : String)
  | octets (bytes : Octets)
  | int (n : Int)
  /-- A double that is no integer. -/
  | double (x : Binary64)
  | path (path : Path)
  | object (typeName literal : String)
  deriving DecidableEq, Repr

namespace Name

def typeName : Name → String
  | .text _ => "str"
  | .octets holder _ => holder.typeName
  | .bool _ => "bool"
  | .int _ => "int"
  | .double _ => "float"
  | .path _ => Path.typeName
  | .object typeName _ => typeName

def literal : Name → String
  | .text s => Text.quote s
  | .octets holder bytes => holder.literal bytes
  | .bool b => if b then "True" else "False"
  | .int n => toString n
  | .double x => Datum.doubleFormat.render x
  | .path p => p.literal
  | .object _ literal => literal

/-- A name in a text: a text is itself, and so is the text of a path. -/
def written : Name → String
  | .text s => s
  | .path p => p.text
  | name => name.literal

def text? : Name → Option String
  | .text s => some s
  | _ => none

def key : Name → Key
  | .text s => .text s
  | .octets _ bytes => .octets bytes
  | .bool b => .int b.toInt
  | .int n => .int n
  | .double x =>
    match x.truncate? with
    | some n => if x.isIntegral then .int n else .double x
    | none => .double x
  | .path p => .path p
  | .object typeName literal => .object typeName literal

/-- A name in lower case; numbers and objects have no case. -/
def lower : Name → Name
  | .text s => .text (Text.lower s)
  | .octets holder bytes =>
    .octets holder (bytes.map fun b => if 0x41 ≤ b ∧ b ≤ 0x5A then b + 0x20 else b)
  | name => name

end Name

/-- How the names of a map are compared. -/
inductive Keying where
  /-- By the name itself. -/
  | exact
  /-- Without regard to case. -/
  | folded
  deriving DecidableEq, Repr

namespace Keying

def fold : Keying → Name → Name
  | .exact, name => name
  | .folded, name => name.lower

def key (keying : Keying) (name : Name) : Key := (keying.fold name).key

def typeName : Keying → String
  | .exact => "StringsMap"
  | .folded => "CaseInsensitiveStringsMap"

end Keying

end Outbound
