/-
# Outbound.Query — a query as a list of parameters

A query is written as its parameters joined by `&`, a parameter as its name and,
after `=`, its value when it has one.  Names and values are percent-encoded or
stand as they are (`QueryForm`).  Only texts can be written; the first datum that
is none is a misuse, which depends on the form.

A query is read segment by segment.  Empty segments at the end say nothing.  A
segment is cut at its first `=`; one without an equals sign, or with nothing in
front of it, is a name without a value.
-/
import Outbound.FieldMap.Source
import Outbound.Text.Cut
import Outbound.Text.Percent

namespace Outbound

set_option autoImplicit false

/-- How names and values stand in a query. -/
inductive QueryForm where
  /-- Percent-encoded. -/
  | encoded
  /-- As they are. -/
  | raw
  deriving DecidableEq, Repr

namespace Query

/-- A name with its value, which may be missing. -/
abbrev Parameter := String × Option String

/-! ## Writing texts -/

def component (form : QueryForm) (text : String) : List Char :=
  match form with
  | .encoded => Text.Percent.encodeChars text.toList
  | .raw => text.toList

def segment (form : QueryForm) (parameter : Parameter) : List Char :=
  component form parameter.1 ++ match parameter.2 with
    | some value => '=' :: component form value
    | none => []

def write (form : QueryForm) (parameters : List Parameter) : String :=
  String.ofList (Text.join '&' (parameters.map (segment form)))

/-! ## Writing data -/

def pairs (fields : List (Field Datum)) : List (Name × Datum) :=
  fields.flatMap fun f => f.values.map fun value => (f.name, value)

def parameter? (pair : Name × Datum) : Option Parameter :=
  match pair.1, pair.2 with
  | .text name, .text value => some (name, some value)
  | .text name, .absent => some (name, none)
  | _, _ => none

/-- The misuse in writing a name and a value as they are, when they are written one after the
other. -/
def segmentMisuse? (pair : Name × Datum) : Option Misuse :=
  match pair.1, pair.2 with
  | _, .absent => none
  | .text _, .text _ => none
  | .octets .view _, .text _ => some (.unextendable "+=" pair.1.typeName)
  | .octets _ _, .text _ => some (.octetsExtended pair.1.typeName)
  | name, .text _ => some (.unextendable "+=" name.typeName)
  | _, value => some (.unappendable value.typeName)

/-- The misuse in joining what stands in a query, a name without a value being no text. -/
def joinMisuse (pairs : List (Name × Datum)) : Misuse :=
  let index := pairs.findIdx fun pair => pair.1.text?.isNone
  .unjoinable index ((pairs[index]?.map fun pair => pair.1.typeName).getD "")

def misuse (form : QueryForm) (pairs : List (Name × Datum)) : Misuse :=
  match form with
  | .encoded => .unquotable
  | .raw => (pairs.findSome? segmentMisuse?).getD (joinMisuse pairs)

def writePairs (form : QueryForm) (pairs : List (Name × Datum)) : Except Misuse String :=
  match pairs.mapM parameter? with
  | some parameters => .ok (write form parameters)
  | none => .error (misuse form pairs)

def ofParams? (form : QueryForm) (params : Option Fields) : Except Misuse (Option String) :=
  match params with
  | some params =>
    if params.isEmpty then .ok none else (writePairs form (pairs params.fields)).map some
  | none => .ok none

/-! ## Reading -/

/-- The segments of a query without the empty ones at its end. -/
def segments (query : String) : List (List Char) :=
  ((Text.split '&' query.toList).reverse.dropWhile List.isEmpty).reverse

def readComponent (form : QueryForm) (s : List Char) : Except Text.Percent.Fault String :=
  match form with
  | .encoded => (Text.Percent.decodeChars s).map String.ofList
  | .raw => .ok (String.ofList s)

def readSegment (form : QueryForm) (s : List Char) : Except Text.Percent.Fault Parameter :=
  match Text.after? '=' s with
  | none => .ok (String.ofList s, none)
  | some value =>
    let name := Text.before '=' s
    if name.isEmpty then .ok (String.ofList s, none)
    else do
      let name ← readComponent form name
      let value ← readComponent form value
      return (name, some value)

example : write .encoded [("a b", some "1&2"), ("c", none)] = "a%20b=1%262&c" := by
  decide +kernel
example : segments "a=1&&b&&" = ["a=1".toList, [], "b".toList] := by decide +kernel
example : readSegment .raw "=x".toList = .ok ("=x", none) := by rfl

end Query

end Outbound
