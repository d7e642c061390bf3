/-
# Outbound.Wire.Basic — a request as an engine is given it

An engine is given a method, a URL, a list of headers, a timeout and a body that
is wholly at hand.  The headers are the values that are present, in order, and
after them those that the request implies: its cookies, its virtual host and its
range.  An implied header is left out when a header of its name was set, even to
nothing.
-/
import Outbound.Datum.Number
import Outbound.Fault
import Outbound.Request.Basic

namespace Outbound

set_option autoImplicit false

/-- The octets that a datum holds, none when it holds no octets. -/
def Datum.held : Datum → Octets
  | .octets _ bytes => bytes
  | _ => []

/-- A part as an engine is given it. -/
structure WirePart where
  name : Datum
  fileName : Datum
  /-- Octets, unless something else was put in their place. -/
  content : Datum
  contentType : Datum
  deriving Repr

def WirePart.bytes (part : WirePart) : Octets := part.content.held

/-- A body as an engine is given it. -/
inductive WireBody where
  | none
  | content (bytes : Octets)
  /-- A form, an absent value being an empty one. -/
  | form (fields : List (Field Datum))
  | parts (parts : List WirePart)
  deriving Repr

/-- A request as an engine is given it. -/
structure WireRequest where
  method : Datum
  url : String
  headers : List (Name × Datum)
  /-- Seconds. -/
  timeout : Option Binary64
  body : WireBody

namespace Request

/-- The values of headers that are present. -/
def explicitHeaders (request : Request) : List (Name × Datum) :=
  request.headers.fields.flatMap fun f =>
    (f.values.filter Datum.isPresent).map fun value => (f.name, value)

/-- A header, unless one of its name was set. -/
def implied (request : Request) (name : String) (value : Option Datum) : List (Name × Datum) :=
  match value with
  | some value => if request.headers.contains (.text name) then [] else [(.text name, value)]
  | none => []

def cookieValue? (request : Request) : Option Datum :=
  if request.cookies.isEmpty then none else some (.text (Cookie.header request.cookies))

def hostValue? (request : Request) : Option Datum :=
  if request.virtualHost.isTrue then some request.virtualHost else none

/-- The value of the header that asks for the octets from an offset on. -/
def rangeValue? (request : Request) : Except Misuse (Option Datum) :=
  request.rangeOffset.isPositive.map fun isPositive =>
    if isPositive then some (.text ("bytes=" ++ request.rangeOffset.written ++ "-")) else none

def wireHeaders (request : Request) : Except Misuse (List (Name × Datum)) :=
  request.rangeValue?.map fun range =>
    request.explicitHeaders ++ request.implied "Cookie" request.cookieValue? ++
      request.implied "Host" request.hostValue? ++ request.implied "Range" range

def timeoutSeconds? (request : Request) : Except Fault (Option Binary64) := do
  if ← request.timeoutMs.isPositive.mapError .misuse then
    match request.timeoutMs.thousandth? with
    | some seconds => return some seconds
    | none => throw .timeoutTooLarge
  else return none

def wireMethod (request : Request) : Datum := request.method.orElse (.text "GET")

end Request

end Outbound
