/-
# Outbound.Request.Basic — everything that describes a request

A request is handed to an engine that sends it.  It holds what its builder was
told, of whatever type that is; types matter only when the request is used.  The
URIs that it is sent to are derived from the URI that was set and from the query
parameters, and remembered (`Derived`) until one of the two changes.
-/
import Outbound.Body.Basic
import Outbound.Cookie
import Outbound.Pool
import Outbound.Proxy
import Outbound.Query
import Outbound.Realm

namespace Outbound

set_option autoImplicit false

/-- The derived URIs that are remembered, one for each form of the query. -/
structure Derived where
  encoded : Option Uri := none
  raw : Option Uri := none
  deriving DecidableEq, Repr

namespace Derived

def get? (derived : Derived) : QueryForm → Option Uri
  | .encoded => derived.encoded
  | .raw => derived.raw

def put (derived : Derived) (form : QueryForm) (uri : Uri) : Derived :=
  match form with
  | .encoded => { derived with encoded := some uri }
  | .raw => { derived with raw := some uri }

end Derived

structure Request where
  method : Datum := .absent
  /-- The URI as it was set. -/
  uri : Option Uri := none
  /-- The address to connect to. -/
  address : Datum := .absent
  /-- The address to connect from. -/
  localAddress : Datum := .absent
  /-- Headers, whose names are compared without regard to case. -/
  headers : Fields := .empty .folded
  cookies : List Cookie := []
  body : Body := {}
  virtualHost : Datum := .absent
  /-- Query parameters, whose names are compared as they are. -/
  params : Option Fields := none
  proxy : Option ProxyServer := none
  realm : Option Realm := none
  followRedirects : Datum := .absent
  /-- Milliseconds; zero and less leave the timeout to the engine. -/
  timeoutMs : Datum := .int 0
  rangeOffset : Datum := .int 0
  charset : Datum := .absent
  /-- Whether the query is sent as it stands. -/
  isRaw : Datum := .bool false
  pool : PoolStrategy := .standard
  derived : Derived := {}

namespace Request

def invalidate (request : Request) : Request := { request with derived := {} }

/-- A copy of a request, for a builder that starts from it; it has derived nothing yet.  Its
headers ignore case and its parameters do not, however they were compared before. -/
def copy (request : Request) : Except Misuse Request := do
  let headers ← request.headers.recast .folded
  let form ← request.body.form.mapM (FieldMap.recast .exact)
  let params ← request.params.mapM (FieldMap.recast .exact)
  return { request.invalidate with headers, params, body := { request.body with form } }

def withBody (request : Request) (f : Body → Body) : Request :=
  { request with body := f request.body }

/-- The request with other query parameters, which makes the derived URIs void. -/
def withParams (request : Request) (params : Option Fields) : Request :=
  { request with params }.invalidate

def queryForm (request : Request) : QueryForm :=
  if request.isRaw.isTrue then .raw else .encoded

def joinedFields (fields : List (Field Datum)) : Except Misuse (List (Name × String)) :=
  fields.mapM fun f => (Datum.joinValues ", " f.values).map fun values => (f.name, values)

end Request

end Outbound
