/-
# Outbound.Pool — how connections are pooled

A pool files the connection of a request under a key that is made from its URI.
By default the key is the origin, so that requests to one origin share a
connection.
-/
import Outbound.Datum.Basic

namespace Outbound

set_option autoImplicit false

/-- A part of a URI that can be a key. -/
inductive UriComponent where
  | scheme
  | host
  | userInfo
  | port
  | path
  | query
  | origin
  /-- The explicit port or the scheme's default. -/
  | effectivePort
  deriving DecidableEq, Repr

namespace UriComponent

def names : List (String × UriComponent) :=
  [("scheme", .scheme), ("host", .host), ("user_info", .userInfo), ("port", .port),
    ("path", .path), ("query", .query), ("base_url", .origin), ("effective_port", .effectivePort)]

def name : UriComponent → String
  | .scheme => "scheme"
  | .host => "host"
  | .userInfo => "user_info"
  | .port => "port"
  | .path => "path"
  | .query => "query"
  | .origin => "base_url"
  | .effectivePort => "effective_port"

def of (uri : Uri) : UriComponent → Except Uri.Fault Datum
  | .scheme => .ok (.ofText? uri.scheme)
  | .host => .ok (.ofText? uri.host)
  | .userInfo => .ok (.ofText? uri.userInfo)
  | .port => .ok (match uri.port with
    | some n => .int n
    | none => .absent)
  | .path => .ok (.ofText? uri.path)
  | .query => .ok (.ofText? uri.query)
  | .origin => uri.origin.map .text
  | .effectivePort => uri.effectivePort.map .int

end UriComponent

/-- A way of making pool keys. -/
inductive PoolStrategy where
  /-- By origin. -/
  | standard
  /-- All connections under one key. -/
  | constant (key : Datum)
  /-- By a part of the URI. -/
  | component (component : UriComponent)
  /-- A value of this type, which makes no keys. -/
  | unfit (typeName : String)
  deriving Repr

namespace PoolStrategy

/-- Two strategies are the same; two constant ones never are. -/
def same : PoolStrategy → PoolStrategy → Bool
  | .standard, .standard => true
  | .component a, .component b => a = b
  | _, _ => false

def check : PoolStrategy → Except Misuse Unit
  | .unfit typeName => .error (.lacks typeName "get_key")
  | _ => .ok ()

def key (strategy : PoolStrategy) (uri : Uri) : Except Uri.Fault Datum :=
  match strategy with
  | .standard => uri.origin.map .text
  | .constant key => .ok key
  | .component part => part.of uri
  | .unfit _ => .ok .absent

end PoolStrategy

end Outbound
