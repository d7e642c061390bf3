/-
# Outbound.Cookie — cookies of a request

A cookie is known by its name when one is put into a list: it takes the place of
the first cookie of that name, and only when there is none it goes to the end.
-/
import Outbound.Datum.Same

namespace Outbound

set_option autoImplicit false

/-- A cookie; a negative maximal age means that it has none. -/
structure Cookie where
  name : Datum
  value : Datum
  /-- The value as it was received, quotes included. -/
  rawValue : Datum := .absent
  domain : Datum := .absent
  path : Datum := .absent
  expires : Datum := .absent
  maxAge : Datum := .int (-1)
  secure : Datum := .bool false
  httpOnly : Datum := .bool false
  deriving Repr

namespace Cookie

def ofDatum? : Datum → Option Cookie
  | .record "Cookie" _ fields =>
    let get := Datum.field fields
    some {
      name := get "name"
      value := get "value"
      rawValue := get "raw_value"
      domain := get "domain"
      path := get "path"
      expires := get "expires"
      maxAge := get "max_age"
      secure := get "secure"
      httpOnly := get "http_only" }
  | _ => none

/-- The cookie as it is sent: its name and its value, the received one when known. -/
def text (cookie : Cookie) : String :=
  cookie.name.written ++ "=" ++
    (if cookie.rawValue.isPresent then cookie.rawValue else cookie.value).written

def header (cookies : List Cookie) : String := "; ".intercalate (cookies.map text)

/-- Puts a cookie in the place of the first one of its name, or else at the end. -/
def put (cookie : Cookie) : List Cookie → List Cookie
  | [] => [cookie]
  | other :: rest =>
    if other.name.same cookie.name then cookie :: rest else other :: put cookie rest

end Cookie

end Outbound
