/-
# Outbound.Body.Part — the parts of a multipart body

A part is a text in a charset, octets, or a file.  A value that is no part can be
put among parts; it is refused only when the body is made.
-/
import Outbound.Datum.Basic

namespace Outbound

set_option autoImplicit false

/-- A part of a multipart body. -/
inductive Part where
  | text (name value contentType charset : Datum)
  | octets (name data fileName contentType charset : Datum)
  | file (name file fileName contentType charset : Datum)
  /-- A value of another type. -/
  | other (typeName : String)
  deriving Repr

namespace Part

/-- The part that a record describes; any other datum is no part. -/
def ofDatum (d : Datum) : Part :=
  match d with
  | .record "StringPart" _ fields =>
    let get := Datum.field fields
    .text (get "name") (get "value") (get "content_type") (get "charset")
  | .record "ByteArrayPart" _ fields =>
    let get := Datum.field fields
    .octets (get "name") (get "data") (get "file_name") (get "content_type") (get "charset")
  | .record "FilePart" _ fields =>
    let get := Datum.field fields
    .file (get "name") (get "file") (get "file_name") (get "content_type") (get "charset")
  | d => .other d.ownTypeName

end Part

end Outbound
