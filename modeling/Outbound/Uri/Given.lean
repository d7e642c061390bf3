/-
# Outbound.Uri.Given — URIs that are given as data

A URI is read from a text.  What is given in another type is refused, by its first
flaw: it cannot be remembered, it is empty, or it is no octets that might be
characters.
-/
import Outbound.Datum.Written
import Outbound.Fault
import Outbound.Uri.Parser

namespace Outbound.Datum

set_option autoImplicit false

def uriFault (d : Datum) : Fault :=
  if d.name?.isNone then .misuse (.unhashable d.typeName)
  else if !d.isTrue then .uri (.unsupportedScheme none d.written)
  else
    match d with
    | .octets .fixed bytes => .uri (Uri.parseOctets bytes)
    | d => .misuse (d.lacks "decode")

def readUri : Datum → Except Fault Uri
  | .text s => (Uri.parse s).mapError .uri
  | d => .error d.uriFault

end Outbound.Datum
