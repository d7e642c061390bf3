/-
# Outbound.World — what lies outside of a request

What a request becomes when it is handed over depends on two things that are not in
it: the files at hand, and the codecs that were registered besides the charsets of
`Text.Charset`.  A codec is whatever somebody registered under a name, so all that is
known of it is what it makes of a text or how it fails.
-/
import Outbound.Auth.Handler
import Outbound.File.Tree

namespace Outbound

set_option autoImplicit false

/-- How registered codecs encode a text, by name. -/
abbrev Codecs := String → Option (String → Except CallbackFault Octets)

/-- The files at hand, and codecs besides the charsets. -/
structure World extends FileTree where
  codecs : Codecs := fun _ => none

instance : Coe FileTree World := ⟨fun tree => { tree with }⟩

end Outbound
