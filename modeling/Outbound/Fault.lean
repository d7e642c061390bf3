/-
# Outbound.Fault — why a request cannot be built or handed over

Each fault is a cause; its wording is `message`.  The faults of the parts that
requests are made of stand for themselves.
-/
import Outbound.Auth.Handler
import Outbound.Datum.Octets
import Outbound.File.Tree
import Outbound.Settings.Resolve
import Outbound.Text.Charset
import Outbound.Text.Percent
import Outbound.Uri.Basic

namespace Outbound

set_option autoImplicit false

inductive Fault where
  | uri (fault : Uri.Fault)
  /-- A URI was set that has no path, not even an empty one. -/
  | missingPath
  /-- A segment of a query cannot be decoded. -/
  | undecodable (segment : String) (cause : Text.Percent.Fault)
  /-- A value was used for what its type does not offer. -/
  | misuse (misuse : Misuse)
  /-- A value makes no octets. -/
  | notOctets (fault : Datum.OctetsFault)
  /-- No form of body is made of a value of this type. -/
  | unsupportedBody (typeName : String)
  /-- A value of this type is no part. -/
  | unsupportedPart (typeName : String)
  /-- A stated length has too many digits. -/
  | length (fault : Text.Numeral.TooLong)
  /-- There is no digest algorithm of this name. -/
  | unsupportedAlgorithm (name : String)
  /-- A callback failed. -/
  | callback (fault : CallbackFault)
  | charset (fault : Text.Charset.Fault)
  | file (fault : FileTree.Fault)
  /-- A timeout is beyond all doubles. -/
  | timeoutTooLarge
  /-- Settings were refused. -/
  | settings (defects : List SettingsDefect)
  | resolve (fault : ResolveFault)
  /-- A client failed to send. -/
  | client (fault : CallbackFault)
  /-- Builds are nested too deeply. -/
  | nestedTooDeeply

namespace Fault

def message : Fault → String
  | .uri fault => fault.message
  | .missingPath => "uri.path"
  | .undecodable segment cause =>
    s!"Failed to decode query segment '{segment}': {cause.message}"
  | .misuse cause => cause.message
  | .notOctets fault => fault.message
  | .unsupportedBody typeName => s!"Unsupported body type: {typeName}"
  | .unsupportedPart typeName => s!"Unsupported part type: {typeName}"
  | .length fault => fault.message
  | .unsupportedAlgorithm name => s!"Unsupported HMAC algorithm '{name}'"
  | .callback fault => fault.message
  | .charset fault => fault.message
  | .file fault => fault.message
  | .timeoutTooLarge => "int too large to convert to float"
  | .settings _ => ""
  | .resolve fault => fault.message
  | .client fault => fault.message
  | .nestedTooDeeply => "maximum recursion depth exceeded"

end Fault

end Outbound
