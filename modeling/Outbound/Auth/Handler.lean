/-
# Outbound.Auth.Handler — from a key to a header

A handler has a key of its own and may ask a resolver for one per request; the
resolver's key wins unless it is absent or empty.  Without a key there is no
header.  What is logged shows keys only through their masks.
-/
import Outbound.Auth.Config
import Outbound.Auth.Context

namespace Outbound

set_option autoImplicit false

/-- A failure of a caller's callback: its kind and its wording. -/
structure CallbackFault where
  kind : String
  message : String
  deriving DecidableEq, Repr

abbrev KeyResolver := SigningContext → Except CallbackFault (Option String)

/-- Where a handler's key comes from. -/
structure KeySource where
  key : Option String
  resolver : Option KeyResolver := none

/-- A way of turning a key into a header. -/
inductive AuthHandler where
  | bearer (source : KeySource)
  | xApiKey (source : KeySource)
  | custom (headerName : Datum) (source : KeySource)

namespace KeySource

def nonempty (key : Option String) : Option String := key.filter (· != "")

def resolve (source : KeySource) (context : SigningContext) :
    Traced CallbackFault (Option String) := do
  match source.resolver with
  | none => return nonempty source.key
  | some resolver =>
    Traced.emit (.asked context)
    match resolver context with
    | .error fault => throw fault
    | .ok key => return (nonempty key).or (nonempty source.key)

end KeySource

namespace AuthHandler

def logPrefix : String := "[AUTH:fetch_request.auth.auth_handler]"

/-- The handler of a configuration; one of an unknown kind is a bearer. -/
def ofConfig (config : AuthConfig) (resolver : Option KeyResolver) : AuthHandler :=
  let key := KeySource.nonempty config.rawApiKey
  match config.kind with
  | .basic => .custom (.text "Authorization") ⟨some ("Basic " ++ config.apiKey), resolver⟩
  | .bearer => .bearer ⟨key, resolver⟩
  | .xApiKey => .xApiKey ⟨key, resolver⟩
  | .custom =>
    .custom (.text ((KeySource.nonempty config.headerName).getD "Authorization")) ⟨key, resolver⟩
  | .unknown _ => .bearer ⟨key, resolver⟩

def creationLog (config : AuthConfig) : List Record :=
  ⟨.debug, logPrefix ++ " create_auth_handler: type=" ++ config.kind.name ++
    ", raw_api_key=" ++ Record.mask config.rawApiKey ++
    ", username=" ++ Record.mask config.username⟩ ::
  match config.kind with
  | .unknown name =>
    [⟨.warning, logPrefix ++ " create_auth_handler: Unknown type '" ++ name ++
      "', defaulting to bearer"⟩]
  | _ => []

def header? (handler : AuthHandler) (context : SigningContext) :
    Traced CallbackFault (Option (Datum × String)) := do
  match handler with
  | .bearer source =>
    let some key ← source.resolve context | return none
    let value := "Bearer " ++ key
    Traced.log .debug (logPrefix ++ " BearerAuthHandler.get_header: api_key=" ++
      Record.mask (some key) ++ " -> Authorization=" ++ Record.mask (some value))
    return some (.text "Authorization", value)
  | .xApiKey source =>
    let some key ← source.resolve context | return none
    Traced.log .debug (logPrefix ++ " XApiKeyAuthHandler.get_header: api_key=" ++
      Record.mask (some key))
    return some (.text "x-api-key", key)
  | .custom headerName source =>
    let some key ← source.resolve context | return none
    Traced.log .debug (logPrefix ++ " CustomAuthHandler.get_header: header_name=" ++
      headerName.written ++ ", api_key=" ++ Record.mask (some key))
    return some (headerName, key)

end AuthHandler

end Outbound
