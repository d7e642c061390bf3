/-
# Outbound.Auth.Config — how requests are authenticated by a header

A configuration names a kind of authentication and the secrets it needs.  A
checked configuration has the secrets that its kind needs, an empty one counting
as absent; an unchecked one may also be of a kind that is not known.
-/
import Outbound.Octets.Base64
import Outbound.Datum.Written
import Outbound.Settings.Check

namespace Outbound

set_option autoImplicit false

inductive AuthKind where
  | basic
  | bearer
  | xApiKey
  | custom
  /-- A kind without a meaning. -/
  | unknown (name : String)
  deriving DecidableEq, Repr

namespace AuthKind

def names : List (String × AuthKind) :=
  [("basic", .basic), ("bearer", .bearer), ("x-api-key", .xApiKey), ("custom", .custom)]

def name : AuthKind → String
  | .basic => "basic"
  | .bearer => "bearer"
  | .xApiKey => "x-api-key"
  | .custom => "custom"
  | .unknown name => name

end AuthKind

/-- What a request is authenticated by. -/
structure AuthConfig where
  kind : AuthKind
  rawApiKey : Option String := none
  username : Option String := none
  password : Option String := none
  headerName : Option String := none
  deriving DecidableEq, Repr

namespace AuthConfig

def filled (text : Option String) : Bool := text.any (· != "")

def shortcoming? (config : AuthConfig) : Option String :=
  match config.kind with
  | .basic =>
    if filled config.username && filled config.password then none
    else some "Basic auth requires 'username' and 'password'"
  | .bearer => if filled config.rawApiKey then none else some "bearer requires 'raw_api_key'"
  | .xApiKey => if filled config.rawApiKey then none else some "x-api-key requires 'raw_api_key'"
  | .custom =>
    if filled config.headerName && filled config.rawApiKey then none
    else some "custom requires 'header_name' and 'raw_api_key'"
  | .unknown _ => none

/-- A callback, which no datum is. -/
def callback : Datum → Check Unit
  | .absent => .ok ()
  | _ => Check.refuse .callableType

def ofEntries (entries : Check.Entries) : Check AuthConfig := do
  let text? (name : String) : Check (Option String) :=
    Check.defaulted entries name none (Check.optional Check.text)
  let kind := Check.required entries "type" (Check.choice AuthKind.names)
  let resolver := Check.defaulted entries "get_api_key_for_request" () callback
  let config ← (kind.both ((text? "raw_api_key").both ((text? "username").both
    ((text? "password").both ((text? "header_name").both resolver))))).map fun
      (kind, rawApiKey, username, password, headerName, _) =>
        ({ kind, rawApiKey, username, password, headerName } : AuthConfig)
  match config.shortcoming? with
  | some reason => Check.refuse (.valueError reason)
  | none => return config

/-- Takes a configuration as it is given, without any check. -/
def unchecked (entries : Check.Entries) : AuthConfig :=
  let text? (name : String) : Option String := (Check.given? entries name).bind Datum.asText?
  let kindName := ((Check.given? entries "type").getD .absent).written
  { kind := (AuthKind.names.lookup kindName).getD (.unknown kindName)
    rawApiKey := text? "raw_api_key"
    username := text? "username"
    password := text? "password"
    headerName := text? "header_name" }

/-- User name and password in base 64. -/
def credentials (username password : String) : String :=
  Octets.Base64.encode (Text.Utf8.encode (username ++ ":" ++ password).toList)

/-- The key as it stands in the header: the credentials of basic authentication, or else the key
given. -/
def apiKey (config : AuthConfig) : String :=
  match config.kind, config.username, config.password with
  | .basic, some username, some password =>
    if username != "" && password != "" then credentials username password
    else config.rawApiKey.getD ""
  | _, _, _ => config.rawApiKey.getD ""

end AuthConfig

end Outbound
