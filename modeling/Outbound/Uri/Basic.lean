/-
# Outbound.Uri.Basic — the parts of a URI and its text

A URI is kept as its parts, each exactly as given: nothing is decoded.  There is
no fragment, because none is ever sent.  A part that is `none` is absent and
leaves no trace in the text, whereas an empty query leaves its question mark.

A value without a scheme or a host can be held but has no text
(`Fault.unwritable`).  The
schemes that a request can be sent over are `http`, `https`, `ws` and `wss`; the
effective port is the explicit one or the scheme's default.
-/
import Outbound.Text.Case
import Outbound.Text.Numeral

namespace Outbound

set_option autoImplicit false

structure Uri where
  scheme : Option String
  host : Option String
  userInfo : Option String := none
  port : Option Int := none
  path : Option String := some ""
  query : Option String := none
  deriving DecidableEq, Repr

namespace Uri

/-! ## Faults -/

/-- Why a text is no absolute URI. -/
inductive Defect where
  /-- A bracket of the authority does not enclose the host. -/
  | strayBracket
  /-- A bracketed host that starts with `v` is not of the form for future addresses. -/
  | badFutureAddress
  /-- A bracketed host is an address of version 4. -/
  | bracketedVersion4
  /-- A bracketed host, shown quoted, is no address. -/
  | notAddress (quoted : String)
  /-- The authority has characters that stand for delimiters. -/
  | disguisedDelimiter (authority : String)
  /-- The port, shown quoted, is not written in digits. -/
  | portNotNumber (quoted : String)
  | portTooLong (fault : Text.Numeral.TooLong)
  /-- The port is above 65535. -/
  | portOutOfRange
  /-- The host is empty. -/
  | missingHost
  /-- The octet at this place is beyond ASCII. -/
  | beyondAscii (octet : String) (place : Nat)
  deriving DecidableEq, Repr

inductive Fault where
  /-- The text is no absolute URI. -/
  | invalid (text : String) (defect : Defect)
  /-- No request can be sent over the scheme, or there is none, of the URI with this text. -/
  | unsupportedScheme (scheme : Option String) (text : String)
  /-- The URI is given in octets, whose scheme is no text; both are shown quoted. -/
  | octetScheme (scheme text : String)
  /-- The piece at this place of a URI's text, the scheme or the host, is absent. -/
  | unwritable (index : Nat)
  /-- A URI without a scheme has no default port. -/
  | portOfSchemeless
  deriving DecidableEq, Repr

/-! ## Schemes and ports -/

def supportedSchemes : List String := ["http", "https", "ws", "wss"]

/-- The port of a scheme in lower case; one of an unknown scheme is that of `http`. -/
def defaultPort (scheme : String) : Int :=
  if scheme = "https" ∨ scheme = "wss" then 443 else 80

/-- The explicit port, or else the scheme's default. -/
def effectivePort (u : Uri) : Except Fault Int :=
  match u.port, u.scheme with
  | some port, _ => .ok port
  | none, some scheme => .ok (defaultPort (Text.lower scheme))
  | none, none => .error .portOfSchemeless

/-! ## Texts -/

/-- `scheme://host:port` with the effective port. -/
def origin (u : Uri) : Except Fault String :=
  let scheme := u.scheme.getD "None"
  let host := u.host.getD "None"
  u.effectivePort.map fun port => s!"{scheme}://{host}:{port}"

/-- The user information before the host, when it is not empty. -/
def login (u : Uri) : String :=
  match u.userInfo with
  | some info => if info = "" then "" else info ++ "@"
  | none => ""

/-- What precedes the path, after the scheme, around the given host. -/
def authority (host : String) (u : Uri) : String :=
  u.login ++ host ++ match u.port with
    | some port => s!":{port}"
    | none => ""

/-- What follows the authority: the path, and the query after its question mark. -/
def target (u : Uri) : String :=
  u.path.getD "" ++ match u.query with
    | some query => "?" ++ query
    | none => ""

def renderWith (scheme host : String) (u : Uri) : String :=
  scheme ++ "://" ++ u.authority host ++ u.target

/-- The text of a URI; its first piece is the scheme, and the host is the third unless user
information precedes it. -/
def render (u : Uri) : Except Fault String :=
  match u.scheme, u.host with
  | none, _ => .error (.unwritable 0)
  | some _, none => .error (.unwritable (if u.login = "" then 2 else 3))
  | some scheme, some host => .ok (renderWith scheme host u)

def withTarget (u : Uri) (path query : Option String) : Uri := { u with path, query }

def isSupported (u : Uri) : Bool :=
  match u.scheme with
  | some scheme => supportedSchemes.contains (Text.lower scheme)
  | none => false

def checkScheme (u : Uri) : Except Fault Unit :=
  if u.isSupported then .ok ()
  else u.render.bind fun text => .error (.unsupportedScheme u.scheme text)

/-- The URI of a request whose URI was never set. -/
def localhost : Uri := { scheme := some "http", host := some "localhost" }

/-! ## Wording -/

def Defect.message : Defect → String
  | .strayBracket => "Invalid IPv6 URL"
  | .badFutureAddress => "IPvFuture address is invalid"
  | .bracketedVersion4 => "An IPv4 address cannot be in brackets"
  | .notAddress quoted => s!"{quoted} does not appear to be an IPv4 or IPv6 address"
  | .disguisedDelimiter authority =>
    s!"netloc '{authority}' contains invalid characters under NFKC normalization"
  | .portNotNumber quoted => s!"Port could not be cast to integer value as {quoted}"
  | .portTooLong fault => fault.message
  | .portOutOfRange => "Port out of range 0-65535"
  | .missingHost => "missing host"
  | .beyondAscii octet place =>
    s!"'ascii' codec can't decode byte {octet} in position {place}: ordinal not in range(128)"

/-- The wording of a fault; an empty scheme counts as missing. -/
def Fault.message : Fault → String
  | .invalid text defect => s!"Invalid URI '{text}': {defect.message}"
  | .unsupportedScheme scheme text =>
    match scheme with
    | some name =>
      if name = "" then s!"Missing scheme in URI '{text}'"
      else s!"Unsupported scheme '{name}' in URI '{text}'"
    | none => s!"Missing scheme in URI '{text}'"
  | .octetScheme scheme text => s!"Unsupported scheme '{scheme}' in URI '{text}'"
  | .unwritable index => s!"sequence item {index}: expected str instance, NoneType found"
  | .portOfSchemeless => "'NoneType' object has no attribute 'lower'"

end Uri

end Outbound
