/-
# Outbound.Request.Target — where a request is sent to

The target of a request is the URI that was set, with the path `/` when it has
none, and with the query that the parameters make in place of its own.  A request
whose URI was never set is sent to localhost, and from then on has that URI.

A target is composed when it is read for the first time and remembered; it can be
read in two forms, which differ in how the query is written.  A URL is the text
of a target less one slash at the end of its path.
-/
import Outbound.Fault
import Outbound.Log
import Outbound.Request.Basic

namespace Outbound.Request

set_option autoImplicit false

/-! ## Composing -/

/-- The URI that was set, or else localhost. -/
def base (request : Request) : Uri := request.uri.getD Uri.localhost

/-- The path of a target, which is never empty. -/
def pathOrRoot (path : Option String) : String :=
  match path with
  | some path => if path = "" then "/" else path
  | none => "/"

def compose (request : Request) (form : QueryForm) : Except Fault Uri := do
  request.base.checkScheme.mapError .uri
  let query ← (Query.ofParams? form request.params).mapError .misuse
  return request.base.withTarget (some (pathOrRoot request.base.path)) query

/-! ## Reading -/

def located (request : Request) : Request := { request with uri := some request.base }

/-- Reading the target has to compose it. -/
def mustCompose (request : Request) (form : QueryForm) : Bool :=
  (request.derived.get? form).isNone

/-- What is logged when the target of a request without a URI is composed. -/
def localhostRecord : Record :=
  ⟨.debug, "[FetchRequest] set_url hasn't been invoked. Using http://localhost"⟩

def targetLog (request : Request) (form : QueryForm) : List Record :=
  if request.mustCompose form && request.uri.isNone then [localhostRecord] else []

/-- Reads the target; the request left behind remembers it. -/
def readTarget (request : Request) (form : QueryForm) : Request × Except Fault Uri :=
  match request.derived.get? form with
  | some uri => (request, .ok uri)
  | none =>
    let request := request.located
    match request.compose form with
    | .ok uri => ({ request with derived := request.derived.put form uri }, .ok uri)
    | .error fault => (request, .error fault)

/-! ## Texts -/

/-- A text less one slash at its end. -/
def dropSlash (s : List Char) : List Char := if s.getLast? = some '/' then s.dropLast else s

/-- A text less one slash at the end of what precedes its query. -/
def dropPathSlash (s : List Char) : List Char :=
  dropSlash (Text.before '?' s) ++ match Text.after? '?' s with
    | some query => '?' :: query
    | none => []

def urlOf (uri : Uri) : Except Uri.Fault String :=
  uri.render.map fun text => String.ofList (dropPathSlash text.toList)

/-- The names and values of a map after tabs. -/
def listing (fields : List (Field Datum)) : Except Misuse String :=
  (joinedFields fields).map fun joined =>
    String.join (joined.map fun (name, values) => "\t" ++ name.written ++ ":" ++ values)

/-- The form in a line that describes a request, when it has any name. -/
def formListing (form : Option Fields) : Except Misuse String :=
  match form with
  | some params =>
    if params.isEmpty then .ok ""
    else (listing params.fields).map fun names => "\tformParams:" ++ names
  | none => .ok ""

def describe (request : Request) (target : String) : Except Misuse String := do
  let headers ← listing request.headers.fields
  let form ← formListing request.body.form
  return target ++ "\t" ++ request.method.written ++ "\theaders:" ++ headers ++ form

end Outbound.Request
