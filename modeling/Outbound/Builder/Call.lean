/-
# Outbound.Builder.Call — the calls that change a request

A call tells a request one thing.  Most calls only set what they name.  Setting
the URI enters the parameters of its query one by one, so a segment that cannot be
decoded leaves the ones before it entered; the derived URIs are made void by every
parameter, and by the URI once all its parameters are in.  Calls that set one form
of body clear the others before they look at what they were given.

`Request.perform` gives the request that is left behind, changed in part when the
call fails, and the outcome.
-/
import Outbound.Fault
import Outbound.Request.Basic
import Outbound.Uri.Parser

namespace Outbound

set_option autoImplicit false

/-- A call that changes a request. -/
inductive Call where
  | setAddress (address : Datum)
  | setLocalAddress (address : Datum)
  | setVirtualHost (host : Datum)
  | setHeader (name value : Datum)
  /-- An absent value is added as an empty one, with a warning. -/
  | addHeader (name value : Datum)
  | setHeaders (source : Datum)
  | setContentLength (length : Datum)
  | setCookies (cookies : Datum)
  | addCookie (cookie : Datum)
  | putCookie (cookie : Datum)
  | resetCookies
  | addQueryParam (name value : Datum)
  /-- Sets the parameters to those of a source, or to none. -/
  | setQueryParams (source : Datum)
  | resetQueryParams
  | addFormParam (name value : Datum)
  | setFormParams (source : Datum)
  | resetFormParams
  /-- Clears the single-valued forms of body. -/
  | resetSingleBody
  | resetParts
  | setBodyOctets (octets : Datum)
  | setBodyText (text : Datum)
  | setBodyStream (stream : Datum)
  | setBodyWriter (writer length : Datum)
  | setBodyFile (file : Datum)
  | setBodyGenerator (generator : Datum)
  /-- Sets the body in the form that suits the value; the length is for a writer. -/
  | setBody (value length : Datum)
  | addBodyPart (part : Datum)
  | setProxy (proxy : Option ProxyServer)
  | setRealm (realm : Option Realm)
  | setFollowRedirects (follow : Datum)
  | setTimeout (milliseconds : Datum)
  | setRangeOffset (offset : Datum)
  | setMethod (method : Datum)
  | setCharset (charset : Datum)
  | setPool (strategy : PoolStrategy)

def Call.log : Call → List Record
  | .addHeader name .absent =>
    [⟨.warning, "[FetchRequest] Value for header '" ++ name.written ++ "' was None, set to \"\""⟩]
  | _ => []

/-- What is left of something that a call changed, and whether the call failed. -/
abbrev Outcome (α : Type) := α × Except Fault Unit

namespace Request

/-- A change that cannot fail. -/
def done (request : Request) : Outcome Request := (request, .ok ())

/-- A change by a value that is at hand, or else none. -/
def doneWith {α : Type} (request : Request) (value : Except Misuse α) (change : α → Request) :
    Outcome Request :=
  match value with
  | .ok a => (change a, .ok ())
  | .error misuse => (request, .error (.misuse misuse))

/-! ## The URI -/

/-- The parameters, an empty map when there are none yet. -/
def paramsOrEmpty (request : Request) : Fields := request.params.getD (.empty .exact)

def addParam (request : Request) (name : String) (value : Option String) : Request :=
  request.withParams (some (request.paramsOrEmpty.add (.text name) [.ofText? value]))

/-- Adds a query parameter whose name may be none; then only the empty map is left. -/
def addParamDatum (request : Request) (name value : Datum) : Outcome Request :=
  doneWith { request with params := some request.paramsOrEmpty }
    (request.paramsOrEmpty.addDatum name [value]) fun params => request.withParams (some params)

/-- Enters the parameters of segments up to the first one that cannot be decoded. -/
def enterSegments (form : QueryForm) : Request → List (List Char) → Outcome Request
  | request, [] => (request, .ok ())
  | request, s :: rest =>
    match Query.readSegment form s with
    | .ok (name, value) => enterSegments form (request.addParam name value) rest
    | .error cause => (request, .error (.undecodable (String.ofList s) cause))

def setUri (request : Request) (form : QueryForm) (uri : Uri) : Outcome Request :=
  if uri.path.isNone then (request, .error .missingPath)
  else
    match uri.checkScheme with
    | .error fault => (request, .error (.uri fault))
    | .ok () =>
      let (entered, outcome) := enterSegments form { request with uri := some uri }
        (Query.segments (uri.query.getD ""))
      match outcome with
      | .ok () => (entered.invalidate, .ok ())
      | .error fault => (entered, .error fault)

/-! ## Headers -/

def setHeader (request : Request) (name value : Datum) : Outcome Request :=
  request.doneWith (request.headers.replaceDatum name [value]) fun headers =>
    { request with headers }

/-- Adds a value to a header, an empty one when it is absent. -/
def addHeader (request : Request) (name value : Datum) : Outcome Request :=
  request.doneWith (request.headers.addDatum name [value.orEmpty]) fun headers =>
    { request with headers }

/-! ## Cookies -/

/-- Puts a cookie in the place of the one of its name; what is no cookie has no name to compare. -/
def putCookie (request : Request) (cookie : Datum) : Outcome Request :=
  match Cookie.ofDatum? cookie with
  | some cookie => done { request with cookies := cookie.put request.cookies }
  | none =>
    if request.cookies.isEmpty then request.done
    else (request, .error (.misuse (cookie.lacks "name")))

/-! ## The body -/

def setBodyOctets (request : Request) (octets : Datum) : Outcome Request :=
  match octets.toOctets with
  | .ok bytes => (request.withBody (·.setOctets bytes), .ok ())
  | .error fault => (request.withBody Body.clear, .error (.notOctets fault))

/-- Adds a parameter to the form; one without a name only makes a form the body. -/
def addFormParam (request : Request) (name value : Datum) : Outcome Request :=
  let form := request.body.form.getD (.empty .exact)
  doneWith (request.withBody (·.setForm (some form))) (form.addDatum name [value]) fun form =>
    request.withBody (·.setForm (some form))

def setFormParams (request : Request) (source : Datum) : Outcome Request :=
  doneWith (request.withBody Body.keepForm) (FieldMap.ofDatum .exact source) fun form =>
    request.withBody (·.setForm (some form))

def setBodyFile (request : Request) (file : Datum) : Request :=
  request.withBody fun body => { body with file }

def setBodyGenerator (request : Request) (generator : Datum) : Request :=
  request.withBody fun body => { body with generator }

/-- Sets the body in the form that suits an object: of what it offers, a file goes before writing,
writing before yielding, yielding before being read. -/
def setPayload (request : Request) (object : Payload) (length : Datum) : Outcome Request :=
  let value : Datum := .payload object
  if object.path.isSome then done (request.setBodyFile value)
  else if object.writes.isSome then done (request.withBody (·.setWriter value length))
  else if object.yields.isSome then done (request.setBodyGenerator value)
  else if object.reads.isSome then done (request.withBody (·.setStream value))
  else (request, .error (.unsupportedBody value.ownTypeName))

def setBody (request : Request) (value length : Datum) : Outcome Request :=
  match value with
  | .octets _ bytes => done (request.withBody (·.setOctets bytes))
  | .text s => done (request.withBody (·.setText (.text s)))
  | .path p => done (request.setBodyFile (.path p))
  | .payload object => request.setPayload object length
  | d => (request, .error (.unsupportedBody d.ownTypeName))

/-! ## All calls -/

def perform (request : Request) : Call → Outcome Request
  | .setAddress address => done { request with address }
  | .setLocalAddress localAddress => done { request with localAddress }
  | .setVirtualHost virtualHost => done { request with virtualHost }
  | .setHeader name value => request.setHeader name value
  | .addHeader name value => request.addHeader name value
  | .setHeaders source =>
    request.doneWith (FieldMap.ofDatum .folded source) fun headers => { request with headers }
  | .setContentLength length => done (request.withBody fun body => { body with length })
  | .setCookies cookies =>
    request.doneWith cookies.elements? fun items =>
      { request with cookies := items.filterMap Cookie.ofDatum? }
  | .addCookie cookie =>
    done { request with cookies := request.cookies ++ (Cookie.ofDatum? cookie).toList }
  | .putCookie cookie => request.putCookie cookie
  | .resetCookies => done { request with cookies := [] }
  | .addQueryParam name value => request.addParamDatum name value
  | .setQueryParams .absent => done (request.withParams none)
  | .setQueryParams source =>
    request.doneWith (FieldMap.ofDatum .exact source) fun params =>
      request.withParams (some params)
  | .resetQueryParams => done (request.withParams none)
  | .addFormParam name value => request.addFormParam name value
  | .setFormParams source => request.setFormParams source
  | .resetFormParams => done (request.withBody Body.resetForm)
  | .resetSingleBody => done (request.withBody Body.resetSingle)
  | .resetParts => done (request.withBody Body.resetParts)
  | .setBodyOctets octets => request.setBodyOctets octets
  | .setBodyText text => done (request.withBody (·.setText text))
  | .setBodyStream stream => done (request.withBody (·.setStream stream))
  | .setBodyWriter writer length => done (request.withBody (·.setWriter writer length))
  | .setBodyFile file => done (request.setBodyFile file)
  | .setBodyGenerator generator => done (request.setBodyGenerator generator)
  | .setBody value length => request.setBody value length
  | .addBodyPart part => done (request.withBody (·.addPart (Part.ofDatum part)))
  | .setProxy proxy => done { request with proxy }
  | .setRealm realm => done { request with realm }
  | .setFollowRedirects followRedirects => done { request with followRedirects }
  | .setTimeout timeoutMs => done { request with timeoutMs }
  | .setRangeOffset rangeOffset => done { request with rangeOffset }
  | .setMethod method => done { request with method }
  | .setCharset charset => done { request with charset }
  | .setPool pool => done { request with pool }

end Request

end Outbound
