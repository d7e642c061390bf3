/-
# Outbound.Builder.Step — what can be done with a builder, as data

A step is anything that is done with a builder: calls that change its request,
edits that go past it, readings, building, and handing the request over.  A
calculator is run when the request is built and adds what signs it; a scripted one
takes steps of its own, so steps and calculators are defined together.
-/
import Outbound.Auth.Signature
import Outbound.Builder.Call
import Outbound.Request.Target
import Outbound.Uri.Given

namespace Outbound

set_option autoImplicit false

/-- A change of a request that leaves its derived URIs as they are, whether or not they still
hold, and the other forms of its body. -/
inductive Edit where
  | addQueryParam (name : Datum) (values : List Datum)
  | addHeader (name : Datum) (values : List Datum)
  | setUri (uri : Option Uri)
  /-- Sets the headers to a map, whose names are compared as they were. -/
  | setHeaders (headers : Datum)
  /-- Sets the parameters to a map, whose names are compared as they were. -/
  | setParams (params : Datum)
  /-- Sets the form to a map, whose names are compared as they were. -/
  | setForm (form : Datum)
  | setParts (parts : Option (List Part))
  | setOctets (bytes : Option Octets)
  | setText (text : Datum)
  | setStream (stream : Datum)
  | setWriter (writer : Datum)
  /-- Sets whether the query is sent as it stands. -/
  | setRaw (isRaw : Datum)
  /-- Forgets the derived URIs. -/
  | invalidate

/-- What can be read off a request. -/
inductive Reading where
  /-- The target with the query in one form. -/
  | target (form : QueryForm)
  /-- The text of a target less a slash at the end of its path. -/
  | url (form : QueryForm)
  | poolKey
  | charset
  | followsRedirects
  | isRedirectSet
  /-- The request in one line. -/
  | text
  /-- The canonical query and the text to sign under a URL. -/
  | signedText (url : Datum)

/-- How a client answers a request. -/
inductive ClientAnswer where
  | response
  /-- The exchange failed. -/
  | requestError (fault : CallbackFault)
  /-- The client itself failed. -/
  | otherError (fault : CallbackFault)

mutual
/-- Something that is done with a builder. -/
inductive Step where
  /-- Sets the URI by its text. -/
  | setUrl (url : Datum)
  | setUri (uri : Datum)
  | call (call : Call)
  | edit (edit : Edit)
  | read (reading : Reading)
  | setCalculator (calculator : Option Calculator)
  /-- Sets the calculator of an authentication configuration. -/
  | authenticate (config : AuthConfig) (resolver : Option KeyResolver)
  | build
  | handOver
  | send (answer : ClientAnswer)
  /-- A step that fails because of what it was given. -/
  | refused (fault : Fault)

/-- What signs a request while it is built. -/
inductive Calculator where
  /-- Takes steps; they are made anew for every run, with as many new streams, whose handles start
  at the given one. -/
  | script (streams : Nat) (steps : Nat → List Step)
  | hmac (signer : HmacSigner)
  /-- Sets the header of a handler. -/
  | header (handler : AuthHandler)
  /-- A value of this type, which signs nothing. -/
  | unfit (typeName : String)
end

/-- A request in the making. -/
structure Builder where
  request : Request := {}
  /-- The text of the URL, when the URI was last set by a text. -/
  urlText : Option String := none
  calculator : Option Calculator := none
  /-- Whether queries are taken as they stand. -/
  isRaw : Datum := .bool false

namespace Builder

/-- A new builder with given settings, some of which are overridden; a method that counts as false
is none. -/
def ofSettings (settings : Settings) (method isRaw : Datum) : Builder :=
  let isRaw := if isRaw.isPresent then isRaw else .bool settings.useRawUrl
  { request :=
      { method := method.orElse (.text settings.method)
        isRaw
        timeoutMs := .int settings.timeoutMs
        followRedirects := .ofBool? settings.followRedirects }
    isRaw }

def ofPrototype (request : Request) : Except Misuse Builder :=
  request.copy.map fun copied => { request := copied, isRaw := request.isRaw }

def queryForm (builder : Builder) : QueryForm :=
  if builder.isRaw.isTrue then .raw else .encoded

def withOutcome (builder : Builder) (left : Outcome Request) : Outcome Builder :=
  ({ builder with request := left.1 }, left.2)

/-! ## The URI -/

def setUri (builder : Builder) (uri : Uri) (urlText : Option String) : Outcome Builder :=
  let (request, outcome) := builder.request.setUri builder.queryForm uri
  match outcome with
  | .ok () => ({ builder with request, urlText }, .ok ())
  | .error fault => ({ builder with request }, .error fault)

def setUriDatum (builder : Builder) (uri : Datum) : Outcome Builder :=
  match uri with
  | .uri uri => builder.setUri uri none
  | d => (builder, .error (.misuse (d.lacks "path")))

def setUrl (builder : Builder) (url : Datum) : Outcome Builder :=
  match url.readUri with
  | .ok uri => builder.setUri uri url.asText?
  | .error fault => (builder, .error fault)

/-! ## Calls and edits -/

def perform (builder : Builder) (call : Call) : Outcome Builder :=
  builder.withOutcome (builder.request.perform call)

def editBody (builder : Builder) (f : Body → Body) : Outcome Builder :=
  builder.withOutcome (builder.request.withBody f).done

def fieldsOf? (d : Datum) : Except Misuse (Option Fields) :=
  if d.isPresent then (FieldMap.adopt? .exact d).map some else .ok none

def edit (builder : Builder) (edit : Edit) : Outcome Builder :=
  let request := builder.request
  match edit with
  | .addQueryParam name values =>
    builder.withOutcome <| request.doneWith (request.params.mapM (·.addDatum name values))
      fun params => { request with params }
  | .addHeader name values =>
    builder.withOutcome <| request.doneWith (request.headers.addDatum name values)
      fun headers => { request with headers }
  | .setUri uri => builder.withOutcome (Request.done { request with uri })
  | .setHeaders headers =>
    builder.withOutcome <| request.doneWith (FieldMap.adopt? .folded headers)
      fun headers => { request with headers }
  | .setParams params =>
    builder.withOutcome <| request.doneWith (fieldsOf? params)
      fun params => { request with params }
  | .setForm form =>
    builder.withOutcome <| request.doneWith (fieldsOf? form)
      fun form => request.withBody fun body => { body with form }
  | .setParts parts => builder.editBody fun body => { body with parts }
  | .setOctets octets => builder.editBody fun body => { body with octets }
  | .setText text => builder.editBody fun body => { body with text }
  | .setStream stream => builder.editBody fun body => { body with stream }
  | .setWriter writer => builder.editBody fun body => { body with writer }
  | .setRaw isRaw => builder.withOutcome (Request.done { request with isRaw })
  | .invalidate => builder.withOutcome request.invalidate.done

/-- The URL that is signed: as it was set, or else the text of the URI, without the query. -/
def signingUrl (builder : Builder) : Except Uri.Fault String :=
  let text : Except Uri.Fault String := match builder.urlText with
    | some text => .ok text
    | none => builder.request.base.render
  text.map fun text => String.ofList (Text.before '?' text.toList)

end Builder

end Outbound
