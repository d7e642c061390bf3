/-
# Outbound.Session.Build — signing and finishing a request

Building runs the calculator, then takes the charset and the length of the body
from the content headers where they are not known otherwise.  A stream has no
stated length.

A scripted calculator takes steps, and one of its steps may build again.  How such
builds are nested is bounded (`Act.nestingLimit`).
-/
import Outbound.Content
import Outbound.Session.Basic

namespace Outbound

set_option autoImplicit false

namespace Content

/-- The charset that the value of a content type names; one that counts as false names none. -/
def charsetOf (contentType : Datum) : Except Misuse (Option String) :=
  if contentType.isTrue then
    match contentType with
    | .text s => .ok (charset? s)
    | .octets .view _ => .error (contentType.lacks "split")
    | .octets _ _ => .error .octetsCut
    | d => .error (d.lacks "split")
  else .ok none

def lengthOf (value : Datum) : Except Fault (Option Int) :=
  match value with
  | .absent => .ok none
  | .text s => (length? s).mapError .length
  | .octets .view _ => .error (.misuse (value.lacks "strip"))
  | .octets _ _ => .error (.misuse .octetsMatched)
  | d => .error (.misuse (d.lacks "strip"))

end Content

namespace Request

/-- The charset that the content type gives the body, unless it is known. -/
def inferredCharset? (request : Request) : Except Misuse (Option String) :=
  if request.charset.isPresent then .ok none
  else (request.headers.firstValue (.text "Content-Type")).bind Content.charsetOf

/-- The length that the headers give the body, unless it is known or a stream's. -/
def inferredLength? (request : Request) : Except Fault (Option Int) := do
  let isKnown ← request.body.length.isNatural.mapError .misuse
  if isKnown || request.body.stream.isPresent then return none
  else
    let value ← (request.headers.firstValue (.text "Content-Length")).mapError .misuse
    Content.lengthOf value

def uriText (request : Request) : Except Uri.Fault String :=
  match request.uri with
  | some uri => uri.render
  | none => .ok "None"

end Request

namespace Act

def logPrefix : String := "[FetchRequest]"

def inferCharset : Act Unit := do
  let request ← request
  match ← lift .misuse request.inferredCharset? with
  | some charset =>
    log [⟨.debug, logPrefix ++ " Body encoding taken from Content-Type: " ++ charset⟩]
    setRequest { request with charset := .text charset }
  | none => return

def inferLength : Act Unit := do
  let request ← request
  match ← lift id request.inferredLength? with
  | some length =>
    log [⟨.debug, logPrefix ++ " Content length taken from Content-Length: " ++ toString length⟩]
    setRequest (request.withBody fun body => { body with length := .int length })
  | none => return

def signHmac (signer : HmacSigner) (url : String) : Act Unit := do
  let text ← lift .misuse (HmacSigner.stringToSign (← request) (.text url))
  let secret ← lift .misuse signer.secretOctets
  let signature := signer.signature secret text
  log [signer.record signature]
  changeRequest (·.setHeader signer.headerName (.text (signer.headerValue signature)))

def signHeader (handler : AuthHandler) (url : String) : Act Unit := do
  let context ← lift .misuse ((← request).signingContext url)
  match ← traced (handler.header? context) with
  | some (name, value) => changeRequest (·.setHeader name (.text value))
  | none => log [⟨.debug, HmacSigner.logPrefix ++ " No auth header produced for " ++ url⟩]

/-- Runs the calculator, steps being taken by `take`. -/
def sign (take : Step → Act Unit) : Act Unit := do
  let builder ← builder
  match builder.calculator with
  | none => return
  | some calculator =>
    let url ← lift .uri builder.signingUrl
    log [⟨.debug, logPrefix ++ " Calculating signature for " ++ url⟩]
    match calculator with
    | .hmac signer => signHmac signer url
    | .header handler => signHeader handler url
    | .script streams steps =>
      emit (.signing url)
      let first ← takeStreams streams
      (steps first).forM take
    | .unfit typeName => throw (.misuse (.lacks typeName "calculate_and_add_signature"))

/-- Signs and finishes the request, steps being taken by `take`. -/
def finish (take : Step → Act Unit) : Act Unit := do
  sign take
  inferCharset
  inferLength
  let request ← request
  let uri ← lift .uri request.uriText
  log [⟨.debug, logPrefix ++ " Built request: " ++ request.method.written ++ " " ++ uri⟩]

end Act

end Outbound
