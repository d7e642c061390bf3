/-
# Outbound.Auth.Signature — what of a request is signed, and signing it with a key

A signing context is taken from a request when a signature is made.  An HMAC
signer signs the method in upper case, the signing URL and the canonical query, a
line each.  The canonical query lists the parameters by name, the values of one
name in order, percent-encoded; so it does not depend on the order in which the
names were entered, nor on how the query is sent.
-/
import Outbound.Auth.Handler
import Outbound.Digest.Hmac
import Outbound.Request.Basic

namespace Outbound

set_option autoImplicit false

/-! ## What is signed -/

/-- The body of a request as far as it is at hand. -/
def Body.signing (body : Body) : Datum :=
  match body.octets, body.text, body.form with
  | some bytes, _, _ => .octets .fixed bytes
  | none, .absent, some params =>
    .dict (params.fields.map fun f => (f.name.toDatum, .list f.values))
  | none, text, _ => text

def Request.signingContext (request : Request) (url : String) : Except Misuse SigningContext := do
  let headers ← Request.joinedFields request.headers.fields
  return {
    method := some (request.method.orElse (.text ""))
    url := some (.text url)
    headers := some (.dict (headers.map fun h => (h.1.toDatum, .text h.2)))
    body := some request.body.signing }

/-! ## Signing with a key -/

/-- A key to sign with, its name, and the header that the signature is put into. -/
structure HmacSigner where
  keyId : Datum
  secret : Datum
  headerName : Datum := .text "Authorization"
  algorithm : Algorithm := .sha256
  deriving Repr

namespace HmacSigner

/-- Names in the order of their code points; the order of other names does not matter, since only
texts can be written. -/
def precedes (a b : Field Datum) : Bool :=
  match a.name, b.name with
  | .text s, .text t => s ≤ t
  | _, _ => true

def isNumber : Name → Bool
  | .bool _ => true
  | .int _ => true
  | .double _ => true
  | _ => false

/-- Two names have an order: texts, octets and numbers have one among themselves. -/
def ordered : Name → Name → Bool
  | .text _, .text _ => true
  | .octets .fixed _, .octets .fixed _ => true
  | a, b => isNumber a && isNumber b

/-- The misuse in ordering names: the first one that has no order with the one before it. -/
def orderMisuse? : List Name → Option Misuse
  | a :: b :: rest =>
    if ordered a b then orderMisuse? (b :: rest)
    else some (.incomparable "<" b.typeName a.typeName)
  | _ => none

/-- The parameters in the order of their names, percent-encoded. -/
def canonicalQuery (params : Option Fields) : Except Misuse String :=
  match params with
  | some params =>
    match orderMisuse? params.names with
    | none => Query.writePairs .encoded (Query.pairs (params.fields.mergeSort precedes))
    | some misuse => .error misuse
  | none => .ok ""

/-- The method in upper case, empty when it counts as false. -/
def upperMethod (method : Datum) : Except Misuse Datum :=
  match method.orElse (.text "") with
  | .text s => .ok (.text (Text.upper s))
  | .octets .view bytes => .error ((Datum.octets .view bytes).lacks "upper")
  | .octets holder bytes => .ok (.octets holder bytes)
  | d => .error (d.lacks "upper")

def stringToSign (request : Request) (url : Datum) : Except Misuse String := do
  let method ← upperMethod request.method
  let query ← canonicalQuery request.params
  Datum.joinTexts "\n" [method, url, .text query]

/-- The octets of a secret, which may be given as a text. -/
def secretOctets (signer : HmacSigner) : Except Misuse Octets :=
  match signer.secret with
  | .text s => .ok (Text.Utf8.encode s.toList)
  | .octets .view bytes => .error (.secretNotOctets (Datum.octets .view bytes).typeName)
  | .octets _ bytes => .ok bytes
  | d => .error (.secretNotOctets d.ownTypeName)

def signature (signer : HmacSigner) (secret : Octets) (text : String) : String :=
  Octets.Base64.encode (signer.algorithm.hmac secret (Text.Utf8.encode text.toList))

def headerValue (signer : HmacSigner) (signature : String) : String :=
  "HMAC keyId=\"" ++ signer.keyId.written ++ "\",algorithm=\"hmac-" ++ signer.algorithm.name ++
    "\",signature=\"" ++ signature ++ "\""

def logPrefix : String := "[AUTH:fetch_request.auth.signature]"

def record (signer : HmacSigner) (signature : String) : Record :=
  ⟨.debug, logPrefix ++ " HmacSignatureCalculator: key_id=" ++ signer.keyId.written ++
    ", signature=" ++ Record.mask (some signature)⟩

end HmacSigner

end Outbound
