/-
# Outbound.Wire.Body — bringing a body to hand

Of the forms that a body takes the first that is present is sent, in this order:
octets, text, stream, form, parts, writer, file, generator.  A form without names
and parts without a part count as absent.  Texts are encoded in the charset of the
request or of the part, UTF-8 when there is none; a name that is not that of a
charset is looked up among the registered codecs.
-/
import Outbound.Fault
import Outbound.Wire.Basic
import Outbound.World

namespace Outbound

set_option autoImplicit false

/-- The octets of a text in the charset of a name, or by the codec that is registered for it. -/
def Codecs.encode (codecs : Codecs) (name s : String) : Except Fault Octets :=
  if name.toList.any (·.toNat = 0) then .error (.charset .nullCharacter)
  else
    match Text.Charset.named? name, codecs name with
    | some charset, _ => (charset.encode s.toList).mapError .charset
    | none, some encode => (encode s).mapError .callback
    | none, none => .error (.charset (.unknown name))

namespace Datum

/-- The octets of a text in a charset, UTF-8 when the charset counts as false. -/
def encodeIn (codecs : Codecs) (charset d : Datum) : Except Fault Octets :=
  match d, charset.orElse (.text "utf-8") with
  | .text s, .text name => codecs.encode name s
  | .text _, other => .error (.misuse (.charsetNotText other.typeName))
  | d, _ => .error (.misuse (d.lacks "encode"))

def path? (d : Datum) : Except Misuse Path :=
  match d with
  | .text s => .ok (Path.ofText s)
  | .path p => .ok p
  | .octets .fixed _ => .error .pathInOctets
  | .payload object =>
    match object.path with
    | some s => .ok (Path.ofText s)
    | none => .error (.notPath d.ownTypeName)
  | d => .error (.notPath d.ownTypeName)

/-- The last name of the path of a file, and the octets that are read from it. -/
def load (world : World) (file : Datum) : Except Fault (String × Octets) := do
  let path ← file.path?.mapError .misuse
  let bytes ← (world.read path).mapError .file
  return (path.fileName, bytes)

/-! ## Objects -/

def payload? : Datum → Option Payload
  | .payload object => some object
  | _ => none

def writes (d : Datum) : Except Misuse Octets :=
  match d.payload?.bind Payload.writes with
  | some chunks => .ok chunks.flatten
  | none => .error (d.lacks "write_entity")

def yields (d : Datum) : Except Misuse Octets :=
  match d.payload?.bind Payload.yields with
  | some chunks => .ok chunks.flatten
  | none => .error (d.lacks "create_body")

def read (d : Datum) (drained : Drained) : Except Misuse (Octets × Drained) :=
  match d.payload?.bind Payload.reads with
  | some readable => .ok (readable.read drained)
  | none => .error (d.lacks "read")

end Datum

namespace Part

def wire (world : World) : Part → Except Fault WirePart
  | .text name value contentType charset => do
    let bytes ← charset.encodeIn world.codecs value
    return { name, fileName := .absent, content := .octets .fixed bytes, contentType }
  | .octets name data fileName contentType _ =>
    .ok { name, fileName, content := data, contentType }
  | .file name source fileName contentType _ => do
    let (lastName, bytes) ← source.load world
    return {
      name, fileName := fileName.orElse (.text lastName), content := .octets .fixed bytes
      contentType }
  | .other typeName => .error (.unsupportedPart typeName)

end Part

namespace Body

def wireForm (form : Fields) : List (Field Datum) :=
  form.fields.map fun f =>
    { f with values := f.values.map Datum.orEmpty }

def structured? (world : World) (body : Body) : Except Fault (Option WireBody) :=
  match body.form.filter (!·.isEmpty), body.parts.getD [] with
  | some form, _ => .ok (some (.form (wireForm form)))
  | none, [] => .ok none
  | none, parts => (parts.mapM (Part.wire world)).map fun parts => some (.parts parts)

/-- The body of a writer, a file or a generator. -/
def produced (world : World) (body : Body) : Except Fault WireBody :=
  if body.writer.isPresent then (body.writer.writes.mapError .misuse).map .content
  else if body.file.isPresent then (body.file.load world).map fun loaded => .content loaded.2
  else if body.generator.isPresent then (body.generator.yields.mapError .misuse).map .content
  else .ok .none

/-- The body brought to hand, and the streams that have been read then. -/
def wire (world : World) (charset : Datum) (drained : Drained) (body : Body) :
    Except Fault (WireBody × Drained) :=
  match body.octets with
  | some bytes => .ok (.content bytes, drained)
  | none =>
    if body.text.isPresent then
      (charset.encodeIn world.codecs body.text).map fun bytes => (.content bytes, drained)
    else if body.stream.isPresent then
      ((body.stream.read drained).mapError .misuse).map fun (bytes, drained) =>
        (.content bytes, drained)
    else do
      match ← body.structured? world with
      | some wired => return (wired, drained)
      | none => return (← body.produced world, drained)

end Body

end Outbound
