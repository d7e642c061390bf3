/-
# Outbound.Datum.Coded — data in percent coding and behind masks

Only texts are coded; any other datum is a misuse.  A mask hides whatever can be
counted, a star for each element.  Of a longer secret it shows the start, which
only a text allows: nothing else can be followed by stars.
-/
import Outbound.Datum.Basic
import Outbound.Log
import Outbound.Text.Percent

namespace Outbound.Datum

set_option autoImplicit false

def percentEncoded : Datum → Except Misuse String
  | .text s => .ok (Text.Percent.encode s)
  | _ => .error .unquotable

/-- The text whose percent-encoded form may be decoded. -/
def percentCoded : Datum → Except Misuse String
  | .text s => .ok s
  | .octets _ _ => .error .octetsMatched
  | d => .error (.notMatched d.typeName)

def count? : Datum → Option Nat
  | .payload _ => none
  | d => d.elements?.toOption.map List.length

def maskMisuse : Datum → Misuse
  | .octets .view bytes => .unextendable "+" (Datum.octets .view bytes).typeName
  | .octets holder _ => .octetsExtended holder.typeName
  | .list _ => .listExtended
  | .fields .folded _ => .lacks "slice" "lower"
  | _ => .unhashable "slice"

def masked (d : Datum) : Except Misuse String :=
  if d.isTrue then
    match d with
    | .text s => .ok (Record.mask (some s))
    | d =>
      match d.count? with
      | none => .error (.unsized d.typeName)
      | some count =>
        if count ≤ Record.shownPrefix then .ok (String.ofList (List.replicate count '*'))
        else .error d.maskMisuse
  else .ok (Record.mask none)

example : (masked (.int 0)).toOption = some "<empty>" := by decide +kernel
example : (masked (.list [.int 7, .absent])).toOption = some "**" := by decide +kernel

end Outbound.Datum
