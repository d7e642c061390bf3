/-
# Outbound.Datum.Joined — several data in one text

Texts are joined by a text, and octets by octets.  Among the values of a name an
absent one counts as the empty text.
-/
import Outbound.Datum.Basic

namespace Outbound.Datum

set_option autoImplicit false

/-- The texts that data are; the data are counted from `index`. -/
def texts? (index : Nat) : List Datum → Except Misuse (List String)
  | [] => .ok []
  | .text s :: rest => (texts? (index + 1) rest).map (s :: ·)
  | d :: _ => .error (.unjoinable index d.typeName)

def joinTexts (delimiter : String) (data : List Datum) : Except Misuse String :=
  (texts? 0 data).map delimiter.intercalate

/-- The octets that data are; the data are counted from `index`. -/
def allOctets? (index : Nat) : List Datum → Except Misuse (List Octets)
  | [] => .ok []
  | .octets _ bytes :: rest => (allOctets? (index + 1) rest).map (bytes :: ·)
  | d :: _ => .error (.unjoinableOctets index d.typeName)

/-- A value, an absent one being the empty text. -/
def orEmpty (d : Datum) : Datum := if d.isPresent then d else .text ""

def joinValues (delimiter : String) (values : List Datum) : Except Misuse String :=
  joinTexts delimiter (values.map orEmpty)

/-- The values of a name joined by a delimiter, in texts or in octets as the delimiter is. -/
def join (delimiter : Datum) (values : List Datum) : Except Misuse Datum :=
  match delimiter with
  | .text s => (joinValues s values).map .text
  | .octets .view _ => .error (delimiter.lacks "join")
  | .octets holder bytes =>
    (allOctets? 0 (values.map orEmpty)).map fun all =>
      .octets holder (all.intersperse bytes).flatten
  | _ => .error (delimiter.lacks "join")

end Outbound.Datum
