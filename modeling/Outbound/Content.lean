/-
# Outbound.Content — what the content headers say about a body

The charset of a body is the value of the first `charset` parameter of its
content type, without blanks and quotes; an empty one counts as absent.  The
length is an optional sign and ASCII digits, with blanks around them; anything
else says nothing, but digits beyond the limit on numerals are a fault.
-/
import Outbound.Text.Case
import Outbound.Text.Cut
import Outbound.Text.Numeral

namespace Outbound.Content

set_option autoImplicit false

def charsetParameter? (parameter : List Char) : Option (List Char) :=
  match Text.after? '=' parameter with
  | some value =>
    if Text.lower (String.ofList (Text.trim (Text.before '=' parameter))) = "charset" then
      some ((Text.trim value).filter fun c => c != '"' && c != '\'')
    else none
  | none => none

def charset? (contentType : String) : Option String :=
  match (Text.split ';' contentType.toList).findSome? charsetParameter? with
  | some value => if value = [] then none else some (String.ofList value)
  | none => none

def length? (value : String) : Except Text.Numeral.TooLong (Option Int) :=
  let (negative, body) := Text.Numeral.sign (Text.trim value.toList)
  match Text.Numeral.asciiDigits? body with
  | some digits =>
    (Text.Numeral.ofDigits? digits).map fun n => some (Text.Numeral.signed negative n)
  | none => .ok none

example : charset? "text/html; Charset=\"utf-8\"" = some "utf-8" := by decide +kernel
example : length? " +12 " = .ok (some 12) := by rfl

end Outbound.Content
