/-
# Outbound.Text.Case — lower and upper case of a text

Case mapping is the full mapping of Unicode: a character may become several
(`İ` in lower case, `ß` in upper case), and a capital sigma at the end of a word
becomes the final sigma.  All other characters are mapped one by one.

Header names are compared by their lower case, so `lower` decides which two
names are one.
-/
import Outbound.Text.CaseTable

namespace Outbound.Text

set_option autoImplicit false

def upperChar (c : Char) : List Char :=
  if c.toNat < 0x80 then [c.toUpper]
  else
    match upperExpansions.lookup c.toNat with
    | some expansion => expansion.map Char.ofNat
    | none => [Char.ofNat (caseMapped upperRuns c.toNat)]

/-- The lower case of one character that stands alone. -/
def lowerChar (c : Char) : List Char :=
  if c.toNat < 0x80 then [c.toLower]
  else if c = 'İ' then ['i', Char.ofNat 0x307]
  else [Char.ofNat (caseMapped lowerRuns c.toNat)]

/-- The characters next to a sigma that do not decide whether a word ends there. -/
def isCaseIgnorable (c : Char) : Bool := caseIgnorableRanges.contains c.toNat

/-- The nearest character that decides, in a list that starts next to the sigma, is a letter
with case. -/
def meetsCased (near : List Char) : Bool :=
  match near.dropWhile isCaseIgnorable with
  | c :: _ => casedRanges.contains c.toNat
  | [] => false

/-- The lower case of a text, `before` being what precedes it, nearest character first. -/
def lowerAfter (before : List Char) : List Char → List Char
  | [] => []
  | c :: after =>
    (if c = 'Σ' then [if meetsCased before && !meetsCased after then 'ς' else 'σ']
      else lowerChar c) ++ lowerAfter (c :: before) after

def lower (s : String) : String := String.ofList (lowerAfter [] s.toList)

def upper (s : String) : String := String.ofList (s.toList.flatMap upperChar)

example : lower "Content-TYPE" = "content-type" := by decide +kernel
example : lower "ΑΣ ΑΣΑ" = "ας ασα" := by decide +kernel
example : upper "straße" = "STRASSE" := by decide +kernel

end Outbound.Text
