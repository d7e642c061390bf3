/-
# Outbound.Body.Basic — the forms that a body can take

The body of a request is held in eight places, one for each form it can take.  Six
of them exclude each other: octets, text, stream, writer, form and parts.  Every
way of setting one of these clears the five others, each in its own manner, since
a form and parts that are added to grow.  A generator and a file are held beside
them and never cleared.  What is held is looked at when the body is made.

The stated length belongs to the single-valued forms: clearing them makes it
unknown (`unknownLength`).
-/
import Outbound.Body.Part
import Outbound.FieldMap.Source

namespace Outbound

set_option autoImplicit false

def unknownLength : Datum := .int (-1)

/-- The body of a request, by form. -/
structure Body where
  octets : Option Octets := none
  text : Datum := .absent
  stream : Datum := .absent
  writer : Datum := .absent
  generator : Datum := .absent
  form : Option Fields := none
  parts : Option (List Part) := none
  file : Datum := .absent
  length : Datum := unknownLength

namespace Body

/-! ## Clearing -/

/-- Clears octets, text, stream, writer and the length. -/
def resetSingle (body : Body) : Body :=
  { body with
    octets := none
    text := .absent
    stream := .absent
    writer := .absent
    length := unknownLength }

def resetParts (body : Body) : Body := { body with parts := none }

def resetForm (body : Body) : Body := { body with form := none }

/-- Clears all six forms that exclude each other. -/
def clear (body : Body) : Body := body.resetForm.resetSingle.resetParts

/-- Clears all but the form, before the form is changed. -/
def keepForm (body : Body) : Body := body.resetSingle.resetParts

/-! ## Setting -/

def setOctets (body : Body) (bytes : Octets) : Body := { body.clear with octets := some bytes }

def setText (body : Body) (text : Datum) : Body := { body.clear with text }

def setStream (body : Body) (stream : Datum) : Body := { body.clear with stream }

/-- Makes what a writer writes the body, of a length that may be unknown. -/
def setWriter (body : Body) (writer length : Datum) : Body := { body.clear with writer, length }

/-- Makes a form the body, or none. -/
def setForm (body : Body) (form : Option Fields) : Body := { body.keepForm with form }

def addPart (body : Body) (part : Part) : Body :=
  { body.resetForm.resetSingle with parts := some (body.parts.getD [] ++ [part]) }

end Body

end Outbound
