/-
# Outbound.Log — log records and masked secrets

A log record is a level and a line of text.  A secret enters a line only through
`mask`, which shows at most its first ten characters and hides a short secret
completely.
-/

namespace Outbound

set_option autoImplicit false

/-- How much a log record matters. -/
inductive Level where
  | debug
  | warning
  | error
  deriving DecidableEq, Repr

def Level.name : Level → String
  | .debug => "debug"
  | .warning => "warning"
  | .error => "error"

structure Record where
  level : Level
  text : String
  deriving DecidableEq, Repr

namespace Record

/-- The number of characters of a longer secret that a mask shows. -/
def shownPrefix : Nat := 10

def mask (secret : Option String) : String :=
  match secret with
  | none => "<empty>"
  | some text =>
    let chars := text.toList
    if chars = [] then "<empty>"
    else if chars.length ≤ shownPrefix then String.ofList (List.replicate chars.length '*')
    else
      String.ofList (chars.take shownPrefix ++ List.replicate (chars.length - shownPrefix) '*')

end Record

end Outbound
