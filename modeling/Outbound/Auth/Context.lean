/-
# Outbound.Auth.Context — what a signature may depend on

A signing context is a snapshot of a request: its method, the signing URL, its
headers with their values joined, and a body that is at hand.  Events are what
happens while a request is built or signed, in order: log records, questions to a
key resolver, and calls of a scripted calculator.
-/
import Outbound.Datum.Written
import Outbound.Log

namespace Outbound

set_option autoImplicit false

/-- A snapshot of a request, as far as it is given. -/
structure SigningContext where
  method : Option Datum := none
  url : Option Datum := none
  /-- The names of headers with their values in one text. -/
  headers : Option Datum := none
  body : Option Datum := none
  deriving Repr

def SigningContext.get? (context : SigningContext) (name : String) : Option Datum :=
  match name with
  | "method" => context.method
  | "url" => context.url
  | "headers" => context.headers
  | "body" => context.body
  | _ => none

/-- Something that happens while a request is built or signed. -/
inductive Event where
  | logged (record : Record)
  /-- A key resolver was asked about a context. -/
  | asked (context : SigningContext)
  /-- A scripted calculator was called with a signing URL. -/
  | signing (url : String)
  deriving Repr

/-- A computation that adds events and may fail, the events before a failure being kept. -/
abbrev Traced (ε α : Type) := EStateM ε (List Event) α

namespace Traced

variable {ε : Type}

def emit (event : Event) : Traced ε Unit := modify (· ++ [event])

def log (level : Level) (text : String) : Traced ε Unit := emit (.logged ⟨level, text⟩)

end Traced

end Outbound
