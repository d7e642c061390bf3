/-
# Outbound.Session.Basic — working with a builder

A session is a builder, the streams that have been read, and what has happened.
An action (`Act`) changes a session and may fail; what it changed before it failed
stays changed.
-/
import Outbound.Auth.Context
import Outbound.Builder.Step

namespace Outbound

set_option autoImplicit false

/-- A builder at work. -/
structure Session where
  builder : Builder
  drained : Drained := []
  /-- The handle of the next new stream. -/
  nextStream : Nat := 0
  events : List Event := []

/-- Something done in a session, with a result or a fault. -/
abbrev Act := EStateM Fault Session

namespace Act

def builder : Act Builder := return (← get).builder

def request : Act Request := return (← get).builder.request

def setBuilder (builder : Builder) : Act Unit := modify fun session => { session with builder }

def setRequest (request : Request) : Act Unit :=
  modify fun session => { session with builder := { session.builder with request } }

def emit (event : Event) : Act Unit :=
  modify fun session => { session with events := session.events ++ [event] }

def log (records : List Record) : Act Unit :=
  modify fun session => { session with events := session.events ++ records.map Event.logged }

/-- A result that is at hand, or its fault. -/
def lift {ε α : Type} (wrap : ε → Fault) : Except ε α → Act α
  | .ok a => pure a
  | .error e => throw (wrap e)

/-- Changes the builder in a way that may fail half-way. -/
def change (f : Builder → Outcome Builder) : Act Unit := do
  let (builder, outcome) := f (← builder)
  setBuilder builder
  lift id outcome

def changeRequest (f : Request → Outcome Request) : Act Unit :=
  change fun builder => builder.withOutcome (f builder.request)

/-- Takes handles for new streams; the first one is given. -/
def takeStreams (count : Nat) : Act Nat := fun session =>
  .ok session.nextStream { session with nextStream := session.nextStream + count }

def traced {α : Type} (action : Traced CallbackFault α) : Act α := fun session =>
  match action session.events with
  | .ok a events => .ok a { session with events }
  | .error fault events => .error (.callback fault) { session with events }

def target (form : QueryForm) : Act Uri := do
  let request ← request
  log (request.targetLog form)
  let (request, outcome) := request.readTarget form
  setRequest request
  lift id outcome

def url (form : QueryForm) : Act String := do
  lift .uri (Request.urlOf (← target form))

end Act

end Outbound
