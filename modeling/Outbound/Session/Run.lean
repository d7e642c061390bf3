/-
# Outbound.Session.Run — taking steps

`Act.step` takes a step and gives what it answers.  A step that fails leaves what
it did before.  Sending hands the request over and gives it to a client; what the
client received is told whether or not it answered.
-/
import Outbound.Session.Build
import Outbound.Wire.Body

namespace Outbound

set_option autoImplicit false

def Request.redirectOverride? (request : Request) : Option Bool :=
  if request.followRedirects.isPresent then some request.followRedirects.isTrue else none

/-- A request that a client received, and whether it was told to follow redirects. -/
structure Delivery where
  request : WireRequest
  followRedirects : Option Bool

inductive Reply where
  | done
  /-- There are no parameters that one could be added to. -/
  | noParams
  | built
  | target (uri : Uri)
  | value (value : Datum)
  | truth (b : Bool)
  | signedText (canonicalQuery text : String)
  | wire (request : WireRequest)
  | sent (received : List Delivery) (failure : Option Fault)

namespace Act

/-! ## Handing over -/

def handOver (world : World) : Act WireRequest := do
  let request ← request
  let timeout ← lift id request.timeoutSeconds?
  let url ← url request.queryForm
  let headers ← lift .misuse request.wireHeaders
  let (body, drained) ← lift id (request.body.wire world request.charset (← get).drained)
  modify fun session => { session with drained }
  return { method := request.wireMethod, url, headers, timeout, body }

def deliver (answer : ClientAnswer) (request : WireRequest) : Act Unit := do
  log [⟨.debug, logPrefix ++ " Request: " ++ request.method.written ++ " " ++ request.url⟩]
  match answer with
  | .response => return
  | .requestError fault =>
    log [⟨.error, logPrefix ++ " Request failed: " ++ fault.message⟩]
    throw (.client fault)
  | .otherError fault => throw (.client fault)

def send (world : World) (answer : ClientAnswer) : Act Reply := do
  let follow := (← request).redirectOverride?
  match ← attempt (handOver world) with
  | .error fault => return .sent [] (some fault)
  | .ok wired =>
    match ← attempt (deliver answer wired) with
    | .error fault => return .sent [⟨wired, follow⟩] (some fault)
    | .ok () => return .sent [⟨wired, follow⟩] none
where
  attempt {α : Type} (action : Act α) : Act (Except Fault α) := fun session =>
    match action session with
    | .ok a session => .ok (.ok a) session
    | .error fault session => .ok (.error fault) session

/-! ## Steps -/

def edit (edit : Edit) : Act Reply := do
  let hasParams := (← request).params.isSome
  change (·.edit edit)
  match edit, hasParams with
  | .addQueryParam _ _, false => return .noParams
  | _, _ => return .done

def read : Reading → Act Reply
  | .target form => return .target (← target form)
  | .url form => return .value (.text (← url form))
  | .poolKey => do
    let strategy := (← request).pool
    lift .misuse strategy.check
    return .value (← lift .uri (strategy.key (← target .encoded)))
  | .charset => return .value (← request).charset
  | .followsRedirects => return .truth (← request).followRedirects.isTrue
  | .isRedirectSet => return .truth (← request).followRedirects.isPresent
  | .text => do
    let text ← lift .uri (← target .encoded).render
    return .value (.text (← lift .misuse ((← request).describe text)))
  | .signedText url => do
    let request ← request
    let query ← lift .misuse (HmacSigner.canonicalQuery request.params)
    return .signedText query (← lift .misuse (HmacSigner.stringToSign request url))

def stepWith (world : World) (build : Act Unit) : Step → Act Reply
  | .setUrl url => do change (·.setUrl url); return .done
  | .setUri uri => do change (·.setUriDatum uri); return .done
  | .call call => do log call.log; change (·.perform call); return .done
  | .edit change => edit change
  | .read reading => read reading
  | .setCalculator calculator => do
    setBuilder { ← builder with calculator }
    return .done
  | .authenticate config resolver => do
    log (AuthHandler.creationLog config)
    setBuilder { ← builder with
      calculator := some (.header (AuthHandler.ofConfig config resolver)) }
    return .done
  | .build => do build; return .built
  | .handOver => return .wire (← handOver world)
  | .send answer => send world answer
  | .refused fault => throw fault

/-- Builds, with at most the given number of builds nested in it. -/
def buildWithin (world : World) : Nat → Act Unit
  | 0 => throw .nestedTooDeeply
  | depth + 1 => finish fun step => discard (stepWith world (buildWithin world depth) step)

/-- How deep builds may be nested. -/
def nestingLimit : Nat := 200

def step (world : World) (step : Step) : Act Reply :=
  stepWith world (buildWithin world nestingLimit) step

end Act

end Outbound
