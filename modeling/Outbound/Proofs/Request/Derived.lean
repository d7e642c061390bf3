/-
# Outbound.Proofs.Request.Derived — a target that is remembered is the one composed

Composing looks at the URI and at the parameters of a request, and at nothing
else.  Reading a target gives the one that is remembered, or composes and remembers
it, or fails (`Reads`).  A request is `Coherent` when each target it remembers is the
one that would be composed now.  Reading a target of a coherent request gives what
composing gives, whether or not it was remembered (`readTarget_of_coherent`), and
leaves a coherent request behind (`coherent_readTarget`).
-/
import Outbound.Builder.Step
import Outbound.Proofs.Request.Frame

namespace Outbound

set_option autoImplicit false

@[simp] theorem Derived.get?_put (derived : Derived) (form other : QueryForm) (uri : Uri) :
    (derived.put form uri).get? other = if other = form then some uri else derived.get? other := by
  cases form <;> cases other <;> rfl

namespace Request

/-! ## What is remembered -/

/-- Two requests with the same URI and parameters, of which the same was derived. -/
structure SameTarget (request other : Request) : Prop where
  uri : request.uri = other.uri
  params : request.params = other.params
  derived : request.derived = other.derived

theorem SameTarget.base {request other : Request} (same : request.SameTarget other) :
    request.base = other.base := by
  rw [Request.base, Request.base, same.uri]

/-- Each target that is remembered is the one that would be composed. -/
def Coherent (request : Request) : Prop :=
  ∀ form uri, request.derived.get? form = some uri → request.compose form = .ok uri

theorem coherent_of_underived {request : Request} (none : request.derived = {}) :
    request.Coherent := by
  intro form uri remembered
  rw [none] at remembered
  cases form <;> cases remembered

/-- Composing looks only at where the request goes and at its parameters. -/
theorem compose_congr {request other : Request} (base : request.base = other.base)
    (params : request.params = other.params) (form : QueryForm) :
    request.compose form = other.compose form := by
  rw [compose, compose, base, params]

theorem Coherent.congr {request other : Request} (coherent : request.Coherent)
    (same : other.SameTarget request) : other.Coherent := by
  intro form uri remembered
  rw [same.derived] at remembered
  rw [compose_congr same.base same.params]
  exact coherent form uri remembered

/-- What comes of reading a target: the request left behind and the target. -/
inductive Reads (request : Request) (form : QueryForm) : Request × Except Fault Uri → Prop where
  | remembered {uri : Uri} (known : request.derived.get? form = some uri) :
      Reads request form (request, .ok uri)
  | composed {uri : Uri} (unknown : request.derived.get? form = none)
      (composed : request.compose form = .ok uri) :
      Reads request form
        ({ request.located with derived := request.derived.put form uri }, .ok uri)
  | refused {fault : Fault} (unknown : request.derived.get? form = none)
      (refused : request.compose form = .error fault) :
      Reads request form (request.located, .error fault)

theorem reads_readTarget (request : Request) (form : QueryForm) :
    Reads request form (request.readTarget form) := by
  have located : request.located.compose form = request.compose form := compose_congr rfl rfl form
  rw [readTarget]
  cases known : request.derived.get? form with
  | some uri => exact .remembered known
  | none =>
      simp only [located]
      cases composed : request.compose form with
      | ok uri => exact .composed known composed
      | error fault => exact .refused known composed

theorem readTarget_of_coherent {request : Request} (coherent : request.Coherent)
    (form : QueryForm) : (request.readTarget form).2 = request.compose form := by
  have reads := request.reads_readTarget form
  generalize request.readTarget form = left at reads ⊢
  cases reads with
  | remembered known => exact (coherent form _ known).symm
  | composed unknown composed => exact composed.symm
  | refused unknown refused => exact refused.symm

/-- Reading a target changes the URI and what is remembered, and nothing else. -/
theorem readTarget_eq (request : Request) (form : QueryForm) :
    (request.readTarget form).1 =
      { request with
        uri := (request.readTarget form).1.uri
        derived := (request.readTarget form).1.derived } := by
  have reads := request.reads_readTarget form
  generalize request.readTarget form = left at reads ⊢
  cases reads <;> rfl

/-- Reading a target changes neither where the request goes nor its parameters. -/
theorem base_readTarget (request : Request) (form : QueryForm) :
    (request.readTarget form).1.base = request.base ∧
      (request.readTarget form).1.params = request.params := by
  have reads := request.reads_readTarget form
  generalize request.readTarget form = left at reads ⊢
  cases reads <;> exact ⟨rfl, rfl⟩

/-- What is remembered after a target was read is what was remembered before, or the target that is
composed. -/
theorem remembered_of_readTarget {request : Request} {form other : QueryForm} {uri : Uri}
    (remembered : (request.readTarget form).1.derived.get? other = some uri) :
    request.derived.get? other = some uri ∨ request.compose other = .ok uri := by
  have reads := request.reads_readTarget form
  generalize request.readTarget form = left at reads remembered
  cases reads with
  | remembered known => exact .inl remembered
  | refused unknown refused => exact .inl remembered
  | composed unknown composed =>
      rw [Derived.get?_put] at remembered
      split at remembered
      · rename_i same
        obtain rfl := Option.some.inj remembered
        exact .inr (same ▸ composed)
      · exact .inl remembered

theorem coherent_readTarget {request : Request} (coherent : request.Coherent)
    (form : QueryForm) : (request.readTarget form).1.Coherent := by
  intro other uri remembered
  obtain ⟨base, params⟩ := base_readTarget request form
  rw [compose_congr base params]
  rcases remembered_of_readTarget remembered with known | composed
  · exact coherent other uri known
  · exact composed

/-! ## Calls that say nothing of the target -/

/-- All other calls leave where the request goes. -/
theorem perform_of_other {call : Call} (other : call.namesParams = false)
    (request : Request) : (request.perform call).1.SameTarget request where
  uri := (frame_perform request call).uri
  params := ((frame_perform request call).params other).1
  derived := ((frame_perform request call).params other).2

end Request

end Outbound
