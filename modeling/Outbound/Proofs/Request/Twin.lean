/-
# Outbound.Proofs.Request.Twin — requests that differ only in what they remember

A request that is `Sound` remembers only targets that would be composed, and none
before its URI is set; what it remembers then shows in nothing that is read of it.
Two sound requests are twins when they are the same but for what they remember.
Twins have the same targets, and are twins again after a target was read off each
(`Twin.readTarget`), after the same call, whether or not it fails (`Twin.perform`),
and after the same URI was set (`Twin.setUri`).
-/
import Outbound.Proofs.Request.Derived
import Outbound.Proofs.Request.Entering

namespace Outbound.Request

set_option autoImplicit false

variable {request other : Request}

/-! ## Calls and what is remembered -/

/-- An empty map of parameters makes the same targets as none. -/
theorem compose_paramsOrEmpty (form : QueryForm) :
    ({ request with params := some request.paramsOrEmpty } : Request).compose form =
      request.compose form := by
  rw [compose, compose, ofParams?_paramsOrEmpty request]
  rfl

/-- A call leaves where the request goes, or forgets what is remembered, or makes an empty map of
parameters. -/
theorem target_perform (request : Request) (call : Call) :
    (request.perform call).1.SameTarget request ∨
      ((request.perform call).1.uri = request.uri ∧ (request.perform call).1.derived = {}) ∨
      (request.perform call).1 = { request with params := some request.paramsOrEmpty } := by
  by_cases other : call.namesParams = false
  · exact .inl (perform_of_other other request)
  · cases call with
    | addQueryParam name value =>
        rw [perform, addParamDatum]
        cases request.paramsOrEmpty.addDatum name [value] with
        | ok params => exact .inr (.inl ⟨rfl, rfl⟩)
        | error misuse => exact .inr (.inr rfl)
    | setQueryParams source =>
        by_cases absent : source = .absent
        · subst absent
          exact .inr (.inl ⟨rfl, rfl⟩)
        · rw [perform_setQueryParams absent]
          cases FieldMap.ofDatum .exact source with
          | ok params => exact .inr (.inl ⟨rfl, rfl⟩)
          | error misuse => exact .inl ⟨rfl, rfl, rfl⟩
    | resetQueryParams => exact .inr (.inl ⟨rfl, rfl⟩)
    | _ => exact absurd rfl other

/-- No call leaves a target that is out of date. -/
theorem coherent_perform (coherent : request.Coherent) (call : Call) :
    (request.perform call).1.Coherent := by
  obtain same | ⟨-, forgotten⟩ | emptied := target_perform request call
  · exact coherent.congr same
  · exact coherent_of_underived forgotten
  · rw [emptied]
    intro form uri remembered
    exact (compose_paramsOrEmpty form).trans (coherent form uri remembered)

/-! ## Sound requests -/

/-- What is remembered is what would be composed, and nothing is before there is a URI. -/
structure Sound (request : Request) : Prop where
  coherent : request.Coherent
  located : request.uri = none → request.derived = {}

theorem sound_of_underived (none : request.derived = {}) : request.Sound :=
  ⟨coherent_of_underived none, fun _ => none⟩

/-- A request that goes where a sound one goes, and remembers the same, is sound. -/
theorem Sound.congr (sound : request.Sound) (same : other.SameTarget request) : other.Sound where
  coherent := sound.coherent.congr same
  located isNone := by
    rw [same.derived]
    exact sound.located (same.uri ▸ isNone)

namespace Sound

variable (sound : request.Sound)

include sound

theorem perform (call : Call) : (request.perform call).1.Sound := by
  refine ⟨coherent_perform sound.coherent call, fun isNone => ?_⟩
  obtain same | ⟨-, forgotten⟩ | emptied := target_perform request call
  · exact (sound.congr same).located isNone
  · exact forgotten
  · rw [emptied] at isNone ⊢
    exact sound.located isNone

/-- Reading a target leaves the request with a URI, and changes nothing else but what it remembers. -/
theorem invalidate_readTarget (form : QueryForm) :
    (request.readTarget form).1.invalidate = request.located.invalidate := by
  have reads := request.reads_readTarget form
  generalize request.readTarget form = left at reads ⊢
  cases reads with
  | composed unknown composed => rfl
  | refused unknown refused => rfl
  | remembered known =>
      -- What remembers a target has a URI already.
      cases given : request.uri with
      | none =>
          rw [sound.located given] at known
          cases form <;> cases known
      | some uri =>
          rw [Request.located, base, given]
          cases request
          cases given
          rfl

theorem readTarget (form : QueryForm) : (request.readTarget form).1.Sound where
  coherent := coherent_readTarget sound.coherent form
  located isNone := by
    have same := congrArg Request.uri (sound.invalidate_readTarget form)
    have uri : (request.readTarget form).1.uri = some request.base := same
    rw [isNone] at uri
    cases uri

end Sound

/-! ## Twins -/

/-- Sound requests that are the same but for what they remember. -/
structure Twin (request other : Request) : Prop where
  same : request.invalidate = other.invalidate
  left : request.Sound
  right : other.Sound

namespace Twin

/-- A request and what is left of it when it forgets. -/
theorem of_sound (sound : request.Sound) : request.Twin request.invalidate :=
  ⟨rfl, sound, sound_of_underived rfl⟩

variable (twin : request.Twin other)

include twin

/-- What is read of a request without what it remembers is the same for twins. -/
theorem congr {α : Type} (read : Request → α)
    (blind : ∀ request, read request.invalidate = read request) : read request = read other := by
  rw [← blind request, twin.same, blind]

/-- The same change of both, by what neither goes by. -/
theorem map (change : Request → Request)
    (blind : ∀ request, (change request.invalidate).invalidate = (change request).invalidate)
    (same : ∀ request, (change request).SameTarget request) :
    (change request).Twin (change other) where
  same := twin.congr (fun request => (change request).invalidate) blind
  left := twin.left.congr (same request)
  right := twin.right.congr (same other)

theorem compose (form : QueryForm) : request.compose form = other.compose form :=
  twin.congr (·.compose form) fun _ => rfl

theorem target (form : QueryForm) :
    (request.readTarget form).2 = (other.readTarget form).2 := by
  rw [readTarget_of_coherent twin.left.coherent, readTarget_of_coherent twin.right.coherent,
    twin.compose]

theorem readTarget (form : QueryForm) :
    (request.readTarget form).1.Twin (other.readTarget form).1 where
  same := by
    rw [twin.left.invalidate_readTarget, twin.right.invalidate_readTarget]
    exact twin.congr (·.located.invalidate) fun _ => rfl
  left := twin.left.readTarget form
  right := twin.right.readTarget form

end Twin

/-! ## Calls -/

theorem blind_doneWith {α : Type} {left left' : Request} {value : Except Misuse α}
    {change change' : α → Request} (same : left.invalidate = left'.invalidate)
    (changed : ∀ a, (change a).invalidate = (change' a).invalidate) :
    (left.doneWith value change).1.invalidate = (left'.doneWith value change').1.invalidate ∧
      (left.doneWith value change).2 = (left'.doneWith value change').2 := by
  cases value with
  | ok a => exact ⟨changed a, rfl⟩
  | error misuse => exact ⟨same, rfl⟩

/-- No call looks at what is remembered. -/
theorem blind_perform (request : Request) (call : Call) :
    (request.invalidate.perform call).1.invalidate = (request.perform call).1.invalidate ∧
      (request.invalidate.perform call).2 = (request.perform call).2 := by
  cases call with
  | setHeader name value => exact blind_doneWith rfl fun _ => rfl
  | addHeader name value => exact blind_doneWith rfl fun _ => rfl
  | setHeaders source => exact blind_doneWith rfl fun _ => rfl
  | setCookies cookies => exact blind_doneWith rfl fun _ => rfl
  | addQueryParam name value => exact blind_doneWith rfl fun _ => rfl
  | setQueryParams source =>
      by_cases absent : source = .absent
      · subst absent
        exact ⟨rfl, rfl⟩
      · rw [perform_setQueryParams absent, perform_setQueryParams absent]
        exact blind_doneWith rfl fun _ => rfl
  | addFormParam name value => exact blind_doneWith rfl fun _ => rfl
  | setFormParams source => exact blind_doneWith rfl fun _ => rfl
  | putCookie cookie =>
      have cookies : request.invalidate.cookies = request.cookies := rfl
      rw [perform, perform, putCookie, putCookie, cookies]
      cases Cookie.ofDatum? cookie with
      | some cookie => exact ⟨rfl, rfl⟩
      | none => cases request.cookies.isEmpty <;> exact ⟨rfl, rfl⟩
  | setBodyOctets octets =>
      rw [perform, perform, setBodyOctets, setBodyOctets]
      cases octets.toOctets <;> exact ⟨rfl, rfl⟩
  | setBody value length =>
      cases value with
      | payload object =>
          rw [perform, perform, setBody, setBody, setPayload, setPayload]
          split_ifs <;> exact ⟨rfl, rfl⟩
      | _ => exact ⟨rfl, rfl⟩
  | _ => exact ⟨rfl, rfl⟩

namespace Twin

variable (twin : request.Twin other)

include twin

/-- **Twins are twins after the same call**, and it fails on both or on none. -/
theorem perform (call : Call) : (request.perform call).1.Twin (other.perform call).1 where
  same := twin.congr (fun request => (request.perform call).1.invalidate)
    fun request => (blind_perform request call).1
  left := twin.left.perform call
  right := twin.right.perform call

theorem outcome (call : Call) : (request.perform call).2 = (other.perform call).2 :=
  twin.congr (fun request => (request.perform call).2) fun request => (blind_perform request call).2

/-- Twins are twins after the same URI was set, which can be set on both or on none. -/
theorem setUri {form : QueryForm} {uri : Uri} {left : Request}
    (set : request.setUri form uri = (left, .ok ())) :
    ∃ left', other.setUri form uri = (left', .ok ()) ∧ left.Twin left' := by
  obtain ⟨path, supported, parameters, readable⟩ := stated_of_setUri set
  rw [setUri_of_readable path supported readable] at set
  obtain rfl := congrArg Prod.fst set
  refine ⟨_, setUri_of_readable path supported readable, ?_, sound_of_underived rfl,
    sound_of_underived rfl⟩
  have params : ({ request with uri := some uri } : Request).params =
      ({ other with uri := some uri } : Request).params := twin.congr (·.params) fun _ => rfl
  rw [invalidate_addParams, invalidate_addParams, params_addParams_congr params parameters]
  exact twin.congr (fun request => ({ request with uri := some uri } : Request).withParams _)
    fun _ => rfl

end Twin

end Outbound.Request
