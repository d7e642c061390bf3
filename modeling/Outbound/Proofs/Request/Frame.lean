/-
# Outbound.Proofs.Request.Frame — what a call leaves alone

No call changes the URI of a request or whether its query is sent as it stands.  The
parameters, and with them what is remembered of the targets, are changed by the calls
that name them only, and so is what a body holds beside its file, its generator and
its length (`frame_perform`).  This holds whether or not the call fails.
-/
import Mathlib.Tactic.SplitIfs
import Outbound.Builder.Call

namespace Outbound

set_option autoImplicit false

/-- The body less what stands beside the forms that exclude each other. -/
def Body.core (body : Body) : Body :=
  { body with generator := .absent, file := .absent, length := unknownLength }

namespace Call

def namesParams : Call → Bool
  | .addQueryParam _ _ | .setQueryParams _ | .resetQueryParams => true
  | _ => false

/-- The call names one of the forms that exclude each other, or clears some of them. -/
def namesBody : Call → Bool
  | .addFormParam _ _ | .setFormParams _ | .resetFormParams | .resetSingleBody | .resetParts
  | .setBodyOctets _ | .setBodyText _ | .setBodyStream _ | .setBodyWriter _ _ | .setBody _ _
  | .addBodyPart _ => true
  | _ => false

/-- What a call leaves is another request only where the call names it. -/
structure Frame (call : Call) (request left : Request) : Prop where
  uri : left.uri = request.uri
  isRaw : left.isRaw = request.isRaw
  params : call.namesParams = false →
    left.params = request.params ∧ left.derived = request.derived
  core : call.namesBody = false → left.body.core = request.body.core

end Call

namespace Request

/-- What is left of a change by a value has a property if the request has it, and if it has it
changed by the value, when there is one. -/
theorem of_doneWith {α : Type} {P : Request → Prop} {left : Request} {value : Except Misuse α}
    {change : α → Request} (unchanged : P left) (changed : ∀ a, value = .ok a → P (change a)) :
    P (left.doneWith value change).1 := by
  cases value with
  | ok a => exact changed a rfl
  | error misuse => exact unchanged

/-- Parameters are set to what a source makes, when there is one. -/
theorem perform_setQueryParams {source : Datum} (present : source ≠ .absent) (request : Request) :
    request.perform (.setQueryParams source) =
      request.doneWith (FieldMap.ofDatum .exact source) fun params =>
        request.withParams (some params) := by
  cases source <;> first | rfl | exact absurd rfl present

/-- **A call changes only what it names**, whether or not it fails. -/
theorem frame_perform (request : Request) (call : Call) :
    call.Frame request (request.perform call).1 := by
  let P : Request → Prop := call.Frame request
  have same : P request := ⟨rfl, rfl, fun _ => ⟨rfl, rfl⟩, fun _ => rfl⟩
  cases call with
  | setHeader name value =>
      exact of_doneWith (P := P) same fun _ _ => ⟨rfl, rfl, fun _ => ⟨rfl, rfl⟩, fun _ => rfl⟩
  | addHeader name value =>
      exact of_doneWith (P := P) same fun _ _ => ⟨rfl, rfl, fun _ => ⟨rfl, rfl⟩, fun _ => rfl⟩
  | setHeaders source =>
      exact of_doneWith (P := P) same fun _ _ => ⟨rfl, rfl, fun _ => ⟨rfl, rfl⟩, fun _ => rfl⟩
  | setCookies cookies =>
      exact of_doneWith (P := P) same fun _ _ => ⟨rfl, rfl, fun _ => ⟨rfl, rfl⟩, fun _ => rfl⟩
  | putCookie cookie =>
      rw [perform, putCookie]
      split
      · exact ⟨rfl, rfl, fun _ => ⟨rfl, rfl⟩, fun _ => rfl⟩
      · split <;> exact same
  | addQueryParam name value =>
      exact of_doneWith (P := P) ⟨rfl, rfl, nofun, fun _ => rfl⟩
        fun _ _ => ⟨rfl, rfl, nofun, fun _ => rfl⟩
  | setQueryParams source =>
      by_cases absent : source = .absent
      · subst absent
        exact ⟨rfl, rfl, nofun, fun _ => rfl⟩
      · rw [perform_setQueryParams absent]
        exact of_doneWith (P := P) same fun _ _ => ⟨rfl, rfl, nofun, fun _ => rfl⟩
  | resetQueryParams => exact ⟨rfl, rfl, nofun, fun _ => rfl⟩
  | addFormParam name value =>
      exact of_doneWith (P := P) ⟨rfl, rfl, fun _ => ⟨rfl, rfl⟩, nofun⟩
        fun _ _ => ⟨rfl, rfl, fun _ => ⟨rfl, rfl⟩, nofun⟩
  | setFormParams source =>
      exact of_doneWith (P := P) ⟨rfl, rfl, fun _ => ⟨rfl, rfl⟩, nofun⟩
        fun _ _ => ⟨rfl, rfl, fun _ => ⟨rfl, rfl⟩, nofun⟩
  | setBodyOctets octets =>
      rw [perform, setBodyOctets]
      split <;> exact ⟨rfl, rfl, fun _ => ⟨rfl, rfl⟩, nofun⟩
  | setBody value length =>
      cases value with
      | payload object =>
          rw [perform, setBody, setPayload]
          split_ifs
          · exact ⟨rfl, rfl, fun _ => ⟨rfl, rfl⟩, nofun⟩
          · exact ⟨rfl, rfl, fun _ => ⟨rfl, rfl⟩, nofun⟩
          · exact ⟨rfl, rfl, fun _ => ⟨rfl, rfl⟩, nofun⟩
          · exact ⟨rfl, rfl, fun _ => ⟨rfl, rfl⟩, nofun⟩
          · exact same
      | octets holder bytes => exact ⟨rfl, rfl, fun _ => ⟨rfl, rfl⟩, nofun⟩
      | text s => exact ⟨rfl, rfl, fun _ => ⟨rfl, rfl⟩, nofun⟩
      | path p => exact ⟨rfl, rfl, fun _ => ⟨rfl, rfl⟩, nofun⟩
      | _ => exact same
  | resetFormParams => exact ⟨rfl, rfl, fun _ => ⟨rfl, rfl⟩, nofun⟩
  | resetSingleBody => exact ⟨rfl, rfl, fun _ => ⟨rfl, rfl⟩, nofun⟩
  | resetParts => exact ⟨rfl, rfl, fun _ => ⟨rfl, rfl⟩, nofun⟩
  | setBodyText text => exact ⟨rfl, rfl, fun _ => ⟨rfl, rfl⟩, nofun⟩
  | setBodyStream stream => exact ⟨rfl, rfl, fun _ => ⟨rfl, rfl⟩, nofun⟩
  | setBodyWriter writer length => exact ⟨rfl, rfl, fun _ => ⟨rfl, rfl⟩, nofun⟩
  | addBodyPart part => exact ⟨rfl, rfl, fun _ => ⟨rfl, rfl⟩, nofun⟩
  | _ => exact ⟨rfl, rfl, fun _ => ⟨rfl, rfl⟩, fun _ => rfl⟩

end Request

end Outbound
