/-
# Outbound.Proofs.Session.Based — what can be said of where a request goes

The target of a request is composed from its URI and its parameters.  A request is
`Based` on a condition when its URI meets it, or localhost does if it has none, and
its parameters are texts.  Every call of texts keeps it so, and so does every URI that
meets the condition, also when its query cannot be read to the end (`of_sets`).

A builder only sets URIs of supported schemes.  So one that is reached by any runs of
steps of texts, whatever failed in them and whatever was copied on the way, has a URI
of a supported scheme and parameters that are texts (`based_of_reached`), and the
target it composes is never refused.
-/
import Outbound.Proofs.Request.Copying
import Outbound.Proofs.Session.Throughout

namespace Outbound

set_option autoImplicit false

open Query (Parameter grouped)

/-- The URI of the request meets a condition, and its parameters are texts. -/
structure Request.Based (B : Uri → Prop) (request : Request) : Prop where
  base : B request.base
  lists : ∃ contributions, request.paramsOrEmpty.Lists (grouped contributions)

namespace Request.Based

variable {B : Uri → Prop} {request other : Request} (based : request.Based B)

include based

/-- Only the URI and the parameters matter. -/
theorem congr (base : other.base = request.base) (params : other.params = request.params) :
    other.Based B where
  base := base ▸ based.base
  lists := by
    rw [paramsOrEmpty, params]
    exact based.lists

theorem readTarget (form : QueryForm) : (request.readTarget form).1.Based B := by
  obtain ⟨base, params⟩ := base_readTarget request form
  exact based.congr base params

theorem addParams (parameters : List Parameter) : (request.addParams parameters).Based B where
  base := by
    rw [addParams_eq]
    exact based.base
  lists := by
    obtain ⟨contributions, lists⟩ := based.lists
    have added := lists_addParams lists parameters
    rw [← Query.grouped_append] at added
    exact ⟨_, added⟩

/-- Setting a URI keeps the condition if the URI meets it, in so far as it can be set. -/
theorem of_sets {form : QueryForm} {uri : Uri} (meets : uri.isSupported → B uri)
    {left : Outcome Request} (sets : request.Sets form uri left) : left.1.Based B := by
  cases sets with
  | pathless none => exact based
  | unsupported refused => exact based
  | readable path supported all =>
      have located : ({ request with uri := some uri } : Request).Based B :=
        ⟨meets supported, based.lists⟩
      exact (located.addParams _).congr rfl rfl
  | unreadable path supported cut readable failed =>
      have located : ({ request with uri := some uri } : Request).Based B :=
        ⟨meets supported, based.lists⟩
      exact located.addParams _

theorem perform {call : Call} (textual : (Step.call call).isTextual = true) :
    (request.perform call).1.Based B := by
  obtain ⟨contributions, lists⟩ := based.lists
  have told : request.paramsOrEmpty.Lists (grouped (Told.contributions { contributions })) := lists
  obtain ⟨contributions', -, lists', left⟩ := lists_perform told .encoded textual
  refine ⟨?_, contributions', lists'⟩
  rcases left with same | ⟨params, isLeft⟩
  · exact same.base ▸ based.base
  · rw [isLeft]
    exact based.base

/-- A copy goes where the request goes. -/
theorem of_copy {copy : Builder} (made : Builder.ofPrototype request = .ok copy) :
    copy.request.Based B := by
  obtain ⟨headers, form, params, -, recast, rfl⟩ := Builder.eq_of_ofPrototype made
  obtain ⟨contributions, lists⟩ := based.lists
  have regular : ∀ m, request.params = some m → m.Regular .exact := by
    intro m given
    rw [paramsOrEmpty, given, Option.getD_some] at lists
    refine ⟨lists.keying, fun f mem => ?_⟩
    rw [lists.fields] at mem
    obtain ⟨c, -, rfl⟩ := List.mem_map.1 mem
    rfl
  obtain rfl : request.params = params := Except.ok.inj ((mapM_recast regular).symm.trans recast)
  exact based.congr rfl rfl

end Request.Based

/-! ## Builders -/

namespace Builder

/-- Steps of texts leave a request that can be sent, whether or not they fail. -/
theorem kept_based : Act.Kept (fun b => b.request.Based (·.isSupported)) (·.isTextual = true) where
  settled := {
    headers := fun _ _ _ _ _ based => based.congr rfl rfl
    charset := fun _ _ based => based.congr rfl rfl
    length := fun _ _ based => based.congr rfl rfl
    target := fun _ form based => based.readTarget form }
  calculator _ _ based := based
  change step f b textual isChange based := by
    refine of_change (P := (·.request.Based (·.isSupported))) isChange based ?_ ?_ ?_
    · intro uri urlText sets
      rw [request_setUri]
      exact based.of_sets id (b.request.sets_setUri b.queryForm uri)
    · rintro call rfl
      exact based.perform textual
    · rintro made rfl
      cases textual

/-- Runs of steps that give parameters as texts. -/
def Telling (_ : World) (_ : Session) (steps : List Step) : Prop :=
  ∀ step ∈ steps, step.Throughout (·.isTextual = true)

/-- **A builder that is reached by runs of texts has a URI that can be sent to and parameters that
are texts**, whatever failed in them. -/
theorem based_of_reached {builder : Builder} (reached : builder.Reached Telling) :
    builder.request.Based (·.isSupported) := by
  suffices both : builder.request.Based (·.isSupported) ∧ builder.Takes (·.isTextual = true) from
    both.1
  induction reached with
  | fresh settings method isRaw =>
      have supported : Uri.localhost.isSupported := by decide +kernel
      exact ⟨⟨supported, [], FieldMap.lists_empty⟩, (Builder.New.fresh settings method isRaw).takes⟩
  | run start runs ih => exact Act.keeps_run_takes kept_based _ ih runs
  | copied prototype made ih => exact ⟨ih.1.of_copy made, (Builder.New.copied made).takes⟩

end Builder

end Outbound
