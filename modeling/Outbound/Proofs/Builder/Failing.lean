/-
# Outbound.Proofs.Builder.Failing — what a failing call leaves behind

A call that fails undoes nothing.  Most calls look at what they are given before
they change anything, and leave the builder as it was.  Those that set one form of
body clear the others first, adding a query parameter makes a map to add it to, and
these changes stay (`Request.begun`).

Setting a URI changes nothing when the URI is refused.  When a segment of its query
cannot be read, the URI is set and the parameters of the segments before it are
there (`StoppedAt`), so a failing call need not leave the builder as it was
(`not_unchanged_of_failed`).  In no case does it change the URL that is signed, the
calculator, or anything of the request that is not named here
(`remains_of_failed`).
-/
import Mathlib.Tactic.SplitIfs
import Outbound.Proofs.Session.Throughout

namespace Outbound

set_option autoImplicit false

open Query (pieces stated)

/-! ## Calls -/

namespace Request

/-- The request as a call leaves it that fails: what the call does first is done. -/
def begun (request : Request) : Call → Request
  | .addQueryParam _ _ => { request with params := some request.paramsOrEmpty }
  | .addFormParam _ _ =>
    request.withBody (·.setForm (some (request.body.form.getD (.empty .exact))))
  | .setFormParams _ => request.withBody Body.keepForm
  | .setBodyOctets _ => request.withBody Body.clear
  | _ => request

theorem doneWith_of_failed {α : Type} {request : Request} {value : Except Misuse α}
    {change : α → Request} {fault : Fault} (failed : (request.doneWith value change).2 = .error fault) :
    (request.doneWith value change).1 = request := by
  cases value with
  | ok a => cases failed
  | error misuse => rfl

theorem perform_of_failed {request : Request} {call : Call} {fault : Fault}
    (failed : (request.perform call).2 = .error fault) :
    (request.perform call).1 = request.begun call := by
  cases call with
  | addQueryParam name value => exact doneWith_of_failed failed
  | addFormParam name value => exact doneWith_of_failed failed
  | setFormParams source => exact doneWith_of_failed failed
  | setHeader name value => exact doneWith_of_failed failed
  | addHeader name value => exact doneWith_of_failed failed
  | setHeaders source => exact doneWith_of_failed failed
  | setCookies cookies => exact doneWith_of_failed failed
  | setQueryParams source =>
      cases source with
      | absent => cases failed
      | _ => exact doneWith_of_failed failed
  | setBodyOctets octets =>
      rw [perform, setBodyOctets] at failed ⊢
      split at failed
      · cases failed
      · rfl
  | putCookie cookie =>
      rw [perform, putCookie] at failed ⊢
      split at failed
      · cases failed
      · split at failed
        · cases failed
        · rename_i held
          rw [if_neg held]
          rfl
  | setBody value length =>
      cases value with
      | payload object =>
          rw [perform, setBody, setPayload] at failed ⊢
          split_ifs at failed ⊢ <;> first | rfl | cases failed
      | octets holder bytes => cases failed
      | text s => cases failed
      | path p => cases failed
      | _ => rfl
  | _ => cases failed

end Request

/-! ## The URI -/

namespace Builder

variable {builder left : Builder}

/-- Setting a URI has stopped at a segment that cannot be read: the URI is set, and the parameters
of the segments before it are there.  What is remembered is void if there are any. -/
def StoppedAt (builder : Builder) (uri : Uri) (segment : String) (cause : Text.Percent.Fault)
    (left : Builder) : Prop :=
  ∃ before s after parameters derived,
    pieces (uri.query.getD "") = before ++ s :: after ∧
    before.mapM (stated builder.queryForm) = .ok parameters ∧
    stated builder.queryForm s = .error cause ∧ segment = String.ofList s ∧
    (parameters ≠ [] → derived = {}) ∧
    left = { builder with request :=
      { builder.request with
        uri := some uri
        params := (builder.request.addParams parameters).params
        derived } }

/-- What remains of a builder whose URI could not be set. -/
def RemainsAt (builder : Builder) (uri : Uri) (fault : Fault) (left : Builder) : Prop :=
  match fault with
  | .undecodable segment cause => builder.StoppedAt uri segment cause left
  | _ => left = builder

theorem remainsAt_of_failed {uri : Uri} {urlText : Option String} {fault : Fault}
    (failed : (builder.setUri uri urlText).2 = .error fault) :
    builder.RemainsAt uri fault (builder.setUri uri urlText).1 := by
  obtain ⟨request, entered, isLeft⟩ := request_of_failed failed
  have sets := builder.request.sets_setUri builder.queryForm uri
  rw [entered] at sets
  rw [isLeft]
  cases sets with
  | pathless none => rfl
  | unsupported refused => rfl
  | unreadable path supported cut readable unreadable =>
      rename_i before after s parameters cause
      let located : Request := { builder.request with uri := some uri }
      have same : located.params = builder.request.params := rfl
      have params := Request.params_addParams_congr same parameters
      refine ⟨before, s, after, parameters, (located.addParams parameters).derived, cut, readable,
        unreadable, rfl, Request.derived_addParams, ?_⟩
      rw [← params]
      exact congrArg (fun request => { builder with request })
        (Request.addParams_eq located parameters)

/-- What remains of a builder after a step that fails: setting a URI stops at a segment or changes
nothing, and a call does what it does first. -/
def Remains (builder : Builder) (step : Step) (fault : Fault) (left : Builder) : Prop :=
  match step, fault with
  | .setUrl url, .undecodable segment cause =>
    ∃ uri, url.readUri = .ok uri ∧ builder.StoppedAt uri segment cause left
  | .setUri datum, .undecodable segment cause =>
    ∃ uri, datum = .uri uri ∧ builder.StoppedAt uri segment cause left
  | .call call, _ => left = { builder with request := builder.request.begun call }
  | _, _ => left = builder

theorem uriFault_ne_undecodable (d : Datum) (segment : String) (cause : Text.Percent.Fault) :
    d.uriFault ≠ .undecodable segment cause := by
  intro isFault
  unfold Datum.uriFault at isFault
  split_ifs at isFault
  split at isFault <;> cases isFault

/-- What cannot be read as a URI is not refused for a segment of its query. -/
theorem readUri_ne_undecodable (url : Datum) (segment : String) (cause : Text.Percent.Fault) :
    url.readUri ≠ .error (.undecodable segment cause) := by
  intro refused
  cases url with
  | text s =>
      rw [Datum.readUri] at refused
      cases parsed : Uri.parse s with
      | ok uri =>
          rw [parsed] at refused
          cases refused
      | error fault =>
          rw [parsed] at refused
          cases refused
  | _ => exact uriFault_ne_undecodable _ segment cause (Except.error.inj refused)

theorem remains_of_setUrl {url : Datum} {fault : Fault}
    (failed : (builder.setUrl url).2 = .error fault) :
    builder.Remains (.setUrl url) fault (builder.setUrl url).1 := by
  rw [setUrl] at failed ⊢
  cases read : url.readUri with
  | error refused =>
      rw [read] at failed
      obtain rfl := Except.error.inj failed
      cases refused with
      | undecodable segment cause => exact absurd read (readUri_ne_undecodable url segment cause)
      | _ => rfl
  | ok uri =>
      rw [read] at failed
      have remains := remainsAt_of_failed failed
      cases fault with
      | undecodable segment cause => exact ⟨uri, read, remains⟩
      | _ => exact remains

theorem remains_of_setUriDatum {datum : Datum} {fault : Fault}
    (failed : (builder.setUriDatum datum).2 = .error fault) :
    builder.Remains (.setUri datum) fault (builder.setUriDatum datum).1 := by
  cases datum with
  | uri uri =>
      have remains := remainsAt_of_failed failed
      cases fault with
      | undecodable segment cause => exact ⟨uri, rfl, remains⟩
      | _ => exact remains
  | _ =>
      obtain rfl := Except.error.inj failed
      rfl

end Builder

/-! ## Steps -/

/-- The step tells the builder something, as its calls do. -/
def Step.IsTelling : Step → Prop
  | .setUrl _ | .setUri _ | .call _ => True
  | _ => False

/-- **What remains of a builder after a call that failed**: all of it but for what the call does
first, and, when a segment of a query could not be read, the URI and the parameters before it. -/
theorem remains_of_failed {world : World} {session next : Session} {step : Step} {fault : Fault}
    (telling : step.IsTelling) (failed : Act.step world step session = .error fault next) :
    session.builder.Remains step fault next.builder := by
  have changed : ∀ f, step.change? = some f → f session.builder = (next.builder, .error fault) := by
    intro f isChange
    exact (Act.makes_stepWith isChange session).of_error failed
  cases step with
  | setUrl url =>
      have made := changed _ rfl
      have remains := Builder.remains_of_setUrl (congrArg Prod.snd made)
      rw [made] at remains
      exact remains
  | setUri datum =>
      have made := changed _ rfl
      have remains := Builder.remains_of_setUriDatum (congrArg Prod.snd made)
      rw [made] at remains
      exact remains
  | call told =>
      have made := changed _ rfl
      have done : (session.builder.request.perform told).2 = .error fault := congrArg Prod.snd made
      have remains := Request.perform_of_failed done
      have whole : { session.builder with request := (session.builder.request.perform told).1 } =
          next.builder := congrArg Prod.fst made
      show next.builder = _
      rw [← whole, remains]
  | _ => exact telling.elim

/-- The second segment cannot be read: the first one is entered, for the URI that has been set,
while the URL to sign is the one of the call before. -/
theorem remains_of_failed_segment :
    ∃ fault next, Act.step {} (.setUrl (.text "http://b/?a=1&b=%zz"))
        (Session.run {} { builder := Builder.ofSettings {} .absent .absent }
          [.setUrl (.text "http://a/")]) = .error fault next ∧
      next.builder.urlText = some "http://a/" ∧
      next.builder.request.uri =
        some ⟨some "http", some "b", none, none, some "/", some "a=1&b=%zz"⟩ ∧
      next.builder.request.params =
        some ((FieldMap.empty .exact).add (.text "a") [.text "1"]) ∧
      next.builder.request.derived = {} := by
  let session := Session.run {} { builder := Builder.ofSettings {} .absent .absent }
    [.setUrl (.text "http://a/")]
  let cause := Text.Percent.Fault.malformed "%zz"
  let step : Step := .setUrl (.text "http://b/?a=1&b=%zz")
  have telling : step.IsTelling := trivial
  have failed : ∃ next, Act.step {} step session = .error (.undecodable "b=%zz" cause) next :=
    ⟨_, rfl⟩
  obtain ⟨next, failed⟩ := failed
  obtain ⟨uri, read, before, s, after, parameters, derived, cut, readable, unreadable, segment,
    isVoid, isLeft⟩ := remains_of_failed telling failed
  obtain rfl := Except.ok.inj read
  refine ⟨_, next, failed, ?_⟩
  have two : pieces "a=1&b=%zz" = ["a=1".toList, "b=%zz".toList] := by decide +kernel
  change pieces "a=1&b=%zz" = before ++ s :: after at cut
  rw [two] at cut
  -- The first segment can be read and there is no third, so it is the second that stopped it.
  cases before with
  | nil =>
      obtain ⟨rfl, -⟩ := List.cons.inj cut
      cases unreadable
  | cons first rest =>
      obtain ⟨rfl, cut⟩ := List.cons.inj cut
      cases rest with
      | nil =>
          obtain rfl := Except.ok.inj readable
          rw [isLeft, isVoid (List.cons_ne_nil _ _)]
          exact ⟨rfl, rfl, rfl, rfl⟩
      | cons second rest =>
          obtain ⟨-, cut⟩ := List.cons.inj cut
          cases rest <;> cases cut

/-- The step can fail and leave another builder than it found. -/
def Step.LeavesTraces (step : Step) : Prop :=
  ∃ session fault next, Act.step {} step session = .error fault next ∧
    next.builder ≠ session.builder

/-- Calls that fail can change the builder: a URI is there up to a segment of its query, a map was
made for parameters, the text of a body is gone. -/
theorem not_unchanged_of_failed :
    (Step.setUrl (.text "http://b/?a=1&b=%zz")).LeavesTraces ∧
      (Step.call (.addQueryParam (.list []) .absent)).LeavesTraces ∧
      (Step.call (.addFormParam (.list []) .absent)).LeavesTraces ∧
      (Step.call (.setFormParams (.int 1))).LeavesTraces ∧
      (Step.call (.setBodyOctets .absent)).LeavesTraces := by
  let session := Session.run {} { builder := Builder.ofSettings {} .absent .absent }
    [.call (.setBodyText (.text "x"))]
  refine ⟨⟨session, _, _, rfl, fun same => ?_⟩, ⟨session, _, _, rfl, fun same => ?_⟩,
    ⟨session, _, _, rfl, fun same => ?_⟩, ⟨session, _, _, rfl, fun same => ?_⟩,
    ⟨session, _, _, rfl, fun same => ?_⟩⟩
  · cases congrArg (·.request.uri) same
  · cases congrArg (·.request.params) same
  all_goals cases congrArg (·.request.body.text) same

end Outbound
