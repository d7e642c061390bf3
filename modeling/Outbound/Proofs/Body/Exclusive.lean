/-
# Outbound.Proofs.Body.Exclusive — a request holds its body in one form at most

Six of the forms of a body exclude each other.  A call that sets one of them clears
the five others, a form and parts that are added to being kept for it; the other
calls leave all six alone, and so does all that building, reading and sending do
(`kept_core`).

A body that is held in one form at most stays so under every call, also when it
fails: what a call clears before it looks at what it was given only makes fewer of
them (`exclusive_perform`).  Hence it is so for every builder that can be reached by
runs of calls, of any length, calculators that call the builder and copies of
requests on the way included (`exclusive_of_reached`).
-/
import Outbound.Proofs.Request.Entering
import Outbound.Proofs.Session.Throughout

namespace Outbound

set_option autoImplicit false

namespace Body

/-! ## The forms that exclude each other -/

/-- The forms of a body of which at most one is sent. -/
inductive Form where
  | octets
  | text
  | stream
  | writer
  | form
  | parts
  deriving DecidableEq, Repr

def holds (body : Body) : Form → Bool
  | .octets => body.octets.isSome
  | .text => body.text.isPresent
  | .stream => body.stream.isPresent
  | .writer => body.writer.isPresent
  | .form => body.form.isSome
  | .parts => body.parts.isSome

/-- No two forms are held. -/
def Exclusive (body : Body) : Prop :=
  ∀ one other, body.holds one → body.holds other → one = other

/-- Nothing is held in another form. -/
def Only (body : Body) (own : Form) : Prop := ∀ other, body.holds other → other = own

theorem Only.exclusive {body : Body} {own : Form} (only : body.Only own) : body.Exclusive := by
  intro first second held held'
  rw [only first held, only second held']

/-- A body that holds fewer forms than one that excludes them does so too. -/
theorem Exclusive.of_fewer {body other : Body} (exclusive : body.Exclusive)
    (fewer : ∀ own, other.holds own → body.holds own) : other.Exclusive :=
  fun first second held held' => exclusive first second (fewer first held) (fewer second held')

@[simp] theorem holds_core (body : Body) (own : Form) : body.core.holds own = body.holds own := by
  cases own <;> rfl

theorem Exclusive.of_core {body other : Body} (exclusive : body.Exclusive)
    (same : other.core = body.core) : other.Exclusive := by
  refine exclusive.of_fewer fun own held => ?_
  rw [← holds_core, same, holds_core] at held
  exact held

/-! ## Clearing and setting them -/

namespace Exclusive

variable {body : Body} (exclusive : body.Exclusive)

include exclusive

theorem resetForm : body.resetForm.Exclusive := by
  refine exclusive.of_fewer fun own held => ?_
  cases own <;> first | exact held | cases held

theorem resetSingle : body.resetSingle.Exclusive := by
  refine exclusive.of_fewer fun own held => ?_
  cases own <;> first | exact held | cases held

theorem resetParts : body.resetParts.Exclusive := by
  refine exclusive.of_fewer fun own held => ?_
  cases own <;> first | exact held | cases held

end Exclusive

section

variable (body : Body)

theorem only_setOctets (bytes : Octets) : (body.setOctets bytes).Only .octets := by
  intro other held
  cases other <;> first | rfl | cases held

theorem only_setText (text : Datum) : (body.setText text).Only .text := by
  intro other held
  cases other <;> first | rfl | cases held

theorem only_setStream (stream : Datum) : (body.setStream stream).Only .stream := by
  intro other held
  cases other <;> first | rfl | cases held

theorem only_setWriter (writer length : Datum) : (body.setWriter writer length).Only .writer := by
  intro other held
  cases other <;> first | rfl | cases held

theorem only_setForm (form : Option Fields) : (body.setForm form).Only .form := by
  intro other held
  cases other <;> first | rfl | cases held

theorem only_addPart (part : Part) : (body.addPart part).Only .parts := by
  intro other held
  cases other <;> first | rfl | cases held

end

end Body

/-! ## Calls -/

namespace Request

variable {request : Request}

theorem exclusive_setBody (exclusive : request.body.Exclusive) (value length : Datum) :
    (request.setBody value length).1.body.Exclusive := by
  cases value with
  | octets holder bytes => exact (Body.only_setOctets _ bytes).exclusive
  | text s => exact (Body.only_setText _ _).exclusive
  | path p => exact exclusive.of_core rfl
  | payload object =>
      rw [setBody, setPayload]
      split_ifs
      · exact exclusive.of_core rfl
      · exact (Body.only_setWriter _ _ _).exclusive
      · exact exclusive.of_core rfl
      · exact (Body.only_setStream _ _).exclusive
      · exact exclusive
  | _ => exact exclusive

/-- **No call makes a body of two forms**, whether or not it fails. -/
theorem exclusive_perform (exclusive : request.body.Exclusive) (call : Call) :
    (request.perform call).1.body.Exclusive := by
  by_cases other : call.namesBody = false
  · exact exclusive.of_core ((frame_perform request call).core other)
  · cases call with
    | addFormParam name value =>
        exact of_doneWith (P := (·.body.Exclusive)) (Body.only_setForm _ _).exclusive
          fun _ _ => (Body.only_setForm _ _).exclusive
    | setFormParams source =>
        -- A source that makes no form leaves the form there was; all else is cleared by then.
        exact of_doneWith (P := (·.body.Exclusive)) exclusive.resetSingle.resetParts
          fun _ _ => (Body.only_setForm _ _).exclusive
    | resetFormParams => exact exclusive.resetForm
    | resetSingleBody => exact exclusive.resetSingle
    | resetParts => exact exclusive.resetParts
    | setBodyOctets octets =>
        rw [perform, setBodyOctets]
        split
        · exact (Body.only_setOctets _ _).exclusive
        · exact exclusive.resetForm.resetSingle.resetParts
    | setBodyText text => exact (Body.only_setText _ _).exclusive
    | setBodyStream stream => exact (Body.only_setStream _ _).exclusive
    | setBodyWriter writer length => exact (Body.only_setWriter _ _ _).exclusive
    | setBody value length => exact exclusive_setBody exclusive value length
    | addBodyPart part => exact (Body.only_addPart _ _).exclusive
    | _ => exact absurd rfl other

/-! ## Other changes -/

@[simp] theorem body_addParams (request : Request) (parameters : List Query.Parameter) :
    (request.addParams parameters).body = request.body := by
  rw [addParams_eq]

/-- Setting a URI leaves the body alone. -/
theorem body_of_sets {form : QueryForm} {uri : Uri} {left : Outcome Request}
    (sets : request.Sets form uri left) : left.1.body = request.body := by
  cases sets with
  | pathless none => rfl
  | unsupported refused => rfl
  | readable path supported all => exact body_addParams _ _
  | unreadable path supported cut readable failed => exact body_addParams _ _

@[simp] theorem body_readTarget (request : Request) (form : QueryForm) :
    (request.readTarget form).1.body = request.body := by
  rw [readTarget_eq]

end Request

/-- The step names one of the forms that exclude each other, or goes past the builder. -/
def Step.namesBody : Step → Bool
  | .call told => told.namesBody
  | .edit _ => true
  | _ => false

namespace Builder

theorem body_setUri (builder : Builder) (uri : Uri) (urlText : Option String) :
    (builder.setUri uri urlText).1.request.body = builder.request.body := by
  rw [request_setUri]
  exact Request.body_of_sets (builder.request.sets_setUri builder.queryForm uri)

theorem core_of_change {step : Step} {f : Builder → Outcome Builder}
    (other : step.namesBody = false) (isChange : step.change? = some f) (builder : Builder) :
    (f builder).1.request.body.core = builder.request.body.core := by
  refine of_change (P := (·.request.body.core = builder.request.body.core)) isChange rfl
    (fun uri urlText _ => congrArg Body.core (body_setUri builder uri urlText)) ?_ ?_
  · rintro call rfl
    exact (builder.request.frame_perform call).core other
  · rintro made rfl
    cases other

/-- What building, reading and sending do, they do not do to the forms that exclude each other. -/
theorem settled_core (R : Body → Prop) : Act.Settled fun b => R b.request.body.core where
  headers _ _ _ _ _ holds := holds
  charset _ _ holds := holds
  length _ _ holds := holds
  target b form holds := by
    rw [Request.body_readTarget]
    exact holds

/-- The forms that exclude each other are left alone by steps that do not name them. -/
theorem kept_core (R : Body → Prop) :
    Act.Kept (fun b => R b.request.body.core) (·.namesBody = false) where
  settled := settled_core R
  calculator _ _ holds := holds
  change step f b other isChange holds := by
    rw [core_of_change other isChange b]
    exact holds

/-! ## Builders that can be reached -/

/-- No step that keeps to the builder makes a body of two forms. -/
theorem kept_exclusive : Act.Kept (fun b => b.request.body.Exclusive) (·.goesPast = false) where
  settled := {
    headers := fun _ _ _ _ _ exclusive => exclusive
    charset := fun _ _ exclusive => exclusive
    length := fun _ _ exclusive => exclusive.of_core rfl
    target := fun b form exclusive => by
      rw [Request.body_readTarget]
      exact exclusive }
  calculator _ _ exclusive := exclusive
  change step f b telling isChange exclusive := by
    by_cases other : step.namesBody = false
    · exact exclusive.of_core (core_of_change other isChange b)
    · cases step with
      | call told =>
          obtain rfl := Option.some.inj isChange
          exact Request.exclusive_perform exclusive told
      | edit made => cases telling
      | _ => exact absurd rfl other

/-- A copy holds the forms that were held. -/
theorem holds_of_copy {request : Request} {copy : Builder}
    (made : Builder.ofPrototype request = .ok copy) (own : Body.Form) :
    copy.request.body.holds own = request.body.holds own := by
  obtain ⟨headers, fields, params, recast, -, rfl⟩ := eq_of_ofPrototype made
  cases own with
  | form =>
      show fields.isSome = request.body.form.isSome
      cases given : request.body.form with
      | none =>
          rw [given] at recast
          obtain rfl := Except.ok.inj recast
          rfl
      | some fields' =>
          rw [given] at recast
          obtain ⟨m, -, isSome⟩ := map_eq_ok_iff.1 recast
          rw [← isSome]
          rfl
  | _ => rfl

/-- **A builder that is reached by runs of its calls holds a body of one form at most**, whether the
calls in them failed or not, and whatever was copied on the way. -/
theorem exclusive_of_reached {builder : Builder}
    (reached : builder.Reached fun _ _ steps => ∀ step ∈ steps, step.Throughout (·.goesPast = false)) :
    builder.request.body.Exclusive := by
  suffices both : builder.request.body.Exclusive ∧ builder.Takes (·.goesPast = false) from both.1
  induction reached with
  | fresh settings method isRaw =>
      refine ⟨?_, (Builder.New.fresh settings method isRaw).takes⟩
      intro own other held
      cases own <;> cases held
  | run start runs ih => exact Act.keeps_run_takes kept_exclusive _ ih runs
  | copied prototype made ih =>
      refine ⟨ih.1.of_fewer fun own held => ?_, (Builder.New.copied made).takes⟩
      rw [holds_of_copy made] at held
      exact held

/-- A text makes way for a form; then a calculator adds a part and fails to set octets, and the
request is copied. -/
theorem exclusive_of_reached_copy :
    let steps : List Step := [.call (.setBodyText (.text "x")),
      .call (.addFormParam (.text "a") (.text "1")),
      .setCalculator (some (.script 0 fun _ =>
        [.call (.addBodyPart (.record "StringPart" false [])), .call (.setBodyOctets .absent)])),
      .build, .call (.setBodyWriter (.text "w") (.int 1))]
    ∃ copy, Builder.ofPrototype (Session.run {}
        { builder := Builder.ofSettings {} .absent .absent } steps).builder.request = .ok copy ∧
      copy.request.body.holds .writer ∧ copy.request.body.Exclusive := by
  intro steps
  let session : Session := { builder := Builder.ofSettings {} .absent .absent }
  have telling : ∀ step ∈ steps, step.Throughout (·.goesPast = false) := by
    simp only [steps, List.forall_mem_cons]
    refine ⟨.intro rfl nofun, .intro rfl nofun, .intro rfl ?_, .intro rfl nofun,
      .intro rfl nofun, nofun⟩
    rintro streams steps isScript first
    cases isScript
    simp only [List.forall_mem_cons]
    exact ⟨.intro rfl nofun, .intro rfl nofun, nofun⟩
  have reached : (session.run {} steps).builder.Reached fun _ _ steps =>
      ∀ step ∈ steps, step.Throughout (·.goesPast = false) :=
    .run (.fresh {} .absent .absent) telling
  obtain ⟨copy, made⟩ :
      ∃ copy, Builder.ofPrototype (session.run {} steps).builder.request = .ok copy := ⟨_, rfl⟩
  refine ⟨copy, made, ?_, exclusive_of_reached (.copied reached made)⟩
  rw [holds_of_copy made]
  rfl

end Builder

end Outbound
