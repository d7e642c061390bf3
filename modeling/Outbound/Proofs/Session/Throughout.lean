/-
# Outbound.Proofs.Session.Throughout — what holds through steps within steps

A step is a change of the builder (`Step.change?`) or does nothing to it but run the
calculator, register one, and settle what was asked for.  A change sets a URI,
performs a call or makes an edit (`of_change`), and rewrites the request and the text
of the URL and nothing else of the builder (`frame_of_change`).

A scripted calculator takes steps while a request is built, and these may register
calculators and build again.  `Step.Throughout` carries a condition on steps into
the steps of every calculator that a step registers, however deep.  An invariant
that is `Settled`, does not mind which calculator there is, and is kept by every
change under the condition is then kept by whole runs (`keeps_run`): by induction
on how deep builds are nested, then on the run.
-/
import Outbound.Proofs.Fallible
import Outbound.Proofs.Session.History

namespace Outbound

set_option autoImplicit false

/-! ## New builders -/

/-- The builder that starts from a request has its maps made anew and all else of it, and remembers
nothing. -/
theorem Builder.eq_of_ofPrototype {request : Request} {copy : Builder}
    (made : Builder.ofPrototype request = .ok copy) :
    ∃ headers form params, request.body.form.mapM (FieldMap.recast .exact) = .ok form ∧
      request.params.mapM (FieldMap.recast .exact) = .ok params ∧ copy = {
        request := { request.invalidate with headers, params, body := { request.body with form } }
        isRaw := request.isRaw } := by
  obtain ⟨copied, isCopy, rfl⟩ := map_eq_ok_iff.1 made
  obtain ⟨headers, -, isCopy⟩ := bind_eq_ok_iff.1 isCopy
  obtain ⟨form, recast, isCopy⟩ := bind_eq_ok_iff.1 isCopy
  obtain ⟨params, recast', isCopy⟩ := bind_eq_ok_iff.1 isCopy
  obtain rfl := Except.ok.inj isCopy
  exact ⟨headers, form, params, recast, recast', rfl⟩

/-- Builders that nothing was done with yet. -/
inductive Builder.New : Builder → Prop where
  | fresh (settings : Settings) (method isRaw : Datum) :
      New (Builder.ofSettings settings method isRaw)
  | copied {request : Request} {builder : Builder} (made : Builder.ofPrototype request = .ok builder) :
      New builder

/-- A new builder remembers nothing and signs nothing. -/
theorem Builder.New.blank {builder : Builder} (new : builder.New) :
    builder.request.derived = {} ∧ builder.urlText = none ∧ builder.calculator = none := by
  cases new with
  | fresh settings method isRaw => exact ⟨rfl, rfl, rfl⟩
  | copied made =>
      obtain ⟨headers, form, params, -, -, rfl⟩ := Builder.eq_of_ofPrototype made
      exact ⟨rfl, rfl, rfl⟩

/-! ## Changes -/

/-- What a step does to the builder before anything else, if it is a change. -/
def Step.change? : Step → Option (Builder → Outcome Builder)
  | .setUrl url => some (·.setUrl url)
  | .setUri uri => some (·.setUriDatum uri)
  | .call told => some (·.perform told)
  | .edit made => some (·.edit made)
  | _ => none

/-- The step sets a URI, as it is or by its text. -/
inductive Step.Sets (uri : Uri) : Step → Prop where
  | given : Sets uri (.setUri (.uri uri))
  | read {text : String} (parsed : Uri.parse text = .ok uri) : Sets uri (.setUrl (.text text))

namespace Builder

/-- A change sets a URI, performs a call or makes an edit, or does nothing because what was given is
no URI. -/
theorem of_change {P : Builder → Prop} {step : Step} {f : Builder → Outcome Builder}
    {builder : Builder} (isChange : step.change? = some f) (unchanged : P builder)
    (set : ∀ uri urlText, step.Sets uri → P (builder.setUri uri urlText).1)
    (called : ∀ call, step = .call call → P (builder.perform call).1)
    (edited : ∀ made, step = .edit made → P (builder.edit made).1) : P (f builder).1 := by
  cases step with
  | setUrl url =>
      obtain rfl := Option.some.inj isChange
      show P (builder.setUrl url).1
      cases url with
      | text text =>
          rw [setUrl, Datum.readUri]
          cases parsed : Uri.parse text with
          | ok uri => exact set uri _ (.read parsed)
          | error fault => exact unchanged
      | _ => exact unchanged
  | setUri datum =>
      obtain rfl := Option.some.inj isChange
      cases datum with
      | uri uri => exact set uri none .given
      | _ => exact unchanged
  | call call =>
      obtain rfl := Option.some.inj isChange
      exact called call rfl
  | edit made =>
      obtain rfl := Option.some.inj isChange
      exact edited made rfl
  | _ => cases isChange

/-- The builder differs from another one at most in the request and the text of the URL. -/
def Frame (left builder : Builder) : Prop :=
  left.calculator = builder.calculator ∧ left.isRaw = builder.isRaw

theorem frame_setUri (builder : Builder) (uri : Uri) (urlText : Option String) :
    Frame (builder.setUri uri urlText).1 builder := by
  rw [setUri]
  split
  split <;> exact ⟨rfl, rfl⟩

theorem frame_of_change {step : Step} {f : Builder → Outcome Builder}
    (isChange : step.change? = some f) (builder : Builder) : Frame (f builder).1 builder := by
  refine of_change (P := (Frame · builder)) isChange ⟨rfl, rfl⟩
    (fun uri urlText _ => frame_setUri builder uri urlText) (fun _ _ => ⟨rfl, rfl⟩) fun made _ => ?_
  cases made <;> exact ⟨rfl, rfl⟩

end Builder

namespace Act

/-- The builder that an action leaves, with its fault if it failed, is the outcome of a change. -/
def Makes {α : Type} (f : Builder → Outcome Builder) (act : Act α) (session : Session) : Prop :=
  match act session with
  | .ok _ next => f session.builder = (next.builder, .ok ())
  | .error fault next => f session.builder = (next.builder, .error fault)

section

variable {α : Type} {f : Builder → Outcome Builder} {act : Act α} {session next : Session}

theorem Makes.of_ok {a : α} (makes : Makes f act session) (answered : act session = .ok a next) :
    f session.builder = (next.builder, .ok ()) := by
  rw [Makes, answered] at makes
  exact makes

theorem Makes.of_error {fault : Fault} (makes : Makes f act session)
    (failed : act session = .error fault next) : f session.builder = (next.builder, .error fault) := by
  rw [Makes, failed] at makes
  exact makes

theorem Makes.left (makes : Makes f act session) :
    (Act.left act session).builder = (f session.builder).1 := by
  rw [Act.left]
  cases done : act session with
  | ok a next => exact (congrArg Prod.fst (makes.of_ok done)).symm
  | error fault next => exact (congrArg Prod.fst (makes.of_error done)).symm

end

theorem makes_change (f : Builder → Outcome Builder) (reply : Reply) (session : Session) :
    Makes f (change f >>= fun _ => pure reply) session := by
  rw [Makes, bind_eq, change_eq]
  cases outcome : (f session.builder).2 <;> exact Prod.ext rfl outcome

theorem makes_edit (made : Edit) (session : Session) :
    Makes (·.edit made) (edit made) session := by
  -- The reply of an edit depends on what there was before it, the rest does not.
  obtain ⟨reply, answered⟩ : ∃ reply, edit made session =
      (change (·.edit made) >>= fun _ => pure reply : Act Reply) session := by
    have read : request session = .ok session.builder.request session := rfl
    rw [edit, bind_eq, read]
    dsimp only
    generalize session.builder.request.params.isSome = hasParams
    cases made with
    | addQueryParam name values =>
        cases hasParams with
        | false => exact ⟨.noParams, rfl⟩
        | true => exact ⟨.done, rfl⟩
    | _ => exact ⟨.done, rfl⟩
  rw [Makes, answered]
  exact makes_change _ reply session

/-- A step that changes the builder does nothing else to it, whether or not it fails. -/
theorem makes_stepWith {world : World} {build : Act Unit} {step : Step}
    {f : Builder → Outcome Builder} (isChange : step.change? = some f) (session : Session) :
    Makes f (stepWith world build step) session := by
  cases step with
  | setUrl url =>
      obtain rfl := Option.some.inj isChange
      exact makes_change _ .done session
  | setUri datum =>
      obtain rfl := Option.some.inj isChange
      exact makes_change _ .done session
  | call told =>
      obtain rfl := Option.some.inj isChange
      exact makes_change _ .done
        { session with events := session.events ++ told.log.map Event.logged }
  | edit made =>
      obtain rfl := Option.some.inj isChange
      exact makes_edit made session
  | _ => cases isChange

end Act

/-! ## Steps -/

/-- The calculator that a step registers, or that it registers none. -/
def Step.registers? : Step → Option (Option Calculator)
  | .setCalculator calculator => some calculator
  | .authenticate config resolver => some (some (.header (AuthHandler.ofConfig config resolver)))
  | _ => none

/-- A step keeps what its change or the registering of its calculator keeps, if it does either, and
what building keeps, if it builds; all else that steps do is settled. -/
theorem Act.keeps_stepWith_of {P : Builder → Prop} (settled : Settled P) (world : World)
    {build : Act Unit} {step : Step} (builds : step = .build → Keeps P build)
    (changes : ∀ f, step.change? = some f → ∀ b, P b → P (f b).1)
    (registers : ∀ calculator, step.registers? = some calculator →
      ∀ b, P b → P { b with calculator }) :
    Keeps P (stepWith world build step) := by
  cases isChange : step.change? with
  | some f =>
      intro session holds
      rw [(makes_stepWith isChange session).left]
      exact changes f isChange session.builder holds
  | none =>
      cases step with
      | setUrl url => cases isChange
      | setUri datum => cases isChange
      | call told => cases isChange
      | edit made => cases isChange
      | read reading => exact keeps_read settled reading
      | setCalculator calculator => exact fun session => registers calculator rfl session.builder
      | authenticate config resolver => exact fun session => registers _ rfl session.builder
      | build => exact Keeps.bind (builds rfl) fun _ => (quiet_pure _).keeps
      | handOver => exact Keeps.bind (keeps_handOver settled world) fun _ => (quiet_pure _).keeps
      | send answer => exact keeps_send settled world answer
      | refused fault => exact (quiet_throw fault).keeps

/-! ## Steps within steps -/

/-- The step has a property, and so have all steps of the calculators that it registers. -/
inductive Step.Throughout (Q : Step → Prop) : Step → Prop where
  | intro {step : Step} (holds : Q step)
      (within : ∀ streams steps, step = .setCalculator (some (.script streams steps)) →
        ∀ first, ∀ inner ∈ steps first, Throughout Q inner) : Throughout Q step

/-- All steps of the calculator of the builder have a property, throughout. -/
def Builder.Takes (Q : Step → Prop) (builder : Builder) : Prop :=
  ∀ streams steps, builder.calculator = some (.script streams steps) →
    ∀ first, ∀ step ∈ steps first, step.Throughout Q

theorem Builder.New.takes {Q : Step → Prop} {builder : Builder} (new : builder.New) :
    builder.Takes Q := by
  rw [Builder.Takes, new.blank.2.2]
  exact nofun

/-- A property of builders that is kept by all that steps of a kind do directly. -/
structure Act.Kept (P : Builder → Prop) (Q : Step → Prop) : Prop where
  settled : Settled P
  calculator : ∀ b calculator, P b → P { b with calculator }
  change : ∀ step f b, Q step → step.change? = some f → P b → P (f b).1

namespace Act

variable {P : Builder → Prop} {Q : Step → Prop}

theorem Settled.and {P' : Builder → Prop} (settled : Settled P) (settled' : Settled P') :
    Settled fun b => P b ∧ P' b where
  headers b name value headers replaced holds :=
    ⟨settled.headers b name value headers replaced holds.1,
      settled'.headers b name value headers replaced holds.2⟩
  charset b charset holds := ⟨settled.charset b charset holds.1, settled'.charset b charset holds.2⟩
  length b length holds := ⟨settled.length b length holds.1, settled'.length b length holds.2⟩
  target b form holds := ⟨settled.target b form holds.1, settled'.target b form holds.2⟩

theorem settled_takes : Settled (Builder.Takes Q) where
  headers _ _ _ _ _ takes := takes
  charset _ _ takes := takes
  length _ _ takes := takes
  target _ _ takes := takes

section

variable (kept : Kept P Q)

include kept

theorem keeps_stepWith (world : World) {build : Act Unit}
    (builds : Keeps (fun b => P b ∧ b.Takes Q) build) {step : Step} (throughout : step.Throughout Q) :
    Keeps (fun b => P b ∧ b.Takes Q) (stepWith world build step) := by
  have settled := kept.settled.and (settled_takes (Q := Q))
  obtain ⟨holds, within⟩ := throughout
  refine keeps_stepWith_of settled world (fun _ => builds) ?_ ?_
  · intro f isChange b both
    refine ⟨kept.change step f b holds isChange both.1, ?_⟩
    rw [Builder.Takes, (Builder.frame_of_change isChange b).1]
    exact both.2
  · intro calculator registers b both
    refine ⟨kept.calculator b calculator both.1, ?_⟩
    rintro streams steps rfl
    -- A script is registered as it stands, an authentication is none.
    cases step with
    | setCalculator calculator =>
        obtain rfl := Option.some.inj registers
        exact within streams steps rfl
    | _ => cases registers

/-- Builds keep what the steps keep that a calculator may take, however deep they are nested. -/
theorem keeps_buildWithin (world : World) (depth : Nat) :
    Keeps (fun b => P b ∧ b.Takes Q) (buildWithin world depth) := by
  have settled := kept.settled.and (settled_takes (Q := Q))
  -- A calculator was registered by a step, so its own steps meet the condition as well.
  induction depth with
  | zero => exact (quiet_throw _).keeps
  | succ depth ih =>
      refine keeps_finish settled (keeps_sign settled ?_)
      intro b streams steps both script first step mem
      have stepKeeps := keeps_stepWith kept world ih (both.2 streams steps script first step mem)
      exact Keeps.bind stepKeeps fun _ => (quiet_pure ()).keeps

/-- **Runs keep what each kind of change keeps**, also within builds and also when steps fail. -/
theorem keeps_run_takes (world : World) {session : Session}
    (both : P session.builder ∧ session.builder.Takes Q) {steps : List Step}
    (throughout : ∀ step ∈ steps, step.Throughout Q) :
    P (session.run world steps).builder ∧ (session.run world steps).builder.Takes Q := by
  induction steps generalizing session with
  | nil => exact both
  | cons step steps ih =>
      rw [List.forall_mem_cons] at throughout
      have builds := keeps_buildWithin kept world nestingLimit
      exact ih (keeps_stepWith kept world builds throughout.1 session both) throughout.2

theorem keeps_run (world : World) {session : Session} (holds : P session.builder)
    (takes : session.builder.Takes Q) {steps : List Step}
    (throughout : ∀ step ∈ steps, step.Throughout Q) : P (session.run world steps).builder :=
  (keeps_run_takes kept world ⟨holds, takes⟩ throughout).1

end

end Act

/-! ## Setting a URI -/

section

variable {uri : Uri} {session : Session} {request : Request}
  (set : session.builder.request.setUri session.builder.queryForm uri = (request, .ok ()))

include set

theorem Act.step_setUri (world : World) : step world (.setUri (.uri uri)) session =
    .ok .done { session with builder := { session.builder with request, urlText := none } } := by
  show (change (·.setUriDatum (.uri uri)) >>= fun _ => pure Reply.done) session = _
  simp [Builder.setUriDatum, Builder.setUri_of_request set]

theorem Act.step_setUrl {text : String} (parsed : Uri.parse text = .ok uri) (world : World) :
    step world (.setUrl (.text text)) session =
      .ok .done { session with builder := { session.builder with request, urlText := some text } } := by
  show (change (·.setUrl (.text text)) >>= fun _ => pure Reply.done) session = _
  simp [Builder.setUrl, Datum.readUri, parsed, Except.mapError, Builder.setUri_of_request set]

/-- A step that sets a URI does to the request what setting the URI does to it. -/
theorem Act.step_of_sets {step : Step} (sets : step.Sets uri) (world : World) :
    ∃ urlText, Act.step world step session =
      .ok .done { session with builder := { session.builder with request, urlText } } := by
  cases sets with
  | given => exact ⟨none, step_setUri set world⟩
  | read parsed => exact ⟨_, step_setUrl set parsed world⟩

end

/-! ## Builders that can be reached -/

/-- The step goes past the builder and changes the request itself. -/
def Step.goesPast : Step → Bool
  | .edit _ => true
  | _ => false

/-- Builders that are reached by runs of a kind, in which more of them are made from the requests of
those that were reached. -/
inductive Builder.Reached (Run : World → Session → List Step → Prop) : Builder → Prop where
  | fresh (settings : Settings) (method isRaw : Datum) :
      Reached Run (Builder.ofSettings settings method isRaw)
  | run {world : World} {session : Session} {steps : List Step}
      (start : Reached Run session.builder) (runs : Run world session steps) :
      Reached Run (session.run world steps).builder
  | copied {builder copy : Builder} (prototype : Reached Run builder)
      (made : Builder.ofPrototype builder.request = .ok copy) : Reached Run copy

end Outbound
