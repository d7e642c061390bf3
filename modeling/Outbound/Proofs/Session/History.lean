/-
# Outbound.Proofs.Session.History — a target is what the calls before it told

A run takes steps one after the other.  What its calls told of where the request
goes is a URI and contributions of parameters (`Told`): setting a URI keeps the
contributions there were and adds those of its query, setting or resetting the
parameters starts them anew, and no other step tells anything.

`Holds` ties a builder to what it was told: its URI, the grouping of the
contributions in its map, and that a remembered target is not out of date.  Every
step keeps it (`holds_step`), so the target that is read after a run of any length
is the one that the history of the run specifies (`target_of_run`), however often
and in whatever form it was read before.
-/
import Outbound.Proofs.Request.Derived
import Outbound.Proofs.Request.Entering
import Outbound.Proofs.Session.Keeps

namespace Outbound

set_option autoImplicit false

open Query (Contribution grouped pieces single spread stated)

/-! ## What is told -/

/-- What a builder was told of where its request goes. -/
structure Told where
  /-- The URI that was set last. -/
  uri : Option Uri := none
  /-- The names with the values they were given since the parameters were last set or reset. -/
  contributions : List Contribution := []

namespace Told

/-- Where the request goes, localhost when that was never told. -/
def base (told : Told) : Uri := told.uri.getD Uri.localhost

/-- The query of the target: the contributions grouped by name, none when there are none. -/
def query (told : Told) (form : QueryForm) : Option String :=
  if told.contributions = [] then none
  else some (Query.write form (spread (grouped told.contributions)))

def target (told : Told) (form : QueryForm) : Uri :=
  told.base.withTarget (some (Request.pathOrRoot told.base.path)) (told.query form)

/-- A URI is set; the segments of its query contribute. -/
def enter? (form : QueryForm) (told : Told) (uri : Uri) : Option Told := do
  let parameters ← ((pieces (uri.query.getD "")).mapM (stated form)).toOption
  return { uri := some uri, contributions := told.contributions ++ parameters.map single }

/-- What is told after a step as well, if the step is one of texts and told anything that can be
read. -/
def after? (form : QueryForm) (told : Told) : Step → Option Told
  | .setUrl (.text text) => do told.enter? form (← (Uri.parse text).toOption)
  | .setUri (.uri uri) => told.enter? form uri
  | .call (.addQueryParam (.text name) value) => do
    let value ← value.value?
    return { told with contributions := told.contributions ++ [(name, [value])] }
  | .call (.setQueryParams source) => do
    return { told with contributions := ← source.contributions? }
  | .call .resetQueryParams => return { told with contributions := [] }
  | .setUrl _ | .setUri _ | .call (.addQueryParam _ _) | .edit _ => none
  | _ => return told

end Told

/-! ## Runs -/

/-- The step gives parameters as texts, and does not go past the builder. -/
def Step.isTextual : Step → Bool
  | .call (.addQueryParam name value) =>
    match name with
    | .text _ => value.value?.isSome
    | _ => false
  | .call (.setQueryParams source) => source.contributions?.isSome
  | .edit _ => false
  | _ => true

def Step.isReading : Step → Bool
  | .read _ => true
  | _ => false

def Builder.isScripted (builder : Builder) : Bool :=
  match builder.calculator with
  | some (.script _ _) => true
  | _ => false

namespace Session

/-- The session after steps, whether or not they failed. -/
def run (world : World) (session : Session) (steps : List Step) : Session :=
  steps.foldl (fun session step => Act.left (Act.step world step) session) session

/-- Every step but a reading gives an answer, and nothing is built by steps of a calculator. -/
def Returns (world : World) : Session → List Step → Prop
  | _, [] => True
  | session, step :: steps =>
    (step.isReading ∨ ∃ reply next, Act.step world step session = .ok reply next) ∧
      (step = .build → session.builder.isScripted = false) ∧
      Returns world (Act.left (Act.step world step) session) steps

end Session

/-! ## The invariant -/

/-- The builder takes queries in a form and knows what it was told, and no target it remembers is
out of date. -/
structure Holds (told : Told) (form : QueryForm) (builder : Builder) : Prop where
  form : builder.queryForm = form
  base : builder.request.base = told.base
  supported : told.base.isSupported
  lists : builder.request.paramsOrEmpty.Lists (grouped told.contributions)
  coherent : builder.request.Coherent

namespace Holds

variable {told : Told} {form : QueryForm} {builder : Builder}

/-- Changes of a request beside its URI, its parameters and what it derived. -/
theorem withRequest (holds : Holds told form builder) {request : Request}
    (same : request.SameTarget builder.request) : Holds told form { builder with request } where
  form := holds.form
  base := same.base.trans holds.base
  supported := holds.supported
  lists := by
    rw [Request.paramsOrEmpty, same.params]
    exact holds.lists
  coherent := holds.coherent.congr same

theorem settled : Act.Settled (Holds told form) where
  headers _ _ _ _ _ holds := holds.withRequest ⟨rfl, rfl, rfl⟩
  charset _ _ holds := holds.withRequest ⟨rfl, rfl, rfl⟩
  length _ _ holds := holds.withRequest ⟨rfl, rfl, rfl⟩
  target b form holds := by
    obtain ⟨base, params⟩ := b.request.base_readTarget form
    refine ⟨holds.form, base.trans holds.base, holds.supported, ?_,
      Request.coherent_readTarget holds.coherent form⟩
    show (b.request.readTarget form).1.paramsOrEmpty.Lists _
    rw [Request.paramsOrEmpty, params]
    exact holds.lists

end Holds

/-! ## One step -/

/-- What a call of texts contributes is in the parameters after it, and nothing else of where the
request goes is changed. -/
theorem Request.lists_perform {request : Request} {told : Told}
    (lists : request.paramsOrEmpty.Lists (grouped told.contributions)) (form : QueryForm)
    {call : Call} (textual : (Step.call call).isTextual = true) :
    ∃ contributions, told.after? form (.call call) = some { told with contributions } ∧
      (request.perform call).1.paramsOrEmpty.Lists (grouped contributions) ∧
      ((request.perform call).1.SameTarget request ∨
        ∃ params, (request.perform call).1 = request.withParams params) := by
  by_cases other : call.namesParams = false
  · have same := perform_of_other other request
    refine ⟨told.contributions, ?_, ?_, .inl same⟩
    · cases call <;> first | rfl | cases other
    · rw [paramsOrEmpty, same.params]
      exact lists
  · cases call with
    | addQueryParam name value =>
        cases name with
        | text name =>
            obtain ⟨v, isValue⟩ := Option.isSome_iff_exists.1 textual
            obtain rfl := Datum.eq_ofText?_of_value? isValue
            obtain ⟨added, isAdded, lists⟩ := lists.addDatum (name, [v])
            rw [Query.enter_grouped] at lists
            have entered : request.paramsOrEmpty.addDatum (.text name) [.ofText? v] = .ok added :=
              isAdded
            refine ⟨told.contributions ++ [(name, [v])], ?_, ?_, ?_⟩
            · simp only [Told.after?, isValue]
              rfl
            · rw [perform, addParamDatum, entered]
              exact lists
            · rw [perform, addParamDatum, entered]
              exact .inr ⟨some added, rfl⟩
        | _ => cases textual
    | setQueryParams source =>
        obtain ⟨contributions, isSource⟩ := Option.isSome_iff_exists.1 textual
        refine ⟨contributions, by simp only [Told.after?, isSource]; rfl, ?_⟩
        by_cases absent : source = .absent
        · subst absent
          obtain rfl := Option.some.inj isSource
          exact ⟨FieldMap.lists_empty, .inr ⟨none, rfl⟩⟩
        · obtain ⟨m, isMap, lists⟩ := FieldMap.lists_ofDatum isSource
          rw [perform_setQueryParams absent, isMap]
          exact ⟨lists, .inr ⟨some m, rfl⟩⟩
    | resetQueryParams => exact ⟨[], rfl, FieldMap.lists_empty, .inr ⟨none, rfl⟩⟩
    | _ => exact absurd rfl other

namespace Holds

variable {told : Told} {form : QueryForm} {builder : Builder}

/-- Setting a URI tells where the request goes, and adds what its query states. -/
theorem setUri (holds : Holds told form builder) {uri : Uri} {urlText : Option String}
    (set : (builder.setUri uri urlText).2 = .ok ()) :
    ∃ told', told.enter? form uri = some told' ∧
      Holds told' form (builder.setUri uri urlText).1 := by
  obtain ⟨request, entered, isSet⟩ := Builder.request_of_setUri set
  rw [holds.form] at entered
  obtain ⟨path, supported, parameters, readable⟩ := Request.stated_of_setUri entered
  obtain ⟨left, entered', located, lists⟩ :=
    Request.setUri_of_stated path supported readable holds.lists
  obtain rfl : request = left := congrArg Prod.fst (entered.symm.trans entered')
  rw [← Query.grouped_append] at lists
  refine ⟨{ uri := some uri, contributions := told.contributions ++ parameters.map single },
    ?_, ?_⟩
  · rw [Told.enter?, readable]
    rfl
  · rw [isSet]
    refine ⟨holds.form, ?_, supported, lists, Request.coherent_of_underived ?_⟩
    · rw [located]
      rfl
    · rw [located]
      rfl

theorem perform (holds : Holds told form builder) {call : Call}
    (textual : (Step.call call).isTextual = true) :
    ∃ told', told.after? form (.call call) = some told' ∧
      Holds told' form { builder with request := (builder.request.perform call).1 } := by
  obtain ⟨contributions, isTold, lists, left⟩ := Request.lists_perform holds.lists form textual
  refine ⟨_, isTold, ?_⟩
  rcases left with same | ⟨params, isLeft⟩
  · exact ⟨holds.form, same.base.trans holds.base, holds.supported, lists,
      holds.coherent.congr same⟩
  · rw [isLeft] at lists ⊢
    exact ⟨holds.form, holds.base, holds.supported, lists, Request.coherent_of_underived rfl⟩

end Holds

/-- Building by a calculator that takes no steps of its own. -/
theorem keeps_build {told : Told} {form : QueryForm} (world : World) (depth : Nat) :
    Act.Keeps (fun b => Holds told form b ∧ b.isScripted = false) (Act.buildWithin world depth) := by
  have settled : Act.Settled fun b => Holds told form b ∧ b.isScripted = false := {
    headers := fun b name value headers replaced holds =>
      ⟨Holds.settled.headers b name value headers replaced holds.1, holds.2⟩
    charset := fun b charset holds => ⟨Holds.settled.charset b charset holds.1, holds.2⟩
    length := fun b length holds => ⟨Holds.settled.length b length holds.1, holds.2⟩
    target := fun b form holds => ⟨Holds.settled.target b form holds.1, holds.2⟩ }
  cases depth with
  | zero => exact (Act.quiet_throw _).keeps
  | succ depth =>
      refine Act.keeps_finish settled (Act.keeps_sign settled ?_)
      intro b streams steps holds script
      have scripted := holds.2
      rw [Builder.isScripted, script] at scripted
      cases scripted

/-- **Every step keeps the invariant**, told what the step told as well. -/
theorem holds_step {world : World} {told : Told} {form : QueryForm} {session : Session}
    (holds : Holds told form session.builder) {step : Step} (textual : step.isTextual = true)
    (answered : step.isReading ∨ ∃ reply next, Act.step world step session = .ok reply next)
    (unscripted : step = .build → session.builder.isScripted = false) :
    ∃ told', told.after? form step = some told' ∧
      Holds told' form (Act.left (Act.step world step) session).builder := by
  cases step with
  | setUrl url =>
      obtain ⟨reply, next, answered⟩ := answered.resolve_left Bool.false_ne_true
      have set := Act.change_answered answered
      obtain ⟨text, uri, rfl, parsed, isUrl⟩ := Builder.eq_of_setUrl set
      rw [isUrl] at set
      obtain ⟨told', isTold, holds⟩ := holds.setUri set
      refine ⟨told', ?_, ?_⟩
      · simp only [Told.after?, parsed]
        exact isTold
      · show Holds told' form (Act.left (Act.change _ >>= fun _ => pure _) session).builder
        rw [Act.left_change, isUrl]
        exact holds
  | setUri datum =>
      obtain ⟨reply, next, answered⟩ := answered.resolve_left Bool.false_ne_true
      have set := Act.change_answered answered
      obtain ⟨uri, rfl⟩ := Builder.eq_of_setUriDatum set
      obtain ⟨told', isTold, holds⟩ := holds.setUri set
      refine ⟨told', isTold, ?_⟩
      show Holds told' form (Act.left (Act.change _ >>= fun _ => pure _) session).builder
      rw [Act.left_change]
      exact holds
  | call call =>
      obtain ⟨told', isTold, holds⟩ := holds.perform textual
      refine ⟨told', isTold, ?_⟩
      show Holds told' form (Act.left (Act.change _ >>= fun _ => pure _)
        { session with events := session.events ++ call.log.map Event.logged }).builder
      rw [Act.left_change]
      exact holds
  | edit edit => cases textual
  | read reading => exact ⟨told, rfl, Act.keeps_read Holds.settled reading session holds⟩
  | setCalculator calculator =>
      exact ⟨told, rfl, holds.form, holds.base, holds.supported, holds.lists, holds.coherent⟩
  | authenticate config resolver =>
      exact ⟨told, rfl, holds.form, holds.base, holds.supported, holds.lists, holds.coherent⟩
  | build =>
      have kept : Act.Keeps (fun b => Holds told form b ∧ b.isScripted = false)
          (Act.step world .build) :=
        Act.Keeps.bind (keeps_build world Act.nestingLimit) fun _ => (Act.quiet_pure _).keeps
      exact ⟨told, rfl, (kept session ⟨holds, unscripted rfl⟩).1⟩
  | handOver =>
      have kept : Act.Keeps (Holds told form) (Act.step world .handOver) :=
        Act.Keeps.bind (Act.keeps_handOver Holds.settled world) fun _ => (Act.quiet_pure _).keeps
      exact ⟨told, rfl, kept session holds⟩
  | send answer => exact ⟨told, rfl, Act.keeps_send Holds.settled world answer session holds⟩
  | refused fault =>
      obtain ⟨reply, next, answered⟩ := answered.resolve_left Bool.false_ne_true
      cases answered

/-! ## Whole runs -/

theorem holds_run {world : World} {told : Told} {form : QueryForm} {session : Session}
    (holds : Holds told form session.builder) {steps : List Step}
    (textual : ∀ step ∈ steps, step.isTextual = true) (returns : session.Returns world steps) :
    ∃ told', steps.foldlM (Told.after? form) told = some told' ∧
      Holds told' form (session.run world steps).builder := by
  induction steps generalizing told session with
  | nil => exact ⟨told, rfl, holds⟩
  | cons step steps ih =>
      rw [List.forall_mem_cons] at textual
      obtain ⟨answered, unscripted, returns⟩ := returns
      obtain ⟨next, isNext, holds⟩ := holds_step holds textual.1 answered unscripted
      obtain ⟨last, isLast, holds⟩ := ih holds textual.2 returns
      refine ⟨last, ?_, holds⟩
      rw [List.foldlM_cons, isNext]
      exact isLast

theorem Holds.compose {told : Told} {form : QueryForm} {builder : Builder}
    (holds : Holds told form builder) (other : QueryForm) :
    builder.request.compose other = .ok (told.target other) := by
  have supported : builder.request.base.isSupported := by
    rw [holds.base]
    exact holds.supported
  rw [Request.compose_of_lists supported holds.lists, holds.base]
  simp only [Query.grouped_eq_nil_iff]
  rfl

end Outbound
