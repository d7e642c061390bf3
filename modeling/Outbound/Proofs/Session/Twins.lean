/-
# Outbound.Proofs.Session.Twins — sessions that answer alike

Two sessions are twins when their requests differ at most in what they remember of
their targets, they take queries in the same form, none has a calculator, and the
same streams have been read in both.  Two actions `Agree` when they answer the same
in twins and leave twins behind, also when they fail.

Every step that changes nothing agrees with itself (`agree_stepWith`), and so does
every call; a URI that can be set in one twin can be set in the other.  Hence a run
that answers in one twin answers in the other and leaves twins (`Twins.run`).
-/
import Outbound.Proofs.Request.Twin
import Outbound.Proofs.Session.Current
import Outbound.Proofs.Session.Trail

namespace Outbound

set_option autoImplicit false

/-- Sessions whose builders differ at most in what their requests remember and in the text of the
URL, and none of which signs. -/
structure Twins (session other : Session) : Prop where
  request : session.builder.request.Twin other.builder.request
  isRaw : session.builder.isRaw = other.builder.isRaw
  unsigned : session.builder.calculator = none
  unsigned' : other.builder.calculator = none
  drained : session.drained = other.drained

namespace Act

variable {α β ε : Type}

/-- Results that answer the same and leave twins. -/
inductive Alike {α : Type} :
    EStateM.Result Fault Session α → EStateM.Result Fault Session α → Prop where
  | ok (a : α) {next next' : Session} (twins : Twins next next') : Alike (.ok a next) (.ok a next')
  | error (fault : Fault) {next next' : Session} (twins : Twins next next') :
      Alike (.error fault next) (.error fault next')

/-- Two actions answer the same in twins and leave twins. -/
def Agree (x y : Act α) : Prop :=
  ∀ session other, Twins session other → Alike (x session) (y other)

section

variable {x y : Act α} {session other : Session}

theorem Alike.answer (alike : Alike (x session) (y other)) :
    Act.answer x session = Act.answer y other := by
  rw [Act.answer, Act.answer]
  generalize x session = result at alike ⊢
  generalize y other = result' at alike ⊢
  cases alike <;> rfl

theorem Alike.left (alike : Alike (x session) (y other)) :
    Twins (Act.left x session) (Act.left y other) := by
  rw [Act.left, Act.left]
  generalize x session = result at alike ⊢
  generalize y other = result' at alike ⊢
  cases alike with
  | ok a next => exact next
  | error fault next => exact next

theorem Alike.answered {a : α} {next : Session} {result : EStateM.Result Fault Session α}
    (alike : Alike (.ok a next) result) : ∃ next', result = .ok a next' := by
  cases alike with
  | ok a next => exact ⟨_, rfl⟩

end

/-! ## One after the other -/

theorem agree_pure (a : α) : Agree (pure a) (pure a) := fun _ _ twins => .ok a twins

theorem agree_throw (fault : Fault) : Agree (throw fault : Act α) (throw fault) :=
  fun _ _ twins => .error fault twins

theorem agree_lift {wrap : ε → Fault} {x y : Except ε α} (same : x = y) :
    Agree (lift wrap x) (lift wrap y) := by
  subst same
  cases x with
  | ok a => exact agree_pure a
  | error e => exact agree_throw (wrap e)

/-- What is logged is nothing that twins have in common. -/
theorem agree_log (records records' : List Record) : Agree (log records) (log records') :=
  fun _ _ twins => .ok () { twins with }

theorem agree_setRequest {request other : Request} (twin : request.Twin other) :
    Agree (setRequest request) (setRequest other) :=
  fun _ _ twins => .ok () { twins with request := twin }

theorem Agree.bind {x y : Act α} {f g : α → Act β} (first : Agree x y)
    (rest : ∀ a, Agree (f a) (g a)) : Agree (x >>= f) (y >>= g) := by
  intro session other twins
  have alike := first session other twins
  rw [bind_eq, bind_eq]
  generalize x session = result at alike ⊢
  generalize y other = result' at alike ⊢
  cases alike with
  | ok a next => exact rest a _ _ next
  | error fault next => exact .error fault next

theorem Agree.request {f g : Request → Act β}
    (rest : ∀ request other, request.Twin other → Agree (f request) (g other)) :
    Agree (request >>= f) (request >>= g) :=
  fun session other twins => rest _ _ twins.request session other twins

theorem Agree.get {f g : Session → Act β}
    (rest : ∀ session other, Twins session other → Agree (f session) (g other)) :
    Agree (get >>= f) (get >>= g) :=
  fun session other twins => rest _ _ twins session other twins

theorem Agree.attempt {x y : Act α} (agree : Agree x y) :
    Agree (send.attempt x) (send.attempt y) := by
  intro session other twins
  have alike := agree session other twins
  unfold send.attempt
  generalize x session = result at alike ⊢
  generalize y other = result' at alike ⊢
  cases alike with
  | ok a next => exact Alike.ok (Except.ok a) next
  | error fault next => exact Alike.ok (Except.error fault) next

/-! ## Steps that change nothing -/

theorem agree_target (form : QueryForm) : Agree (target form) (target form) := by
  intro session other twins
  rw [target_eq, target_eq]
  exact agree_lift (twins.request.target form) _ _
    { twins with request := twins.request.readTarget form }

theorem agree_url (form : QueryForm) : Agree (url form) (url form) :=
  (agree_target form).bind fun _ => agree_lift rfl

theorem agree_read (reading : Reading) : Agree (read reading) (read reading) := by
  cases reading with
  | target form => exact (agree_target form).bind fun _ => agree_pure _
  | url form => exact (agree_url form).bind fun _ => agree_pure _
  | poolKey =>
      refine Agree.request fun request other twin => ?_
      have pool := twin.congr (·.pool) fun _ => rfl
      refine (agree_lift (congrArg PoolStrategy.check pool)).bind fun _ => ?_
      refine (agree_target .encoded).bind fun uri => ?_
      exact (agree_lift (congrArg (·.key uri) pool)).bind fun _ => agree_pure _
  | charset =>
      refine Agree.request fun request other twin => ?_
      rw [twin.congr (·.charset) fun _ => rfl]
      exact agree_pure _
  | followsRedirects =>
      refine Agree.request fun request other twin => ?_
      rw [twin.congr (·.followRedirects) fun _ => rfl]
      exact agree_pure _
  | isRedirectSet =>
      refine Agree.request fun request other twin => ?_
      rw [twin.congr (·.followRedirects) fun _ => rfl]
      exact agree_pure _
  | text =>
      refine (agree_target .encoded).bind fun uri => ?_
      refine (agree_lift rfl).bind fun text => ?_
      refine Agree.request fun request other twin => ?_
      have described := twin.congr (·.describe text) fun _ => rfl
      exact (agree_lift described).bind fun _ => agree_pure _
  | signedText url =>
      refine Agree.request fun request other twin => ?_
      have params := twin.congr (·.params) fun _ => rfl
      have signed := twin.congr (HmacSigner.stringToSign · url) fun _ => rfl
      refine (agree_lift (congrArg HmacSigner.canonicalQuery params)).bind fun query => ?_
      exact (agree_lift signed).bind fun _ => agree_pure _

theorem agree_handOver (world : World) : Agree (handOver world) (handOver world) := by
  refine Agree.request fun request other twin => ?_
  have timeout := twin.congr (·.timeoutSeconds?) fun _ => rfl
  have form := twin.congr (·.queryForm) fun _ => rfl
  have headers := twin.congr (·.wireHeaders) fun _ => rfl
  have method := twin.congr (·.wireMethod) fun _ => rfl
  have body := twin.congr (·.body) fun _ => rfl
  have charset := twin.congr (·.charset) fun _ => rfl
  rw [timeout, form, headers, method, body, charset]
  refine (agree_lift rfl).bind fun timeout => ?_
  refine (agree_url _).bind fun url => ?_
  refine (agree_lift rfl).bind fun headers => ?_
  refine Agree.get fun session other twins => ?_
  rw [twins.drained]
  refine (agree_lift rfl).bind fun ⟨body, drained⟩ => ?_
  have marked : Agree (modify fun session => { session with drained })
      (modify fun session => { session with drained }) :=
    fun _ _ twins => .ok () { twins with drained := rfl }
  exact marked.bind fun _ => agree_pure _

theorem agree_deliver (answer : ClientAnswer) (wired : WireRequest) :
    Agree (deliver answer wired) (deliver answer wired) := by
  refine (agree_log _ _).bind fun _ => ?_
  cases answer with
  | response => exact agree_pure ()
  | requestError fault => exact (agree_log _ _).bind fun _ => agree_throw _
  | otherError fault => exact agree_throw _

theorem agree_send (world : World) (answer : ClientAnswer) :
    Agree (send world answer) (send world answer) := by
  refine Agree.request fun request other twin => ?_
  rw [twin.congr (·.redirectOverride?) fun _ => rfl]
  refine (Agree.attempt (agree_handOver world)).bind fun wired => ?_
  cases wired with
  | error fault => exact agree_pure _
  | ok wired =>
      refine (Agree.attempt (agree_deliver answer wired)).bind fun delivered => ?_
      cases delivered <;> exact agree_pure _

/-! ## Building -/

theorem agree_inferCharset : Agree inferCharset inferCharset := by
  refine Agree.request fun request other twin => ?_
  have inferred := twin.congr (·.inferredCharset?) fun _ => rfl
  refine (agree_lift inferred).bind fun charset => ?_
  cases charset with
  | none => exact agree_pure ()
  | some charset =>
      refine (agree_log _ _).bind fun _ => agree_setRequest ?_
      exact twin.map (fun request => { request with charset := .text charset }) (fun _ => rfl)
        fun _ => ⟨rfl, rfl, rfl⟩

theorem agree_inferLength : Agree inferLength inferLength := by
  refine Agree.request fun request other twin => ?_
  have inferred := twin.congr (·.inferredLength?) fun _ => rfl
  refine (agree_lift inferred).bind fun length => ?_
  cases length with
  | none => exact agree_pure ()
  | some length =>
      refine (agree_log _ _).bind fun _ => agree_setRequest ?_
      exact twin.map (·.withBody fun body => { body with length := .int length }) (fun _ => rfl)
        fun _ => ⟨rfl, rfl, rfl⟩

theorem agree_settle : Agree settle settle := by
  refine agree_inferCharset.bind fun _ => agree_inferLength.bind fun _ => ?_
  refine Agree.request fun request other twin => ?_
  have uri := twin.congr (·.uriText) fun _ => rfl
  exact (agree_lift uri).bind fun _ => agree_log _ _

/-- Without a calculator building only settles the request. -/
theorem agree_buildWithin (world : World) (depth : Nat) :
    Agree (buildWithin world depth) (buildWithin world depth) := by
  intro session other twins
  cases depth with
  | zero => exact .error _ twins
  | succ depth =>
      rw [buildWithin, finish_eq, bind_eq, bind_eq, sign_eq, sign_eq, twins.unsigned,
        twins.unsigned']
      exact agree_settle session other twins

/-! ## Changes -/

section

variable {session other : Session}

/-- A change that comes out the same in twins, and leaves twins, is answered the same. -/
theorem alike_change {f : Builder → Outcome Builder} (reply : Reply)
    (outcome : (f session.builder).2 = (f other.builder).2)
    (changed : Twins { session with builder := (f session.builder).1 }
      { other with builder := (f other.builder).1 }) :
    Alike ((change f >>= fun _ => pure reply) session)
      ((change f >>= fun _ => pure reply) other) := by
  simp only [bind_eq, change_eq, ← outcome]
  cases (f session.builder).2 with
  | ok u => exact .ok reply changed
  | error fault => exact .error fault changed

variable (twins : Twins session other)

include twins

theorem alike_perform (call : Call) :
    Alike ((change (·.perform call) >>= fun _ => pure Reply.done) session)
      ((change (·.perform call) >>= fun _ => pure Reply.done) other) :=
  alike_change .done (twins.request.outcome call)
    { twins with request := twins.request.perform call }

/-- A URI that can be set in one twin can be set in the other. -/
theorem alike_setUri {f : Builder → Outcome Builder} {uri : Uri} {urlText : Option String}
    (sets : ∀ b : Builder, f b = b.setUri uri urlText)
    (set : (f session.builder).2 = .ok ()) :
    Alike ((change f >>= fun _ => pure Reply.done) session)
      ((change f >>= fun _ => pure Reply.done) other) := by
  rw [sets] at set
  obtain ⟨request, entered, isSet⟩ := Builder.request_of_setUri set
  obtain ⟨request', entered', twin⟩ := twins.request.setUri entered
  have form : session.builder.queryForm = other.builder.queryForm :=
    congrArg (fun isRaw : Datum => if isRaw.isTrue then QueryForm.raw else .encoded) twins.isRaw
  rw [form] at entered'
  have isSet' := Builder.setUri_of_request entered' urlText
  refine alike_change .done ?_ ?_
  · rw [sets, sets, isSet, isSet']
  · rw [sets, sets, isSet, isSet']
    exact { twins with request := twin }

end

/-! ## Steps -/

/-- **A step that answers in one twin answers the same in the other, and leaves twins.** -/
theorem alike_step {world : World} {session other : Session} (twins : Twins session other)
    {step : Step} (telling : step.goesPast = false)
    (unsigned : ∀ calculator, step.registers? ≠ some (some calculator))
    (answered : step.isReading ∨ ∃ reply next, Act.step world step session = .ok reply next) :
    Alike (Act.step world step session) (Act.step world step other) := by
  have made : ∀ f, step.change? = some f → (f session.builder).2 = .ok () := by
    intro f isChange
    rcases answered with reads | ⟨reply, next, answered⟩
    · cases step with
      | read reading => cases isChange
      | _ => cases reads
    · exact congrArg Prod.snd ((makes_stepWith isChange session).of_ok answered)
  cases step with
  | setUrl url =>
      obtain ⟨text, uri, rfl, parsed, -⟩ := Builder.eq_of_setUrl (made _ rfl)
      have sets : ∀ b : Builder, b.setUrl (.text text) = b.setUri uri (some text) := by
        intro b
        rw [Builder.setUrl, Datum.readUri, parsed]
        rfl
      exact alike_setUri twins sets (made _ rfl)
  | setUri datum =>
      obtain ⟨uri, rfl⟩ := Builder.eq_of_setUriDatum (made _ rfl)
      have sets : ∀ b : Builder, b.setUriDatum (.uri uri) = b.setUri uri none := fun _ => rfl
      exact alike_setUri twins sets (made _ rfl)
  | call told =>
      have logged : Twins (left (log told.log) session) (left (log told.log) other) := { twins with }
      exact alike_perform logged told
  | edit made => cases telling
  | read reading => exact agree_read reading session other twins
  | setCalculator calculator =>
      cases calculator with
      | none =>
          have cleared : Twins
              { session with builder := { session.builder with calculator := none } }
              { other with builder := { other.builder with calculator := none } } :=
            { twins with unsigned := rfl, unsigned' := rfl }
          exact .ok Reply.done cleared
      | some calculator => exact absurd rfl (unsigned calculator)
  | authenticate config resolver => exact absurd rfl (unsigned _)
  | build =>
      exact (agree_buildWithin world nestingLimit).bind (fun _ => agree_pure _) session other twins
  | handOver => exact (agree_handOver world).bind (fun _ => agree_pure _) session other twins
  | send answer => exact agree_send world answer session other twins
  | refused fault => exact .error fault twins

end Act

/-- **A run that answers in one twin answers in the other, and leaves twins.** -/
theorem Twins.run {world : World} {session other : Session} (twins : Twins session other)
    {steps : List Step} (telling : ∀ step ∈ steps, step.goesPast = false)
    (unsigned : ∀ step ∈ steps, ∀ calculator, step.registers? ≠ some (some calculator))
    (answered : session.Answered world steps) :
    other.Answered world steps ∧ Twins (session.run world steps) (other.run world steps) := by
  induction steps generalizing session other with
  | nil => exact ⟨trivial, twins⟩
  | cons step steps ih =>
      rw [List.forall_mem_cons] at telling unsigned
      obtain ⟨first, rest⟩ := answered
      have alike := Act.alike_step twins telling.1 unsigned.1 first
      obtain ⟨others, next⟩ := ih alike.left telling.2 unsigned.2 rest
      refine ⟨⟨?_, others⟩, next⟩
      rcases first with reads | ⟨reply, mid, first⟩
      · exact .inl reads
      · rw [first] at alike
        exact .inr ⟨reply, alike.answered⟩

end Outbound
