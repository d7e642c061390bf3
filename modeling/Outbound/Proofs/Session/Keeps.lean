/-
# Outbound.Proofs.Session.Keeps — what an action keeps of the builder

An action may fail, and what it changed before it failed stays changed.  `Leads`
speaks of the builder that is left behind in either case; an action that leads from
an invariant to itself `Keeps` it, and one that leaves the builder alone is
`Quiet`.

Finishing, reading and sending a request change its headers, the charset and the
length of its body, and the targets it remembers; an invariant that does not mind
these changes is `Settled`, and is kept by all of them, whatever the calculator is,
as long as the steps of a scripted one keep it.
-/
import Outbound.Session.Run

namespace Outbound.Act

set_option autoImplicit false

variable {α β ε : Type} {P Q R : Builder → Prop}

/-- The session that an action leaves behind. -/
def left (act : Act α) (session : Session) : Session :=
  match act session with
  | .ok _ session => session
  | .error _ session => session

/-- From a builder with one property the action leaves one with another, also when it fails. -/
def Leads (P : Builder → Prop) (act : Act α) (Q : Builder → Prop) : Prop :=
  ∀ session : Session, P session.builder → Q (left act session).builder

/-- The action keeps a property of the builder. -/
def Keeps (P : Builder → Prop) (act : Act α) : Prop := Leads P act P

/-- The action leaves the builder alone. -/
def Quiet (act : Act α) : Prop := ∀ session, (left act session).builder = session.builder

/-! ## One after the other -/

@[simp] theorem pure_eq (a : α) (session : Session) : (pure a : Act α) session = .ok a session :=
  rfl

@[simp] theorem bind_eq (x : Act α) (f : α → Act β) (session : Session) :
    (x >>= f) session = match x session with
      | .ok a next => f a next
      | .error fault next => .error fault next := by
  show EStateM.bind x f session = _
  rw [EStateM.bind]
  cases x session <;> rfl

theorem left_bind (x : Act α) (f : α → Act β) (session : Session) :
    left (x >>= f) session = match x session with
      | .ok a next => left (f a) next
      | .error _ next => next := by
  rw [left, bind_eq]
  cases x session <;> rfl

theorem bind_answered_iff {x : Act α} {f : α → Act β} {session next : Session} {b : β} :
    (x >>= f) session = .ok b next ↔ ∃ a mid, x session = .ok a mid ∧ f a mid = .ok b next := by
  rw [bind_eq]
  cases x session with
  | ok a mid =>
      constructor
      · intro answered
        exact ⟨a, mid, rfl, answered⟩
      · rintro ⟨a', mid', same, answered⟩
        cases same
        exact answered
  | error fault mid =>
      constructor
      · intro answered
        cases answered
      · rintro ⟨a, mid', answered, -⟩
        cases answered

theorem lift_answered {wrap : ε → Fault} {x : Except ε α} {session next : Session} {a : α}
    (answered : lift wrap x session = .ok a next) : x = .ok a ∧ next = session := by
  cases x with
  | ok b =>
      cases answered
      exact ⟨rfl, rfl⟩
  | error e => cases answered

theorem lift_of_ok {wrap : ε → Fault} {x : Except ε α} {a : α} (given : x = .ok a)
    (session : Session) : lift wrap x session = .ok a session := by
  rw [given]
  rfl

/-- What follows a result that was at hand was answered with it. -/
theorem lift_bind_answered {wrap : ε → Fault} {x : Except ε α} {f : α → Act β}
    {session next : Session} {b : β} (answered : (lift wrap x >>= f) session = .ok b next) :
    ∃ a, x = .ok a ∧ f a session = .ok b next := by
  obtain ⟨a, mid, lifted, rest⟩ := bind_answered_iff.1 answered
  obtain ⟨isResult, rfl⟩ := lift_answered lifted
  exact ⟨a, isResult, rest⟩

@[simp] theorem traced_answered_iff {x : Traced CallbackFault α} {session next : Session} {a : α} :
    traced x session = .ok a next ↔
      ∃ events, x session.events = .ok a events ∧ next = { session with events } := by
  rw [traced]
  cases x session.events with
  | ok b events =>
      constructor
      · intro answered
        cases answered
        exact ⟨events, rfl, rfl⟩
      · rintro ⟨events', same, rfl⟩
        cases same
        rfl
  | error fault events =>
      constructor
      · intro answered
        cases answered
      · rintro ⟨events', same, -⟩
        cases same

theorem Leads.of_answered {b : Builder} {act : Act α} {session next : Session} {a : α}
    (leads : Leads (· = b) act Q) (start : session.builder = b)
    (answered : act session = .ok a next) : Q next.builder := by
  have holds := leads session start
  rw [left, answered] at holds
  exact holds

theorem Keeps.of_answered {act : Act α} {session next : Session} {a : α} (kept : Keeps P act)
    (holds : P session.builder) (answered : act session = .ok a next) : P next.builder := by
  have holds := kept session holds
  rw [left, answered] at holds
  exact holds

theorem Leads.bind {x : Act α} {f : α → Act β} (first : Leads P x R) (weaken : ∀ b, R b → Q b)
    (rest : ∀ a, Leads R (f a) Q) : Leads P (x >>= f) Q := by
  intro session holds
  have between := first session holds
  rw [left_bind]
  rw [left] at between
  cases taken : x session with
  | ok a next =>
      rw [taken] at between
      exact rest a next between
  | error fault next =>
      rw [taken] at between
      exact weaken _ between

theorem Keeps.bind {x : Act α} {f : α → Act β} (first : Keeps P x) (rest : ∀ a, Keeps P (f a)) :
    Keeps P (x >>= f) :=
  Leads.bind first (fun _ holds => holds) rest

theorem Quiet.keeps {x : Act α} (quiet : Quiet x) : Keeps P x := by
  intro session holds
  rw [quiet session]
  exact holds

theorem Quiet.bind {x : Act α} {f : α → Act β} (quiet : Quiet x) (rest : ∀ a, Quiet (f a)) :
    Quiet (x >>= f) := by
  intro session
  have kept : Keeps (· = session.builder) (x >>= f) :=
    Keeps.bind quiet.keeps fun a => (rest a).keeps
  exact kept session rfl

/-- What follows a reading of the request may use that the request is still the one read. -/
theorem Leads.request {f : Request → Act β}
    (rest : ∀ b, P b → Leads (· = b) (f b.request) Q) : Leads P (request >>= f) Q := by
  intro session holds
  exact rest session.builder holds session rfl

theorem Leads.builder {f : Builder → Act β} (rest : ∀ b, P b → Leads (· = b) (f b) Q) :
    Leads P (builder >>= f) Q := by
  intro session holds
  exact rest session.builder holds session rfl

theorem Keeps.leads {b : Builder} {x : Act α} (kept : Keeps P x) (holds : P b) :
    Leads (· = b) x P := by
  intro session same
  exact kept session (same ▸ holds)

theorem Leads.quiet_bind {b : Builder} {x : Act α} {f : α → Act β} (quiet : Quiet x)
    (holds : Q b) (rest : ∀ a, Leads (· = b) (f a) Q) : Leads (· = b) (x >>= f) Q :=
  Leads.bind quiet.keeps (fun _ same => same ▸ holds) rest

theorem Quiet.leads {b : Builder} {x : Act α} (quiet : Quiet x) (holds : Q b) :
    Leads (· = b) x Q := by
  intro session same
  rw [quiet session, same]
  exact holds

theorem Keeps.forM {f : β → Act Unit} {l : List β} (each : ∀ b ∈ l, Keeps P (f b)) :
    Keeps P (l.forM f) := by
  induction l with
  | nil => exact fun _ holds => holds
  | cons b l ih =>
      rw [List.forall_mem_cons] at each
      exact Keeps.bind each.1 fun _ => ih each.2

@[simp] theorem left_attempt (x : Act α) (session : Session) :
    left (send.attempt x) session = left x session := by
  unfold left send.attempt
  cases x session <;> rfl

theorem Keeps.attempt {x : Act α} (kept : Keeps P x) : Keeps P (send.attempt x) := by
  intro session holds
  rw [left_attempt]
  exact kept session holds

/-! ## Actions that leave the builder alone -/

theorem quiet_pure (a : α) : Quiet (pure a) := fun _ => rfl

theorem quiet_throw (fault : Fault) : Quiet (throw fault : Act α) := fun _ => rfl

theorem quiet_get : Quiet (get : Act Session) := fun _ => rfl

theorem quiet_request : Quiet request := fun _ => rfl

theorem quiet_emit (event : Event) : Quiet (emit event) := fun _ => rfl

theorem quiet_log (records : List Record) : Quiet (log records) := fun _ => rfl

theorem quiet_takeStreams (count : Nat) : Quiet (takeStreams count) := fun _ => rfl

theorem quiet_lift (wrap : ε → Fault) (x : Except ε α) : Quiet (lift wrap x) := by
  cases x with
  | ok a => exact quiet_pure a
  | error e => exact quiet_throw (wrap e)

theorem quiet_traced (action : Traced CallbackFault α) : Quiet (traced action) := by
  intro session
  rw [left, traced]
  cases action session.events <;> rfl

theorem quiet_deliver (answer : ClientAnswer) (wired : WireRequest) :
    Quiet (deliver answer wired) := by
  refine (quiet_log _).bind fun _ => ?_
  cases answer with
  | response => exact quiet_pure ()
  | requestError fault => exact (quiet_log _).bind fun _ => quiet_throw _
  | otherError fault => exact quiet_throw _

/-! ## Actions that change the builder -/

@[simp] theorem change_eq (f : Builder → Outcome Builder) (session : Session) :
    change f session = match (f session.builder).2 with
      | .ok () => .ok () { session with builder := (f session.builder).1 }
      | .error fault => .error fault { session with builder := (f session.builder).1 } := by
  show (setBuilder (f session.builder).1 >>= fun _ => lift id (f session.builder).2) session = _
  cases (f session.builder).2 <;> rfl

/-- A change that is answered was made without a fault. -/
theorem change_answered {f : Builder → Outcome Builder} {a b : α} {session next : Session}
    (answered : (change f >>= fun _ => pure a) session = .ok b next) :
    (f session.builder).2 = .ok () := by
  cases outcome : (f session.builder).2 with
  | ok u => rfl
  | error fault => simp [outcome] at answered

theorem left_change (f : Builder → Outcome Builder) (a : α) (session : Session) :
    left (change f >>= fun _ => pure a) session =
      { session with builder := (f session.builder).1 } := by
  rw [left_bind, change_eq]
  cases (f session.builder).2 <;> rfl

theorem keeps_change {f : Builder → Outcome Builder} (kept : ∀ b, P b → P (f b).1) :
    Keeps P (change f) := by
  intro session holds
  rw [left, change_eq]
  cases (f session.builder).2 <;> exact kept _ holds

theorem leads_setRequest {b : Builder} {request : Request} (holds : Q { b with request }) :
    Leads (· = b) (setRequest request) Q := by
  intro session same
  subst same
  exact holds

/-- A header is set when its name and its value can be entered. -/
theorem setHeader_answered_iff {name value : Datum} {session next : Session} :
    changeRequest (·.setHeader name value) session = .ok () next ↔ ∃ headers,
      session.builder.request.headers.replaceDatum name [value] = .ok headers ∧
      next = { session with builder := { session.builder with
        request := { session.builder.request with headers } } } := by
  rw [changeRequest, change_eq]
  simp only [Builder.withOutcome, Request.setHeader, Request.doneWith]
  cases session.builder.request.headers.replaceDatum name [value] with
  | ok headers =>
      constructor
      · intro answered
        cases answered
        exact ⟨headers, rfl, rfl⟩
      · rintro ⟨headers', same, rfl⟩
        cases same
        rfl
  | error misuse =>
      constructor
      · intro answered
        cases answered
      · rintro ⟨headers, replaced, -⟩
        cases replaced

/-! ## Finishing a request -/

/-- What finishing does after signing. -/
def settle : Act Unit := do
  inferCharset
  inferLength
  let request ← request
  let uri ← lift .uri request.uriText
  log [⟨.debug, logPrefix ++ " Built request: " ++ request.method.written ++ " " ++ uri⟩]

theorem finish_eq (take : Step → Act Unit) : finish take = (sign take >>= fun _ => settle) := rfl

/-- At most the charset is another one. -/
theorem leads_inferCharset (b : Builder) : Leads (· = b) inferCharset fun left =>
    ∃ charset, left = { b with request := { b.request with charset } } := by
  have unchanged : ∃ charset, b = { b with request := { b.request with charset } } :=
    ⟨b.request.charset, rfl⟩
  refine Leads.request fun b' same => ?_
  subst same
  refine Leads.quiet_bind (quiet_lift _ _) unchanged fun charset => ?_
  cases charset with
  | none => exact (quiet_pure ()).leads unchanged
  | some charset =>
      refine Leads.quiet_bind (quiet_log _) unchanged fun _ => ?_
      exact leads_setRequest ⟨.text charset, rfl⟩

/-- At most the length of the body is another one. -/
theorem leads_inferLength (b : Builder) : Leads (· = b) inferLength fun left =>
    ∃ length, left = { b with request := b.request.withBody fun body => { body with length } } := by
  have unchanged : ∃ length,
      b = { b with request := b.request.withBody fun body => { body with length } } :=
    ⟨b.request.body.length, rfl⟩
  refine Leads.request fun b' same => ?_
  subst same
  refine Leads.quiet_bind (quiet_lift _ _) unchanged fun length => ?_
  cases length with
  | none => exact (quiet_pure ()).leads unchanged
  | some length =>
      refine Leads.quiet_bind (quiet_log _) unchanged fun _ => ?_
      exact leads_setRequest ⟨.int length, rfl⟩

/-- What finishing does after signing changes at most the charset and the length of the body. -/
theorem leads_settle (b : Builder) : Leads (· = b) settle fun left =>
    ∃ charset length, left = { b with request :=
      { b.request.withBody fun body => { body with length } with charset } } := by
  have unchanged : ∀ left : Builder, (∃ charset, left =
      { b with request := { b.request with charset } }) → ∃ charset length, left =
      { b with request := { b.request.withBody fun body => { body with length } with charset } } := by
    rintro left ⟨charset, rfl⟩
    exact ⟨charset, b.request.body.length, rfl⟩
  refine Leads.bind (leads_inferCharset b) unchanged fun _ => ?_
  rintro session ⟨charset, isMid⟩
  have told : Quiet (request >>= fun request => lift .uri request.uriText >>= fun uri =>
      log [⟨.debug, logPrefix ++ " Built request: " ++ request.method.written ++ " " ++ uri⟩]) :=
    quiet_request.bind fun _ => (quiet_lift _ _).bind fun _ => quiet_log _
  have second := Leads.bind (leads_inferLength session.builder) (fun _ known => known)
    fun _ => told.keeps
  obtain ⟨length, isLeft⟩ := second session rfl
  refine ⟨charset, length, isLeft.trans ?_⟩
  rw [isMid]
  rfl

/-- A property of builders that finishing, reading and sending a request do not touch. -/
structure Settled (P : Builder → Prop) : Prop where
  headers : ∀ b name value headers, b.request.headers.replaceDatum name [value] = .ok headers →
    P b → P { b with request := { b.request with headers } }
  charset : ∀ b charset, P b → P { b with request := { b.request with charset } }
  length : ∀ b length, P b →
    P { b with request := b.request.withBody fun body => { body with length } }
  target : ∀ b form, P b → P { b with request := (b.request.readTarget form).1 }

/-- Reading the target leaves the request that remembers it, and what is logged of it. -/
theorem target_eq (form : QueryForm) (session : Session) :
    target form session = lift id (session.builder.request.readTarget form).2 { session with
      builder := { session.builder with request := (session.builder.request.readTarget form).1 }
      events := session.events ++
        (session.builder.request.targetLog form).map Event.logged } := rfl

section

variable (settled : Settled P)

include settled

theorem keeps_setHeader (name value : Datum) :
    Keeps P (changeRequest (·.setHeader name value)) := by
  refine keeps_change fun b holds => ?_
  show P { b with request := (b.request.setHeader name value).1 }
  rw [Request.setHeader]
  cases replaced : b.request.headers.replaceDatum name [value] with
  | ok headers => exact settled.headers b name value headers replaced holds
  | error misuse => exact holds

theorem keeps_settle : Keeps P settle := by
  intro session holds
  obtain ⟨charset, length, isLeft⟩ := leads_settle session.builder session rfl
  rw [isLeft]
  exact settled.charset _ charset (settled.length _ length holds)

theorem keeps_signHmac (signer : HmacSigner) (url : String) : Keeps P (signHmac signer url) := by
  refine Keeps.bind quiet_request.keeps fun request => ?_
  refine Keeps.bind (quiet_lift _ _).keeps fun text => ?_
  refine Keeps.bind (quiet_lift _ _).keeps fun secret => ?_
  refine Keeps.bind (quiet_log _).keeps fun _ => ?_
  exact keeps_setHeader settled _ _

theorem keeps_signHeader (handler : AuthHandler) (url : String) :
    Keeps P (signHeader handler url) := by
  refine Keeps.bind quiet_request.keeps fun request => ?_
  refine Keeps.bind (quiet_lift _ _).keeps fun context => ?_
  refine Keeps.bind (quiet_traced _).keeps fun header => ?_
  cases header with
  | none => exact (quiet_log _).keeps
  | some header => exact keeps_setHeader settled _ _

/-- Signing keeps what the steps of a scripted calculator keep. -/
theorem keeps_sign {take : Step → Act Unit}
    (script : ∀ b streams steps, P b → b.calculator = some (.script streams steps) →
      ∀ first, ∀ step ∈ steps first, Keeps P (take step)) : Keeps P (sign take) := by
  refine Leads.builder fun b holds => ?_
  cases calculator : b.calculator with
  | none => exact (quiet_pure ()).leads holds
  | some calculator' =>
      refine Leads.quiet_bind (quiet_lift _ _) holds fun url => ?_
      refine Leads.quiet_bind (quiet_log _) holds fun _ => ?_
      cases calculator' with
      | hmac signer => exact (keeps_signHmac settled signer url).leads holds
      | header handler => exact (keeps_signHeader settled handler url).leads holds
      | unfit typeName => exact (quiet_throw _).leads holds
      | script streams steps =>
          refine Leads.quiet_bind (quiet_emit _) holds fun _ => ?_
          refine Leads.quiet_bind (quiet_takeStreams _) holds fun first => ?_
          exact (Keeps.forM (script b streams steps holds calculator first)).leads holds

theorem keeps_finish {take : Step → Act Unit} (signed : Keeps P (sign take)) :
    Keeps P (finish take) :=
  Keeps.bind signed fun _ => keeps_settle settled

/-! ## Reading and sending -/

theorem keeps_target (form : QueryForm) : Keeps P (target form) := by
  refine Leads.request fun b holds => ?_
  refine Leads.quiet_bind (quiet_log _) holds fun _ => ?_
  have kept := settled.target b form holds
  refine Leads.bind (leads_setRequest kept) (fun _ holds => holds) fun _ => ?_
  exact (quiet_lift id _).keeps

theorem keeps_url (form : QueryForm) : Keeps P (url form) :=
  Keeps.bind (keeps_target settled form) fun _ => (quiet_lift _ _).keeps

theorem keeps_read (reading : Reading) : Keeps P (read reading) := by
  cases reading with
  | target form => exact Keeps.bind (keeps_target settled form) fun _ => (quiet_pure _).keeps
  | url form => exact Keeps.bind (keeps_url settled form) fun _ => (quiet_pure _).keeps
  | poolKey =>
      refine Keeps.bind quiet_request.keeps fun request => ?_
      refine Keeps.bind (quiet_lift _ _).keeps fun _ => ?_
      refine Keeps.bind (keeps_target settled .encoded) fun uri => ?_
      exact Keeps.bind (quiet_lift _ _).keeps fun _ => (quiet_pure _).keeps
  | charset => exact (quiet_request.bind fun _ => quiet_pure _).keeps
  | followsRedirects => exact (quiet_request.bind fun _ => quiet_pure _).keeps
  | isRedirectSet => exact (quiet_request.bind fun _ => quiet_pure _).keeps
  | text =>
      refine Keeps.bind (keeps_target settled .encoded) fun uri => ?_
      refine Keeps.bind (quiet_lift _ _).keeps fun text => ?_
      refine Keeps.bind quiet_request.keeps fun request => ?_
      exact Keeps.bind (quiet_lift _ _).keeps fun _ => (quiet_pure _).keeps
  | signedText url =>
      refine Keeps.bind quiet_request.keeps fun request => ?_
      refine Keeps.bind (quiet_lift _ _).keeps fun query => ?_
      exact Keeps.bind (quiet_lift _ _).keeps fun _ => (quiet_pure _).keeps

theorem keeps_handOver (world : World) : Keeps P (handOver world) := by
  refine Keeps.bind quiet_request.keeps fun request => ?_
  refine Keeps.bind (quiet_lift _ _).keeps fun timeout => ?_
  refine Keeps.bind (keeps_url settled _) fun url => ?_
  refine Keeps.bind (quiet_lift _ _).keeps fun headers => ?_
  refine Keeps.bind quiet_get.keeps fun session => ?_
  refine Keeps.bind (quiet_lift _ _).keeps fun wired => ?_
  exact Quiet.keeps fun _ => rfl

theorem keeps_send (world : World) (answer : ClientAnswer) : Keeps P (send world answer) := by
  refine Keeps.bind quiet_request.keeps fun request => ?_
  refine Keeps.bind (Keeps.attempt (keeps_handOver settled world)) fun wired => ?_
  cases wired with
  | error fault => exact (quiet_pure _).keeps
  | ok wired =>
      refine Keeps.bind (Keeps.attempt (quiet_deliver answer wired).keeps) fun delivered => ?_
      cases delivered <;> exact (quiet_pure _).keeps

end

end Outbound.Act
