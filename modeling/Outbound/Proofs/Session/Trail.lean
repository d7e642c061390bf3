/-
# Outbound.Proofs.Session.Trail — all steps of a run, those of calculators included

A build runs the calculator of the builder, and a scripted one takes steps of its
own, which may build again.  The trail of a run lists the steps that were taken in
it, in order, with those of a calculator in the place of the build that ran it
(`Session.trail`).

What steps of a kind keep is kept by a run whose trail is made of such steps, whether
or not they fail (`Act.holds_run`).  What is said of a run that returned is said along
its trail: a property with a mark that each step moves on when it answers holds after
the run with the mark where the trail has moved it (`Act.Marked.of_run`).  Both go by
induction on how deep builds are nested, then on the run.

A builder is `Written` with a URL text when its request can be sent, what it remembers
is coherent, and that text is the one it signs; after a run the text is the one of the
last step of its trail that set the URI (`written_run`).
-/
import Outbound.Proofs.Request.Twin
import Outbound.Proofs.Session.Based

namespace Outbound

set_option autoImplicit false

/-! ## Trails -/

/-- The text to sign after a step that set the URI: its own if it was given one. -/
def Step.afterUrl (urlText : Option String) : Step → Option String
  | .setUrl (.text text) => some text
  | .setUri _ => none
  | _ => urlText

/-- What is logged before a calculator is run. -/
def Act.signingRecord (url : String) : Record :=
  ⟨.debug, logPrefix ++ " Calculating signature for " ++ url⟩

/-- What is logged when a handler gives no header. -/
def Act.unsignedRecord (url : String) : Record :=
  ⟨.debug, HmacSigner.logPrefix ++ " No auth header produced for " ++ url⟩

/-- What comes before the steps of a calculator. -/
def Act.announce (streams : Nat) (url : String) : Act Nat := do
  log [signingRecord url]
  emit (.signing url)
  takeStreams streams

namespace Session

/-- The steps of a list with those that each of them takes, one after the other. -/
def trailOf (act : Step → Act Reply) (taken : Session → Step → List Step) :
    Session → List Step → List Step
  | _, [] => []
  | session, step :: steps =>
    taken session step ++ trailOf act taken (Act.left (act step) session) steps

/-- The steps that a step takes, builds being nested at most so deep: a build those of the
calculator, any other step itself. -/
def taken (world : World) : Nat → Session → Step → List Step
  | depth + 1, session, .build =>
    match session.builder.calculator, session.builder.signingUrl with
    | some (.script streams steps), .ok url =>
      trailOf (Act.stepWith world (Act.buildWithin world depth)) (taken world depth)
        (Act.left (Act.announce streams url) session) (steps session.nextStream)
    | _, _ => []
  | _, _, step => [step]

/-- All steps that are taken in a run. -/
def trail (world : World) (session : Session) (steps : List Step) : List Step :=
  trailOf (Act.step world) (taken world Act.nestingLimit) session steps

/-- Every step but a reading gives an answer. -/
def Answered (world : World) : Session → List Step → Prop
  | _, [] => True
  | session, step :: steps =>
    (step.isReading ∨ ∃ reply next, Act.step world step session = .ok reply next) ∧
      Answered world (Act.left (Act.step world step) session) steps

theorem taken_of_ne_build (world : World) (depth : Nat) (session : Session) {step : Step}
    (other : step ≠ .build) : session.taken world depth step = [step] := by
  cases depth with
  | zero => rfl
  | succ depth =>
      cases step with
      | build => exact absurd rfl other
      | _ => rfl

end Session

/-! ## Signing -/

namespace Act

/-- Signing by a key sets one header, to the signature of the text to sign. -/
theorem signHmac_answered_iff {signer : HmacSigner} {url : String} {session next : Session} :
    signHmac signer url session = .ok () next ↔ ∃ text secret headers,
      HmacSigner.stringToSign session.builder.request (.text url) = .ok text ∧
      signer.secretOctets = .ok secret ∧
      session.builder.request.headers.replaceDatum signer.headerName
        [.text (signer.headerValue (signer.signature secret text))] = .ok headers ∧
      next = { session with
        builder := { session.builder with request := { session.builder.request with headers } }
        events := session.events ++ [.logged (signer.record (signer.signature secret text))] } := by
  constructor
  · intro signed
    obtain ⟨request, same, isRequest, rest⟩ := bind_answered_iff.1 signed
    cases isRequest
    obtain ⟨text, isText, rest⟩ := lift_bind_answered rest
    obtain ⟨secret, isSecret, rest⟩ := lift_bind_answered rest
    obtain ⟨u, logged, isLogged, set⟩ := bind_answered_iff.1 rest
    cases isLogged
    obtain ⟨headers, replaced, rfl⟩ := setHeader_answered_iff.1 set
    exact ⟨text, secret, headers, isText, isSecret, replaced, rfl⟩
  · rintro ⟨text, secret, headers, isText, isSecret, replaced, rfl⟩
    refine bind_answered_iff.2 ⟨session.builder.request, session, rfl, ?_⟩
    refine bind_answered_iff.2 ⟨text, session, lift_of_ok isText session, ?_⟩
    refine bind_answered_iff.2 ⟨secret, session, lift_of_ok isSecret session, ?_⟩
    refine bind_answered_iff.2 ⟨(), left (log [signer.record (signer.signature secret text)]) session,
      rfl, ?_⟩
    exact setHeader_answered_iff.2 ⟨headers, replaced, rfl⟩

/-- Signing by a handler sets the header that it gives, if it gives one. -/
theorem signHeader_answered_iff {handler : AuthHandler} {url : String} {session next : Session} :
    signHeader handler url session = .ok () next ↔ ∃ context events,
      session.builder.request.signingContext url = .ok context ∧
      ((handler.header? context session.events = .ok none events ∧
          next = { session with events := events ++ [.logged (unsignedRecord url)] }) ∨
        ∃ name value headers,
          handler.header? context session.events = .ok (some (name, value)) events ∧
          session.builder.request.headers.replaceDatum name [.text value] = .ok headers ∧
          next = { session with
            builder := { session.builder with request := { session.builder.request with headers } }
            events }) := by
  constructor
  · intro signed
    obtain ⟨request, same, isRequest, rest⟩ := bind_answered_iff.1 signed
    cases isRequest
    obtain ⟨context, isContext, rest⟩ := lift_bind_answered rest
    obtain ⟨header, told, isTold, rest⟩ := bind_answered_iff.1 rest
    obtain ⟨events, given, rfl⟩ := traced_answered_iff.1 isTold
    cases header with
    | none =>
        cases rest
        exact ⟨context, events, isContext, .inl ⟨given, rfl⟩⟩
    | some header =>
        obtain ⟨headers, replaced, rfl⟩ := setHeader_answered_iff.1 rest
        exact ⟨context, events, isContext, .inr ⟨_, _, headers, given, replaced, rfl⟩⟩
  · rintro ⟨context, events, isContext, given⟩
    refine bind_answered_iff.2 ⟨session.builder.request, session, rfl, ?_⟩
    refine bind_answered_iff.2 ⟨context, session, lift_of_ok isContext session, ?_⟩
    rcases given with ⟨given, rfl⟩ | ⟨name, value, headers, given, replaced, rfl⟩
    · exact bind_answered_iff.2 ⟨none, _, traced_answered_iff.2 ⟨events, given, rfl⟩, rfl⟩
    · refine bind_answered_iff.2 ⟨_, _, traced_answered_iff.2 ⟨events, given, rfl⟩, ?_⟩
      exact setHeader_answered_iff.2 ⟨headers, replaced, rfl⟩

/-- A calculator at work, steps being taken by `take`. -/
def signBy (take : Step → Act Unit) (calculator : Calculator) (url : String) : Act Unit :=
  match calculator with
  | .hmac signer => signHmac signer url
  | .header handler => signHeader handler url
  | .script streams steps => do
    emit (.signing url)
    let first ← takeStreams streams
    (steps first).forM take
  | .unfit typeName => throw (.misuse (.lacks typeName "calculate_and_add_signature"))

theorem sign_eq (take : Step → Act Unit) (session : Session) :
    sign take session = (match session.builder.calculator with
      | none => pure ()
      | some calculator => lift .uri session.builder.signingUrl >>= fun url =>
        log [signingRecord url] >>= fun _ => signBy take calculator url : Act Unit) session := rfl

/-- Without a calculator signing does nothing. -/
theorem eq_of_sign {take : Step → Act Unit} {session next : Session}
    (unsigned : session.builder.calculator = none) (signed : sign take session = .ok () next) :
    next = session := by
  rw [sign_eq, unsigned] at signed
  cases signed
  rfl

/-- Signing is done by the calculator, once there is a URL to sign. -/
theorem sign_eq_signBy {take : Step → Act Unit} {session : Session} {calculator : Calculator}
    {url : String} (isCalculator : session.builder.calculator = some calculator)
    (isUrl : session.builder.signingUrl = .ok url) :
    sign take session = signBy take calculator url (left (log [signingRecord url]) session) := by
  rw [sign_eq, isCalculator, isUrl]
  rfl

/-- Signing that was done was done by the calculator, under the URL to sign. -/
theorem signBy_of_sign {take : Step → Act Unit} {session next : Session} {calculator : Calculator}
    (isCalculator : session.builder.calculator = some calculator)
    (signed : sign take session = .ok () next) :
    ∃ url, session.builder.signingUrl = .ok url ∧
      signBy take calculator url (left (log [signingRecord url]) session) = .ok () next := by
  cases isUrl : session.builder.signingUrl with
  | ok url =>
      rw [sign_eq_signBy isCalculator isUrl] at signed
      exact ⟨url, rfl, signed⟩
  | error fault =>
      rw [sign_eq, isCalculator, isUrl] at signed
      cases signed

end Act

/-! ## Along a trail -/

namespace Act

@[simp] theorem left_discard {α : Type} (x : Act α) (session : Session) :
    left (discard x) session = left x session := by
  show left (x >>= fun _ => pure ()) session = _
  rw [left_bind, left]
  cases x session <;> rfl

section

variable {P : Builder → Prop} {Q : Step → Prop} (kept : Kept P Q)

theorem holds_bind {α β : Type} {x : Act α} {f : α → Act β} {session : Session}
    (first : P (left x session).builder) (rest : ∀ a, Keeps P (f a)) :
    P (left (x >>= f) session).builder := by
  rw [left_bind]
  rw [left] at first
  cases done : x session with
  | ok a next =>
      rw [done] at first
      exact rest a next first
  | error fault next =>
      rw [done] at first
      exact first

/-- Steps taken one after the other, up to one that fails, keep what each of them keeps. -/
theorem holds_forM {act : Step → Act Reply} {taken : Session → Step → List Step}
    (each : ∀ session step, P session.builder → (∀ inner ∈ taken session step, Q inner) →
      P (left (act step) session).builder)
    {session : Session} (holds : P session.builder) {steps : List Step}
    (along : ∀ inner ∈ Session.trailOf act taken session steps, Q inner) :
    P (left (steps.forM fun step => discard (act step)) session).builder := by
  induction steps generalizing session with
  | nil => exact holds
  | cons step steps ih =>
      rw [Session.trailOf, List.forall_mem_append] at along
      have first := each session step holds along.1
      show P (left (discard (act step) >>= fun _ => steps.forM _) session).builder
      rw [left_bind]
      cases done : discard (act step) session with
      | ok u next =>
          have isNext : left (act step) session = next := by rw [← left_discard, left, done]
          rw [isNext] at first along
          exact ih first along.2
      | error fault next =>
          have isNext : left (act step) session = next := by rw [← left_discard, left, done]
          rw [isNext] at first
          exact first

include kept

theorem holds_of_ne_build {world : World} {depth : Nat} {session : Session} {step : Step}
    (other : step ≠ .build) (holds : P session.builder)
    (along : ∀ inner ∈ session.taken world depth step, Q inner) :
    P (left (stepWith world (buildWithin world depth) step) session).builder := by
  rw [Session.taken_of_ne_build world depth session other] at along
  have own := along step (List.mem_singleton_self step)
  exact keeps_stepWith_of kept.settled world (fun isBuild => absurd isBuild other)
    (fun f isChange b => kept.change step f b own isChange)
    (fun calculator _ b => kept.calculator b calculator) session holds

/-- Signing keeps what the steps of the calculator keep, if it takes any. -/
theorem holds_sign {world : World} {depth : Nat}
    (each : ∀ session step, P session.builder → (∀ inner ∈ session.taken world depth step, Q inner) →
      P (left (stepWith world (buildWithin world depth) step) session).builder)
    {session : Session} (holds : P session.builder)
    (along : ∀ inner ∈ session.taken world (depth + 1) .build, Q inner) :
    P (left (sign fun step => discard (stepWith world (buildWithin world depth) step))
      session).builder := by
  rw [Session.taken] at along
  rw [left, sign_eq]
  cases isCalculator : session.builder.calculator with
  | none => exact holds
  | some calculator =>
      cases isUrl : session.builder.signingUrl with
      | error fault => exact holds
      | ok url =>
          let logged := left (log [signingRecord url]) session
          have start : P logged.builder := holds
          cases calculator with
          | hmac signer => exact keeps_signHmac kept.settled signer url logged start
          | header handler => exact keeps_signHeader kept.settled handler url logged start
          | unfit typeName => exact holds
          | script streams steps =>
              rw [isCalculator, isUrl] at along
              have announced : P (left (announce streams url) session).builder := holds
              exact holds_forM each announced along

/-- **A step keeps what is kept along its trail**, whether it fails or not. -/
theorem holds_stepWith {world : World} {depth : Nat} {session : Session} {step : Step}
    (holds : P session.builder) (along : ∀ inner ∈ session.taken world depth step, Q inner) :
    P (left (stepWith world (buildWithin world depth) step) session).builder := by
  -- A build takes the steps of the calculator at one depth less.
  induction depth generalizing session step with
  | zero =>
      by_cases builds : step = .build
      · subst builds
        exact holds
      · exact holds_of_ne_build kept builds holds along
  | succ depth ih =>
      by_cases builds : step = .build
      · subst builds
        have signed := holds_sign kept (fun _ _ => ih) holds along
        have finished := holds_bind signed fun _ => keeps_settle kept.settled
        exact holds_bind finished fun _ => (quiet_pure Reply.built).keeps
      · exact holds_of_ne_build kept builds holds along

/-- Runs keep what is kept along their trail. -/
theorem holds_run {world : World} {session : Session} (holds : P session.builder)
    {steps : List Step} (along : ∀ inner ∈ session.trail world steps, Q inner) :
    P (session.run world steps).builder := by
  induction steps generalizing session with
  | nil => exact holds
  | cons step steps ih =>
      rw [Session.trail, Session.trailOf, List.forall_mem_append] at along
      exact ih (holds_stepWith kept holds along.1) along.2

end

end Act

/-! ## Runs that answer -/

/-- A property of builders with a mark, which every step that answers and builds nothing moves on;
readings leave it. -/
structure Act.Marked {σ : Type} (P : σ → Builder → Prop) (after : σ → Step → σ) (Q : Step → Prop) :
    Prop where
  settled : ∀ mark, Settled (P mark)
  reads : ∀ mark reading, after mark (.read reading) = mark
  direct : ∀ {world : World} {build : Act Unit} {mark : σ} {session next : Session} {step : Step}
    {reply : Reply}, P mark session.builder → step.Throughout Q → step ≠ .build →
      Act.stepWith world build step session = .ok reply next → P (after mark step) next.builder

namespace Act.Marked

variable {σ : Type} {P : σ → Builder → Prop} {after : σ → Step → σ} {Q : Step → Prop}
  {world : World} {depth : Nat} {mark : σ} {session next : Session}

/-- A calculator takes only steps that the steps are throughout which registered it. -/
theorem takes_of_answered {step : Step} {reply : Reply} (takes : session.builder.Takes Q)
    (throughout : step.Throughout Q)
    (answered : stepWith world (buildWithin world depth) step session = .ok reply next) :
    next.builder.Takes Q := by
  have kept : Kept (fun _ => True) Q := ⟨⟨fun _ _ _ _ _ h => h, fun _ _ h => h, fun _ _ h => h,
    fun _ _ h => h⟩, fun _ _ h => h, fun _ _ _ _ _ h => h⟩
  have builds := keeps_buildWithin kept world depth
  exact ((keeps_stepWith kept world builds throughout).of_answered ⟨trivial, takes⟩ answered).2

/-- Steps that answer one after the other move the mark on as their trail says. -/
theorem of_forM {act : Step → Act Reply} {taken : Session → Step → List Step}
    (each : ∀ {mark session next step reply}, P mark session.builder ∧ session.builder.Takes Q →
      step.Throughout Q → act step session = .ok reply next →
      P ((taken session step).foldl after mark) next.builder ∧ next.builder.Takes Q)
    (holds : P mark session.builder ∧ session.builder.Takes Q) {steps : List Step}
    (throughout : ∀ step ∈ steps, step.Throughout Q)
    (answered : (steps.forM fun step => discard (act step)) session = .ok () next) :
    P ((Session.trailOf act taken session steps).foldl after mark) next.builder ∧
      next.builder.Takes Q := by
  induction steps generalizing session mark with
  | nil =>
      cases answered
      exact holds
  | cons step steps ih =>
      rw [List.forall_mem_cons] at throughout
      obtain ⟨u, mid, first, rest⟩ := bind_answered_iff.1 answered
      obtain ⟨reply, mid', first, done⟩ := bind_answered_iff.1 first
      cases done
      have left : Act.left (act step) session = mid := by
        rw [Act.left, first]
      rw [Session.trailOf, List.foldl_append, left]
      exact ih (each holds throughout.1 first) throughout.2 rest

variable (marked : Marked P after Q)

include marked

/-- Signing moves the mark on as the steps of the calculator do, if it takes any. -/
theorem of_sign
    (each : ∀ {mark session next step reply}, P mark session.builder ∧ session.builder.Takes Q →
      step.Throughout Q → stepWith world (buildWithin world depth) step session = .ok reply next →
      P ((session.taken world depth step).foldl after mark) next.builder ∧ next.builder.Takes Q)
    (holds : P mark session.builder ∧ session.builder.Takes Q)
    (signed : sign (fun step => discard (stepWith world (buildWithin world depth) step))
      session = .ok () next) :
    P ((session.taken world (depth + 1) .build).foldl after mark) next.builder ∧
      next.builder.Takes Q := by
  have settled := (marked.settled mark).and (settled_takes (Q := Q))
  rw [Session.taken]
  cases isCalculator : session.builder.calculator with
  | none =>
      obtain rfl := eq_of_sign isCalculator signed
      exact holds
  | some calculator =>
      obtain ⟨url, isUrl, run⟩ := signBy_of_sign isCalculator signed
      let logged := Act.left (log [signingRecord url]) session
      have start : P mark logged.builder ∧ logged.builder.Takes Q := holds
      cases calculator with
      | hmac signer =>
          have run : signHmac signer url logged = .ok () next := run
          exact (keeps_signHmac settled signer url).of_answered start run
      | header handler =>
          have run : signHeader handler url logged = .ok () next := run
          exact (keeps_signHeader settled handler url).of_answered start run
      | unfit typeName => cases run
      | script streams steps =>
          rw [isUrl]
          have announced : P mark (Act.left (announce streams url) session).builder ∧
              (Act.left (announce streams url) session).builder.Takes Q := holds
          exact of_forM each announced (holds.2 streams steps isCalculator session.nextStream) run

/-- **Every step that answers moves the mark on as its trail says.** -/
theorem of_stepWith {step : Step} {reply : Reply}
    (holds : P mark session.builder ∧ session.builder.Takes Q) (throughout : step.Throughout Q)
    (answered : stepWith world (buildWithin world depth) step session = .ok reply next) :
    P ((session.taken world depth step).foldl after mark) next.builder ∧ next.builder.Takes Q := by
  refine ⟨?_, takes_of_answered holds.2 throughout answered⟩
  -- A build takes steps at one depth less; within it their list is what `of_forM` goes through.
  induction depth generalizing mark session next step reply with
  | zero =>
      by_cases builds : step = .build
      · subst builds
        cases answered
      · rw [Session.taken_of_ne_build world 0 session builds]
        exact marked.direct holds.1 throughout builds answered
  | succ depth ih =>
      by_cases builds : step = .build
      · subst builds
        obtain ⟨u, mid, finished, done⟩ := bind_answered_iff.1 answered
        cases done
        rw [buildWithin, finish_eq] at finished
        obtain ⟨u, signed, isSigned, settles⟩ := bind_answered_iff.1 finished
        refine (keeps_settle (marked.settled _)).of_answered ?_ settles
        exact (marked.of_sign (fun holds throughout answered =>
          ⟨ih holds throughout answered, takes_of_answered holds.2 throughout answered⟩)
          holds isSigned).1
      · rw [Session.taken_of_ne_build world _ session builds]
        exact marked.direct holds.1 throughout builds answered

/-- After a run that answered the mark is where the trail has moved it. -/
theorem of_run (mark : σ) (holds : P mark session.builder ∧ session.builder.Takes Q)
    {steps : List Step}
    (throughout : ∀ step ∈ steps, step.Throughout Q) (answered : session.Answered world steps) :
    P ((session.trail world steps).foldl after mark) (session.run world steps).builder ∧
      (session.run world steps).builder.Takes Q := by
  induction steps generalizing session mark with
  | nil => exact holds
  | cons step steps ih =>
      rw [List.forall_mem_cons] at throughout
      obtain ⟨first, rest⟩ := answered
      have next : P ((session.taken world nestingLimit step).foldl after mark)
          (Act.left (Act.step world step) session).builder ∧
          (Act.left (Act.step world step) session).builder.Takes Q := by
        rcases first with reads | ⟨reply, next, first⟩
        · cases step with
          | read reading =>
              have settled := (marked.settled mark).and (settled_takes (Q := Q))
              have same : (session.taken world nestingLimit (.read reading)).foldl after mark = mark :=
                marked.reads mark reading
              rw [same]
              exact keeps_read settled reading session holds
          | _ => cases reads
        · rw [Act.left, first]
          exact marked.of_stepWith holds throughout.1 first
      have whole := ih _ next throughout.2 rest
      rw [← List.foldl_append] at whole
      exact whole

end Act.Marked

/-! ## What is signed -/

/-- The request can be sent, what it remembers is not out of date, the calculator takes steps of
texts, and the builder signs a text or else that of its URI. -/
structure Builder.Written (urlText : Option String) (builder : Builder) : Prop where
  based : builder.request.Based (·.isSupported)
  coherent : builder.request.Coherent
  takes : builder.Takes (·.isTextual = true)
  urlText : builder.urlText = urlText

namespace Builder.Written

variable {urlText : Option String} {builder : Builder}

theorem withRequest (written : builder.Written urlText) {request : Request}
    (same : request.SameTarget builder.request) : Written urlText { builder with request } where
  based := written.based.congr same.base same.params
  coherent := written.coherent.congr same
  takes := written.takes
  urlText := written.urlText

theorem settled : Act.Settled (Written urlText) where
  headers _ _ _ _ _ written := written.withRequest ⟨rfl, rfl, rfl⟩
  charset _ _ written := written.withRequest ⟨rfl, rfl, rfl⟩
  length _ _ written := written.withRequest ⟨rfl, rfl, rfl⟩
  target _ form written := {
    based := written.based.readTarget form
    coherent := Request.coherent_readTarget written.coherent form
    takes := written.takes
    urlText := written.urlText }

/-- A URI that is set tells what is signed from then on. -/
theorem setUri (written : builder.Written urlText) {uri : Uri} {text : Option String}
    (set : (builder.setUri uri text).2 = .ok ()) : Written text (builder.setUri uri text).1 := by
  have based : (builder.setUri uri text).1.request.Based (·.isSupported) := by
    rw [request_setUri]
    exact written.based.of_sets id (builder.request.sets_setUri builder.queryForm uri)
  obtain ⟨request, entered, isSet⟩ := Builder.request_of_setUri set
  obtain ⟨path, supported, parameters, readable⟩ := Request.stated_of_setUri entered
  have derived : request.derived = {} := by
    rw [Request.setUri_of_readable path supported readable] at entered
    rw [← (Prod.mk.inj entered).1]
    rfl
  rw [isSet] at based ⊢
  exact ⟨based, Request.coherent_of_underived derived, written.takes, rfl⟩

theorem perform (written : builder.Written urlText) {call : Call}
    (textual : (Step.call call).isTextual = true) : Written urlText (builder.perform call).1 where
  based := written.based.perform textual
  coherent := Request.coherent_perform written.coherent call
  takes := written.takes
  urlText := written.urlText

end Builder.Written

/-- A step that builds nothing and answers leaves what it says is signed. -/
theorem written_of_ne_build {world : World} {build : Act Unit} {session next : Session}
    {step : Step} {reply : Reply} {urlText : Option String}
    (written : session.builder.Written urlText)
    (textual : step.Throughout (·.isTextual = true)) (other : step ≠ .build)
    (answered : Act.stepWith world build step session = .ok reply next) :
    next.builder.Written (step.afterUrl urlText) := by
  have settled : Act.Settled (Builder.Written urlText) := Builder.Written.settled
  obtain ⟨isTextual, within⟩ := textual
  have changed : ∀ f, step.change? = some f → f session.builder = (next.builder, .ok ()) := by
    intro f isChange
    exact (Act.makes_stepWith isChange session).of_ok answered
  cases step with
  | setUrl url =>
      have made := changed _ rfl
      obtain ⟨text, uri, rfl, parsed, isUrl⟩ := Builder.eq_of_setUrl (congrArg Prod.snd made)
      rw [isUrl] at made
      have set := written.setUri (congrArg Prod.snd made)
      rw [made] at set
      exact set
  | setUri datum =>
      obtain ⟨uri, rfl⟩ := Builder.eq_of_setUriDatum (congrArg Prod.snd (changed _ rfl))
      have made : session.builder.setUri uri none = (next.builder, .ok ()) := changed _ rfl
      have set := written.setUri (congrArg Prod.snd made)
      rw [made] at set
      exact set
  | call told =>
      have made : session.builder.perform told = (next.builder, .ok ()) := changed _ rfl
      have kept := written.perform isTextual
      rw [made] at kept
      exact kept
  | edit made => cases isTextual
  | read reading => exact (Act.keeps_read settled reading).of_answered written answered
  | setCalculator calculator =>
      cases answered
      refine ⟨written.based, written.coherent, ?_, written.urlText⟩
      rintro streams steps rfl
      exact within streams steps rfl
  | authenticate config resolver =>
      cases answered
      exact ⟨written.based, written.coherent, nofun, written.urlText⟩
  | build => exact absurd rfl other
  | handOver =>
      obtain ⟨wired, mid, handed, done⟩ := Act.bind_answered_iff.1 answered
      cases done
      exact (Act.keeps_handOver settled world).of_answered written handed
  | send answer => exact (Act.keeps_send settled world answer).of_answered written answered
  | refused fault => cases answered

/-! ## Runs -/

theorem Builder.Written.marked :
    Act.Marked Builder.Written Step.afterUrl (·.isTextual = true) where
  settled _ := Builder.Written.settled
  reads _ _ := rfl
  direct := written_of_ne_build

/-- After a run that answered, the text to sign is the one that its trail tells. -/
theorem written_run {world : World} {urlText : Option String} {session : Session}
    (written : session.builder.Written urlText) {steps : List Step}
    (textual : ∀ step ∈ steps, step.Throughout (·.isTextual = true))
    (answered : session.Answered world steps) :
    (session.run world steps).builder.Written
      ((session.trail world steps).foldl Step.afterUrl urlText) :=
  (Builder.Written.marked.of_run urlText ⟨written, written.takes⟩ textual answered).1

end Outbound
