/-
# Outbound.Proofs.Session.Authenticated — a request carries one header that authenticates it

A build whose handler gives a header for every context sets it, whatever comes
after: the charset and the length are inferred from what was signed, and may fail
(`build_of_gives`).  Nothing in front of it fails either, as long as the headers
are texts and the URI can be written (`Builder.Signable`).

A configuration that was checked has such a handler.  Built again, also with other
resolvers, a request has the header in the place where it was set first, and only
the last value of it, since what is put under a name replaces what was put there
before (`Authenticated.put`).  So after any number of builds it differs from the
request at the start as after one build (`header_of_authenticated_build`).
-/
import Outbound.Proofs.Auth.Header
import Outbound.Proofs.FieldMap.Lookup
import Outbound.Proofs.Session.Settling
import Outbound.Proofs.Session.Trail

namespace Outbound

set_option autoImplicit false

/-! ## Builders that can be signed -/

/-- The headers of the builder have texts for values, if any, under names that are compared without
regard to case, and its URI has a scheme and a host. -/
structure Builder.Signable (builder : Builder) : Prop where
  folded : builder.request.headers.keying = .folded
  textual : ∀ f ∈ builder.request.headers.fields, ∀ value ∈ f.values, value.value?.isSome
  located : ∀ uri ∈ builder.request.uri, uri.scheme.isSome ∧ uri.host.isSome

theorem Datum.texts?_of_textual {values : List Datum}
    (textual : ∀ value ∈ values, value.value?.isSome) (index : Nat) :
    ∃ texts, Datum.texts? index (values.map Datum.orEmpty) = .ok texts := by
  induction values generalizing index with
  | nil => exact ⟨[], rfl⟩
  | cons value values ih =>
      rw [List.forall_mem_cons] at textual
      obtain ⟨texts, rest⟩ := ih textual.2 (index + 1)
      have isText : ∃ s, value.orEmpty = .text s := by
        cases value with
        | text s => exact ⟨s, rfl⟩
        | absent => exact ⟨"", rfl⟩
        | _ => cases textual.1
      obtain ⟨s, isText⟩ := isText
      refine ⟨s :: texts, ?_⟩
      rw [List.map_cons, isText, Datum.texts?, rest]
      rfl

namespace Builder.Signable

variable {builder : Builder}

theorem signingContext (signable : builder.Signable) (url : String) :
    ∃ context, builder.request.signingContext url = .ok context := by
  have joined : ∀ f ∈ builder.request.headers.fields, ∃ entry,
      (Datum.joinValues ", " f.values).map (fun values => (f.name, values)) = .ok entry := by
    intro f mem
    obtain ⟨texts, areTexts⟩ := Datum.texts?_of_textual (signable.textual f mem) 0
    rw [Datum.joinValues, Datum.joinTexts, areTexts]
    exact ⟨_, rfl⟩
  obtain ⟨entries, areEntries⟩ := exists_mapM_eq_ok_iff.2 joined
  rw [Request.signingContext, Request.joinedFields, areEntries]
  exact ⟨_, rfl⟩

theorem render_base (signable : builder.Signable) :
    ∃ text, builder.request.base.render = .ok text := by
  rw [Request.base]
  cases isUri : builder.request.uri with
  | none => exact ⟨_, rfl⟩
  | some uri => exact Uri.exists_render_iff.2 (signable.located uri isUri)

theorem signingUrl (signable : builder.Signable) : ∃ url, builder.signingUrl = .ok url := by
  obtain ⟨text, isText⟩ := signable.render_base
  rw [Builder.signingUrl]
  cases builder.urlText with
  | some given => exact ⟨_, rfl⟩
  | none =>
      simp only [isText]
      exact ⟨_, rfl⟩

theorem uriText (signable : builder.Signable) : ∃ text, builder.request.uriText = .ok text :=
  Request.exists_uriText_iff.2 signable.located

end Builder.Signable

/-! ## One build -/

namespace Act

/-- A handler that gives a header puts it in place of what there was under its name. -/
theorem signHeader_eq {handler : AuthHandler} {url name value : String} {context : SigningContext}
    {session : Session} {events : List Event}
    (isContext : session.builder.request.signingContext url = .ok context)
    (gives : handler.header? context session.events = .ok (some (.text name, value)) events) :
    signHeader handler url session = .ok () { session with
      builder := { session.builder with
        request := { session.builder.request with
          headers := session.builder.request.headers.put (.text name) [.text value] } }
      events } := by
  have replaced := FieldMap.replaceDatum_text session.builder.request.headers name (.text value)
  exact signHeader_answered_iff.2
    ⟨context, events, isContext, .inr ⟨_, _, _, gives, replaced, rfl⟩⟩

end Act

def Request.withHeader (request : Request) (name value : String) : Request :=
  { request with headers := request.headers.put (.text name) [.text value] }

/-- The handler gives the header for a context, whatever was told before. -/
def AuthHandler.Gives (handler : AuthHandler) (context : SigningContext) (name value : String) :
    Prop :=
  ∃ more, ∀ events, handler.header? context events = .ok (some (.text name, value)) (events ++ more)

/-- What a build does when its handler gives a header for every context: the header is set, and
the build is answered unless the charset or the length cannot be told. -/
theorem Act.build_of_gives (world : World) {session : Session} {handler : AuthHandler}
    {name : String} (signable : session.builder.Signable)
    (isCalculator : session.builder.calculator = some (.header handler))
    (gives : ∀ context, ∃ value, handler.Gives context name value) :
    ∃ url context value, session.builder.signingUrl = .ok url ∧
      session.builder.request.signingContext url = .ok context ∧
      handler.Gives context name value ∧
      (∃ charset length, (left (step world .build) session).builder = { session.builder with
        request := { (session.builder.request.withHeader name value).withBody
          fun body => { body with length } with charset } }) ∧
      ((∃ charset, (session.builder.request.withHeader name value).inferredCharset? = .ok charset) →
        (∃ length, (session.builder.request.withHeader name value).inferredLength? = .ok length) →
        ∃ built, step world .build session = .ok .built built) := by
  obtain ⟨url, isUrl⟩ := signable.signingUrl
  obtain ⟨context, isContext⟩ := signable.signingContext url
  obtain ⟨text, isText⟩ := signable.uriText
  obtain ⟨value, more, given⟩ := gives context
  let logged := left (log [signingRecord url]) session
  let signed : Session := { session with
    builder := { session.builder with request := session.builder.request.withHeader name value }
    events := logged.events ++ more }
  have signs : ∀ take, sign take session = .ok () signed := by
    intro take
    rw [sign_eq_signBy isCalculator isUrl]
    have isContext : logged.builder.request.signingContext url = .ok context := isContext
    exact signHeader_eq isContext (given logged.events)
  have builds : step world .build session =
      (settle >>= fun _ => pure Reply.built) signed := by
    show (finish _ >>= fun _ => pure Reply.built) session = _
    simp [finish_eq, signs]
  refine ⟨url, context, value, isUrl, isContext, ⟨more, given⟩, ?_, ?_⟩
  · have kept := Leads.bind (leads_settle signed.builder) (fun _ known => known)
      fun _ => (quiet_pure Reply.built).keeps
    have led := kept signed rfl
    rw [left, builds]
    exact led
  · rintro ⟨charset, isCharset⟩ ⟨length, isLength⟩
    have isCharset : signed.builder.request.inferredCharset? = .ok charset := isCharset
    obtain ⟨told, settles⟩ := settle_eq isCharset isLength isText
    exact ⟨_, builds.trans (bind_answered_iff.2 ⟨(), _, settles, rfl⟩)⟩

/-! ## Many builds -/

/-- The step builds, or registers a handler of the configuration whose resolver answers. -/
inductive Step.Authenticates (config : AuthConfig) : Step → Prop where
  | build : Authenticates config .build
  | register {resolver : Option KeyResolver} (answers : KeySource.Answers resolver) :
      Authenticates config (.authenticate config resolver)

/-- The builder has a handler of the configuration, and differs from the one at the start besides at
most in the value of the header, in the charset and in the length of the body. -/
structure Builder.Authenticated (config : AuthConfig) (builder start : Builder) : Prop where
  handler : ∃ resolver, KeySource.Answers resolver ∧
    builder.calculator = some (.header (AuthHandler.ofConfig config resolver))
  request : ∃ headers charset length, (headers = start.request.headers ∨
      ∃ value, headers = start.request.headers.put (.text config.title) [.text value]) ∧
    builder = { start with
      calculator := builder.calculator
      request := { start.request.withBody fun body => { body with length } with headers, charset } }

namespace Builder.Authenticated

variable {config : AuthConfig} {builder start : Builder}

theorem signable (authenticated : builder.Authenticated config start) (signable : start.Signable) :
    builder.Signable := by
  obtain ⟨headers, charset, length, isHeaders, isBuilder⟩ := authenticated.request
  rw [isBuilder]
  refine ⟨?_, ?_, signable.located⟩
  · show headers.keying = .folded
    rcases isHeaders with rfl | ⟨value, rfl⟩
    · exact signable.folded
    · exact signable.folded
  · show ∀ f ∈ headers.fields, ∀ value ∈ f.values, value.value?.isSome
    rcases isHeaders with rfl | ⟨value, rfl⟩
    · exact signable.textual
    · intro f mem
      rcases FieldMap.mem_fields_put mem with old | rfl
      · exact signable.textual f old
      · simp [Datum.value?]

/-- What is put under the name of the header replaces what was put there before. -/
theorem put (authenticated : builder.Authenticated config start) (value : String) :
    builder.request.headers.put (.text config.title) [.text value] =
      start.request.headers.put (.text config.title) [.text value] := by
  obtain ⟨headers, charset, length, isHeaders, isBuilder⟩ := authenticated.request
  have same : builder.request.headers = headers := by rw [isBuilder]
  rw [same]
  rcases isHeaders with rfl | ⟨before, rfl⟩
  · rfl
  · exact FieldMap.put_put _ _ _ _

/-- A build leaves the header with one value in the headers of the start. -/
theorem build (authenticated : builder.Authenticated config start) {left : Builder} {value : String}
    {charset length : Datum} (isLeft : left = { builder with
      request := { (builder.request.withHeader config.title value).withBody
        fun body => { body with length } with charset } }) :
    left = { start with
      calculator := builder.calculator
      request := { (start.request.withHeader config.title value).withBody
        fun body => { body with length } with charset } } := by
  have put := authenticated.put value
  obtain ⟨headers, charset', length', -, isBuilder⟩ := authenticated.request
  rw [isLeft, Request.withHeader, put, isBuilder]
  rfl

/-- Every step that authenticates again leaves it so. -/
theorem step (signable : start.Signable) (sufficient : config.Sufficient) {world : World}
    {session : Session} (authenticated : session.builder.Authenticated config start) {step : Step}
    (again : step.Authenticates config) :
    (Act.left (Act.step world step) session).builder.Authenticated config start := by
  cases again with
  | @register resolver answers =>
      obtain ⟨headers, charset, length, isHeaders, isBuilder⟩ := authenticated.request
      refine ⟨⟨resolver, answers, rfl⟩, headers, charset, length, isHeaders, ?_⟩
      have registered : (Act.left (Act.step world (.authenticate config resolver)) session).builder =
        { session.builder with
          calculator := some (.header (AuthHandler.ofConfig config resolver)) } := rfl
      rw [registered, isBuilder]
  | build =>
      obtain ⟨resolver, answers, isCalculator⟩ := authenticated.handler
      obtain ⟨-, -, value, -, -, -, ⟨charset, length, isLeft⟩, -⟩ := Act.build_of_gives world
        (authenticated.signable signable) isCalculator fun context =>
          sufficient.header? answers context
      have isLeft := authenticated.build isLeft
      refine ⟨⟨resolver, answers, ?_⟩, _, charset, length, .inr ⟨value, rfl⟩, ?_⟩
      · rw [isLeft]
        exact isCalculator
      · rw [isLeft]
        rfl

/-- And so does a run of them. -/
theorem run (signable : start.Signable) (sufficient : config.Sufficient) {world : World}
    {session : Session} (authenticated : session.builder.Authenticated config start)
    {steps : List Step} (again : ∀ step ∈ steps, step.Authenticates config) :
    (session.run world steps).builder.Authenticated config start := by
  induction steps generalizing session with
  | nil => exact authenticated
  | cons first steps ih =>
      rw [List.forall_mem_cons] at again
      exact ih (step signable sufficient authenticated again.1) again.2

end Builder.Authenticated

/-- **A build that authenticates sets one header, under the name of the configuration in any case, to
the value that its handler gives**, however often the request was built before; every other
header, and all else of the request but the charset and the length of its body, is as it was. -/
theorem header_of_authenticated_build (world : World) {session : Session}
    (signable : session.builder.Signable) {entries : Check.Entries} {config : AuthConfig}
    (accepted : AuthConfig.ofEntries entries = .ok config) {resolver : Option KeyResolver}
    (answers : KeySource.Answers resolver) {steps : List Step}
    (again : ∀ step ∈ steps, step.Authenticates config) :
    let before := session.run world (.authenticate config resolver :: steps)
    let left := Act.left (Act.step world .build) before
    ∃ handler url context value,
      before.builder.calculator = some (.header handler) ∧
      before.builder.signingUrl = .ok url ∧
      before.builder.request.signingContext url = .ok context ∧
      handler.Gives context config.title value ∧
      (∀ name, Text.lower name = Text.lower config.title →
        left.builder.request.headers.find? (.text name) =
          some ⟨.text config.title, [.text value]⟩) ∧
      left.builder.request.headers.keys = session.builder.request.headers.keys ++
        (if Key.text (Text.lower config.title) ∈ session.builder.request.headers.keys then []
          else [.text (Text.lower config.title)]) ∧
      (∀ key, key ≠ .text (Text.lower config.title) →
        left.builder.request.headers.at? key = session.builder.request.headers.at? key) ∧
      (∃ charset length, left.builder.request =
        { session.builder.request.withBody fun body => { body with length } with
          headers := left.builder.request.headers, charset }) ∧
      ((∃ charset, (before.builder.request.withHeader config.title value).inferredCharset? =
          .ok charset) →
        (∃ length, (before.builder.request.withHeader config.title value).inferredLength? =
          .ok length) →
        Act.step world .build before = .ok .built left) := by
  intro before left
  have sufficient := AuthConfig.sufficient_of_ofEntries accepted
  have first : (Act.left (Act.step world (.authenticate config resolver)) session).builder.Authenticated
      config session.builder :=
    ⟨⟨resolver, answers, rfl⟩, session.builder.request.headers, session.builder.request.charset,
      session.builder.request.body.length, .inl rfl, rfl⟩
  have authenticated : before.builder.Authenticated config session.builder :=
    first.run signable sufficient again
  obtain ⟨resolver', answers', isCalculator⟩ := authenticated.handler
  obtain ⟨url, context, value, isUrl, isContext, gives, ⟨charset, length, isLeft⟩, built⟩ :=
    Act.build_of_gives world (authenticated.signable signable) isCalculator fun context =>
      sufficient.header? answers' context
  have isLeft : left.builder = _ := authenticated.build isLeft
  have headers : left.builder.request.headers =
      session.builder.request.headers.put (.text config.title) [.text value] := by
    rw [isLeft]
    rfl
  have key : session.builder.request.headers.keying.key (.text config.title) =
      .text (Text.lower config.title) := by
    rw [signable.folded]
    rfl
  refine ⟨_, url, context, value, isCalculator, isUrl, isContext, gives, ?_, ?_, ?_, ?_, ?_⟩
  · intro name same
    have sameKey : session.builder.request.headers.keying.key (.text config.title) =
        session.builder.request.headers.keying.key (.text name) := by
      rw [signable.folded]
      exact congrArg Key.text same.symm
    rw [headers, FieldMap.find?_eq_at?, FieldMap.at?_put]
    exact if_pos sameKey
  · rw [headers, FieldMap.keys_put, key]
  · intro other differs
    rw [headers, FieldMap.at?_put, key, if_neg (Ne.symm differs)]
  · refine ⟨charset, length, ?_⟩
    rw [isLeft]
    rfl
  · intro isCharset isLength
    obtain ⟨next, answered⟩ := built isCharset isLength
    have isNext : left = next := by
      show Act.left _ _ = next
      rw [Act.left, answered]
    rw [isNext]
    exact answered

/-- Two builds by a bearer whose resolver has no key, where the header was set in another case. -/
theorem header_of_second_authenticated_build :
    let session := Session.run {} { builder := .ofSettings {} .absent .absent }
      [.call (.setHeader (.text "A") (.text "1")),
        .call (.setHeader (.text "AUTHORIZATION") (.text "old")),
        .call (.setHeader (.text "B") (.text "2"))]
    let config : AuthConfig := { kind := .bearer, rawApiKey := some "key" }
    let before := session.run {} [.authenticate config (some fun _ => .ok none), .build]
    ∃ built, Act.step {} .build before = .ok .built built ∧
      built.builder.request.headers.find? (.text "authorization") =
        some ⟨.text "Authorization", [.text "Bearer key"]⟩ ∧
      built.builder.request.headers.keys = [.text "a", .text "authorization", .text "b"] := by
  intro session config before
  have accepted : AuthConfig.ofEntries [("type", .text "bearer"), ("raw_api_key", .text "key")] =
      .ok config := rfl
  have signable : session.builder.Signable := by
    refine ⟨rfl, ?_, nofun⟩
    decide +kernel
  have answers : KeySource.Answers (some fun _ => .ok none) := by
    intro ask isAsk context
    cases isAsk
    exact ⟨none, rfl⟩
  have again : ∀ step ∈ [Step.build], step.Authenticates config := by
    intro step mem
    obtain rfl := List.mem_singleton.1 mem
    exact .build
  obtain ⟨handler, url, context, value, isCalculator, -, -, ⟨more, gives⟩, found, keys, -, -,
    built⟩ := header_of_authenticated_build {} signable accepted answers again
  have isHandler : before.builder.calculator =
      some (.header (AuthHandler.ofConfig config (some fun _ => .ok none))) := rfl
  rw [isHandler] at isCalculator
  obtain rfl := Calculator.header.inj (Option.some.inj isCalculator)
  obtain rfl : "Bearer key" = value :=
    congrArg Prod.snd (Option.some.inj (EStateM.Result.ok.inj (gives [])).1)
  have listed : session.builder.request.headers.keys =
      [.text "a", .text "authorization", .text "b"] := by decide +kernel
  rw [listed] at keys
  refine ⟨_, built ?_ ?_, found "authorization" ?_, keys.trans ?_⟩
  · exact exists_eq_ok (by decide +kernel)
  · exact exists_eq_ok (by decide +kernel)
  · decide +kernel
  · decide +kernel

end Outbound
