/-
# Outbound.Proofs.Session.Respelled — a URI that is set by another text

A builder remembers by which text its URI was set, and looks at that text in one
place: where it signs.  All that is done in a session is thus done alike with
another text (`Blind`), and leaves sessions that differ in the text only
(`Session.respelled`).  Of a build this holds where the URL to sign is the same,
provided that the calculator looks at the URL and the session and at nothing else:
it takes no step that builds again (`Calculator.Plain`).

Setting a URI by its text and setting the URI that is read from it are two sessions
of this kind.  The URLs that they sign are the same when the text is tidy, and only
then (`signing_of_setUrl_iff`).
-/
import Outbound.Proofs.Session.Trail
import Outbound.Proofs.Uri.Tidy

namespace Outbound

set_option autoImplicit false

def Session.respelled (session : Session) (urlText : Option String) : Session :=
  { session with builder := { session.builder with urlText } }

namespace Act

variable {α β ε : Type}

def respell (urlText : Option String) :
    EStateM.Result Fault Session α → EStateM.Result Fault Session α
  | .ok a next => .ok a (next.respelled urlText)
  | .error fault next => .error fault (next.respelled urlText)

/-- With another text of the URL the action does the same in a session, and leaves some text. -/
def BlindAt (act : Act α) (session : Session) (urlText : Option String) : Prop :=
  ∃ leftText, act (session.respelled urlText) = respell leftText (act session)

/-- The action does not look at the text of the URL. -/
def Blind (act : Act α) : Prop := ∀ session urlText, BlindAt act session urlText

/-! ## One after the other -/

/-- An action that keeps the text and does the same with any. -/
theorem blind_of_kept {act : Act α}
    (kept : ∀ session urlText, act (session.respelled urlText) = respell urlText (act session)) :
    Blind act :=
  fun session urlText => ⟨urlText, kept session urlText⟩

theorem blind_pure (a : α) : Blind (pure a) := blind_of_kept fun _ _ => rfl

theorem blind_throw (fault : Fault) : Blind (throw fault : Act α) := blind_of_kept fun _ _ => rfl

theorem blind_lift (wrap : ε → Fault) (x : Except ε α) : Blind (lift wrap x) := by
  cases x with
  | ok a => exact blind_pure a
  | error e => exact blind_throw (wrap e)

theorem blind_log (records : List Record) : Blind (log records) := blind_of_kept fun _ _ => rfl

theorem blind_emit (event : Event) : Blind (emit event) := blind_of_kept fun _ _ => rfl

theorem blind_takeStreams (count : Nat) : Blind (takeStreams count) := blind_of_kept fun _ _ => rfl

theorem blind_request : Blind request := blind_of_kept fun _ _ => rfl

theorem blind_setRequest (request : Request) : Blind (setRequest request) :=
  blind_of_kept fun _ _ => rfl

theorem blind_traced (action : Traced CallbackFault α) : Blind (traced action) := by
  apply blind_of_kept
  intro session urlText
  have same : (session.respelled urlText).events = session.events := rfl
  simp only [traced, same]
  cases action session.events <;> rfl

theorem BlindAt.bind {x : Act α} {f : α → Act β} {session : Session} {urlText : Option String}
    (first : BlindAt x session urlText) (rest : ∀ a, Blind (f a)) :
    BlindAt (x >>= f) session urlText := by
  obtain ⟨between, same⟩ := first
  rw [BlindAt, bind_eq, bind_eq, same]
  cases x session with
  | ok a next => exact rest a next between
  | error fault next => exact ⟨between, rfl⟩

theorem Blind.bind {x : Act α} {f : α → Act β} (first : Blind x) (rest : ∀ a, Blind (f a)) :
    Blind (x >>= f) :=
  fun session urlText => (first session urlText).bind rest

theorem Blind.get {f : Session → Act β}
    (same : ∀ session urlText, f (session.respelled urlText) = f session)
    (rest : ∀ session, Blind (f session)) : Blind (get >>= f) := by
  intro session urlText
  obtain ⟨leftText, alike⟩ := rest session session urlText
  refine ⟨leftText, ?_⟩
  show f (session.respelled urlText) (session.respelled urlText) = _
  rw [same]
  exact alike

theorem Blind.discard {x : Act α} (blind : Blind x) : Blind (discard x) :=
  Blind.bind blind fun _ => blind_pure ()

theorem Blind.forM {f : β → Act Unit} {l : List β} (each : ∀ b ∈ l, Blind (f b)) :
    Blind (l.forM f) := by
  induction l with
  | nil => exact blind_pure ()
  | cons b l ih =>
      rw [List.forall_mem_cons] at each
      exact Blind.bind each.1 fun _ => ih each.2

theorem Blind.attempt {x : Act α} (blind : Blind x) : Blind (send.attempt x) := by
  intro session urlText
  obtain ⟨leftText, same⟩ := blind session urlText
  refine ⟨leftText, ?_⟩
  unfold send.attempt
  rw [same]
  cases x session <;> rfl

/-- A change that does the same whatever the text is. -/
theorem blind_change {f : Builder → Outcome Builder}
    (blind : ∀ b urlText, ∃ leftText, f { b with urlText } =
      ({ (f b).1 with urlText := leftText }, (f b).2)) : Blind (change f) := by
  intro session urlText
  obtain ⟨leftText, same⟩ := blind session.builder urlText
  refine ⟨leftText, ?_⟩
  have same : f (session.respelled urlText).builder = _ := same
  simp only [change_eq, same]
  cases (f session.builder).2 <;> rfl

/-! ## Steps that do not build -/

theorem blind_target (form : QueryForm) : Blind (target form) := by
  refine Blind.bind blind_request fun request => ?_
  refine Blind.bind (blind_log _) fun _ => ?_
  exact Blind.bind (blind_setRequest _) fun _ => blind_lift _ _

theorem blind_url (form : QueryForm) : Blind (url form) :=
  Blind.bind (blind_target form) fun _ => blind_lift _ _

theorem blind_read (reading : Reading) : Blind (read reading) := by
  cases reading with
  | target form => exact Blind.bind (blind_target form) fun _ => blind_pure _
  | url form => exact Blind.bind (blind_url form) fun _ => blind_pure _
  | poolKey =>
      refine Blind.bind blind_request fun request => ?_
      refine Blind.bind (blind_lift _ _) fun _ => ?_
      refine Blind.bind (blind_target .encoded) fun uri => ?_
      exact Blind.bind (blind_lift _ _) fun _ => blind_pure _
  | charset => exact Blind.bind blind_request fun _ => blind_pure _
  | followsRedirects => exact Blind.bind blind_request fun _ => blind_pure _
  | isRedirectSet => exact Blind.bind blind_request fun _ => blind_pure _
  | text =>
      refine Blind.bind (blind_target .encoded) fun uri => ?_
      refine Blind.bind (blind_lift _ _) fun text => ?_
      refine Blind.bind blind_request fun request => ?_
      exact Blind.bind (blind_lift _ _) fun _ => blind_pure _
  | signedText url =>
      refine Blind.bind blind_request fun request => ?_
      refine Blind.bind (blind_lift _ _) fun query => ?_
      exact Blind.bind (blind_lift _ _) fun _ => blind_pure _

theorem blind_handOver (world : World) : Blind (handOver world) := by
  refine Blind.bind blind_request fun request => ?_
  refine Blind.bind (blind_lift _ _) fun timeout => ?_
  refine Blind.bind (blind_url _) fun url => ?_
  refine Blind.bind (blind_lift _ _) fun headers => ?_
  -- Of the session only the streams that were read are looked at.
  refine Blind.get (fun _ _ => rfl) fun session => ?_
  refine Blind.bind (blind_lift _ _) fun wired => ?_
  exact Blind.bind (blind_of_kept fun _ _ => rfl) fun _ => blind_pure _

theorem blind_deliver (answer : ClientAnswer) (wired : WireRequest) :
    Blind (deliver answer wired) := by
  refine Blind.bind (blind_log _) fun _ => ?_
  cases answer with
  | response => exact blind_pure ()
  | requestError fault => exact Blind.bind (blind_log _) fun _ => blind_throw _
  | otherError fault => exact blind_throw _

theorem blind_send (world : World) (answer : ClientAnswer) : Blind (send world answer) := by
  refine Blind.bind blind_request fun request => ?_
  refine Blind.bind (Blind.attempt (blind_handOver world)) fun wired => ?_
  cases wired with
  | error fault => exact blind_pure _
  | ok wired =>
      refine Blind.bind (Blind.attempt (blind_deliver answer wired)) fun delivered => ?_
      cases delivered <;> exact blind_pure _

theorem Builder.blind_setUri (b : Builder) (uri : Uri) (text urlText : Option String) :
    ∃ leftText, Builder.setUri { b with urlText } uri text =
      ({ (b.setUri uri text).1 with urlText := leftText }, (b.setUri uri text).2) := by
  show ∃ leftText, Builder.setUri _ uri text = _
  simp only [Builder.setUri, Builder.queryForm]
  cases (b.request.setUri _ uri).2 with
  | ok u => exact ⟨text, rfl⟩
  | error fault => exact ⟨urlText, rfl⟩

/-- A change of a builder does the same whatever the text of the URL is. -/
theorem blind_of_change {step : Step} {f : Builder → Outcome Builder}
    (isChange : step.change? = some f) (b : Builder) (urlText : Option String) :
    ∃ leftText, f { b with urlText } = ({ (f b).1 with urlText := leftText }, (f b).2) := by
  cases step with
  | setUrl url =>
      obtain rfl := Option.some.inj isChange
      simp only [Builder.setUrl]
      cases url.readUri with
      | ok uri => exact Builder.blind_setUri b uri _ urlText
      | error fault => exact ⟨urlText, rfl⟩
  | setUri datum =>
      obtain rfl := Option.some.inj isChange
      cases datum with
      | uri uri => exact Builder.blind_setUri b uri none urlText
      | _ => exact ⟨urlText, rfl⟩
  | call told =>
      obtain rfl := Option.some.inj isChange
      exact ⟨urlText, rfl⟩
  | edit made =>
      obtain rfl := Option.some.inj isChange
      cases made <;> exact ⟨urlText, rfl⟩
  | _ => cases isChange

theorem blind_stepWith (world : World) (build : Act Unit) {step : Step} (other : step ≠ .build) :
    Blind (stepWith world build step) := by
  have changes : ∀ {f}, step.change? = some f → Blind (change f) := fun isChange =>
    blind_change (blind_of_change isChange)
  cases step with
  | setUrl url => exact Blind.bind (changes rfl) fun _ => blind_pure _
  | setUri uri => exact Blind.bind (changes rfl) fun _ => blind_pure _
  | call told =>
      refine Blind.bind (blind_log _) fun _ => ?_
      exact Blind.bind (changes rfl) fun _ => blind_pure _
  | edit made =>
      refine Blind.bind blind_request fun request => ?_
      refine Blind.bind (changes rfl) fun _ => ?_
      split <;> exact blind_pure _
  | read reading => exact blind_read reading
  | setCalculator calculator => exact blind_of_kept fun _ _ => rfl
  | authenticate config resolver => exact blind_of_kept fun _ _ => rfl
  | build => exact absurd rfl other
  | handOver => exact Blind.bind (blind_handOver world) fun _ => blind_pure _
  | send answer => exact blind_send world answer
  | refused fault => exact blind_throw fault

/-! ## Building -/

theorem blind_settle : Blind settle := by
  have charset : Blind inferCharset := by
    refine Blind.bind blind_request fun request => ?_
    refine Blind.bind (blind_lift _ _) fun charset => ?_
    cases charset with
    | none => exact blind_pure ()
    | some charset => exact Blind.bind (blind_log _) fun _ => blind_setRequest _
  have length : Blind inferLength := by
    refine Blind.bind blind_request fun request => ?_
    refine Blind.bind (blind_lift _ _) fun length => ?_
    cases length with
    | none => exact blind_pure ()
    | some length => exact Blind.bind (blind_log _) fun _ => blind_setRequest _
  refine Blind.bind charset fun _ => Blind.bind length fun _ => ?_
  refine Blind.bind blind_request fun request => ?_
  exact Blind.bind (blind_lift _ _) fun _ => blind_log _

end Act

/-- The calculator takes no step that builds; so it sees the URL that it is given, and the request. -/
def Calculator.Plain (calculator : Calculator) : Prop :=
  ∀ streams steps, calculator = .script streams steps → ∀ first, Step.build ∉ steps first

namespace Act

theorem blind_changeRequest (f : Request → Outcome Request) : Blind (changeRequest f) :=
  blind_change fun _ urlText => ⟨urlText, rfl⟩

theorem blind_signBy {take : Step → Act Unit} {calculator : Calculator} (plain : calculator.Plain)
    (taken : ∀ step, step ≠ .build → Blind (take step)) (url : String) :
    Blind (signBy take calculator url) := by
  cases calculator with
  | hmac signer =>
      refine Blind.bind blind_request fun request => ?_
      refine Blind.bind (blind_lift _ _) fun text => ?_
      refine Blind.bind (blind_lift _ _) fun secret => ?_
      exact Blind.bind (blind_log _) fun _ => blind_changeRequest _
  | header handler =>
      refine Blind.bind blind_request fun request => ?_
      refine Blind.bind (blind_lift _ _) fun context => ?_
      refine Blind.bind (blind_traced _) fun header => ?_
      cases header with
      | none => exact blind_log _
      | some header => exact blind_changeRequest _
  | script streams steps =>
      refine Blind.bind (blind_emit _) fun _ => ?_
      refine Blind.bind (blind_takeStreams _) fun first => ?_
      apply Blind.forM
      intro step mem
      apply taken
      rintro rfl
      exact plain streams steps rfl first mem
  | unfit typeName => exact blind_throw _

/-- Signing under the same URL does the same, whatever text the URL was set by. -/
theorem blindAt_sign {take : Step → Act Unit} {session : Session} {urlText : Option String}
    (plain : ∀ calculator ∈ session.builder.calculator, calculator.Plain)
    (taken : ∀ step, step ≠ .build → Blind (take step))
    (same : (session.respelled urlText).builder.signingUrl = session.builder.signingUrl) :
    BlindAt (sign take) session urlText := by
  rw [BlindAt]
  cases isCalculator : session.builder.calculator with
  | none =>
      have unsigned : (session.respelled urlText).builder.calculator = none := isCalculator
      refine ⟨urlText, ?_⟩
      rw [sign_eq, sign_eq, isCalculator, unsigned]
      rfl
  | some calculator =>
      have isCalculator' : (session.respelled urlText).builder.calculator = some calculator :=
        isCalculator
      cases isUrl : session.builder.signingUrl with
      | error fault =>
          refine ⟨urlText, ?_⟩
          rw [sign_eq, sign_eq, isCalculator, isCalculator', same, isUrl]
          rfl
      | ok url =>
          rw [sign_eq_signBy isCalculator isUrl, sign_eq_signBy isCalculator' (same.trans isUrl)]
          exact blind_signBy (plain calculator isCalculator) taken url
            (left (log [signingRecord url]) session) urlText

/-- A build that signs the same URL does the same, whatever text the URL was set by. -/
theorem blindAt_buildWithin (world : World) (depth : Nat) {session : Session}
    {urlText : Option String}
    (plain : ∀ calculator ∈ session.builder.calculator, calculator.Plain)
    (same : (session.respelled urlText).builder.signingUrl = session.builder.signingUrl) :
    BlindAt (buildWithin world depth) session urlText := by
  cases depth with
  | zero => exact blind_throw _ session urlText
  | succ depth =>
      rw [buildWithin, finish_eq]
      have taken : ∀ step, step ≠ .build →
          Blind (discard (stepWith world (buildWithin world depth) step)) :=
        fun step other => (blind_stepWith world _ other).discard
      exact (blindAt_sign plain taken same).bind fun _ => blind_settle

end Act

/-! ## A URI by its text -/

/-- **A URI that can be set by its text can be set as it is, with the same request.**  What is signed
is the text or else what the URI is written as, up to the query; these are the same when the text is
tidy, and only then.  Builds that sign the same do the same. -/
theorem signing_of_setUrl_iff (world : World) {session byText : Session} {text : String} {uri : Uri}
    {reply : Reply} (parsed : Uri.parse text = .ok uri)
    (set : Act.step world (.setUrl (.text text)) session = .ok reply byText) :
    ∃ byUri written, Act.step world (.setUri (.uri uri)) session = .ok .done byUri ∧
      byUri.builder.request = byText.builder.request ∧ uri.render = .ok written ∧
      byText.builder.signingUrl = .ok (String.ofList (Text.before '?' text.toList)) ∧
      byUri.builder.signingUrl = .ok (String.ofList (Text.before '?' written.toList)) ∧
      (byText.builder.signingUrl = byUri.builder.signingUrl ↔
        Uri.Tidy (Text.before '?' text.toList)) ∧
      (byText.builder.signingUrl = byUri.builder.signingUrl →
        (∀ calculator ∈ byText.builder.calculator, calculator.Plain) →
        ∃ leftText, Act.step world .build byUri =
          Act.respell leftText (Act.step world .build byText)) := by
  have made : session.builder.setUrl (.text text) = (byText.builder, .ok ()) :=
    (Act.makes_stepWith rfl session).of_ok set
  obtain ⟨given, uri', same, parsed', isUrl⟩ := Builder.eq_of_setUrl (congrArg Prod.snd made)
  obtain rfl := Datum.text.inj same
  obtain rfl : uri = uri' := Except.ok.inj (parsed.symm.trans parsed')
  rw [isUrl] at made
  obtain ⟨request, entered, -⟩ := Builder.request_of_setUri (congrArg Prod.snd made)
  rw [Act.step_setUrl entered parsed world] at set
  obtain ⟨rfl, rfl⟩ := EStateM.Result.ok.inj set
  obtain ⟨p, host, isScheme, isHost, -⟩ := Uri.pieces_of_parse parsed
  obtain ⟨written, isWritten⟩ : ∃ written, uri.render = .ok written := by
    rw [Uri.render, isScheme, isHost]
    exact ⟨_, rfl⟩
  let byText : Session :=
    { session with builder := { session.builder with request, urlText := some text } }
  have base : request.base = uri := by
    rw [Request.base, Request.uri_of_setUri entered]
    rfl
  have signsText : byText.builder.signingUrl =
      .ok (String.ofList (Text.before '?' text.toList)) := rfl
  have signsUri : (byText.respelled none).builder.signingUrl =
      .ok (String.ofList (Text.before '?' written.toList)) := by
    show request.base.render.map _ = _
    rw [base, isWritten]
    rfl
  refine ⟨byText.respelled none, written, Act.step_setUri entered world, rfl, isWritten, signsText,
    signsUri, ?_, ?_⟩
  · rw [signsText, signsUri, Except.ok.injEq, String.ofList_inj]
    exact Uri.before_query_eq_iff parsed isWritten
  · intro same plain
    exact ((Act.blindAt_buildWithin world _ plain same.symm).bind fun _ => Act.blind_pure _)

/-- A text with user information, an address and a port, on a builder that signs by a key. -/
theorem signing_of_setUrl_tidy :
    let session : Session := { builder := { Builder.ofSettings {} .absent .absent with
      calculator := some (.hmac { keyId := .text "id", secret := .text "key" }) } }
    ∃ uri byText byUri leftText,
      Uri.parse "https://me:pw@[::1]:8080/a?x=%31" = .ok uri ∧
      Act.step {} (.setUrl (.text "https://me:pw@[::1]:8080/a?x=%31")) session = .ok .done byText ∧
      Act.step {} (.setUri (.uri uri)) session = .ok .done byUri ∧
      byText.builder.signingUrl = .ok "https://me:pw@[::1]:8080/a" ∧
      byUri.builder.signingUrl = .ok "https://me:pw@[::1]:8080/a" ∧
      Act.step {} .build byUri = Act.respell leftText (Act.step {} .build byText) := by
  intro session
  have parsed : Uri.parse "https://me:pw@[::1]:8080/a?x=%31" = .ok ⟨some "https", some "[::1]",
      some "me:pw", some 8080, some "/a", some "x=%31"⟩ := by
    decide +kernel
  obtain ⟨byText, set, kept⟩ : ∃ byText, Act.step {} (.setUrl (.text
      "https://me:pw@[::1]:8080/a?x=%31")) session = .ok .done byText ∧
      byText.builder.calculator = session.builder.calculator := ⟨_, rfl, rfl⟩
  obtain ⟨byUri, written, set', -, -, signs, -, tidy, alike⟩ := signing_of_setUrl_iff {} parsed set
  have same := tidy.2 (by decide +kernel)
  have shown : String.ofList (Text.before '?' "https://me:pw@[::1]:8080/a?x=%31".toList) =
      "https://me:pw@[::1]:8080/a" := by
    decide +kernel
  rw [shown] at signs
  have plain : ∀ calculator ∈ byText.builder.calculator, calculator.Plain := by
    intro calculator registered
    rw [kept] at registered
    obtain rfl := Option.some.inj registered
    exact nofun
  obtain ⟨leftText, builds⟩ := alike same plain
  exact ⟨_, byText, byUri, leftText, parsed, set, set', signs, same.symm.trans signs, builds⟩

/-- The fragment of a text is signed, and not that of a URI, of which there is none. -/
theorem signingUrl_of_fragment :
    let session : Session := { builder := Builder.ofSettings {} .absent .absent }
    ∃ uri byText byUri, Uri.parse "http://h/p#frag" = .ok uri ∧
      Act.step {} (.setUrl (.text "http://h/p#frag")) session = .ok .done byText ∧
      Act.step {} (.setUri (.uri uri)) session = .ok .done byUri ∧
      byText.builder.signingUrl = .ok "http://h/p#frag" ∧
      byUri.builder.signingUrl = .ok "http://h/p" :=
  ⟨_, _, _, rfl, rfl, rfl, rfl, rfl⟩

end Outbound
