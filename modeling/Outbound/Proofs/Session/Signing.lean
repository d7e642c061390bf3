/-
# Outbound.Proofs.Session.Signing — what is signed is what is sent

A build by a key signs the method, the URL and the canonical query of the request,
and puts the signature into a header; what follows in a build changes the charset
and the length of the body only (`built_of_signed`).  So the method and the headers
of the request that is built are those of the signing, and its target is composed
from the parameters that were signed.

The canonical query is what a receiver makes of the query of that target
(`Query.received_spread`), hence the receiver finds the signature to be the one of
what it received (`signature_of_build`).  The URL that is signed is the text of the
last step of the run that set the URI, or else the text of the URI, up to its
query.  The target is always there, since a builder only sets URIs that can be sent
to (`Builder.based_of_reached`).
-/
import Outbound.Proofs.Auth.SignedText
import Outbound.Proofs.Session.Current
import Outbound.Proofs.Session.Settling
import Outbound.Proofs.Session.Trail
import Outbound.Proofs.Text.Charset

namespace Outbound

set_option autoImplicit false

open HmacSigner (signedText)
open Query (grouped received sorted write)

/-! ## Signing by a key -/

namespace Act

def signedBy (signer : HmacSigner) (name : String) (secret : Octets) (text : String)
    (request : Request) : Request :=
  { request with
    headers := request.headers.put (.text name)
      [.text (signer.headerValue (signer.signature secret text))] }

/-- A header that is named by a text can always be set. -/
theorem signHmac_eq {signer : HmacSigner} {name : String} (named : signer.headerName = .text name)
    {url text : String} {secret : Octets} {session : Session}
    (isText : HmacSigner.stringToSign session.builder.request (.text url) = .ok text)
    (isSecret : signer.secretOctets = .ok secret) :
    signHmac signer url session = .ok () { session with
      builder := { session.builder with
        request := signedBy signer name secret text session.builder.request }
      events := session.events ++
        [.logged (signer.record (signer.signature secret text))] } := by
  refine signHmac_answered_iff.2 ⟨text, secret, _, isText, isSecret, ?_, rfl⟩
  rw [named]
  rfl

/-- A key that has signed had a secret and a text to sign. -/
theorem builder_of_signHmac {signer : HmacSigner} {url name : String} {session next : Session}
    (named : signer.headerName = .text name) (signed : signHmac signer url session = .ok () next) :
    ∃ text secret, HmacSigner.stringToSign session.builder.request (.text url) = .ok text ∧
      signer.secretOctets = .ok secret ∧
      next.builder = { session.builder with
        request := signedBy signer name secret text session.builder.request } := by
  obtain ⟨text, secret, headers, isText, isSecret, replaced, rfl⟩ := signHmac_answered_iff.1 signed
  rw [named] at replaced
  cases replaced
  exact ⟨text, secret, isText, isSecret, rfl⟩

end Act

/-- What is built was signed by the key of the builder: one header is the signature, and at most the
charset and the length of the body were changed besides. -/
theorem built_of_signed {world : World} {session built : Session} {reply : Reply}
    {signer : HmacSigner} {name : String}
    (isSigner : session.builder.calculator = some (.hmac signer))
    (named : signer.headerName = .text name)
    (isBuilt : Act.step world .build session = .ok reply built) :
    ∃ url text secret, session.builder.signingUrl = .ok url ∧
      HmacSigner.stringToSign session.builder.request (.text url) = .ok text ∧
      signer.secretOctets = .ok secret ∧
      ∃ charset length, built.builder = { session.builder with
        request := { (Act.signedBy signer name secret text session.builder.request).withBody
          fun body => { body with length } with charset } } := by
  obtain ⟨-, signed, isSigned, settles⟩ := Act.build_answered_iff.1 isBuilt
  obtain ⟨url, isUrl, run⟩ := Act.signBy_of_sign isSigner isSigned
  obtain ⟨text, secret, isText, isSecret, isLeft⟩ := Act.builder_of_signHmac named run
  obtain ⟨charset, length, isBuilder⟩ := (Act.leads_settle signed.builder).of_answered rfl settles
  refine ⟨url, text, secret, isUrl, isText, isSecret, charset, length, isBuilder.trans ?_⟩
  rw [isLeft]
  rfl

/-! ## What is signed -/

/-- The URL to sign: the text that the URI was set by, or else the text of the URI, up to its
query. -/
def Uri.signedUrl? (base : Uri) (given : Option String) : Except Uri.Fault String :=
  let text : Except Uri.Fault String := match given with
    | some text => .ok text
    | none => base.render
  text.map fun text => String.ofList (text.toList.takeWhile (· ≠ '?'))

theorem Builder.signingUrl_eq (builder : Builder) :
    builder.signingUrl = builder.request.base.signedUrl? builder.urlText := by
  rw [signingUrl]
  simp only [Text.before_eq_takeWhile]
  rfl

/-- The octets of the secret: those of its text, or those that it holds. -/
inductive HmacSigner.Secret (signer : HmacSigner) : Octets → Prop where
  | text {s : String} (isText : signer.secret = .text s) :
      Secret signer s.toByteArray.data.toList
  | octets {holder : OctetHolder} {bytes : Octets} (holds : signer.secret = .octets holder bytes) :
      Secret signer bytes

theorem HmacSigner.secret_of_secretOctets {signer : HmacSigner} {secret : Octets}
    (isSecret : signer.secretOctets = .ok secret) : signer.Secret secret := by
  rw [secretOctets] at isSecret
  split at isSecret
  · rename_i isText
    obtain rfl := Except.ok.inj isSecret
    rw [Text.Utf8.encode_toList]
    exact .text isText
  · cases isSecret
  · rename_i holds
    obtain rfl := Except.ok.inj isSecret
    exact .octets holds
  · cases isSecret

theorem Builder.New.written {builder : Builder} (new : builder.New)
    (reached : builder.Reached Builder.Telling) : builder.Written none where
  based := Builder.based_of_reached reached
  coherent := Request.coherent_of_underived new.blank.1
  takes := new.takes
  urlText := new.blank.2.1

/-- **A request that was built by a key has one signature, which is the one of its method, the URL to
sign and the query that a receiver makes of the query of its target**, after any run of calls that
returned. -/
theorem signature_of_build {world : World} {session built : Session} {steps : List Step}
    {reply : Reply} {signer : HmacSigner} {name : String}
    (new : session.builder.New) (reached : session.builder.Reached Builder.Telling)
    (textual : ∀ step ∈ steps, step.Throughout (·.isTextual = true))
    (answered : session.Answered world steps)
    (isSigner : (session.run world steps).builder.calculator = some (.hmac signer))
    (named : signer.headerName = .text name)
    (isBuilt : Act.step world .build (session.run world steps) = .ok reply built) :
    ∃ secret method url target query, signer.Secret secret ∧
      built.builder.request.method.orElse (.text "") = .text method ∧
      built.builder.request.base.signedUrl?
        ((session.trail world steps).foldl Step.afterUrl none) = .ok url ∧
      Act.answer (Act.step world (.read (.target .encoded))) built = .ok (.target target) ∧
      received target.query = .ok query ∧
      built.builder.request.headers.get? (.text name) =
        some [.text ("HMAC keyId=\"" ++ signer.keyId.written ++ "\",algorithm=\"hmac-" ++
          signer.algorithm.name ++ "\",signature=\"" ++
          Octets.Base64.encode (signer.algorithm.hmac secret
            (signedText method url query).toByteArray.data.toList) ++ "\"")] := by
  have written := written_run (new.written reached) textual answered
  obtain ⟨contributions, lists⟩ := written.based.lists
  obtain ⟨url, text, secret, isUrl, isText, isSecret, charset, length, isBuilder⟩ :=
    built_of_signed isSigner named isBuilt
  obtain ⟨method, isMethod, isSigned⟩ := HmacSigner.eq_signedText_of_stringToSign lists isText
  have same : built.builder.request.SameTarget (session.run world steps).builder.request := by
    rw [isBuilder]
    exact ⟨rfl, rfl, rfl⟩
  have based := written.based.congr same.base same.params
  have method' :
      built.builder.request.method = (session.run world steps).builder.request.method := by
    rw [isBuilder]
    rfl
  have header : built.builder.request.headers.get? (.text name) = some [.text (signer.headerValue
      (signer.signature secret text))] := by
    rw [isBuilder]
    exact FieldMap.get?_put _ _ _
  rw [isSigned, HmacSigner.signature, Text.Utf8.encode_toList] at header
  rw [Builder.signingUrl_eq, written.urlText, ← same.base] at isUrl
  have lists : built.builder.request.paramsOrEmpty.Lists (grouped contributions) := by
    rw [Request.paramsOrEmpty, same.params]
    exact lists
  have read := Act.answer_target (written.coherent.congr same) world .encoded
  rw [Request.compose_of_lists based.base lists .encoded] at read
  exact ⟨secret, method, url, _, _, HmacSigner.secret_of_secretOctets isSecret,
    method' ▸ isMethod, isUrl, read, Query.received_spread (grouped contributions), header⟩

/-- A calculator adds a parameter in a first build; then a key signs. -/
theorem signature_of_second_build :
    let signer : HmacSigner := { keyId := .text "id", secret := .text "key" }
    let steps : List Step := [.setUrl (.text "http://h/p?b=%32&a"),
      .setCalculator (some (.script 0 fun _ => [.call (.addQueryParam (.text "a") (.text "x y"))])),
      .build, .setCalculator (some (.hmac signer))]
    ∃ built, Act.step {} .build
        (Session.run {} { builder := Builder.ofSettings {} .absent .absent } steps) =
          .ok .built built ∧
      Act.answer (Act.step {} (.read (.target .encoded))) built =
        .ok (.target ⟨some "http", some "h", none, none, some "/p", some "b=2&a&a=x%20y"⟩) ∧
      built.builder.request.headers.get? (.text "Authorization") =
        some [.text ("HMAC keyId=\"id\",algorithm=\"hmac-sha256\",signature=\"" ++
          Octets.Base64.encode (Algorithm.sha256.hmac "key".toByteArray.data.toList
            "GET\nhttp://h/p\na&a=x%20y&b=2".toByteArray.data.toList) ++ "\"")] := by
  intro signer steps
  let session : Session := { builder := Builder.ofSettings {} .absent .absent }
  let before := session.run {} steps
  have isSigner : before.builder.calculator = some (.hmac signer) := rfl
  have named : signer.headerName = .text "Authorization" := rfl
  have builds : ∃ built, Act.step {} .build before = .ok .built built := by
    have lists : before.builder.request.paramsOrEmpty.Lists
        [("b", [some "2"]), ("a", [none, some "x y"])] := ⟨rfl, rfl⟩
    have isMethod : before.builder.request.method = .ofText? (some "GET") := rfl
    have isText := HmacSigner.stringToSign_of_lists lists isMethod "http://h/p"
    have isUrl : before.builder.signingUrl = .ok "http://h/p" := rfl
    have isSecret : signer.secretOctets = .ok (Text.Utf8.encode "key".toList) := rfl
    let logged := Act.left (Act.log [Act.signingRecord "http://h/p"]) before
    obtain ⟨signed, isSigned, settles⟩ : ∃ signed, Act.signHmac signer "http://h/p" logged =
        .ok () signed ∧ ∃ built, Act.settle signed = .ok () built :=
      ⟨_, Act.signHmac_eq named isText isSecret, _, rfl⟩
    obtain ⟨built, settles⟩ := settles
    have signs : ∀ take, Act.sign take before = .ok () signed := fun take =>
      (Act.sign_eq_signBy isSigner isUrl).trans isSigned
    refine ⟨built, ?_⟩
    show (Act.finish _ >>= fun _ => pure Reply.built) before = _
    simp [Act.finish_eq, signs, settles]
  obtain ⟨built, isBuilt⟩ := builds
  have textual : ∀ step ∈ steps, step.Throughout (·.isTextual = true) := by
    simp only [steps, List.forall_mem_cons]
    refine ⟨.intro rfl nofun, .intro rfl ?_, .intro rfl nofun, .intro rfl nofun, nofun⟩
    rintro streams script isScript first inner mem
    cases isScript
    obtain rfl := List.mem_singleton.1 mem
    exact .intro rfl nofun
  have answered : session.Answered {} steps :=
    ⟨.inr ⟨_, _, rfl⟩, .inr ⟨_, _, rfl⟩, .inr ⟨_, _, rfl⟩, .inr ⟨_, _, rfl⟩, trivial⟩
  obtain ⟨secret, method, url, target, query, isSecret, isMethod, isUrl, read, isQuery, header⟩ :=
    signature_of_build (.fresh {} .absent .absent) (.fresh {} .absent .absent) textual answered
      isSigner named isBuilt
  -- The build leaves where the request goes, and its method, as they were before it.
  obtain ⟨_, _, _, -, -, -, charset, length, isBuilder⟩ := built_of_signed isSigner named isBuilt
  have same : built.builder.request.SameTarget before.builder.request := by
    rw [isBuilder]
    exact ⟨rfl, rfl, rfl⟩
  have coherent : built.builder.request.Coherent :=
    (Request.coherent_of_underived rfl).congr same
  have isTarget : before.builder.request.compose .encoded =
      .ok ⟨some "http", some "h", none, none, some "/p", some "b=2&a&a=x%20y"⟩ := rfl
  have composed := Act.answer_target coherent {} .encoded
  rw [Request.compose_congr same.base same.params, isTarget] at composed
  obtain rfl := Reply.target.inj (Except.ok.inj (read.symm.trans composed))
  have sorts : received (some "b=2&a&a=x%20y") = .ok "a&a=x%20y&b=2" := by
    have written : write .encoded [("b", some "2"), ("a", none), ("a", some "x y")] =
        "b=2&a&a=x%20y" := by decide +kernel
    have inOrder : sorted [("b", some "2"), ("a", none), ("a", some "x y")] =
        [("a", none), ("a", some "x y"), ("b", some "2")] := by simp [sorted, List.mergeSort]
    rw [← written, Query.received_write, inOrder]
    decide +kernel
  obtain rfl := Except.ok.inj (isQuery.symm.trans sorts)
  have isGet : built.builder.request.method = .text "GET" := by
    rw [isBuilder]
    rfl
  rw [isGet] at isMethod
  obtain rfl := Datum.text.inj isMethod
  obtain rfl := Except.ok.inj isUrl
  cases isSecret with
  | text isText =>
      obtain rfl := Datum.text.inj isText
      exact ⟨built, isBuilt, read, header⟩
  | octets holds => cases holds

end Outbound
