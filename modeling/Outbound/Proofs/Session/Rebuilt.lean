/-
# Outbound.Proofs.Session.Rebuilt — a request that was built is built again as it is

A calculator that takes no steps and asks nobody sets at most one header, and what it
sets it to depends on nothing that a build changes (`Request.Signs`,
`Request.Signs.again`).  The header may be one that the charset or the length is
inferred from.  But it is the same header each time, and what was inferred from it is
either known the next time or inferred to be the same (`Request.completed_again`);
the latter happens where a length below zero is stated.

So one build leaves a builder that a build leaves as it is (`Builder.Built`), and any
number of builds after the first one are answered and change nothing
(`unchanged_of_builds`).
-/
import Outbound.Proofs.Auth.Header
import Outbound.Proofs.FieldMap.Lookup
import Outbound.Proofs.Session.Settling
import Outbound.Proofs.Session.Trail

namespace Outbound

set_option autoImplicit false

/-! ## Signing again -/

/-- The calculator signs by a key of its own. -/
inductive Calculator.Static : Calculator → Prop where
  | hmac (signer : HmacSigner) : Static (.hmac signer)
  | header {handler : AuthHandler} (own : handler.source.resolver = none) : Static (.header handler)

/-- What a calculator leaves as the headers of a request that it signs under a URL: one is
replaced, unless it has no key. -/
inductive Request.Signs (request : Request) (url : String) : Calculator → Fields → Prop where
  | hmac {signer : HmacSigner} {text : String} {secret : Octets} {headers : Fields}
      (isText : HmacSigner.stringToSign request (.text url) = .ok text)
      (isSecret : signer.secretOctets = .ok secret)
      (replaced : request.headers.replaceDatum signer.headerName
        [.text (signer.headerValue (signer.signature secret text))] = .ok headers) :
      Signs request url (.hmac signer) headers
  | header {handler : AuthHandler} {context : SigningContext} {key : String} {headers : Fields}
      (own : handler.source.resolver = none)
      (isContext : request.signingContext url = .ok context)
      (isKey : KeySource.nonempty handler.source.key = some key)
      (replaced : request.headers.replaceDatum handler.headerName
        [.text (handler.headerValue key)] = .ok headers) :
      Signs request url (.header handler) headers
  | keyless {handler : AuthHandler} {context : SigningContext}
      (own : handler.source.resolver = none)
      (isContext : request.signingContext url = .ok context)
      (noKey : KeySource.nonempty handler.source.key = none) :
      Signs request url (.header handler) request.headers

namespace Act

variable {session next : Session} {url : String} {calculator : Calculator} {headers : Fields}

/-- The header that a handler without a resolver gives. -/
theorem header?_of_own {handler : AuthHandler} (own : handler.source.resolver = none)
    (context : SigningContext) (events : List Event) : ∃ more,
      handler.header? context events =
        .ok ((KeySource.nonempty handler.source.key).map fun key =>
          (handler.headerName, handler.headerValue key)) (events ++ more) := by
  have isKey : handler.source.key? context = .ok (KeySource.nonempty handler.source.key) := by
    rw [KeySource.key?, own]
  have nobody : handler.source.asked context = [] := by rw [KeySource.asked, own]
  rw [AuthHandler.header?_eq, isKey, nobody, List.append_nil]
  cases KeySource.nonempty handler.source.key with
  | none =>
      refine ⟨[], ?_⟩
      rw [List.append_nil]
      rfl
  | some key => exact ⟨_, rfl⟩

/-- A calculator that can sign a request does. -/
theorem signBy_of_signs (signs : session.builder.request.Signs url calculator headers)
    (take : Step → Act Unit) : ∃ more, signBy take calculator url session =
      .ok () (session.withRequest { session.builder.request with headers } more) := by
  cases signs with
  | @hmac signer text secret _ isText isSecret replaced =>
      exact ⟨_, signHmac_answered_iff.2 ⟨text, secret, headers, isText, isSecret, replaced, rfl⟩⟩
  | @header handler context key _ own isContext isKey replaced =>
      obtain ⟨more, gives⟩ := header?_of_own own context session.events
      rw [isKey] at gives
      exact ⟨more, signHeader_answered_iff.2
        ⟨context, _, isContext, .inr ⟨_, _, headers, gives, replaced, rfl⟩⟩⟩
  | @keyless handler context own isContext noKey =>
      obtain ⟨more, gives⟩ := header?_of_own own context session.events
      rw [noKey] at gives
      refine ⟨more ++ [.logged (unsignedRecord url)],
        signHeader_answered_iff.2 ⟨context, _, isContext, .inl ⟨gives, ?_⟩⟩⟩
      rw [Session.withRequest, List.append_assoc]

/-- A calculator with a key of its own that has signed a request could sign it. -/
theorem signs_of_signBy {take : Step → Act Unit} (static : calculator.Static)
    (signed : signBy take calculator url session = .ok () next) :
    ∃ headers more, session.builder.request.Signs url calculator headers ∧
      next = session.withRequest { session.builder.request with headers } more := by
  have signs : ∃ headers, session.builder.request.Signs url calculator headers := by
    cases static with
    | hmac signer =>
        obtain ⟨text, secret, headers, isText, isSecret, replaced, -⟩ :=
          signHmac_answered_iff.1 signed
        exact ⟨headers, .hmac isText isSecret replaced⟩
    | @header handler own =>
        obtain ⟨context, events, isContext, given⟩ := signHeader_answered_iff.1 signed
        obtain ⟨more, gives⟩ := header?_of_own own context session.events
        cases isKey : KeySource.nonempty handler.source.key with
        | none => exact ⟨_, .keyless own isContext isKey⟩
        | some key =>
            rw [isKey] at gives
            rcases given with ⟨given, -⟩ | ⟨name, value, headers, given, replaced, -⟩
            · cases gives.symm.trans given
            · cases gives.symm.trans given
              exact ⟨headers, .header own isContext isKey replaced⟩
  obtain ⟨headers, signs⟩ := signs
  obtain ⟨more, again⟩ := signBy_of_signs signs take
  obtain ⟨-, rfl⟩ := EStateM.Result.ok.inj (again.symm.trans signed)
  exact ⟨headers, more, signs, rfl⟩

end Act

namespace Request

variable {request : Request}

/-- A request can be signed by a header when the values of its headers can be joined. -/
theorem exists_signingContext_iff {url : String} :
    (∃ context, request.signingContext url = .ok context) ↔
      ∃ entries, joinedFields request.headers.fields = .ok entries := by
  constructor
  · rintro ⟨context, isContext⟩
    obtain ⟨entries, areEntries, -⟩ := bind_eq_ok_iff.1 isContext
    exact ⟨entries, areEntries⟩
  · rintro ⟨entries, areEntries⟩
    exact ⟨_, bind_eq_ok_iff.2 ⟨entries, areEntries, rfl⟩⟩

/-- Values can be joined as before where a text replaced some of them. -/
theorem joinedFields_of_replaced {m left : Fields} {name : Datum} {value : String}
    (joined : ∃ entries, joinedFields m.fields = .ok entries)
    (replaced : m.replaceDatum name [.text value] = .ok left) :
    ∃ entries, joinedFields left.fields = .ok entries := by
  refine exists_mapM_eq_ok_iff.2 fun f mem => ?_
  rcases FieldMap.values_of_replaceDatum replaced f mem with old | single
  · exact exists_mapM_eq_ok_iff.1 joined f old
  · rw [single]
    exact ⟨_, rfl⟩

/-- What was signed and completed is signed by the same header. -/
theorem Signs.again {url : String} {calculator : Calculator} {headers : Fields}
    (signs : request.Signs url calculator headers) (charset : Option String)
    (length : Option Int) :
    (({ request with headers }).completed charset length).Signs url calculator headers := by
  cases signs with
  | hmac isText isSecret replaced =>
      exact .hmac isText isSecret (FieldMap.replaceDatum_again replaced)
  | header own isContext isKey replaced =>
      have joined := exists_signingContext_iff.1 ⟨_, isContext⟩
      have still : ∃ context, (({ request with headers }).completed charset length).signingContext
          url = .ok context :=
        exists_signingContext_iff.2 (joinedFields_of_replaced joined replaced)
      obtain ⟨context, isContext⟩ := still
      exact .header own isContext isKey (FieldMap.replaceDatum_again replaced)
  | keyless own isContext noKey =>
      have joined := exists_signingContext_iff.1 ⟨_, isContext⟩
      have still : ∃ context, (request.completed charset length).signingContext url = .ok context :=
        exists_signingContext_iff.2 joined
      obtain ⟨context, isContext⟩ := still
      exact .keyless own isContext noKey

/-! ## Inferring again -/

/-- A charset that was inferred is known. -/
theorem inferredCharset?_completed {charset : Option String} (length : Option Int)
    (isCharset : request.inferredCharset? = .ok charset) :
    (request.completed charset length).inferredCharset? = .ok none := by
  cases charset with
  | none => exact isCharset
  | some charset => rfl

/-- A length that was inferred is known, or inferred again from the same header. -/
theorem inferredLength?_completed {length : Option Int} (charset : Option String)
    (isLength : request.inferredLength? = .ok length) :
    (request.completed charset length).inferredLength? = .ok none ∨
      (request.completed charset length).inferredLength? = .ok length := by
  cases length with
  | none => exact .inl isLength
  | some n =>
      have given : (request.completed charset (some n)).inferredLength? =
          if decide (0 ≤ n) || request.body.stream.isPresent then .ok none
          else ((request.headers.firstValue (.text "Content-Length")).mapError Fault.misuse).bind
            Content.lengthOf := by
        show ((Datum.int n).isNatural.mapError Fault.misuse >>= _) = _
        rw [Datum.isNatural_int]
        rfl
      obtain ⟨isKnown, isNatural, read⟩ := bind_eq_ok_iff.1 isLength
      split at read
      · cases read
      · rename_i unknown
        rw [Bool.or_eq_true, not_or, Bool.not_eq_true, Bool.not_eq_true] at unknown
        rw [given, unknown.2, Bool.or_false]
        split
        · exact .inl rfl
        · exact .inr read

/-- What a completed request is completed with leaves it as it is. -/
theorem completed_again {charset : Option String} {length : Option Int}
    (isCharset : request.inferredCharset? = .ok charset)
    (isLength : request.inferredLength? = .ok length) :
    ∃ length', (request.completed charset length).inferredCharset? = .ok none ∧
      (request.completed charset length).inferredLength? = .ok length' ∧
      (request.completed charset length).completed none length' =
        request.completed charset length := by
  rcases inferredLength?_completed charset isLength with known | again
  · exact ⟨none, inferredCharset?_completed length isCharset, known, rfl⟩
  · refine ⟨length, inferredCharset?_completed length isCharset, again, ?_⟩
    cases length <;> rfl

end Request

/-! ## Building again -/

/-- The builder is left as it is by a build: its calculator sets no header but to what it is, and
nothing can be inferred that is not so already. -/
structure Builder.Built (builder : Builder) : Prop where
  signs : ∀ calculator ∈ builder.calculator, ∃ url, builder.signingUrl = .ok url ∧
    builder.request.Signs url calculator builder.request.headers
  settles : ∃ charset length text, builder.request.inferredCharset? = .ok charset ∧
    builder.request.inferredLength? = .ok length ∧ builder.request.uriText = .ok text ∧
    builder.request.completed charset length = builder.request

namespace Act

variable {world : World} {session next : Session} {reply : Reply}

/-- A build that signs by a key of its own, if it signs, leaves a builder that is built. -/
theorem built_of_build
    (static : ∀ calculator ∈ session.builder.calculator, calculator.Static)
    (answered : step world .build session = .ok reply next) : next.builder.Built := by
  obtain ⟨-, signed, isSigned, settled⟩ := build_answered_iff.1 answered
  obtain ⟨charset, length, text, more, isCharset, isLength, isText, rfl⟩ :=
    inferred_of_settle settled
  obtain ⟨length', isCharset', isLength', same⟩ := Request.completed_again isCharset isLength
  refine ⟨?_, none, length', text, isCharset', isLength', isText, same⟩
  cases isCalculator : session.builder.calculator with
  | none =>
      obtain rfl := eq_of_sign isCalculator isSigned
      intro calculator isOther
      have isOther : signed.builder.calculator = some calculator := isOther
      rw [isCalculator] at isOther
      cases isOther
  | some calculator =>
      obtain ⟨url, isUrl, run⟩ := signBy_of_sign isCalculator isSigned
      obtain ⟨headers, told, signs, rfl⟩ := signs_of_signBy (static calculator isCalculator) run
      intro other isOther
      have isOther : session.builder.calculator = some other := isOther
      obtain rfl := Option.some.inj (isCalculator.symm.trans isOther)
      exact ⟨url, isUrl, signs.again charset length⟩

/-- A builder that is built signs, and sets no header but to what it is. -/
theorem sign_of_built (built : session.builder.Built) (take : Step → Act Unit) :
    ∃ more, sign take session = .ok () { session with events := session.events ++ more } := by
  cases isCalculator : session.builder.calculator with
  | none =>
      refine ⟨[], ?_⟩
      rw [sign_eq, isCalculator, List.append_nil]
      rfl
  | some calculator =>
      obtain ⟨url, isUrl, signs⟩ := built.signs calculator isCalculator
      let logged := left (log [signingRecord url]) session
      have signs : logged.builder.request.Signs url calculator logged.builder.request.headers :=
        signs
      obtain ⟨more, run⟩ := signBy_of_signs signs take
      refine ⟨[.logged (signingRecord url)] ++ more, ?_⟩
      rw [sign_eq_signBy isCalculator isUrl, run, ← List.append_assoc]
      rfl

/-- A builder that is built is built again, and nothing but what happened is another. -/
theorem build_of_built (world : World) (built : session.builder.Built) : ∃ more,
    step world .build session = .ok .built { session with events := session.events ++ more } := by
  obtain ⟨told, signed⟩ := sign_of_built built fun inner =>
    discard (stepWith world (buildWithin world (nestingLimit - 1)) inner)
  let mid : Session := { session with events := session.events ++ told }
  have still : mid.builder.Built := built
  obtain ⟨charset, length, text, isCharset, isLength, isText, same⟩ := still.settles
  obtain ⟨more, settled⟩ := settle_eq isCharset isLength isText
  refine ⟨told ++ more, build_answered_iff.2 ⟨rfl, mid, signed, settled.trans ?_⟩⟩
  rw [same, ← List.append_assoc]
  rfl

/-- **However often a request is built after a first build, each build is answered and changes
nothing**, if it is signed by a key of the calculator's own or not at all. -/
theorem unchanged_of_builds {session built : Session}
    (static : ∀ calculator ∈ session.builder.calculator, calculator.Static)
    (first : step world .build session = .ok reply built) (n : Nat) :
    built.Answered world (List.replicate n .build) ∧ ∃ more,
      built.run world (List.replicate n .build) = { built with events := built.events ++ more } := by
  have isBuilt := built_of_build static first
  clear first
  induction n generalizing built with
  | zero =>
      refine ⟨trivial, [], ?_⟩
      rw [List.append_nil]
      rfl
  | succ n ih =>
      obtain ⟨told, again⟩ := build_of_built world isBuilt
      let next : Session := { built with events := built.events ++ told }
      have isLeft : left (step world .build) built = next := by rw [left, again]
      have still : next.builder.Built := isBuilt
      obtain ⟨answered, more, run⟩ := ih still
      rw [List.replicate_succ]
      refine ⟨⟨.inr ⟨_, _, again⟩, ?_⟩, told ++ more, ?_⟩
      · rw [isLeft]
        exact answered
      · show Session.run world (left (step world .build) built) (List.replicate n .build) = _
        rw [isLeft, run, ← List.append_assoc]

/-- The header that is signed names the charset, and a length below zero is inferred each time. -/
theorem unchanged_of_builds_by_content_type :
    let handler : AuthHandler :=
      .custom (.text "CONTENT-TYPE") { key := some "text/plain; charset='utf-8'" }
    let session := Session.run {} { builder := .ofSettings {} .absent .absent }
      [.call (.setHeader (.text "Content-Type") (.text "text/html; charset=ascii")),
        .call (.setHeader (.text "Content-Length") (.text "-7")),
        .setCalculator (some (.header handler))]
    ∃ built, step {} .build session = .ok .built built ∧
      built.builder.request.charset = .text "utf-8" ∧
      built.builder.request.body.length = .int (-7) ∧
      ∀ n, built.Answered {} (List.replicate n .build) ∧ ∃ more,
        built.run {} (List.replicate n .build) = { built with events := built.events ++ more } := by
  intro handler session
  have static : ∀ calculator ∈ session.builder.calculator, calculator.Static := by
    intro calculator isCalculator
    obtain rfl := Option.some.inj isCalculator
    exact .header rfl
  have first : ∃ built, step {} .build session = .ok .built built ∧
      built.builder.request.charset = .text "utf-8" ∧
      built.builder.request.body.length = .int (-7) := ⟨_, rfl, rfl, rfl⟩
  obtain ⟨built, isBuilt, isCharset, isLength⟩ := first
  exact ⟨built, isBuilt, isCharset, isLength, unchanged_of_builds static isBuilt⟩

end Act

end Outbound
