/-
# Outbound.Proofs.Session.Settling — what a build infers of a request

After signing a build infers the charset and the length of the body, each from one
header and only where it is not known.  What was inferred completes the request
(`Request.completed`); neither inference reads what the other one writes, so both are
told of the request that was signed (`settle_eq`), and a build that was answered had
both and the text of the URI (`inferred_of_settle`).
-/
import Mathlib.Data.Int.Order.Basic
import Outbound.Proofs.Session.Keeps

namespace Outbound

set_option autoImplicit false

theorem Datum.isPresent_iff {d : Datum} : d.isPresent = true ↔ d ≠ .absent := by
  cases d <;> simp [isPresent]

theorem Datum.isNatural_int (n : Int) : (Datum.int n).isNatural = .ok (decide (0 ≤ n)) := by
  rw [isNatural, order?, Except.map]
  rcases lt_trichotomy n 0 with negative | rfl | positive
  · rw [compare_lt_iff_lt.2 negative, decide_eq_false (by omega)]
    rfl
  · rfl
  · rw [compare_gt_iff_gt.2 positive, decide_eq_true (by omega)]
    rfl

def Request.completed (request : Request) (charset : Option String) (length : Option Int) :
    Request :=
  { request.withBody fun body => { body with length := (length.map Datum.int).getD body.length } with
    charset := (charset.map Datum.text).getD request.charset }

@[simp] theorem Request.uriText_completed (request : Request) (charset : Option String)
    (length : Option Int) : (request.completed charset length).uriText = request.uriText := rfl

/-- The length is not read off the charset. -/
@[simp] theorem Request.inferredLength?_charset (request : Request) (charset : Option String) :
    (request.completed charset none).inferredLength? = request.inferredLength? := rfl

/-- A URI has a text if it has a scheme and a host. -/
theorem Uri.exists_render_iff {uri : Uri} :
    (∃ text, uri.render = .ok text) ↔ uri.scheme.isSome ∧ uri.host.isSome := by
  cases isScheme : uri.scheme <;> cases isHost : uri.host <;> simp [render, isScheme, isHost]

theorem Request.exists_uriText_iff {request : Request} :
    (∃ text, request.uriText = .ok text) ↔
      ∀ uri ∈ request.uri, uri.scheme.isSome ∧ uri.host.isSome := by
  rw [uriText]
  cases request.uri with
  | none => simp
  | some uri => simp [Uri.exists_render_iff]

def Session.withRequest (session : Session) (request : Request) (more : List Event) : Session :=
  { session with
    builder := { session.builder with request }
    events := session.events ++ more }

namespace Act

variable {session next : Session} {charset : Option String} {length : Option Int} {text : String}

theorem inferCharset_eq (isCharset : session.builder.request.inferredCharset? = .ok charset) :
    ∃ more, inferCharset session = .ok ()
      (session.withRequest (session.builder.request.completed charset none) more) := by
  cases charset with
  | none =>
      refine ⟨[], bind_answered_iff.2 ⟨session.builder.request, session, rfl, ?_⟩⟩
      refine bind_answered_iff.2 ⟨none, session, lift_of_ok isCharset session, ?_⟩
      rw [Session.withRequest, List.append_nil]
      rfl
  | some charset =>
      refine ⟨[.logged ⟨.debug, logPrefix ++ " Body encoding taken from Content-Type: " ++ charset⟩],
        bind_answered_iff.2 ⟨session.builder.request, session, rfl, ?_⟩⟩
      exact bind_answered_iff.2 ⟨some charset, session, lift_of_ok isCharset session, rfl⟩

theorem inferLength_eq (isLength : session.builder.request.inferredLength? = .ok length) :
    ∃ more, inferLength session = .ok ()
      (session.withRequest (session.builder.request.completed none length) more) := by
  cases length with
  | none =>
      refine ⟨[], bind_answered_iff.2 ⟨session.builder.request, session, rfl, ?_⟩⟩
      refine bind_answered_iff.2 ⟨none, session, lift_of_ok isLength session, ?_⟩
      rw [Session.withRequest, List.append_nil]
      rfl
  | some length =>
      refine ⟨[.logged ⟨.debug,
          logPrefix ++ " Content length taken from Content-Length: " ++ toString length⟩],
        bind_answered_iff.2 ⟨session.builder.request, session, rfl, ?_⟩⟩
      exact bind_answered_iff.2 ⟨some length, session, lift_of_ok isLength session, rfl⟩

/-- A request whose charset, length and URI can be told is completed. -/
theorem settle_eq (isCharset : session.builder.request.inferredCharset? = .ok charset)
    (isLength : session.builder.request.inferredLength? = .ok length)
    (isText : session.builder.request.uriText = .ok text) :
    ∃ more, settle session = .ok ()
      (session.withRequest (session.builder.request.completed charset length) more) := by
  obtain ⟨first, charsetTold⟩ := inferCharset_eq isCharset
  let mid := session.withRequest (session.builder.request.completed charset none) first
  have isLength : mid.builder.request.inferredLength? = .ok length :=
    (session.builder.request.inferredLength?_charset charset).trans isLength
  obtain ⟨second, lengthTold⟩ := inferLength_eq isLength
  let last := mid.withRequest (mid.builder.request.completed none length) second
  have isText : last.builder.request.uriText = .ok text :=
    (mid.builder.request.uriText_completed none length).trans <|
      (session.builder.request.uriText_completed charset none).trans isText
  let told := Event.logged
    ⟨.debug, logPrefix ++ " Built request: " ++ last.builder.request.method.written ++ " " ++ text⟩
  have settled : settle session = .ok () { last with events := last.events ++ [told] } := by
    refine bind_answered_iff.2 ⟨(), mid, charsetTold, ?_⟩
    refine bind_answered_iff.2 ⟨(), last, lengthTold, ?_⟩
    refine bind_answered_iff.2 ⟨last.builder.request, last, rfl, ?_⟩
    exact bind_answered_iff.2 ⟨text, last, lift_of_ok isText last, rfl⟩
  refine ⟨first ++ second ++ [told], settled.trans ?_⟩
  simp only [last, mid, Session.withRequest, List.append_assoc]
  rfl

theorem charset_of_inferCharset (answered : inferCharset session = .ok () next) :
    ∃ charset, session.builder.request.inferredCharset? = .ok charset := by
  obtain ⟨request, same, isRequest, rest⟩ := bind_answered_iff.1 answered
  cases isRequest
  obtain ⟨charset, isCharset, -⟩ := lift_bind_answered rest
  exact ⟨charset, isCharset⟩

theorem length_of_inferLength (answered : inferLength session = .ok () next) :
    ∃ length, session.builder.request.inferredLength? = .ok length := by
  obtain ⟨request, same, isRequest, rest⟩ := bind_answered_iff.1 answered
  cases isRequest
  obtain ⟨length, isLength, -⟩ := lift_bind_answered rest
  exact ⟨length, isLength⟩

/-- A request that was completed is one whose charset, length and URI could be told. -/
theorem inferred_of_settle (answered : settle session = .ok () next) :
    ∃ charset length text more, session.builder.request.inferredCharset? = .ok charset ∧
      session.builder.request.inferredLength? = .ok length ∧
      session.builder.request.uriText = .ok text ∧
      next = session.withRequest (session.builder.request.completed charset length) more := by
  obtain ⟨u, mid, charsetTold, rest⟩ := bind_answered_iff.1 answered
  obtain ⟨charset, isCharset⟩ := charset_of_inferCharset charsetTold
  obtain ⟨first, isMid⟩ := inferCharset_eq isCharset
  obtain ⟨-, rfl⟩ := EStateM.Result.ok.inj (isMid.symm.trans charsetTold)
  obtain ⟨u, last, lengthTold, rest⟩ := bind_answered_iff.1 rest
  obtain ⟨length, isLength⟩ := length_of_inferLength lengthTold
  obtain ⟨second, isLast⟩ := inferLength_eq isLength
  have isLength : session.builder.request.inferredLength? = .ok length :=
    (session.builder.request.inferredLength?_charset charset).symm.trans isLength
  obtain ⟨-, rfl⟩ := EStateM.Result.ok.inj (isLast.symm.trans lengthTold)
  obtain ⟨request, same, isRequest, rest⟩ := bind_answered_iff.1 rest
  cases isRequest
  obtain ⟨text, isText, -⟩ := lift_bind_answered rest
  have isText : session.builder.request.uriText = .ok text :=
    (session.builder.request.uriText_completed charset none).symm.trans <|
      (Request.uriText_completed _ none length).symm.trans isText
  obtain ⟨more, settled⟩ := settle_eq isCharset isLength isText
  obtain ⟨-, rfl⟩ := EStateM.Result.ok.inj (settled.symm.trans answered)
  exact ⟨charset, length, text, more, isCharset, isLength, isText, rfl⟩

/-- A build signs, then completes the request. -/
theorem build_answered_iff {world : World} {reply : Reply} :
    step world .build session = .ok reply next ↔ reply = .built ∧ ∃ signed,
      sign (fun inner => discard (stepWith world (buildWithin world (nestingLimit - 1)) inner))
          session = .ok () signed ∧ settle signed = .ok () next := by
  constructor
  · intro answered
    obtain ⟨u, mid, finished, done⟩ := bind_answered_iff.1 answered
    cases done
    obtain ⟨u, signed, isSigned, settled⟩ := bind_answered_iff.1 finished
    exact ⟨rfl, signed, isSigned, settled⟩
  · rintro ⟨rfl, signed, isSigned, settled⟩
    have finished : finish _ session = .ok () next :=
      bind_answered_iff.2 ⟨(), signed, isSigned, settled⟩
    exact bind_answered_iff.2 ⟨(), next, finished, rfl⟩

end Act

end Outbound
