/-
# Outbound.Proofs.Session.Inferred — the charset and the length that a build infers

Nothing is signed and all that is read of the content headers are texts
(`Builder.Infers`).  Of either header the first value counts (`Request.headerText?`).

What is inferred is said by what was known before and by what that value states: the
length that is left (`Request.LengthAfter`) and the charset (`Request.CharsetAfter`).
An integer is taken as it is stated, also one below zero; and a build fails when it is
stated in more digits than a numeral may have, but otherwise only for a URI that has no
text (`inferred_of_build`).
-/
import Outbound.Proofs.Content
import Outbound.Proofs.FieldMap.Lookup
import Outbound.Proofs.Session.Settling
import Outbound.Proofs.Session.Trail

namespace Outbound

set_option autoImplicit false

/-! ## What is inferred -/

namespace Request

def headerText? (request : Request) (name : String) : Option String :=
  (request.headers.first? (.text name)).bind Datum.asText?

/-- What the length of a body is after a build: the one before when it was known or the body is a
stream, or else the integer that its header states, or else the one before. -/
inductive LengthAfter (request : Request) (before : Int) : Int → Prop where
  | known (known : 0 ≤ before ∨ request.body.stream ≠ .absent) : LengthAfter request before before
  | stated {value : String} {n : Int} {digits : Nat} (unknown : before < 0)
      (single : request.body.stream = .absent)
      (first : request.headerText? "Content-Length" = some value)
      (states : Content.States value n digits) : LengthAfter request before n
  | silent (unknown : before < 0) (single : request.body.stream = .absent)
      (silent : ∀ value, request.headerText? "Content-Length" = some value →
        ∀ n digits, ¬ Content.States value n digits) : LengthAfter request before before

/-- What the charset of a body is after a build: the one before when it was set, or else the one
that the content type names, or else none. -/
inductive CharsetAfter (request : Request) : Datum → Prop where
  | known (known : request.charset ≠ .absent) : CharsetAfter request request.charset
  | named {contentType charset : String} (unknown : request.charset = .absent)
      (first : request.headerText? "Content-Type" = some contentType)
      (names : Content.Names contentType charset) : CharsetAfter request (.text charset)
  | unnamed (unknown : request.charset = .absent)
      (unnamed : ∀ contentType, request.headerText? "Content-Type" = some contentType →
        ∀ charset, ¬ Content.Names contentType charset) : CharsetAfter request .absent

end Request

/-- The builder signs nothing, the length of its body is this integer, and the content headers have
texts for values, if any. -/
structure Builder.Infers (builder : Builder) (before : Int) : Prop where
  unsigned : builder.calculator = none
  length : builder.request.body.length = .int before
  least : -1 ≤ before
  textual : ∀ name ∈ ["Content-Type", "Content-Length"],
    ∀ values ∈ builder.request.headers.get? (.text name), ∀ value ∈ values, value.value?.isSome

/-! ## One request -/

namespace Builder.Infers

variable {builder : Builder} {before : Int} (infers : builder.Infers before)

include infers

/-- The first value of a content header is all that counts of it. -/
theorem firstValue_eq {name : String} (isContent : name ∈ ["Content-Type", "Content-Length"]) :
    builder.request.headers.firstValue (.text name) =
      .ok (.ofText? (builder.request.headerText? name)) := by
  have textual := infers.textual name isContent
  have read : builder.request.headers.firstValue (.text name) =
      .ok ((builder.request.headers.first? (.text name)).getD .absent) := by
    rw [FieldMap.firstValue, FieldMap.lookup?]
    cases builder.request.headers.keying <;> rfl
  rw [read, Request.headerText?, FieldMap.first?]
  cases found : builder.request.headers.get? (.text name) with
  | none => rfl
  | some values =>
      cases values with
      | nil => rfl
      | cons value more =>
          have isText := textual _ found value List.mem_cons_self
          cases value with
          | text s => rfl
          | absent => rfl
          | _ => cases isText

/-- A charset is always told. -/
theorem charset_told : ∃ charset, builder.request.inferredCharset? = .ok charset ∧
    builder.request.CharsetAfter ((charset.map Datum.text).getD builder.request.charset) := by
  rw [Request.inferredCharset?, infers.firstValue_eq (by simp)]
  by_cases unknown : builder.request.charset = .absent
  · rw [unknown]
    cases first : builder.request.headerText? "Content-Type" with
    | none =>
        refine ⟨none, rfl, .unnamed unknown ?_⟩
        intro contentType isFirst
        rw [first] at isFirst
        cases isFirst
    | some contentType =>
        have read : Content.charsetOf (.text contentType) = .ok (Content.charset? contentType) := by
          by_cases empty : contentType = ""
          · subst empty
            rfl
          · simp [Content.charsetOf, Datum.isTrue, empty]
        refine ⟨Content.charset? contentType, read, ?_⟩
        cases isCharset : Content.charset? contentType with
        | some charset => exact .named unknown first (Content.charset?_eq_some_iff.1 isCharset)
        | none =>
            refine .unnamed unknown ?_
            intro other isFirst charset names
            obtain rfl := Option.some.inj (first.symm.trans isFirst)
            rw [Content.charset?_eq_some_iff.2 names] at isCharset
            cases isCharset
  · refine ⟨none, if_pos (Datum.isPresent_iff.2 unknown), .known unknown⟩

theorem inferredLength?_of_known
    (known : 0 ≤ before ∨ builder.request.body.stream ≠ .absent) :
    builder.request.inferredLength? = .ok none := by
  have told : ∀ isKnown : Bool, builder.request.body.length.isNatural = .ok isKnown →
      (isKnown || builder.request.body.stream.isPresent) = true →
      builder.request.inferredLength? = .ok none := by
    intro isKnown isNatural settled
    rw [Request.inferredLength?, isNatural]
    exact if_pos settled
  refine told _ (infers.length ▸ Datum.isNatural_int before) ?_
  rw [Bool.or_eq_true, decide_eq_true_eq, Datum.isPresent_iff]
  exact known

theorem inferredLength?_of_unknown (unknown : before < 0)
    (single : builder.request.body.stream = .absent) : builder.request.inferredLength? =
      match builder.request.headerText? "Content-Length" with
      | none => .ok none
      | some value => (Content.length? value).mapError .length := by
  rw [Request.inferredLength?, infers.length, Datum.isNatural_int, infers.firstValue_eq (by simp),
    decide_eq_false (by omega), single]
  cases builder.request.headerText? "Content-Length" <;> rfl

/-- A length is told unless it is asked for and stated in too many digits. -/
theorem length_told_iff : (∃ length, builder.request.inferredLength? = .ok length) ↔
    ∀ value n digits, before < 0 → builder.request.body.stream = .absent →
      builder.request.headerText? "Content-Length" = some value →
      Content.States value n digits → digits ≤ Text.Numeral.maxDigits := by
  constructor
  · rintro ⟨length, told⟩ value n digits unknown single first states
    rw [infers.inferredLength?_of_unknown unknown single, first] at told
    simp only [Content.length?_of_states states] at told
    by_contra long
    rw [if_pos (by omega)] at told
    cases told
  · intro short
    by_cases known : 0 ≤ before ∨ builder.request.body.stream ≠ .absent
    · exact ⟨none, infers.inferredLength?_of_known known⟩
    rw [not_or, not_le, not_not] at known
    rw [infers.inferredLength?_of_unknown known.1 known.2]
    cases first : builder.request.headerText? "Content-Length" with
    | none => exact ⟨none, rfl⟩
    | some value =>
        by_cases stated : ∃ n digits, Content.States value n digits
        · obtain ⟨n, digits, states⟩ := stated
          have fits := short value n digits known.1 known.2 first states
          refine ⟨some n, ?_⟩
          simp only [Content.length?_of_states states, if_neg (Nat.not_lt.2 fits)]
          rfl
        · refine ⟨none, ?_⟩
          simp only [Content.length?_of_silent fun n digits states => stated ⟨n, digits, states⟩]
          rfl

/-- What is told is what the length is afterwards. -/
theorem lengthAfter {length : Option Int} (told : builder.request.inferredLength? = .ok length) :
    ∃ n, (length.map Datum.int).getD builder.request.body.length = .int n ∧
      builder.request.LengthAfter before n := by
  by_cases known : 0 ≤ before ∨ builder.request.body.stream ≠ .absent
  · rw [infers.inferredLength?_of_known known] at told
    obtain rfl := Except.ok.inj told
    exact ⟨before, infers.length, .known known⟩
  rw [not_or, not_le, not_not] at known
  obtain ⟨unknown, single⟩ := known
  rw [infers.inferredLength?_of_unknown unknown single] at told
  cases first : builder.request.headerText? "Content-Length" with
  | none =>
      rw [first] at told
      obtain rfl := Except.ok.inj told
      refine ⟨before, infers.length, .silent unknown single ?_⟩
      intro value isFirst
      rw [first] at isFirst
      cases isFirst
  | some value =>
      simp only [first, mapError_eq_ok_iff] at told
      by_cases stated : ∃ n digits, Content.States value n digits
      · obtain ⟨n, digits, states⟩ := stated
        rw [Content.length?_of_states states] at told
        split at told
        · cases told
        · obtain rfl := Except.ok.inj told
          exact ⟨n, rfl, .stated unknown single first states⟩
      · have silent : ∀ n digits, ¬ Content.States value n digits :=
          fun n digits states => stated ⟨n, digits, states⟩
        rw [Content.length?_of_silent silent] at told
        obtain rfl := Except.ok.inj told
        refine ⟨before, infers.length, .silent unknown single ?_⟩
        intro other isFirst
        obtain rfl := Option.some.inj (first.symm.trans isFirst)
        exact silent

end Builder.Infers

/-! ## Builds -/

/-- **A build that signs nothing fails only where a length is asked for that is stated in too many
digits**, or for a URI without a scheme or a host.  It changes nothing but the charset and the
length of the body, which are the ones that were known or that the content headers state. -/
theorem inferred_of_build (world : World) {session : Session} {before : Int}
    (infers : session.builder.Infers before) :
    ((∃ next, Act.step world .build session = .ok .built next) ↔
      (∀ value n digits, before < 0 → session.builder.request.body.stream = .absent →
        session.builder.request.headerText? "Content-Length" = some value →
        Content.States value n digits → digits ≤ 4300) ∧
      ∀ uri ∈ session.builder.request.uri, uri.scheme.isSome ∧ uri.host.isSome) ∧
    ∀ reply next, Act.step world .build session = .ok reply next → ∃ charset length,
      next.builder = { session.builder with
        request := { session.builder.request.withBody fun body => { body with length := .int length }
          with charset } } ∧
      session.builder.request.LengthAfter before length ∧
      session.builder.request.CharsetAfter charset := by
  have signs : ∀ take, Act.sign take session = .ok () session := by
    intro take
    rw [Act.sign_eq, infers.unsigned]
    rfl
  have settles : ∀ reply next, Act.step world .build session = .ok reply next ↔
      reply = .built ∧ Act.settle session = .ok () next := by
    intro reply next
    rw [Act.build_answered_iff]
    constructor
    · rintro ⟨isBuilt, signed, isSigned, settled⟩
      obtain rfl := Act.eq_of_sign infers.unsigned isSigned
      exact ⟨isBuilt, settled⟩
    · rintro ⟨isBuilt, settled⟩
      exact ⟨isBuilt, session, signs _, settled⟩
  obtain ⟨charset, isCharset, charsetAfter⟩ := infers.charset_told
  constructor
  · refine Iff.trans ?_ (and_congr infers.length_told_iff Request.exists_uriText_iff)
    constructor
    · rintro ⟨next, built⟩
      obtain ⟨-, length, text, -, -, isLength, isText, -⟩ :=
        Act.inferred_of_settle ((settles _ _).1 built).2
      exact ⟨⟨length, isLength⟩, text, isText⟩
    · rintro ⟨⟨length, isLength⟩, text, isText⟩
      obtain ⟨more, settled⟩ := Act.settle_eq isCharset isLength isText
      exact ⟨_, (settles _ _).2 ⟨rfl, settled⟩⟩
  · intro reply next built
    obtain ⟨charset', length, -, more, isCharset', isLength, -, rfl⟩ :=
      Act.inferred_of_settle ((settles _ _).1 built).2
    obtain rfl := Except.ok.inj (isCharset.symm.trans isCharset')
    obtain ⟨n, isInt, lengthAfter⟩ := infers.lengthAfter isLength
    refine ⟨_, n, ?_, lengthAfter, charsetAfter⟩
    rw [← isInt]
    rfl

/-- Content headers in another case, with blanks, a sign, zeros in front, and quotes. -/
theorem inferred_of_untidy_headers :
    let session := Session.run {} { builder := .ofSettings {} .absent .absent }
      [.call (.setHeader (.text "CONTENT-TYPE") (.text "text/html;a; Charset = \" utf-8'\"")),
        .call (.setHeader (.text "content-length") (.text "\u2003+0042\t"))]
    session.builder.Infers (-1) ∧ ∃ next, Act.step {} .build session = .ok .built next ∧
      next.builder.request.body.length = .int 42 ∧
      next.builder.request.charset = .text " utf-8" := by
  intro session
  have isType : session.builder.request.headerText? "Content-Type" =
      some "text/html;a; Charset = \" utf-8'\"" := by decide +kernel
  have isLength : session.builder.request.headerText? "Content-Length" =
      some "\u2003+0042\t" := by decide +kernel
  have states : Content.States "\u2003+0042\t" 42 4 :=
    ⟨"+0042".toList, Text.trim_eq_iff.1 (by decide),
      Content.spells_iff.2 ⟨⟨by decide, List.all_eq_true.1 rfl⟩, rfl, rfl⟩⟩
  have infers : session.builder.Infers (-1) := ⟨rfl, rfl, by decide, by decide +kernel⟩
  obtain ⟨builds, infer⟩ := inferred_of_build {} infers
  have short : ∀ value n digits, (-1 : Int) < 0 → session.builder.request.body.stream = .absent →
      session.builder.request.headerText? "Content-Length" = some value →
      Content.States value n digits → digits ≤ 4300 := by
    intro value n digits _ _ isValue states'
    obtain rfl := Option.some.inj (isLength.symm.trans isValue)
    rw [← (states.unique states').2]
    decide
  obtain ⟨next, built⟩ := builds.2 ⟨short, nofun⟩
  obtain ⟨charset, length, isNext, lengthAfter, charsetAfter⟩ := infer _ _ built
  have is42 : length = 42 := by
    cases lengthAfter with
    | known known => exact absurd known (by rintro (natural | stream) <;> contradiction)
    | stated _ _ isValue states' =>
        obtain rfl := Option.some.inj (isLength.symm.trans isValue)
        exact (states'.unique states).1
    | silent _ _ silent => exact absurd states (silent _ isLength _ _)
  have named : Content.charset? "text/html;a; Charset = \" utf-8'\"" = some " utf-8" := by
    decide +kernel
  have isCharset : charset = .text " utf-8" := by
    cases charsetAfter with
    | known known => exact absurd rfl known
    | named _ isValue names =>
        obtain rfl := Option.some.inj (isType.symm.trans isValue)
        rw [Content.charset?_eq_some_iff.2 names] at named
        rw [Option.some.inj named]
    | unnamed _ unnamed =>
        exact absurd (Content.charset?_eq_some_iff.1 named) (unnamed _ isType _)
  refine ⟨infers, next, built, ?_, ?_⟩
  · rw [isNext, is42]
    rfl
  · rw [isNext, isCharset]

/-- Of a length in 4301 digits a build fails, and one below zero is taken as it is. -/
theorem lengths_not_inferred :
    let session (value : String) := Session.run {} { builder := .ofSettings {} .absent .absent }
      [.call (.setHeader (.text "Content-Length") (.text value))]
    (session (String.ofList (List.replicate 4301 '1'))).builder.Infers (-1) ∧
    (¬ ∃ reply next, Act.step {} .build (session (String.ofList (List.replicate 4301 '1'))) =
      .ok reply next) ∧
    (session "-5").builder.Infers (-1) ∧
    ∃ next, Act.step {} .build (session "-5") = .ok .built next ∧
      next.builder.request.body.length = .int (-5) := by
  intro session
  have infers : ∀ value, (session value).builder.Infers (-1) := by
    intro value
    refine ⟨rfl, rfl, by decide, ?_⟩
    have noType : (session value).builder.request.headers.get? (.text "Content-Type") = none := rfl
    have oneLength : (session value).builder.request.headers.get? (.text "Content-Length") =
      some [.text value] := rfl
    simp [noType, oneLength, Datum.value?]
  refine ⟨infers _, ?_, infers _, ?_⟩
  · rintro ⟨reply, next, built⟩
    obtain ⟨-, signed, isSigned, settled⟩ := Act.build_answered_iff.1 built
    obtain rfl := Act.eq_of_sign (infers _).unsigned isSigned
    obtain ⟨-, length, -, -, -, told, -⟩ := Act.inferred_of_settle settled
    have digits : Content.IsNumeral (List.replicate 4301 '1') := by
      refine ⟨?_, ?_⟩
      · rw [ne_eq, List.replicate_eq_nil_iff]
        decide
      · intro c mem
        rw [(List.mem_replicate.1 mem).2]
        decide
    have states := Content.states_of_numeral digits
    have isLength : ∀ value, (session value).builder.request.headerText? "Content-Length" =
      some value := fun _ => rfl
    have few := (infers _).length_told_iff.1 ⟨length, told⟩ _ _ _ (by decide) rfl (isLength _) states
    rw [List.length_replicate] at few
    exact absurd few (by decide)
  · exact ⟨_, rfl, rfl⟩

end Outbound
