/-
# Outbound.Proofs.Auth.Header — the header that a handler gives

A handler finds a key and makes a header of it.  The two are apart: which key is
found depends on the source of keys and on what its resolver answers
(`KeySource.key?`), and the header depends on the kind of the handler and on the
key.  What is told meanwhile is the question to the resolver and one log record
(`header?_eq`).

A configuration that was checked suffices for its kind (`sufficient_of_ofEntries`).
So its handler has a key of its own to fall back to, and gives a header for every
context as long as the resolver answers at all (`Sufficient.header?`); the name of the
header is fixed by the configuration (`AuthConfig.title`).
-/
import Outbound.Auth.Handler
import Outbound.Proofs.Fallible

namespace Outbound

set_option autoImplicit false

/-! ## Keys -/

namespace KeySource

/-- The key for a context: the one that the resolver answers, or else the source's own, an empty
one being none. -/
def key? (source : KeySource) (context : SigningContext) :
    Except CallbackFault (Option String) :=
  match source.resolver with
  | none => .ok (nonempty source.key)
  | some resolver => (resolver context).map fun key => (nonempty key).or (nonempty source.key)

/-- What is told while a key is found: the question to the resolver, if there is one. -/
def asked (source : KeySource) (context : SigningContext) : List Event :=
  match source.resolver with
  | none => []
  | some _ => [.asked context]

theorem resolve_eq (source : KeySource) (context : SigningContext) (events : List Event) :
    source.resolve context events = match source.key? context with
      | .ok key => .ok key (events ++ source.asked context)
      | .error fault => .error fault (events ++ source.asked context) := by
  obtain ⟨key, resolver⟩ := source
  cases resolver with
  | none =>
      rw [asked, List.append_nil]
      rfl
  | some resolver =>
      cases answered : resolver context <;>
        · simp only [resolve, key?, asked, answered]
          rfl

/-- What is done with a key is done if there is one. -/
theorem found_eq {β : Type} (source : KeySource) (context : SigningContext) (events : List Event)
    (give : String → Traced CallbackFault (Option β)) :
    (source.resolve context >>= fun found => match found with
      | some key => give key
      | none => pure none) events = match source.key? context with
        | .ok (some key) => give key (events ++ source.asked context)
        | .ok none => .ok none (events ++ source.asked context)
        | .error fault => .error fault (events ++ source.asked context) := by
  show EStateM.bind _ _ events = _
  rw [EStateM.bind, resolve_eq]
  cases source.key? context with
  | error fault => rfl
  | ok found => cases found <;> rfl

/-- The resolver, if there is one, answers for every context, be it with no key. -/
def Answers (resolver : Option KeyResolver) : Prop :=
  ∀ ask ∈ resolver, ∀ context, ∃ key, ask context = .ok key

/-- A source with a key of its own has one for every context. -/
theorem key?_of_nonempty {source : KeySource} {key : String}
    (own : nonempty source.key = some key) (answers : Answers source.resolver)
    (context : SigningContext) : ∃ found, source.key? context = .ok (some found) := by
  obtain ⟨static, resolver⟩ := source
  cases resolver with
  | none => exact ⟨key, congrArg Except.ok own⟩
  | some resolver =>
      obtain ⟨answer, answered⟩ := answers resolver rfl context
      have isKey : key? ⟨static, some resolver⟩ context =
          .ok ((nonempty answer).or (some key)) := by
        rw [← own]
        simp only [key?, answered]
        rfl
      rw [isKey]
      cases nonempty answer with
      | none => exact ⟨key, rfl⟩
      | some found => exact ⟨found, rfl⟩

end KeySource

/-! ## Headers -/

namespace AuthHandler

def source : AuthHandler → KeySource
  | .bearer source => source
  | .xApiKey source => source
  | .custom _ source => source

def headerName : AuthHandler → Datum
  | .bearer _ => .text "Authorization"
  | .xApiKey _ => .text "x-api-key"
  | .custom headerName _ => headerName

def headerValue (handler : AuthHandler) (key : String) : String :=
  match handler with
  | .bearer _ => "Bearer " ++ key
  | _ => key

def record (handler : AuthHandler) (key : String) : Record :=
  match handler with
  | .bearer _ => ⟨.debug, logPrefix ++ " BearerAuthHandler.get_header: api_key=" ++
      Record.mask (some key) ++ " -> Authorization=" ++ Record.mask (some ("Bearer " ++ key))⟩
  | .xApiKey _ =>
    ⟨.debug, logPrefix ++ " XApiKeyAuthHandler.get_header: api_key=" ++ Record.mask (some key)⟩
  | .custom headerName _ => ⟨.debug, logPrefix ++ " CustomAuthHandler.get_header: header_name=" ++
      headerName.written ++ ", api_key=" ++ Record.mask (some key)⟩

/-- A handler finds a key and, if there is one, logs and gives the header for it. -/
theorem header?_eq (handler : AuthHandler) (context : SigningContext) (events : List Event) :
    handler.header? context events = match handler.source.key? context with
      | .ok (some key) => .ok (some (handler.headerName, handler.headerValue key))
          (events ++ handler.source.asked context ++ [.logged (handler.record key)])
      | .ok none => .ok none (events ++ handler.source.asked context)
      | .error fault => .error fault (events ++ handler.source.asked context) := by
  have parts : handler.header? context events =
      (handler.source.resolve context >>= fun found => match found with
        | some key => Traced.emit (.logged (handler.record key)) >>= fun _ =>
            pure (some (handler.headerName, handler.headerValue key))
        | none => pure none : Traced CallbackFault (Option (Datum × String))) events := by
    cases handler <;>
      · refine congrFun (bind_congr ?_) events
        intro found
        cases found <;> rfl
  rw [parts, KeySource.found_eq]
  rfl

end AuthHandler

/-! ## Configurations -/

@[simp] theorem Check.both_eq_ok_iff {α β : Type} {a : Check α} {b : Check β} {x : α} {y : β} :
    Check.both a b = .ok (x, y) ↔ a = .ok x ∧ b = .ok y := by
  cases a <;> cases b <;> simp [Check.both]

/-- A field that was read was given and passed its check. -/
theorem Check.given_of_required {α : Type} {entries : Check.Entries} {name : String}
    {check : Datum → Check α} {a : α} (read : Check.required entries name check = .ok a) :
    ∃ d, Check.given? entries name = some d ∧ check d = .ok a := by
  rw [Check.required, Check.under, mapError_eq_ok_iff] at read
  cases isGiven : Check.given? entries name with
  | none =>
      rw [isGiven] at read
      cases read
  | some d =>
      rw [isGiven] at read
      exact ⟨d, rfl, read⟩

namespace AuthConfig

/-- The configuration is of a kind with a meaning, and its fields suffice for it. -/
structure Sufficient (config : AuthConfig) : Prop where
  known : ∀ name, config.kind ≠ .unknown name
  complete : config.shortcoming? = none

theorem known_of_choice {d : Datum} {kind : AuthKind}
    (chosen : Check.choice AuthKind.names d = .ok kind) (name : String) : kind ≠ .unknown name := by
  rintro rfl
  cases d with
  | text s =>
      rw [Check.choice] at chosen
      split at chosen
      · rename_i kind found
        obtain ⟨before, after, listed, -⟩ := List.lookup_eq_some_iff.1 found
        have mem : (s, kind) ∈ AuthKind.names := by
          rw [listed]
          simp
        obtain rfl := Except.ok.inj chosen
        simp [AuthKind.names] at mem
      · cases chosen
  | _ => cases chosen

/-- What was read and checked suffices. -/
theorem sufficient_of_ofEntries {entries : Check.Entries} {config : AuthConfig}
    (accepted : ofEntries entries = .ok config) : config.Sufficient := by
  obtain ⟨read, isRead, checked⟩ := bind_eq_ok_iff.1 accepted
  cases complete : read.shortcoming? with
  | some reason =>
      simp only [complete] at checked
      cases checked
  | none =>
      simp only [complete] at checked
      obtain rfl := Except.ok.inj checked
      refine ⟨?_, complete⟩
      obtain ⟨⟨kind, fields⟩, areFields, rfl⟩ := map_eq_ok_iff.1 isRead
      obtain ⟨isKind, -⟩ := Check.both_eq_ok_iff.1 areFields
      obtain ⟨d, -, chosen⟩ := Check.given_of_required isKind
      exact known_of_choice chosen

def title (config : AuthConfig) : String :=
  match config.kind with
  | .xApiKey => "x-api-key"
  | .custom => (KeySource.nonempty config.headerName).getD "Authorization"
  | _ => "Authorization"

@[simp] theorem headerName_ofConfig (config : AuthConfig) (resolver : Option KeyResolver) :
    (AuthHandler.ofConfig config resolver).headerName = .text config.title := by
  rw [AuthHandler.ofConfig, title]
  cases config.kind <;> rfl

@[simp] theorem resolver_ofConfig (config : AuthConfig) (resolver : Option KeyResolver) :
    (AuthHandler.ofConfig config resolver).source.resolver = resolver := by
  rw [AuthHandler.ofConfig]
  cases config.kind <;> rfl

theorem nonempty_of_filled {text : Option String} (isFilled : filled text) :
    ∃ s, KeySource.nonempty (KeySource.nonempty text) = some s := by
  cases text with
  | none => cases isFilled
  | some s =>
      have kept : KeySource.nonempty (some s) = some s := Option.filter_eq_some_iff.2 ⟨rfl, isFilled⟩
      exact ⟨s, by rw [kept, kept]⟩

/-- A configuration that suffices gives its handler a key of its own. -/
theorem Sufficient.own_key {config : AuthConfig} (sufficient : config.Sufficient)
    (resolver : Option KeyResolver) :
    ∃ key, KeySource.nonempty (AuthHandler.ofConfig config resolver).source.key = some key := by
  obtain ⟨known, complete⟩ := sufficient
  rw [shortcoming?] at complete
  cases kind : config.kind with
  | basic =>
      have opened : ("Basic " ++ config.apiKey != "") = true := by simp
      refine ⟨"Basic " ++ config.apiKey, ?_⟩
      rw [AuthHandler.ofConfig, kind]
      exact Option.filter_eq_some_iff.2 ⟨rfl, opened⟩
  | bearer =>
      have isFilled : filled config.rawApiKey := by simpa [kind] using complete
      rw [AuthHandler.ofConfig, kind]
      exact nonempty_of_filled isFilled
  | xApiKey =>
      have isFilled : filled config.rawApiKey := by simpa [kind] using complete
      rw [AuthHandler.ofConfig, kind]
      exact nonempty_of_filled isFilled
  | custom =>
      have bothFilled : filled config.headerName ∧ filled config.rawApiKey := by
        simpa [kind] using complete
      rw [AuthHandler.ofConfig, kind]
      exact nonempty_of_filled bothFilled.2
  | unknown name => exact absurd kind (known name)

/-- **The handler of a configuration that suffices gives a header for every context**, under the
name that the configuration is about. -/
theorem Sufficient.header? {config : AuthConfig} (sufficient : config.Sufficient)
    {resolver : Option KeyResolver} (answers : KeySource.Answers resolver)
    (context : SigningContext) :
    ∃ value more, ∀ events, (AuthHandler.ofConfig config resolver).header? context events =
      .ok (some (.text config.title, value)) (events ++ more) := by
  obtain ⟨own, isOwn⟩ := sufficient.own_key resolver
  have answers : KeySource.Answers (AuthHandler.ofConfig config resolver).source.resolver := by
    rw [resolver_ofConfig]
    exact answers
  obtain ⟨key, found⟩ := KeySource.key?_of_nonempty isOwn answers context
  let handler := AuthHandler.ofConfig config resolver
  refine ⟨handler.headerValue key,
    handler.source.asked context ++ [.logged (handler.record key)], ?_⟩
  intro events
  rw [AuthHandler.header?_eq, headerName_ofConfig]
  simp only [found, List.append_assoc, handler]

end AuthConfig

end Outbound
