/-
# Outbound.Proofs.Auth.Credentials — what a basic header says of who sends it

The header of basic authentication carries a user name and a password as one text,
joined by a colon and written in base 64.  Its reader goes the same way back: octets,
text, and a cut at the first colon (`readCredentials?`).  A colon in the password is
behind that cut, so only the user name has to be free of it.

A configuration that was checked and that no resolver overrules gives such a header
for every context, and the reader finds in it the user name and the password it was
made from.  So configurations that differ in either give different headers
(`basic_header_tells_credentials`).
-/
import Outbound.Proofs.Auth.Header
import Outbound.Proofs.Octets.Base64
import Outbound.Proofs.Text.Cut
import Outbound.Proofs.Text.Utf8

namespace Outbound.AuthConfig

set_option autoImplicit false

/-! ## Reading credentials -/

/-- The user name and the password that stand behind the name of the scheme. -/
def readCredentials? (coded : String) : Option (String × String) := do
  let bytes ← Octets.Base64.decode? coded
  let text ← (Text.Utf8.decode bytes).toOption
  let password ← Text.after? ':' text
  return (String.ofList (Text.before ':' text), String.ofList password)

/-- Credentials are read back from base 64 unless there is a colon in the user name. -/
@[simp] theorem readCredentials?_credentials {username : String} (colonFree : ':' ∉ username.toList)
    (password : String) :
    readCredentials? (credentials username password) = some (username, password) := by
  have joined : (username ++ ":" ++ password).toList =
      username.toList ++ ':' :: password.toList := by
    simp [String.toList_append]
  simp [readCredentials?, credentials, joined, colonFree, Except.toOption]

/-! ## The header of basic authentication -/

/-- The configuration was checked, is about basic authentication, and has no colon in its user
name. -/
structure PlainBasic (config : AuthConfig) : Prop where
  accepted : ∃ entries, ofEntries entries = .ok config
  basic : config.kind = .basic
  colonFree : ∀ username ∈ config.username, ':' ∉ username.toList

theorem eq_some_of_filled {text : Option String} (isFilled : filled text) :
    ∃ s, text = some s ∧ s ≠ "" := by
  cases text with
  | none => cases isFilled
  | some s => exact ⟨s, rfl, by simpa [filled] using isFilled⟩

namespace PlainBasic

variable {config : AuthConfig}

/-- The check of basic authentication leaves a user name and a password, neither of them empty. -/
theorem fields (plain : config.PlainBasic) : ∃ username password,
    config.username = some username ∧ config.password = some password ∧
      config.apiKey = credentials username password := by
  obtain ⟨entries, accepted⟩ := plain.accepted
  have complete := (sufficient_of_ofEntries accepted).complete
  have bothFilled : filled config.username ∧ filled config.password := by
    simpa [shortcoming?, plain.basic] using complete
  obtain ⟨username, isUsername, someName⟩ := eq_some_of_filled bothFilled.1
  obtain ⟨password, isPassword, someSecret⟩ := eq_some_of_filled bothFilled.2
  refine ⟨username, password, isUsername, isPassword, ?_⟩
  simp [apiKey, plain.basic, isUsername, isPassword, someName, someSecret]

/-- What the handler gives, whatever it is asked for. -/
theorem header? (plain : config.PlainBasic) (context : SigningContext) :
    ∃ more, ∀ events, (AuthHandler.ofConfig config none).header? context events =
      .ok (some (.text "Authorization", "Basic " ++ config.apiKey)) (events ++ more) := by
  have isHandler : AuthHandler.ofConfig config none =
      .custom (.text "Authorization") ⟨some ("Basic " ++ config.apiKey), none⟩ := by
    rw [AuthHandler.ofConfig, plain.basic]
  have opened : ("Basic " ++ config.apiKey != "") = true := by simp
  have isKey : KeySource.key? ⟨some ("Basic " ++ config.apiKey), none⟩ context =
      .ok (some ("Basic " ++ config.apiKey)) :=
    congrArg Except.ok (Option.filter_eq_some_iff.2 ⟨rfl, opened⟩)
  rw [isHandler]
  refine ⟨[.logged (AuthHandler.record (.custom (.text "Authorization")
    ⟨some ("Basic " ++ config.apiKey), none⟩) ("Basic " ++ config.apiKey))], ?_⟩
  intro events
  rw [AuthHandler.header?_eq, AuthHandler.source, isKey]
  simp only [KeySource.asked, List.append_nil]
  rfl

end PlainBasic

/-- **A basic header tells the credentials.** What stands behind the name of the scheme is read
back as the user name and the password, and a header that two configurations give is about the same
credentials in both. -/
theorem basic_header_tells_credentials {config : AuthConfig} (plain : config.PlainBasic) :
    (∃ username password coded,
      config.username = some username ∧ config.password = some password ∧
      (∀ context, ∃ more, ∀ events,
        (AuthHandler.ofConfig config none).header? context events =
          .ok (some (.text "Authorization", "Basic " ++ coded)) (events ++ more)) ∧
      readCredentials? coded = some (username, password)) ∧
    ∀ other : AuthConfig, other.PlainBasic →
      ∀ (context context' : SigningContext) (events events' later later' : List Event)
        (header : Datum × String),
        (AuthHandler.ofConfig config none).header? context events = .ok (some header) later →
        (AuthHandler.ofConfig other none).header? context' events' = .ok (some header) later' →
          config.username = other.username ∧ config.password = other.password := by
  obtain ⟨username, password, isUsername, isPassword, isKey⟩ := plain.fields
  have read := readCredentials?_credentials (plain.colonFree username isUsername) password
  constructor
  · refine ⟨username, password, config.apiKey, isUsername, isPassword, plain.header?, ?_⟩
    rw [isKey]
    exact read
  · intro other otherPlain context context' events events' later later' header given otherGiven
    obtain ⟨otherName, otherSecret, isOtherName, isOtherSecret, isOtherKey⟩ := otherPlain.fields
    have otherRead :=
      readCredentials?_credentials (otherPlain.colonFree otherName isOtherName) otherSecret
    obtain ⟨more, gives⟩ := plain.header? context
    obtain ⟨otherMore, otherGives⟩ := otherPlain.header? context'
    rw [gives] at given
    rw [otherGives] at otherGiven
    injection given with given
    injection otherGiven with otherGiven
    have sameKey : config.apiKey = other.apiKey := by
      have sameValue := congrArg Prod.snd (Option.some.inj (given.trans otherGiven.symm))
      exact (String.append_right_inj "Basic ").1 sameValue
    rw [isKey, isOtherKey] at sameKey
    rw [sameKey, otherRead] at read
    obtain ⟨rfl, rfl⟩ := Prod.mk.inj (Option.some.inj read)
    exact ⟨isUsername.trans isOtherName.symm, isPassword.trans isOtherSecret.symm⟩

theorem basic_header_tells_credentials_with_colon :
    PlainBasic ⟨.basic, none, some "Jürgen", some "p:ß", none⟩ ∧
    ∃ coded, readCredentials? coded = some ("Jürgen", "p:ß") ∧
      ∀ context, ∃ more, ∀ events,
        (AuthHandler.ofConfig ⟨.basic, none, some "Jürgen", some "p:ß", none⟩ none).header?
          context events = .ok (some (.text "Authorization", "Basic " ++ coded)) (events ++ more) := by
  have accepted : ofEntries [("type", .text "basic"), ("username", .text "Jürgen"),
      ("password", .text "p:ß")] = .ok ⟨.basic, none, some "Jürgen", some "p:ß", none⟩ := by rfl
  have plain : PlainBasic ⟨.basic, none, some "Jürgen", some "p:ß", none⟩ :=
    ⟨⟨_, accepted⟩, rfl, by simp⟩
  obtain ⟨⟨username, password, coded, isUsername, isPassword, gives, read⟩, -⟩ :=
    basic_header_tells_credentials plain
  obtain rfl := Option.some.inj isUsername
  obtain rfl := Option.some.inj isPassword
  exact ⟨plain, coded, read, gives⟩

end Outbound.AuthConfig
