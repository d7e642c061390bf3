/-
# Outbound.Realm — the authentication realm of a request

A realm is handed to the engine as it is: credentials, a scheme, a name, and
whether to authenticate before being asked.
-/
import Outbound.Settings.Check

namespace Outbound

set_option autoImplicit false

/-- The authentication schemes of a realm. -/
inductive RealmScheme where
  | basic
  | digest
  | ntlm
  | spnego
  | kerberos
  | none
  deriving DecidableEq, Repr

namespace RealmScheme

def names : List (String × RealmScheme) :=
  [("basic", .basic), ("digest", .digest), ("ntlm", .ntlm), ("spnego", .spnego),
    ("kerberos", .kerberos), ("none", .none)]

def name : RealmScheme → String
  | .basic => "basic"
  | .digest => "digest"
  | .ntlm => "ntlm"
  | .spnego => "spnego"
  | .kerberos => "kerberos"
  | .none => "none"

end RealmScheme

/-- An authentication realm. -/
structure Realm where
  principal : String
  password : String
  scheme : RealmScheme := .basic
  realmName : Option String := none
  usePreemptiveAuth : Bool := true
  deriving DecidableEq, Repr

namespace Realm

def ofEntries (entries : Check.Entries) : Check Realm :=
  let principal := Check.required entries "principal" Check.text
  let password := Check.required entries "password" Check.text
  let scheme := Check.defaulted entries "scheme" .basic (Check.choice RealmScheme.names)
  let realmName := Check.defaulted entries "realm_name" none (Check.optional Check.text)
  let preemptive := Check.defaulted entries "use_preemptive_auth" true Check.bool
  (principal.both (password.both (scheme.both (realmName.both preemptive)))).map fun
    (principal, password, scheme, realmName, usePreemptiveAuth) =>
      { principal, password, scheme, realmName, usePreemptiveAuth }

end Realm

end Outbound
