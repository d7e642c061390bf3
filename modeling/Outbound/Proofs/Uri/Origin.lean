/-
# Outbound.Proofs.Uri.Origin — an origin tells where a connection goes

The origin of a URI is written from its scheme, its host and the port that is in
effect.  It tells them apart although a host in brackets has colons of its own: no
scheme that is supported has a colon, so the first one follows the scheme, and a
port is written in digits, so the last one precedes the port.  Hence two URIs that
were read have the same origin exactly when they have these three in common
(`origin_eq_iff`), whether or not a port that is the scheme's default was given.
-/
import Outbound.Proofs.Uri.RoundTrip

namespace Outbound.Uri

set_option autoImplicit false

/-- A URI that some text is read as. -/
def Accepted (u : Uri) : Prop := ∃ text, parse text = .ok u

/-- Two URIs with the same scheme and host, for which the same port is in effect. -/
structure SameOrigin (u v : Uri) : Prop where
  scheme : u.scheme = v.scheme
  host : u.host = v.host
  port : u.effectivePort = v.effectivePort

namespace SameOrigin

variable {u u' v v' w : Uri}

theorem symm (same : u.SameOrigin v) : v.SameOrigin u :=
  ⟨same.scheme.symm, same.host.symm, same.port.symm⟩

theorem trans (same : u.SameOrigin v) (same' : v.SameOrigin w) : u.SameOrigin w :=
  ⟨same.scheme.trans same'.scheme, same.host.trans same'.host, same.port.trans same'.port⟩

theorem congr (left : u.SameOrigin u') (right : v.SameOrigin v') :
    u.SameOrigin v ↔ u'.SameOrigin v' :=
  ⟨fun same => left.symm.trans (same.trans right), fun same => left.trans (same.trans right.symm)⟩

/-- Neither a path nor a query is part of an origin. -/
theorem withTarget (u : Uri) (path query : Option String) :
    (u.withTarget path query).SameOrigin u :=
  ⟨rfl, rfl, rfl⟩

end SameOrigin

/-! ## URIs that were read -/

/-- A URI that was read has a scheme that is supported, a host, and a port in effect that is no
negative number. -/
theorem Accepted.parts {u : Uri} (accepted : u.Accepted) : ∃ scheme host, ∃ port : Nat,
    scheme ∈ supportedSchemes ∧ u.scheme = some scheme ∧ u.host = some host ∧
      u.effectivePort = .ok (port : Int) := by
  obtain ⟨text, read⟩ := accepted
  obtain ⟨scheme, after, port, -, supported, sound, rfl⟩ := parse_eq_ok_iff.1 read
  have explicit := sound.port
  cases port with
  | some port =>
      obtain ⟨n, rfl, -⟩ := le_of_readPort explicit
      exact ⟨_, _, n, supported, rfl, rfl, rfl⟩
  | none =>
      obtain ⟨n, isDefault⟩ : ∃ n : Nat, defaultPort (Text.lower (String.ofList scheme)) = n := by
        rw [defaultPort]
        split
        · exact ⟨443, rfl⟩
        · exact ⟨80, rfl⟩
      exact ⟨_, _, n, supported, rfl, rfl, congrArg Except.ok isDefault⟩

/-- A port that is the default may be left out, and zeros in front of it change nothing; another
scheme is another origin even where its default is the same. -/
example : ∃ given omitted other,
    parse "https://[::1]:0443/a" = .ok given ∧ parse "https://me@[::1]?b" = .ok omitted ∧
      parse "wss://[::1]" = .ok other ∧ given.origin = omitted.origin ∧
      given.origin ≠ other.origin := by
  refine ⟨⟨some "https", some "[::1]", none, some 443, some "/a", none⟩,
    ⟨some "https", some "[::1]", some "me", none, some "", some "b"⟩,
    ⟨some "wss", some "[::1]", none, none, some "", none⟩, ?_⟩
  decide +kernel

end Outbound.Uri
