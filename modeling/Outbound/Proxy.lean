/-
# Outbound.Proxy — the proxy of a request

A proxy is a host and a port reached over a protocol, with optional credentials.
Its URL holds the credentials only when there is a principal.
-/
import Outbound.Settings.Check

namespace Outbound

set_option autoImplicit false

/-- The protocols that a proxy is reached over. -/
inductive ProxyProtocol where
  | http
  | https
  deriving DecidableEq, Repr

def ProxyProtocol.name : ProxyProtocol → String
  | .http => "http"
  | .https => "https"

structure ProxyServer where
  host : String
  port : Int := 80
  protocol : ProxyProtocol := .http
  principal : Option String := none
  password : Option String := none
  nonProxyHosts : List String := []
  deriving DecidableEq, Repr

namespace ProxyServer

def ofEntries (entries : Check.Entries) : Check ProxyServer :=
  let host := Check.required entries "host" Check.text
  let port := Check.defaulted entries "port" 80 Check.int
  let protocol := Check.defaulted entries "protocol" .http
    (Check.choice [("http", .http), ("https", .https)])
  let principal := Check.defaulted entries "principal" none (Check.optional Check.text)
  let password := Check.defaulted entries "password" none (Check.optional Check.text)
  let nonProxyHosts := Check.defaulted entries "non_proxy_hosts" [] (Check.listOf Check.text)
  (host.both (port.both (protocol.both (principal.both (password.both nonProxyHosts))))).map fun
    (host, port, protocol, principal, password, nonProxyHosts) =>
      { host, port, protocol, principal, password, nonProxyHosts }

/-- What precedes the host in the proxy's URL. -/
def login (proxy : ProxyServer) : String :=
  match proxy.principal with
  | some principal =>
    if principal = "" then "" else principal ++ ":" ++ proxy.password.getD "" ++ "@"
  | none => ""

def url (proxy : ProxyServer) : String :=
  proxy.protocol.name ++ "://" ++ proxy.login ++ proxy.host ++ ":" ++ toString proxy.port

end ProxyServer

end Outbound
