/-
# Outbound.Settings.Basic — the defaults of new request builders

Settings are the method, the URL mode, the timeout and the redirect policy that a
new builder starts with.  A configuration is settings together with the names of
those that its maker set, whatever their value: the others give way to the
environment.
-/
import Outbound.Settings.Check

namespace Outbound

set_option autoImplicit false

inductive SettingName where
  | method
  | useRawUrl
  | timeoutMs
  | followRedirects
  deriving DecidableEq, Repr

def SettingName.field : SettingName → String
  | .method => "method"
  | .useRawUrl => "use_raw_url"
  | .timeoutMs => "request_timeout_in_ms"
  | .followRedirects => "follow_redirects"

/-- The defaults of a new builder; a timeout of zero leaves it to the engine. -/
structure Settings where
  method : String := "GET"
  useRawUrl : Bool := false
  timeoutMs : Int := 0
  followRedirects : Option Bool := none
  deriving DecidableEq, Repr

namespace Settings

/-- Reads settings; a timeout must not be negative. -/
def ofEntries (entries : Check.Entries) : Check Settings :=
  let method := Check.defaulted entries SettingName.method.field "GET" Check.text
  let useRawUrl := Check.defaulted entries SettingName.useRawUrl.field false Check.bool
  let timeoutMs := Check.defaulted entries SettingName.timeoutMs.field 0 Check.natural
  let followRedirects :=
    Check.defaulted entries SettingName.followRedirects.field none (Check.optional Check.bool)
  (method.both (useRawUrl.both (timeoutMs.both followRedirects))).map fun
    (method, useRawUrl, timeoutMs, followRedirects) =>
      { method, useRawUrl, timeoutMs, followRedirects }

def datum (settings : Settings) : SettingName → Datum
  | .method => .text settings.method
  | .useRawUrl => .bool settings.useRawUrl
  | .timeoutMs => .int settings.timeoutMs
  | .followRedirects =>
    match settings.followRedirects with
    | some b => .bool b
    | none => .absent

end Settings

/-- Settings of which some were set by their maker. -/
structure Config where
  settings : Settings
  isSet : SettingName → Bool

namespace Config

/-- Reads a configuration: what is given is set. -/
def ofEntries (entries : Check.Entries) : Check Config :=
  (Settings.ofEntries entries).map fun settings =>
    { settings, isSet := fun name => (Check.given? entries name.field).isSome }

def explicit (config : Config) (name : SettingName) : Datum :=
  if config.isSet name then config.settings.datum name else .absent

end Config

end Outbound
