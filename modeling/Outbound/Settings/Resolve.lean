/-
# Outbound.Settings.Resolve — from argument, environment and default to a value

A value is taken from the first of three places that has it: the argument unless
it is absent, the first of the named environment variables that is set, the
default.  Texts are then read as truth values by a list of words, and as integers
by the rules of numerals; what cannot be read as an integer gives the default.
An infinite double is no integer and has no default: it is a fault.

`resolveConfig` resolves all four settings.  Since every value is brought to its
type, the result needs no further check.
-/
import Outbound.Datum.Written
import Outbound.Settings.Basic

namespace Outbound

set_option autoImplicit false

/-- Environment variables; of several values of one name the last counts. -/
abbrev Environment := List (String × String)

/-- Why a value cannot be resolved. -/
inductive ResolveFault where
  /-- An infinite double cannot be an integer. -/
  | infinite
  deriving DecidableEq, Repr

def ResolveFault.message : ResolveFault → String
  | .infinite => "cannot convert float infinity to integer"

namespace Environment

def get? (env : Environment) (name : String) : Option String := env.reverse.lookup name

end Environment

/-- The argument, or the first variable that is set, or the default. -/
def resolve (env : Environment) (arg : Datum) (keys : List String) (default : Datum) : Datum :=
  match arg with
  | .absent =>
    match keys.findSome? env.get? with
    | some value => .text value
    | none => default
  | arg => arg

def affirmations : List String := ["true", "1", "yes", "on"]

/-- A datum as a truth value; an absent one has none. -/
def truth? : Datum → Option Bool
  | .absent => none
  | .bool b => some b
  | .text s => some (affirmations.contains (Text.lower s))
  | d => some d.isTrue

def resolveBool (env : Environment) (arg : Datum) (keys : List String) (default : Datum) :
    Option Bool :=
  truth? (resolve env arg keys default)

def integer? : Datum → Except ResolveFault (Option Int)
  | .int n => .ok (some n)
  | .bool b => .ok (some b.toInt)
  | .double x =>
    match x.magnitude with
    | .infinite => .error .infinite
    | _ => .ok x.truncate?
  | .text s => .ok (Text.Numeral.read? s.toList)
  | .octets _ bytes =>
    .ok (if bytes.all (· < 0x80) then
      Text.Numeral.read? (bytes.map fun b => Char.ofNat b.toNat)
    else none)
  | _ => .ok none

/-- A resolved integer, as a datum because the default may be anything. -/
def resolveInt (env : Environment) (arg : Datum) (keys : List String) (default : Datum) :
    Except ResolveFault Datum :=
  (integer? (resolve env arg keys default)).map fun
    | some n => .int n
    | none => default

/-! ## All settings -/

def SettingName.variable : SettingName → String
  | .method => "FETCH_REQUEST_METHOD"
  | .useRawUrl => "FETCH_REQUEST_USE_RAW_URL"
  | .timeoutMs => "FETCH_REQUEST_TIMEOUT_MS"
  | .followRedirects => "FETCH_REQUEST_FOLLOW_REDIRECTS"

/-- What a new builder is configured by. -/
inductive Configuration where
  | unset
  /-- A configuration that was checked when it was made. -/
  | checked (config : Config)
  /-- Named data that were not checked. -/
  | loose (entries : Check.Entries)

def Configuration.explicit : Configuration → SettingName → Datum
  | .unset, _ => .absent
  | .checked config, name => config.explicit name
  | .loose entries, name => (Check.given? entries name.field).getD .absent

def resolveConfig (env : Environment) (configuration : Configuration) :
    Except ResolveFault Settings := do
  let arg := configuration.explicit
  let timeout ← integer?
    (resolve env (arg .timeoutMs) [SettingName.timeoutMs.variable] (.int 0))
  return {
    method := Text.upper
      (resolve env (arg .method) [SettingName.method.variable] (.text "GET")).written
    useRawUrl :=
      (resolveBool env (arg .useRawUrl) [SettingName.useRawUrl.variable] (.bool false)).getD false
    timeoutMs := max (timeout.getD 0) 0
    followRedirects :=
      resolveBool env (arg .followRedirects) [SettingName.followRedirects.variable] .absent }

end Outbound
