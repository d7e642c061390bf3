/-
# Outbound.Uri.Parser — reading an absolute URI

The text is first cleaned: control characters and spaces are dropped from its
start, and tabs and line ends from everywhere.  Then it is cut by delimiters: the
scheme at the first colon, the authority up to the first of `/?#`, the fragment
at the first `#`, the query at the first `?` before that.  Within the authority
the user information ends at the last `@`, and the port follows the first colon
after a bracketed host or in the absence of brackets.

When several parts are at fault the brackets are reported first, then delimiters
in disguise, the port, the scheme and the host.
-/
import Outbound.Text.Quoted
import Outbound.Uri.Address
import Outbound.Uri.Basic

namespace Outbound.Uri

set_option autoImplicit false

/-! ## Cutting -/

/-- The text without the characters that are never part of a URI. -/
def clean (text : List Char) : List Char :=
  (text.dropWhile (·.toNat ≤ 0x20)).filter fun c => !(c = '\t' || c = '\r' || c = '\n')

def isSchemeChar (c : Char) : Bool := c.isAlphanum || c = '+' || c = '-' || c = '.'

/-- The scheme in lower case, when there is one, and what follows its colon. -/
def cutScheme (s : List Char) : Option (List Char) × List Char :=
  match Text.before ':' s, Text.after? ':' s with
  | first :: more, some rest =>
    if first.isAlpha && more.all isSchemeChar then (some ((first :: more).map Char.toLower), rest)
    else (none, s)
  | _, _ => (none, s)

def endsAuthority (c : Char) : Bool := c = '/' || c = '?' || c = '#'

/-- The authority, which follows two slashes, and what follows it. -/
def cutAuthority (s : List Char) : List Char × List Char :=
  match s with
  | '/' :: '/' :: rest =>
    (rest.takeWhile (!endsAuthority ·), rest.dropWhile (!endsAuthority ·))
  | _ => ([], s)

/-- The host and the port of an authority. -/
def hostPort (authority : List Char) : List Char := Text.afterLast '@' authority

def portText (authority : List Char) : List Char :=
  match Text.after? '[' (hostPort authority) with
  | some bracketed => Text.after ':' (Text.after ']' bracketed)
  | none => Text.after ':' (hostPort authority)

/-- The host with its brackets; empty when a bracket is not closed. -/
def hostText (authority : List Char) : List Char :=
  match hostPort authority with
  | '[' :: rest =>
    match Text.after? ']' rest with
    | some _ => '[' :: Text.before ']' rest ++ [']']
    | none => []
  | s => Text.before ':' s

/-! ## Checks -/

def checkBracketed (host : List Char) : Except Defect Unit :=
  if host.head? = some 'v' then
    if isFutureAddress host then .ok () else .error .badFutureAddress
  else if isVersion4 host then .error .bracketedVersion4
  else if isVersion6 host then .ok ()
  else .error (.notAddress (Text.quote (String.ofList host)))

/-- Refuses an authority whose brackets do not enclose the host, or enclose no address.

These are the rules of `urlsplit` as of release 3.11.12.  Up to 3.11.11 only what the
brackets enclose was checked, and text could stand around them. -/
def checkBrackets (authority : List Char) : Except Defect Unit :=
  if '[' ∉ authority ∧ ']' ∉ authority then .ok ()
  else if '[' ∉ authority ∨ ']' ∉ authority then .error .strayBracket
  else
    let place := hostPort authority
    match Text.after? '[' place with
    | none => checkBracketed (Text.before ':' place)
    | some bracketed =>
      let tail := Text.after ']' bracketed
      if Text.before '[' place ≠ [] ∨ (tail ≠ [] ∧ tail.head? ≠ some ':') then
        .error .strayBracket
      else checkBracketed (Text.before ']' bracketed)

/-- The characters whose compatibility form holds a delimiter of a URI. -/
def disguisedDelimiters : List Nat :=
  [0x2047, 0x2048, 0x2049, 0x2100, 0x2101, 0x2105, 0x2106, 0x2A74, 0xFE13, 0xFE16, 0xFE55, 0xFE56,
    0xFE5F, 0xFE6B, 0xFF03, 0xFF0F, 0xFF1A, 0xFF1F, 0xFF20]

def checkDisguise (authority : List Char) : Except Defect Unit :=
  if authority.any (disguisedDelimiters.contains ·.toNat) then
    .error (.disguisedDelimiter (String.ofList authority))
  else .ok ()

def readPort (s : List Char) : Except Defect (Option Int) :=
  if s = [] then .ok none
  else
    match Text.Numeral.asciiDigits? s with
    | none => .error (.portNotNumber (Text.quote (String.ofList s)))
    | some digits =>
      match Text.Numeral.ofDigits? digits with
      | .ok port => if port ≤ 65535 then .ok (some (port : Int)) else .error .portOutOfRange
      | .error fault => .error (.portTooLong fault)

/-! ## The reader -/

def nonempty? (s : List Char) : Option String := if s = [] then none else some (String.ofList s)

/-- Reads an absolute URI over one of the supported schemes. -/
def parse (text : String) : Except Fault Uri := do
  let (scheme?, afterScheme) := cutScheme (clean text.toList)
  let (authority, afterAuthority) := cutAuthority afterScheme
  let pathQuery := Text.before '#' afterAuthority
  let port ← (do
    checkBrackets authority
    checkDisguise authority
    readPort (portText authority) : Except Defect (Option Int)).mapError (.invalid text)
  let scheme ← match scheme? with
    | none => throw (.unsupportedScheme none text)
    | some scheme =>
      let scheme := String.ofList scheme
      if scheme ∈ supportedSchemes then pure scheme
      else throw (.unsupportedScheme (some scheme) text)
  let host := hostText authority
  if host = [] then throw (.invalid text .missingHost)
  return {
    scheme := some scheme
    host := some (String.ofList host)
    userInfo := (Text.beforeLast? '@' authority).bind nonempty?
    port
    path := some (String.ofList (Text.before '?' pathQuery))
    query := (Text.after? '?' pathQuery).bind nonempty? }

def octetText (b : UInt8) : String := "0x" ++ String.ofList (Octets.hexNumber 2 b.toNat)

/-- Reads a URI in octets, which are ASCII; since its scheme is no text, none is supported.  Its
port is shown as octets, which are quoted like a text after a `b`. -/
def parseOctets (bytes : Octets) : Fault :=
  let quoted := Text.quoteOctets bytes
  match bytes.findIdx? (0x80 ≤ ·) with
  | some place => .invalid quoted (.beyondAscii (octetText (bytes.getD place 0)) place)
  | none =>
    let text := bytes.map fun b => Char.ofNat b.toNat
    match parse (String.ofList text), (cutScheme (clean text)).1 with
    | .error (.invalid _ .missingHost), some scheme
    | .error (.unsupportedScheme _ _), some scheme
    | .ok _, some scheme =>
      .octetScheme (Text.quoteOctets (scheme.map fun c => UInt8.ofNat c.toNat)) quoted
    | .error (.invalid _ (.portNotNumber port)), _ => .invalid quoted (.portNotNumber ("b" ++ port))
    | .error (.invalid _ defect), _ => .invalid quoted defect
    | _, _ => .unsupportedScheme none quoted

example : (parseOctets [0x61, 0x3A]).message = "Unsupported scheme 'b'a'' in URI 'b'a:''" := by
  decide +kernel

end Outbound.Uri
