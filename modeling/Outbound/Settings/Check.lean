/-
# Outbound.Settings.Check — reading fields of no fixed type

A record of settings is read from named data.  Every field is read by itself, and
all its defects are reported together, in the order in which the record declares
its fields (`Check.both`).

Reading is lenient: octets stand for a text, an integral double or a numeral for
an integer, zero and one and the usual words for a truth value.
-/
import Outbound.Datum.Number
import Outbound.Text.Case
import Outbound.Text.Numeral
import Outbound.Text.Utf8

namespace Outbound

set_option autoImplicit false

/-- What is wrong with a field. -/
inductive DefectKind where
  | missing
  | stringType
  | stringUnicode
  | intType
  | intParsing
  | intParsingSize
  | intFromFloat
  | finiteNumber
  | greaterThanEqual
  | boolType
  | boolParsing
  | literalError
  | listType
  | callableType
  /-- The fields do not fit together, for the stated reason. -/
  | valueError (reason : String)
  deriving DecidableEq, Repr

def DefectKind.code : DefectKind → String
  | .missing => "missing"
  | .stringType => "string_type"
  | .stringUnicode => "string_unicode"
  | .intType => "int_type"
  | .intParsing => "int_parsing"
  | .intParsingSize => "int_parsing_size"
  | .intFromFloat => "int_from_float"
  | .finiteNumber => "finite_number"
  | .greaterThanEqual => "greater_than_equal"
  | .boolType => "bool_type"
  | .boolParsing => "bool_parsing"
  | .literalError => "literal_error"
  | .listType => "list_type"
  | .callableType => "callable_type"
  | .valueError _ => "value_error"

/-- A step on the way to a defect. -/
inductive FieldStep where
  | field (name : String)
  | item (index : Nat)
  deriving DecidableEq, Repr

/-- A defect and the way to it. -/
structure SettingsDefect where
  kind : DefectKind
  place : List FieldStep
  deriving DecidableEq, Repr

/-- A value, or all the defects that keep it from being read. -/
abbrev Check (α : Type) := Except (List SettingsDefect) α

namespace Check

variable {α β : Type}

/-- One defect at the place itself. -/
def refuse (kind : DefectKind) : Check α := .error [⟨kind, []⟩]

/-- Both values, or the defects of both. -/
def both (a : Check α) (b : Check β) : Check (α × β) :=
  match a, b with
  | .ok x, .ok y => .ok (x, y)
  | .ok _, .error es => .error es
  | .error es, .ok _ => .error es
  | .error es, .error fs => .error (es ++ fs)

/-- The same check, its defects found one step further away. -/
def under (step : FieldStep) (check : Check α) : Check α :=
  check.mapError fun es => es.map fun e => { e with place := step :: e.place }

/-! ## Data as values -/

/-- A text, or octets that are the UTF-8 form of one. -/
def text : Datum → Check String
  | .text s => .ok s
  | .octets .view _ => refuse .stringType
  | .octets _ bytes =>
    match Text.Utf8.decode bytes with
    | .ok s => .ok (String.ofList s)
    | .error _ => refuse .stringUnicode
  | _ => refuse .stringType

/-! ## Numerals

A numeral may have blanks around it, a sign, zeros in front, single underscores
between its digits, and a point with zeros behind it.  What is left when blanks, plus
sign, zeros, underscores and point are gone is an integer in plain notation. -/

/-- What follows a sign, less the zeros in front of it.  Underscores between these zeros are
dropped with them, and a minus sign may follow; of zeros alone the last is kept, also before a
point. -/
def withoutLeadingZeros (s : List Char) : Option (List Char) :=
  match s with
  | '0' :: rest =>
    let isFiller (c : Char) : Bool := c = '0' || c = '_'
    match rest.dropWhile isFiller with
    | [] => some [s.getLast?.getD '0']
    | '.' :: decimals => some ((('0' :: rest.takeWhile isFiller).getLast?.getD '0') :: '.' :: decimals)
    | c :: more => if c = '-' || Text.isAsciiDigit c then some (c :: more) else none
  | c :: _ => if c = '-' || Text.isAsciiDigit c then some s else none
  | [] => none

/-- A numeral less a point at its end with at least one zero behind it. -/
def withoutZeroDecimals (s : List Char) : List Char :=
  match s.reverse.dropWhile (· = '0') with
  | '.' :: whole => if s.getLast? = some '0' then whole.reverse else s
  | _ => s

/-- No underscore is at an end or beside another one. -/
def separatesDigits : List Char → Bool
  | [] => true
  | ['_'] => false
  | '_' :: '_' :: _ => false
  | _ :: rest => separatesDigits rest

/-- A numeral less its underscores, when they stand between digits. -/
def withoutUnderscores (s : List Char) : List Char :=
  if s.head? ≠ some '_' && separatesDigits s then s.filter (· ≠ '_') else s

/-- What follows a sign, in plain notation, unless there is none. -/
def plainBody? (s : List Char) : Option (List Char) :=
  (withoutLeadingZeros s).map fun rest => withoutUnderscores (withoutZeroDecimals rest)

/-- A numeral in plain notation, unless there is none.  A plus sign is dropped, and no minus sign
follows it; a minus sign is kept. -/
def plainNumeral? (s : List Char) : Option (List Char) :=
  match Text.trimWhile Text.Numeral.isPadding s with
  | '+' :: '-' :: _ => none
  | '+' :: rest => plainBody? rest
  | '-' :: rest => (plainBody? rest).map ('-' :: ·)
  | rest => plainBody? rest

/-- The number of digits from which on a numeral is not read. -/
def digitLimit : Nat := 4303

/-- The integer of a numeral in plain notation: a minus sign, and zero or digits that do not start
with zero. -/
def plainInt (s : List Char) : Check Int :=
  let (negative, body) := match s with
    | '-' :: rest => (true, rest)
    | rest => (false, rest)
  if digitLimit ≤ (body.takeWhile Text.isAsciiDigit).length then refuse .intParsingSize
  else if body.head? = some '0' && 1 < body.length then refuse .intParsing
  else
    match Text.Numeral.asciiDigits? body with
    | some digits => .ok (Text.Numeral.signed negative (Text.ofDigits digits))
    | none => refuse .intParsing

def intText (s : List Char) : Check Int :=
  match plainNumeral? s with
  | some plain => plainInt plain
  | none => refuse .intParsing

def wordBound : Int := (Nat.pow 2 63 : Nat)

/-- The integer that a double is, unless it does not fit into a word. -/
def intOfDouble (x : Binary64) : Check Int :=
  match x.truncate? with
  | none => refuse .finiteNumber
  | some n =>
    if !x.isIntegral then refuse .intFromFloat
    else if -wordBound < n ∧ n < wordBound then .ok n
    else refuse .intParsingSize

def int : Datum → Check Int
  | .int n => .ok n
  | .bool b => .ok b.toInt
  | .double x => intOfDouble x
  | .text s => intText s.toList
  | .octets .fixed bytes =>
    match Text.Utf8.decode bytes with
    | .ok s => intText s
    | .error _ => refuse .intParsing
  | _ => refuse .intType

def natural (d : Datum) : Check Int := do
  let n ← int d
  if n < 0 then refuse .greaterThanEqual else return n

def boolText (s : String) : Check Bool :=
  let word := Text.lower s
  if word ∈ ["1", "on", "t", "true", "y", "yes"] then .ok true
  else if word ∈ ["0", "off", "f", "false", "n", "no"] then .ok false
  else refuse .boolParsing

def boolOfInt (n : Int) : Check Bool :=
  if n = 0 then .ok false
  else if n = 1 then .ok true
  else if -wordBound ≤ n ∧ n < wordBound then refuse .boolParsing
  else refuse .boolType

def boolOfDouble (x : Binary64) : Check Bool :=
  match intOfDouble x with
  | .ok n => boolOfInt n
  | .error _ => refuse .boolType

def bool : Datum → Check Bool
  | .bool b => .ok b
  | .int n => boolOfInt n
  | .double x => boolOfDouble x
  | .text s => boolText s
  | .octets .fixed bytes =>
    match Text.Utf8.decode bytes with
    | .ok s => boolText (String.ofList s)
    | .error _ => refuse .boolParsing
  | _ => refuse .boolType

def choice (words : List (String × α)) : Datum → Check α
  | .text s =>
    match words.lookup s with
    | some a => .ok a
    | none => refuse .literalError
  | _ => refuse .literalError

def optional (check : Datum → Check α) : Datum → Check (Option α)
  | .absent => .ok none
  | d => (check d).map some

/-- The items of a list, from this index on. -/
def itemsFrom (check : Datum → Check α) (index : Nat) : List Datum → Check (List α)
  | [] => .ok []
  | d :: rest =>
    (both (under (.item index) (check d)) (itemsFrom check (index + 1) rest)).map
      fun p => p.1 :: p.2

/-- The items of a list, of octets that are viewed, or of a stream; other collections are no
lists. -/
def items? : Datum → Option (List Datum)
  | .list items => some items
  | .octets .view bytes => (Datum.octets .view bytes).elements?.toOption
  | .payload object => (Datum.payload object).elements?.toOption
  | _ => none

def listOf (check : Datum → Check α) (d : Datum) : Check (List α) :=
  match items? d with
  | some items => itemsFrom check 0 items
  | none => refuse .listType

/-! ## Fields -/

/-- Named data; of several data of one name the last counts. -/
abbrev Entries := List (String × Datum)

def given? (entries : Entries) (name : String) : Option Datum := entries.reverse.lookup name

def required (entries : Entries) (name : String) (check : Datum → Check α) : Check α :=
  under (.field name) (match given? entries name with
    | some d => check d
    | none => refuse .missing)

def defaulted (entries : Entries) (name : String) (default : α) (check : Datum → Check α) :
    Check α :=
  match given? entries name with
  | some d => under (.field name) (check d)
  | none => .ok default

example : (intText "00-9.0".toList).toOption = some (-9) := by decide +kernel
example : (intText " +1_0.00".toList).toOption = some 10 := by decide +kernel
example : (intText "1.".toList).toOption = none := by decide +kernel
example : (intText "-00".toList).toOption = some 0 := by decide +kernel
example : (intText "-0_07.0".toList).toOption = some (-7) := by decide +kernel
example : (intText "0-07".toList).toOption = none := by decide +kernel
example : (intText "--7".toList).toOption = none := by decide +kernel

end Check

end Outbound
