/-
# Outbound.Text.Charset — named character encodings

A charset is named without regard to case, and any run of punctuation other than
the full stop separates the words of a name.  Besides its own name a charset has
aliases, in which a full stop may stand between words as well.  A charset of one
octet a character refuses the characters that it does not have; a refusal names the
first run of such characters.  The two- and four-octet forms of Unicode start with a
byte-order mark unless the name fixes the order of the octets.
-/
import Outbound.Octets.Endian
import Outbound.Text.Page
import Outbound.Text.Quoted
import Outbound.Text.Utf8

namespace Outbound.Text

set_option autoImplicit false

/-- The order of the octets of a word. -/
inductive Endian where
  | little
  | big
  deriving DecidableEq, Repr

/-- A character encoding. -/
inductive Charset where
  /-- With or without a mark in front. -/
  | utf8 (isMarked : Bool)
  /-- An octet a character. -/
  | narrow (page : Page)
  /-- Words of two octets; without a fixed order, little-endian after a byte-order mark. -/
  | utf16 (order : Option Endian)
  /-- Words of four octets; without a fixed order, little-endian after a byte-order mark. -/
  | utf32 (order : Option Endian)
  deriving DecidableEq, Repr

namespace Charset

/-! ## Names -/

/-- A character that is part of a word of a charset's name. -/
def isNameChar (c : Char) : Bool := c.isAlphanum || c = '.'

def nameWords (name : List Char) : List (List Char) :=
  match name with
  | [] => []
  | c :: rest =>
    let words := nameWords rest
    if !isNameChar c then words
    else
      match rest, words with
      | next :: _, word :: others =>
        if isNameChar next then (c.toLower :: word) :: others else [c.toLower] :: words
      | _, _ => [c.toLower] :: words

/-- A name as lower-case words joined by underscores. -/
def foldedName (name : String) : String :=
  "_".intercalate ((nameWords name.toList).map String.ofList)

/-- A charset's own name and its aliases. -/
structure Entry where
  charset : Charset
  name : String
  aliases : List String
  deriving DecidableEq, Repr

/-- The names of each charset but those of the families. -/
def ownNames : List Entry :=
  [⟨.utf8 false, "utf_8", ["utf8", "u8", "utf", "utf8_ucs2", "utf8_ucs4", "cp65001"]⟩,
    ⟨.utf8 true, "utf_8_sig", []⟩,
    ⟨.narrow .latin1, "latin_1", ["iso_8859_1", "iso8859_1", "latin1", "latin", "l1", "8859", "cp819",
      "iso8859", "iso_8859_1_1987", "iso_ir_100", "csisolatin1", "ibm819"]⟩,
    ⟨.narrow .ascii, "ascii", ["us_ascii", "646", "us", "ansi_x3.4_1968", "ansi_x3_4_1968",
      "ansi_x3.4_1986", "cp367", "csascii", "ibm367", "iso646_us", "iso_646.irv_1991",
      "iso_ir_6"]⟩,
    ⟨.utf16 none, "utf_16", ["utf16", "u16"]⟩,
    ⟨.utf16 (some .little), "utf_16_le", ["utf_16le", "unicodelittleunmarked"]⟩,
    ⟨.utf16 (some .big), "utf_16_be", ["utf_16be", "unicodebigunmarked"]⟩,
    ⟨.utf32 none, "utf_32", ["utf32", "u32"]⟩,
    ⟨.utf32 (some .little), "utf_32_le", ["utf_32le"]⟩,
    ⟨.utf32 (some .big), "utf_32_be", ["utf_32be"]⟩]

def names : List Entry :=
  ownNames ++ Page.families.map fun p => ⟨.narrow p.page, p.name, p.aliases⟩

/-- A name whose full stops are underscores. -/
def withoutStops (name : String) : String :=
  String.ofList (name.toList.map fun c => if c = '.' then '_' else c)

/-- The charset of a name; in an alias a full stop may stand for an underscore. -/
def named? (name : String) : Option Charset :=
  let folded := foldedName name
  let plain := withoutStops folded
  (names.find? fun e => folded = e.name || e.aliases.contains folded ||
    e.aliases.contains plain).map (·.charset)

/-! ## Encoding -/

/-- Why a text cannot be encoded. -/
inductive Fault where
  /-- No charset has this name. -/
  | unknown (name : String)
  /-- The name holds the character of code point zero. -/
  | nullCharacter
  /-- The characters `first` to `last` have no octets; `char` is the first of them. -/
  | unencodable (codec refusal : String) (char : Char) (first last : Nat)
  deriving DecidableEq, Repr

def Fault.message : Fault → String
  | .unknown name => s!"unknown encoding: {name}"
  | .nullCharacter => "embedded null character"
  | .unencodable codec refusal char first last =>
    let place :=
      if first = last then
        s!"character '{String.ofList (escapeCode char.toNat)}' in position {first}"
      else s!"characters in position {first}-{last}"
    s!"'{codec}' codec can't encode {place}: {refusal}"

/-- One octet a character, for characters of a page. -/
def encodeNarrow (page : Page) (s : List Char) : Except Fault Octets :=
  let fits (c : Char) : Bool := (page.octet? c).isSome
  match s.dropWhile fits with
  | [] => .ok (s.filterMap page.octet?)
  | c :: rest =>
    let first := (s.takeWhile fits).length
    .error (.unencodable page.codec page.refusal c first
      (first + (rest.takeWhile (!fits ·)).length))

def word (order : Endian) (width n : Nat) : Octets :=
  match order with
  | .little => Octets.littleEndian width n
  | .big => Octets.bigEndian width n

/-- One or two words of two octets. -/
def utf16Char (order : Endian) (c : Char) : Octets :=
  if c.toNat < 0x10000 then word order 2 c.toNat
  else
    let offset := c.toNat - 0x10000
    word order 2 (0xD800 + offset / 0x400) ++ word order 2 (0xDC00 + offset % 0x400)

/-- The mark before words of no fixed order, and the words. -/
def marked (width : Nat) (order : Option Endian) (body : Endian → Octets) : Octets :=
  match order with
  | some fixed => body fixed
  | none => word .little width 0xFEFF ++ body .little

def utf8Mark : Octets := [0xEF, 0xBB, 0xBF]

def encode (charset : Charset) (s : List Char) : Except Fault Octets :=
  match charset with
  | .utf8 isMarked => .ok ((if isMarked then utf8Mark else []) ++ Utf8.encode s)
  | .narrow page => encodeNarrow page s
  | .utf16 order => .ok (marked 2 order fun o => s.flatMap (utf16Char o))
  | .utf32 order => .ok (marked 4 order fun o => s.flatMap fun c => word o 4 c.toNat)

example : named? "ISO-8859-1" = some (.narrow .latin1) := by decide +kernel
example : named? "us.ascii" = some (.narrow .ascii) ∧ named? "utf.8" = none := by decide +kernel
example : encode (.narrow .ascii) "aé€".toList =
    .error (.unencodable "ascii" "ordinal not in range(128)" 'é' 1 2) := by rfl
example : ((named? "Windows-1252").map (encode · "é€".toList)).map Except.toOption =
    some (some [0xE9, 0x80]) := by decide +kernel

end Charset

end Outbound.Text
