/-
# Outbound.Datum.Misuse — using a value for what its type does not offer

A value of no fixed type can be asked for more than its type offers.  Each way of
doing so is a cause of its own; all of them name the type, and `message` is their
wording.
-/

namespace Outbound

set_option autoImplicit false

/-- Why a value cannot be used as it is used. -/
inductive Misuse where
  /-- Values of this type do not offer what is asked of them. -/
  | lacks (typeName capability : String)
  | notIterable (typeName : String)
  | unsized (typeName : String)
  /-- A value of this type cannot be a name. -/
  | unhashable (typeName : String)
  /-- Values of these types have no order. -/
  | incomparable (relation left right : String)
  /-- The piece at this place of a text is of another type. -/
  | unjoinable (index : Nat) (typeName : String)
  /-- The piece at this place of octets is of another type. -/
  | unjoinableOctets (index : Nat) (typeName : String)
  /-- A value of this type cannot follow a text. -/
  | unappendable (typeName : String)
  /-- A text cannot follow a value of this type, in an operation of this sign. -/
  | unextendable (sign typeName : String)
  /-- A text cannot follow octets, whose type is this. -/
  | octetsExtended (typeName : String)
  /-- A text cannot follow a list. -/
  | listExtended
  /-- Only texts are percent-encoded. -/
  | unquotable
  /-- Octets are not cut at a text. -/
  | octetsCut
  /-- Octets do not match a pattern of characters. -/
  | octetsMatched
  /-- Only texts match a pattern of characters. -/
  | notMatched (typeName : String)
  /-- A charset is named by a text. -/
  | charsetNotText (typeName : String)
  /-- A secret is octets. -/
  | secretNotOctets (typeName : String)
  /-- A value of this type names no file. -/
  | notPath (typeName : String)
  /-- A file is not named by octets. -/
  | pathInOctets
  deriving DecidableEq, Repr

def Misuse.message : Misuse → String
  | .lacks typeName capability => s!"'{typeName}' object has no attribute '{capability}'"
  | .notIterable typeName => s!"'{typeName}' object is not iterable"
  | .unsized typeName => s!"object of type '{typeName}' has no len()"
  | .unhashable typeName => s!"unhashable type: '{typeName}'"
  | .incomparable relation left right =>
    s!"'{relation}' not supported between instances of '{left}' and '{right}'"
  | .unjoinable index typeName =>
    s!"sequence item {index}: expected str instance, {typeName} found"
  | .unjoinableOctets index typeName =>
    s!"sequence item {index}: expected a bytes-like object, {typeName} found"
  | .unappendable typeName =>
    "can only concatenate str (not \"" ++ typeName ++ "\") to str"
  | .unextendable sign typeName =>
    s!"unsupported operand type(s) for {sign}: '{typeName}' and 'str'"
  | .octetsExtended typeName => s!"can't concat str to {typeName}"
  | .listExtended => "can only concatenate list (not \"str\") to list"
  | .unquotable => "quote() doesn't support 'encoding' for bytes"
  | .octetsCut => "a bytes-like object is required, not 'str'"
  | .octetsMatched => "cannot use a string pattern on a bytes-like object"
  | .notMatched typeName => s!"expected string or bytes-like object, got '{typeName}'"
  | .charsetNotText typeName => s!"encode() argument 'encoding' must be str, not {typeName}"
  | .secretNotOctets typeName => s!"key: expected bytes or bytearray, but got '{typeName}'"
  | .notPath typeName => s!"expected str, bytes or os.PathLike object, not {typeName}"
  | .pathInOctets =>
    "argument should be a str object or an os.PathLike object returning str, not <class 'bytes'>"

end Outbound
