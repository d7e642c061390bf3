/-
# Outbound.Datum.Written — data as texts

A datum is shown inside others by its `literal`: texts and octets between quotes,
collections between brackets, records by their type and fields.  On its own it is
`written`: a text, a path and a URI stand there as they are.
-/
import Outbound.Datum.Basic

namespace Outbound

set_option autoImplicit false

def Datum.recordText (typeName : String) (fields : List (String × String)) : String :=
  typeName ++ "(" ++ ", ".intercalate (fields.map fun f => f.1 ++ "=" ++ f.2) ++ ")"

def Datum.textLiteral : Option String → String
  | some s => Text.quote s
  | none => "None"

def Uri.literal (u : Uri) : String :=
  Datum.recordText "Uri" [("scheme", Datum.textLiteral u.scheme),
    ("host", Datum.textLiteral u.host), ("user_info", Datum.textLiteral u.userInfo),
    ("port", match u.port with
      | some port => toString port
      | none => "None"),
    ("path", Datum.textLiteral u.path), ("query", Datum.textLiteral u.query)]

namespace Datum

mutual
def literal : Datum → String
  | .absent => "None"
  | .bool b => if b then "True" else "False"
  | .int n => toString n
  | .double x => doubleFormat.render x
  | .text s => Text.quote s
  | .octets holder bytes => holder.literal bytes
  | .list items => "[" ++ ", ".intercalate (literals items) ++ "]"
  | .dict entries => "\x7b" ++ ", ".intercalate (entryLiterals entries) ++ "\x7d"
  | .fields keying entries =>
    keying.typeName ++ "(\x7b" ++ ", ".intercalate (nameLiterals entries) ++ "\x7d)"
  | .path p => p.literal
  | .uri u => u.literal
  | .payload object => "<" ++ object.typeName ++ " object>"
  | .record typeName _ named => recordText typeName (fieldLiterals named)
  | .shown _ literal => literal

def literals : List Datum → List String
  | [] => []
  | d :: rest => literal d :: literals rest

def entryLiterals : List (Datum × Datum) → List String
  | [] => []
  | (k, d) :: rest => (literal k ++ ": " ++ literal d) :: entryLiterals rest

def nameLiterals : List (Name × List Datum) → List String
  | [] => []
  | (name, values) :: rest =>
    (name.literal ++ ": [" ++ ", ".intercalate (literals values) ++ "]") :: nameLiterals rest

def fieldLiterals : List (String × Datum) → List (String × String)
  | [] => []
  | (name, d) :: rest => (name, literal d) :: fieldLiterals rest
end

def written : Datum → String
  | .text s => s
  | .path p => p.text
  | .uri u =>
    match u.render with
    | .ok s => s
    | .error _ => u.literal
  | d => d.literal

/-- The name that a datum is, unless values of its type can change. -/
def name? : Datum → Option Name
  | .text s => some (.text s)
  | .octets .growing _ => none
  | .octets holder bytes => some (.octets holder bytes)
  | .bool b => some (.bool b)
  | .int n => some (.int n)
  | .double x => some (.double x)
  | .path p => some (.path p)
  | .list _ => none
  | .dict _ => none
  | .fields _ _ => none
  | .record _ false _ => none
  | d => some (.object d.typeName d.literal)

end Datum

/-- The name that a datum is in a map, absence being none; where case is ignored only texts and
octets can be names. -/
def Keying.name? (keying : Keying) (d : Datum) : Except Misuse (Option Name) :=
  match keying, d with
  | _, .text s => .ok (some (.text s))
  | .exact, .absent => .ok none
  | .folded, .octets .view _ => .error (d.lacks "lower")
  | _, .octets .fixed bytes => .ok (some (.octets .fixed bytes))
  | _, .octets .growing _ => .error (.unhashable d.typeName)
  | .folded, _ => .error (d.lacks "lower")
  | .exact, _ =>
    match d.name? with
    | some name => .ok (some name)
    | none => .error (.unhashable d.typeName)

end Outbound
