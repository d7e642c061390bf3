/-
# Outbound.File.Path — paths of files

A path is a root, which may be missing, and the names to follow from there.  In
its normal form it has no empty names and no names `.`; a name `..` is kept, since
what it leads to depends on the files.  A path that starts with exactly two
slashes keeps both of them.
-/
import Outbound.Text.Cut

namespace Outbound

set_option autoImplicit false

/-- A path in normal form. -/
structure Path where
  /-- The slashes in front: none, one or two. -/
  root : String
  names : List String
  deriving DecidableEq, Repr

namespace Path

/-- A name that leads somewhere. -/
def isName (name : List Char) : Bool := !name.isEmpty && name != ['.']

def ofText (text : String) : Path :=
  let chars := text.toList
  { root := match (chars.takeWhile (· = '/')).length with
      | 0 => ""
      | 2 => "//"
      | _ => "/"
    names := ((Text.split '/' chars).filter isName).map String.ofList }

def text (path : Path) : String :=
  if path.root = "" ∧ path.names = [] then "." else path.root ++ "/".intercalate path.names

/-- The last name; a path without names has an empty one. -/
def fileName (path : Path) : String := path.names.getLast?.getD ""

example : (ofText "a//./b/").text = "a/b" := by decide +kernel
example : (ofText "").text = "." := by decide +kernel
example : (ofText "///x/../y").text = "/x/../y" := by decide +kernel

end Path

end Outbound
