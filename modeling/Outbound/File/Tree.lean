/-
# Outbound.File.Tree — the files that bodies are read from

The files at hand are a list of places, each a file with its octets or a directory;
of several entries of one place the last counts, and every place above a listed one
is a directory.  Reading follows a path name by
name from the working directory, which is the place without names.  A path may
lead out of the working directory; out there everything is a directory and no
name is known.
-/
import Outbound.File.Path
import Outbound.Text.Quoted
import Outbound.Text.Utf8

namespace Outbound

set_option autoImplicit false

inductive FileNode where
  | file (bytes : Octets)
  | directory
  deriving DecidableEq, Repr

/-- The files at hand, each with the names that lead to it. -/
structure FileTree where
  places : List (List String × FileNode) := []
  deriving DecidableEq, Repr

namespace FileTree

/-- Why a file cannot be read. -/
inductive Fault where
  | missing (path : String)
  | isDirectory (path : String)
  | notDirectory (path : String)
  | nameTooLong (path : String)
  /-- A path cannot hold the character of code point zero. -/
  | nullCharacter
  deriving DecidableEq, Repr

def Fault.message : Fault → String
  | .missing path => "[Errno 2] No such file or directory: " ++ Text.quote path
  | .isDirectory path => "[Errno 21] Is a directory: " ++ Text.quote path
  | .notDirectory path => "[Errno 20] Not a directory: " ++ Text.quote path
  | .nameTooLong path => "[Errno 36] File name too long: " ++ Text.quote path
  | .nullCharacter => "embedded null byte"

def node? (tree : FileTree) (place : List String) : Option FileNode :=
  match tree.places.reverse.lookup place with
  | some node => some node
  | none =>
    if place = [] || tree.places.any (fun p => place.isPrefixOf p.1) then some .directory else none

def size (text : String) : Nat := (Text.Utf8.encode text.toList).length

/-- The longest name and the longest path that can be looked up. -/
def nameLimit : Nat := 255

/-- The length from which on a path cannot be looked up. -/
def pathLimit : Nat := 4096

/-- Follows names from a place, `none` being outside of the working directory; `path` is what
faults show. -/
def follow (tree : FileTree) (path : String) : Option (List String) → List String →
    Except Fault FileNode
  | none, [] => .ok .directory
  | none, name :: rest =>
    if name = ".." then follow tree path none rest
    else if nameLimit < size name then .error (.nameTooLong path)
    else .error (.missing path)
  | some place, [] =>
    match tree.node? place with
    | some node => .ok node
    | none => .error (.missing path)
  | some place, name :: rest =>
    match tree.node? place with
    | none => .error (.missing path)
    | some (.file _) => .error (.notDirectory path)
    | some .directory =>
      if name = ".." then
        follow tree path (if place = [] then none else some place.dropLast) rest
      else if nameLimit < size name then .error (.nameTooLong path)
      else follow tree path (some (place ++ [name])) rest

def read (tree : FileTree) (path : Path) : Except Fault Octets :=
  let text := path.text
  if text.toList.any (·.toNat = 0) then .error .nullCharacter
  else if pathLimit ≤ size text then .error (.nameTooLong text)
  else
    match tree.follow text (if path.root = "" then some [] else none) path.names with
    | .ok (.file bytes) => .ok bytes
    | .ok .directory => .error (.isDirectory text)
    | .error fault => .error fault

end FileTree

end Outbound
