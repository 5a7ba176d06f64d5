import GestureMode.Entries
import GestureMode.Failure
import GestureMode.Node.Path
import GestureMode.Text.ZeroByte
import GestureMode.Text.Utf8

/-!
# Files

A tree of files as far as writing a line needs it.  A path is followed from the
root or from the working directory, piece by piece; a file is opened for writing
and emptied but never created; and what is written may be stored only in part.
-/

set_option autoImplicit false

namespace GestureMode

inductive File where
  | regular (content : List UInt8)
  | directory
  /-- Takes everything and keeps nothing. -/
  | discarding
  /-- Can be opened, and has room for nothing. -/
  | full
  /-- Cannot be opened for writing. -/
  | sealed (cause : Cause)
  deriving DecidableEq, Repr

abbrev Location := List String

/-- The location that a path spells, without a look at any file. -/
def Location.ofPath (base : Location) (path : String) : Location :=
  let (rooted, parts) := Path.components path
  parts.foldl
    (fun location piece =>
      if piece = ['.'] then location
      else if piece = ['.', '.'] then location.dropLast
      else location ++ [String.ofList piece])
    (if rooted then [] else base)

structure FileTree where
  files : Entries Location File
  base : Location
  /-- The most bytes that a regular file may have. -/
  sizeLimit : Option Nat
  deriving DecidableEq, Repr

/-- How the system answers to a line for a path. -/
inductive Delivery where
  /-- The path could not be opened, and nothing changed. -/
  | unopened (cause : Cause)
  /-- The file was emptied, and the write was refused. -/
  | refused (cause : Cause)
  /-- The file was emptied, and took the first bytes. -/
  | stored (count : Nat)
  deriving DecidableEq, Repr

namespace FileTree

def devices : Entries Location File :=
  [(["dev", "full"], .full), (["dev", "null"], .discarding)]

def ofFiles (base : Location) (files : List (String × File)) (sizeLimit : Option Nat) : FileTree :=
  let placed := files.foldl
    (fun entries entry => Entries.put entries (Location.ofPath base entry.1) entry.2) devices
  ⟨placed, base, sizeLimit⟩

def nameLimit : Nat := 255

/-- A path has fewer bytes than this. -/
def pathLimit : Nat := 4096

/-- The file at a location; above every known location is a directory. -/
def file? (tree : FileTree) (location : Location) : Option File :=
  match tree.files.get? location with
  | some file => some file
  | none =>
    if (tree.base :: tree.files.map Prod.fst).any location.isPrefixOf then some .directory
    else none

def enter (tree : FileTree) (here : Location) (piece : String) : Except Cause Location :=
  if tree.file? here ≠ some .directory then .error .notDirectory
  else if piece = "" ∨ piece = "." then .ok here
  else if piece = ".." then .ok here.dropLast
  else if nameLimit < (Text.Utf8.encode piece).length then .error .nameTooLong
  else if (tree.file? (here ++ [piece])).isSome then .ok (here ++ [piece])
  else .error .notFound

def follow (tree : FileTree) : Location → List String → Except Cause Location
  | here, [] => .ok here
  | here, piece :: rest =>
    match tree.enter here piece with
    | .error cause => .error cause
    | .ok there => tree.follow there rest

def locate (tree : FileTree) (path : String) : Except Cause Location :=
  if Text.hasNul path then .error .nulInPath
  else if pathLimit ≤ (Text.Utf8.encode path).length then .error .nameTooLong
  else if path = "" then .error .notFound
  else
    tree.follow (if Path.isRooted path.toList then [] else tree.base)
      ((Path.pieces path.toList).map String.ofList)

def content? (tree : FileTree) (path : String) : Option (List UInt8) :=
  match tree.locate path with
  | .error _ => none
  | .ok location =>
    match tree.file? location with
    | some (.regular content) => some content
    | _ => none

/-- How the system answers when so many bytes are written to a path. -/
def delivery (tree : FileTree) (path : String) (length : Nat) : Delivery :=
  match tree.locate path with
  | .error cause => .unopened cause
  | .ok location =>
    match tree.file? location with
    | none => .unopened .notFound
    | some .directory => .unopened .isDirectory
    | some (.sealed cause) => .unopened cause
    | some .discarding => .stored length
    | some .full => .refused .noSpace
    | some (.regular _) =>
      match tree.sizeLimit with
      | none => .stored length
      | some limit =>
        if length ≤ limit then .stored length
        else if limit = 0 then .refused .tooLarge
        else .stored limit

def contentAfter (content bytes : List UInt8) : Delivery → List UInt8
  | .unopened _ => content
  | .refused _ => []
  | .stored count => bytes.take count

def settle (tree : FileTree) (path : String) (bytes : List UInt8) (delivery : Delivery) :
    FileTree :=
  match tree.locate path with
  | .error _ => tree
  | .ok location =>
    match tree.file? location with
    | some (.regular content) =>
      { tree with
        files := tree.files.put location (.regular (contentAfter content bytes delivery)) }
    | _ => tree

end FileTree

namespace Delivery

def failure? (path : String) (length : Nat) : Delivery → Option Failure
  | .unopened cause => some (.opening path cause)
  | .refused cause => some (.writing path cause)
  | .stored count => if count = length then none else some (.writing path .shortWrite)

end Delivery

end GestureMode
