import Turnstile.Host.Path
import Turnstile.Text.Utf8

/-!
# File trees

A `FileTree` holds the files and directories of a host, each under the list of its components from
the root. The root is always a directory. Paths are texts; `locate` finds the place that a path
leads to from a working directory, and every directory on the way must exist.
-/

namespace Turnstile

/-- Why an operation on a file fails. -/
inductive FileError where
  | notFound
  | alreadyExists
  | notDirectory
  | isDirectory
  | nameTooLong
  | notEmpty
  /-- The file is not UTF-8. -/
  | notText
  deriving DecidableEq, Repr

namespace FileError

/-- The system's words for an error. -/
def reason : FileError → String
  | .notFound => "No such file or directory"
  | .alreadyExists => "File exists"
  | .notDirectory => "Not a directory"
  | .isDirectory => "Is a directory"
  | .nameTooLong => "File name too long"
  | .notEmpty => "Directory not empty"
  | .notText => "stream did not contain valid UTF-8"

/-- The system's number of an error; what is no text is no error of the system. -/
def number? : FileError → Option Nat
  | .notFound => some 2
  | .alreadyExists => some 17
  | .notDirectory => some 20
  | .isDirectory => some 21
  | .nameTooLong => some 36
  | .notEmpty => some 39
  | .notText => none

/-- The reason with the number. -/
def message (e : FileError) : String :=
  match e.number? with
  | some n => e.reason ++ " (os error " ++ toString n ++ ")"
  | none => e.reason

end FileError

/-- What a place in a tree holds. -/
inductive FileNode where
  | file (content : Bytes)
  | directory
  deriving DecidableEq, Repr

/-- The components of a place, from the root. -/
abbrev Place := List String

/-- Files and directories by place. -/
structure FileTree where
  nodes : List (Place × FileNode) := []
  deriving DecidableEq, Repr, Inhabited

namespace FileTree

/-- What a place holds. -/
def node? (t : FileTree) (place : Place) : Option FileNode :=
  if place.isEmpty then some .directory else (t.nodes.find? (·.1 == place)).map (·.2)

def isDirectory (t : FileTree) (place : Place) : Bool := t.node? place == some .directory

/-- Puts a node in a place. -/
def put (t : FileTree) (place : Place) (node : FileNode) : FileTree where
  nodes := (place, node) :: t.nodes.filter (·.1 != place)

/-- Takes a place away, with all that is below it. -/
def erase (t : FileTree) (place : Place) : FileTree where
  nodes := t.nodes.filter fun n => !place.isPrefixOf n.1

/-- The names in a directory, in ascending order. -/
def children (t : FileTree) (place : Place) : List String :=
  (t.nodes.filterMap fun n =>
    if n.1.length = place.length + 1 ∧ place.isPrefixOf n.1 then n.1.getLast? else none).mergeSort

/-- Puts a node in a place and makes the directories above it. -/
def putDeep (t : FileTree) (place : Place) (node : FileNode) : FileTree :=
  let parents := (List.range place.length).map place.take
  let t := parents.foldl (fun t p => if (t.node? p).isSome then t else t.put p .directory) t
  t.put place node

/-- Goes on from a place along components. Every place that is left behind must be a directory. -/
def walk (t : FileTree) (place : Place) : List String → Except FileError Place
  | [] => .ok place
  | name :: rest =>
    match t.node? place with
    | none => .error .notFound
    | some (.file _) => .error .notDirectory
    | some .directory =>
      if name == "" || name == "." then
        -- an empty component or a dot asks for a directory
        t.walk place rest
      else if name == ".." then t.walk place.dropLast rest
      else if 255 < name.utf8ByteSize then .error .nameTooLong
      else t.walk (place ++ [name]) rest

/-- The place that a path leads to from a working directory. Only its last component may be
missing. -/
def locate (t : FileTree) (workdir : Place) (path : String) : Except FileError Place :=
  if path.isEmpty then .error .notFound
  else
    let pieces := (Path.splitSlashes path.toList).map String.ofList
    t.walk (if Path.isAbsolute path then [] else workdir) pieces

/-- The node that a path leads to. -/
def find (t : FileTree) (workdir : Place) (path : String) : Except FileError (Place × FileNode) := do
  let place ← t.locate workdir path
  match t.node? place with
  | some node => return (place, node)
  | none => throw .notFound

/-- The content of a file. -/
def read (t : FileTree) (workdir : Place) (path : String) : Except FileError Bytes := do
  match ← t.find workdir path with
  | (_, .file content) => return content
  | (_, .directory) => throw .isDirectory

/-- The content of a file as a text. -/
def readText (t : FileTree) (workdir : Place) (path : String) : Except FileError String := do
  match Utf8.decode? (← t.read workdir path) with
  | some text => return text
  | none => throw .notText

/-- The place of a file that may be written, made if it is missing. -/
def openForWriting (t : FileTree) (workdir : Place) (path : String) :
    Except FileError (Place × FileTree) := do
  let place ← t.locate workdir path
  match t.node? place with
  | some (.file _) => return (place, t)
  | some .directory => throw .isDirectory
  | none => return (place, t.put place (.file []))

/-- Adds octets at the end of a file. -/
def append (t : FileTree) (place : Place) (data : Bytes) : FileTree :=
  match t.node? place with
  | some (.file content) => t.put place (.file (content ++ data))
  | _ => t

/-- The absolute path of a place. -/
def pathOf (place : Place) : String := "/" ++ String.intercalate "/" place

end FileTree

end Turnstile
