import Turnstile.Host.FileTree
import Turnstile.Wildcard

/-!
# Expanding patterns to files

`FileTree.filesMatching` finds the files that a pattern stands for. A pattern is compared with a
path component by component; a double star stands for any number of directories. A component
without wildcards is looked up directly, so only it can lead to `.` and `..`. A pattern that starts
at the working directory gives paths without a leading dot.
-/

namespace Turnstile.FileTree

/-- A path that a pattern was compared with so far. -/
structure Reached where
  path : String
  /-- True at the working directory itself, which leaves no trace in paths. -/
  isHere : Bool := false

/-- The character of a token that stands for itself. -/
def literalChar? : WildcardToken → Option Char
  | .char c => some c
  | _ => none

/-- The text that a pattern without wildcards stands for. -/
def literal? (w : Wildcard) : Option String :=
  (w.tokens.mapM literalChar?).map String.ofList

/-- The path of an entry of a directory. -/
def Reached.entry (r : Reached) (name : String) : Reached :=
  if r.isHere then ⟨name, name == "."⟩ else ⟨Path.join r.path name, false⟩

/-- Whether a path leads to a directory. -/
def isDirectoryAt (t : FileTree) (cwd : Place) (path : String) : Bool :=
  match t.find cwd path with
  | .ok (_, .directory) => true
  | _ => false

/-- Whether a path leads to a file. -/
def isFileAt (t : FileTree) (cwd : Place) (path : String) : Bool :=
  match t.find cwd path with
  | .ok (_, .file _) => true
  | _ => false

/-- The names in the directory that a path leads to. -/
def entriesAt (t : FileTree) (cwd : Place) (path : String) : List String :=
  match t.find cwd path with
  | .ok (place, .directory) => t.children place
  | _ => []

/-- Without the double stars in front. -/
def dropRecursive (ps : List Wildcard) : List Wildcard := ps.dropWhile (·.isRecursive)

mutual

/-- The paths below a reached one that the components of a pattern lead to. -/
def below (t : FileTree) (cwd : Place) : Nat → List Wildcard → Reached → List String
  | 0, _, _ => []
  | _, [], r => [r.path]
  | fuel + 1, p :: rest, r =>
    let isDirectory := t.isDirectoryAt cwd r.path
    match literal? p with
    | some name =>
      let next := r.entry name
      let isThere := if name == "." || name == ".." then isDirectory
        else (t.find cwd next.path).isOk
      if isThere then t.below cwd fuel rest next else []
    | none =>
      if !isDirectory then []
      else
        let named := (t.entriesAt cwd r.path).flatMap fun name =>
          t.visit cwd fuel (p :: rest) (r.entry name) name
        let dots := if p.tokens.head? = some (.char '.') then
            [".", ".."].filter (p.isMatch false)
          else []
        named ++ dots.flatMap fun name => t.below cwd fuel rest ⟨Path.join r.path name, false⟩

/-- The paths from an entry of a directory on, which is compared with the first component. -/
def visit (t : FileTree) (cwd : Place) : Nat → List Wildcard → Reached → String → List String
  | 0, _, _, _ => []
  | _, [], _, _ => []
  | fuel + 1, p :: rest, r, name =>
    if p.isRecursive then
      let after := dropRecursive rest
      let deeper := if t.isDirectoryAt cwd r.path then t.below cwd fuel (p :: after) r else []
      deeper ++ match after with
        | [] => []
        | q :: rest => if q.isMatch false name then t.below cwd fuel rest r else []
    else if p.isMatch false name then t.below cwd fuel rest r
    else []

end

/-- The files that a pattern stands for; none for a text that is no pattern. -/
def filesMatching (t : FileTree) (cwd : Place) (pattern : String) : List String :=
  let body := pattern.toList
  let (start, body) : Reached × List Char := match body with
    | '/' :: rest => (⟨"/", false⟩, rest)
    | _ => (⟨".", true⟩, body)
  let pieces := Path.splitSlashes body
  -- a slash at the end asks for a directory, and directories are no files
  let endsInSlash := pieces.getLast? = some []
  match Wildcard.parse? pattern, (pieces.map String.ofList).mapM Wildcard.parse? with
  | some _, some components =>
    if endsInSlash then []
    else
      let fuel := 2 * (components.length + 1) * (t.nodes.length + 2)
      (t.below cwd fuel components start).filter (t.isFileAt cwd)
  | _, _ => []

end Turnstile.FileTree
