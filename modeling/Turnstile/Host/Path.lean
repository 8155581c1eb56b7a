/-!
# Paths

A path is a text; its components are what stands between slashes. Empty components do not count, nor
does a dot, unless a relative path starts with it.
-/

namespace Turnstile.Path

/-- The pieces of a text between slashes, the empty ones too. -/
def splitSlashes (cs : List Char) : List (List Char) :=
  let (last, done) := cs.foldr (fun c (piece, done) =>
    if c = '/' then ([], piece :: done) else (c :: piece, done)) (([], []) : List Char × _)
  last :: done

/-- True of a path that starts at the root. -/
def isAbsolute (path : String) : Bool := path.toList.head? = some '/'

/-- The components of a path, without the root. -/
def components (path : String) : List String :=
  let pieces := (splitSlashes path.toList).map String.ofList
  match pieces with
  | "." :: rest => "." :: rest.filter fun p => p ≠ "" && p ≠ "."
  | pieces => pieces.filter fun p => p ≠ "" && p ≠ "."

/-- A path below another; an absolute path stands for itself. -/
def join (base path : String) : String :=
  if isAbsolute path then path
  else if base.isEmpty || base.toList.getLast? = some '/' then base ++ path
  else base ++ "/" ++ path

/-- The name of the file that a path leads to; none for a path that ends in a dot or two. -/
def fileName? (path : String) : Option String :=
  match (components path).getLast? with
  | some "." => none
  | some ".." => none
  | other => other

/-- A file's name without its extension. A dot in front starts no extension. -/
def stemOfName (name : String) : String :=
  let before := (name.toList.reverse.dropWhile (· ≠ '.')).drop 1
  if before.isEmpty then name else String.ofList before.reverse

/-- The name, without extension, of the file that a path leads to. -/
def stem (path : String) : String := ((fileName? path).map stemOfName).getD ""

/-- A path with a leading tilde replaced by the home directory, if there is one. -/
def expandHome (home : Option String) (path : String) : String :=
  match path.toList, home with
  | '~' :: '/' :: rest, some home => join home (String.ofList rest)
  | _, _ => path

/-- The rank of a component in the order of paths: the root, the dots, then names. -/
def rank : String → Nat
  | "" => 0
  | "." => 1
  | ".." => 2
  | _ => 3

/-- What paths are compared by: their components, with an empty one for the root. -/
def key (path : String) : List String :=
  (if isAbsolute path then [""] else []) ++ components path

/-- The order of lists of components. -/
def keyLe : List String → List String → Bool
  | [], _ => true
  | _ :: _, [] => false
  | x :: xs, y :: ys =>
    if x == y then keyLe xs ys else rank x < rank y || (rank x == rank y && x < y)

/-- The order of paths, component by component. -/
def le (a b : String) : Bool := keyLe (key a) (key b)

/-- Paths in ascending order, each once. -/
def sortUnique (paths : List String) : List String :=
  (paths.mergeSort le).foldr (fun p kept => match kept with
    | q :: rest => if key p == key q then p :: rest else p :: kept
    | [] => [p]) []

end Turnstile.Path
