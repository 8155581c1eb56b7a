import Turnstile.Toml.Scalar

/-!
# TOML documents

A document is a sequence of statements: entries and the headers of tables. `Toml.parse?` folds them
into one table.

While it grows, each table remembers how it came to be (`Origin`), because that decides what may
still be added to it: a table implied by a longer header may be declared once, a table made by
dotted keys grows by dotted keys only, and a table written inline is closed.
-/

namespace Turnstile.Toml

/-- How a table came to be. -/
inductive Origin where
  /-- By a header that names one of its subtables. -/
  | implied
  /-- By a dotted key. -/
  | dotted
  /-- By a header of its own, or as the document itself. -/
  | declared
  deriving DecidableEq, Repr

/-- A value under construction. -/
inductive Node where
  | value (v : Toml)
  | table (origin : Origin) (entries : List (String × Node))
  /-- An array of tables, the last one first. -/
  | tables (elements : List (List (String × Node)))
  deriving Inhabited

/-- The entries of a table under construction. -/
abbrev Entries := List (String × Node)

namespace Entries

def find? (name : String) (es : Entries) : Option Node :=
  (List.find? (fun e => e.1 == name) es).map (·.2)

/-- Replaces the value of an entry. -/
def replace (name : String) (n : Node) (es : Entries) : Entries :=
  es.map fun e => if e.1 == name then (name, n) else e

/-- Changes the table at the end of a path, making the tables on the way that are missing. A dotted
path does not enter tables that have a header of their own. -/
def modifyAt (isDotted : Bool) (change : Origin → Entries → Option Entries) :
    List String → Origin → Entries → Option Entries
  | [], origin, es => change origin es
  | name :: path, _, es =>
    match es.find? name with
    | none => do
      let origin := if isDotted then .dotted else .implied
      let sub ← modifyAt isDotted change path origin []
      return es ++ [(name, .table origin sub)]
    | some (.value _) => none
    | some (.table origin sub) =>
      if isDotted && origin = .declared then none
      else do
        let sub ← modifyAt isDotted change path origin sub
        return es.replace name (.table origin sub)
    | some (.tables []) => none
    | some (.tables (last :: earlier)) => do
      let last ← modifyAt isDotted change path .declared last
      return es.replace name (.tables (last :: earlier))

/-- Adds an entry under a dotted key, given as its path and its last part. -/
def insert? (path : List String) (name : String) (v : Toml) (origin : Origin) (es : Entries) :
    Option Entries :=
  modifyAt true (fun origin es =>
    -- a dotted key ends in a table made by dotted keys, a plain key in one that is not
    if (origin = .dotted) = path.isEmpty then none
    else if (es.find? name).isSome then none
    else some (es ++ [(name, .value v)])) path origin es

/-- Declares the table of a header. -/
def declare? (path : List String) (name : String) (es : Entries) : Option Entries :=
  modifyAt false (fun _ es =>
    match es.find? name with
    | none => some (es ++ [(name, .table .declared [])])
    | some (.table .implied sub) => some (es.replace name (.table .declared sub))
    | some _ => none) path .declared es

/-- Adds an element to the array of tables of a header. -/
def extend? (path : List String) (name : String) (es : Entries) : Option Entries :=
  modifyAt false (fun _ es =>
    match es.find? name with
    | none => some (es ++ [(name, .tables [[]])])
    | some (.tables elements) => some (es.replace name (.tables ([] :: elements)))
    | some _ => none) path .declared es

end Entries

mutual

/-- The value that a finished node denotes. -/
def Node.toToml : Node → Toml
  | .value v => v
  | .table _ entries => .table (entriesToToml entries)
  | .tables elements => .array (elementsToToml elements).reverse

def entriesToToml : List (String × Node) → List (String × Toml)
  | [] => []
  | (name, n) :: rest => (name, n.toToml) :: entriesToToml rest

def elementsToToml : List (List (String × Node)) → List Toml
  | [] => []
  | es :: rest => .table (entriesToToml es) :: elementsToToml rest

end

/-! ## Keys -/

/-- True of the characters of a key without quotes. -/
def isBareKeyChar (c : Char) : Bool :=
  ('a' ≤ c && c ≤ 'z') || ('A' ≤ c && c ≤ 'Z') || isDigit c || c = '_' || c = '-'

/-- One part of a key at the head of a list, and the rest. -/
def keyPart? (cs : List Char) : Option (String × List Char) :=
  match cs with
  | '"' :: rest => basicString? (rest.length + 1) [] rest
  | '\'' :: rest => literalString? rest
  | _ =>
    let name := cs.takeWhile isBareKeyChar
    if name.isEmpty then none else some (String.ofList name, cs.dropWhile isBareKeyChar)

/-- A key, in reverse order of its parts, and the rest without the blanks before it. -/
def keyParts? : Nat → List String → List Char → Option (List String × List Char)
  | 0, _, _ => none
  | fuel + 1, acc, cs => do
    let (name, rest) ← keyPart? (skipSpaces cs)
    match skipSpaces rest with
    | '.' :: rest => keyParts? fuel (name :: acc) rest
    | rest => return (name :: acc, rest)

/-- A key as its path and its last part, and the rest. -/
def readKey? (cs : List Char) : Option ((List String × String) × List Char) := do
  match ← keyParts? (cs.length + 1) [] cs with
  | (last :: path, rest) => return ((path.reverse, last), rest)
  | ([], _) => none

/-! ## Values -/

/-- Drops a comment; a control character ends it, so that what follows is refused. -/
def skipComment : List Char → List Char
  | '#' :: rest => rest.dropWhile isTextChar
  | cs => cs

/-- Drops blanks, newlines and comments. -/
def skipTrivia : Nat → List Char → List Char
  | 0, cs => cs
  | fuel + 1, cs =>
    let rest := skipSpaces cs
    match rest with
    | '#' :: _ => skipTrivia fuel (skipComment rest)
    | _ => match newline? rest with
      | some rest => skipTrivia fuel rest
      | none => rest

/-- The token at the head of a list and the rest. A blank within a token separates a date from a
time. -/
def splitToken (cs : List Char) : List Char × List Char :=
  let inToken := fun c => !(c ∈ [' ', '\t', '\r', '\n', ',', ']', '\x7d', '#'])
  let token := cs.takeWhile inToken
  let rest := cs.dropWhile inToken
  match rest with
  | ' ' :: after =>
    let more := after.takeWhile inToken
    if token.length = 10 && (readDate? token).isSome && (fixedDigits? 2 more).isSome then
      (token ++ ' ' :: more, after.dropWhile inToken)
    else (token, rest)
  | _ => (token, rest)

/-- How deep arrays and inline tables may be nested. -/
def maxDepth : Nat := 80

mutual

/-- A value at the head of a list, and the rest. -/
def readValue? : Nat → Nat → List Char → Option (Toml × List Char)
  | 0, _, _ => none
  | fuel + 1, depth, cs =>
    match readString? cs with
    | some answer => answer.map fun (s, rest) => (.string s, rest)
    | none =>
      match cs with
      | '[' :: rest =>
        if maxDepth ≤ depth then none
        else (readItems? fuel (depth + 1) [] rest).map fun (items, rest) => (.array items, rest)
      | '\x7b' :: rest =>
        if maxDepth ≤ depth then none
        else (readEntries? fuel (depth + 1) [] rest).map fun (es, rest) =>
          (.table (entriesToToml es), rest)
      | _ =>
        let (token, rest) := splitToken cs
        (readToken? token).map fun v => (v, rest)

/-- The items of an array up to its closing bracket; a comma may follow the last one. -/
def readItems? : Nat → Nat → List Toml → List Char → Option (List Toml × List Char)
  | 0, _, _, _ => none
  | fuel + 1, depth, acc, cs =>
    match skipTrivia fuel cs with
    | ']' :: rest => some (acc.reverse, rest)
    | cs => do
      let (v, rest) ← readValue? fuel depth cs
      match skipTrivia fuel rest with
      | ',' :: rest => readItems? fuel depth (v :: acc) rest
      | ']' :: rest => return ((v :: acc).reverse, rest)
      | _ => none

/-- The entries of an inline table up to its closing brace; a comma may follow the last one. -/
def readEntries? : Nat → Nat → Entries → List Char → Option (Entries × List Char)
  | 0, _, _, _ => none
  | fuel + 1, depth, es, cs =>
    match skipTrivia fuel cs with
    | '\x7d' :: rest => some (es, rest)
    | cs => do
      let ((path, name), rest) ← readKey? cs
      let rest ← expectChar? '=' rest
      let (v, rest) ← readValue? fuel depth (skipSpaces rest)
      let es ← es.insert? path name v .declared
      match skipTrivia fuel rest with
      | ',' :: rest => readEntries? fuel depth es rest
      | '\x7d' :: rest => return (es, rest)
      | _ => none

end

/-! ## Statements -/

/-- The document so far, and the header under which entries are added. -/
structure Builder where
  root : Entries := []
  header : List String := []

/-- Adds an entry under the current header. -/
def Builder.insert? (b : Builder) (path : List String) (name : String) (v : Toml) :
    Option Builder := do
  let root ← b.root.modifyAt false (fun origin es => es.insert? path name v origin)
    b.header .declared
  return { b with root }

/-- The rest of the input after the end of a statement: blanks, a comment, and a newline or the
end. -/
def endOfLine? (cs : List Char) : Option (List Char) :=
  match skipComment (skipSpaces cs) with
  | [] => some []
  | rest => newline? rest

/-- One statement at the head of a list: the document with it, and the rest. -/
def readStatement? (b : Builder) (cs : List Char) : Option (Builder × List Char) :=
  match cs with
  | '[' :: '[' :: rest => do
    let ((path, name), rest) ← readKey? rest
    let rest ← expectChar? ']' rest
    let rest ← expectChar? ']' rest
    let root ← b.root.extend? path name
    return ({ root, header := path ++ [name] }, ← endOfLine? rest)
  | '[' :: rest => do
    let ((path, name), rest) ← readKey? rest
    let rest ← expectChar? ']' rest
    let root ← b.root.declare? path name
    return ({ root, header := path ++ [name] }, ← endOfLine? rest)
  | _ => do
    let ((path, name), rest) ← readKey? cs
    let rest ← expectChar? '=' rest
    let (v, rest) ← readValue? (2 * cs.length + 2) 0 (skipSpaces rest)
    let b ← b.insert? path name v
    return (b, ← endOfLine? rest)

/-- All statements of a document. -/
def readStatements? : Nat → Builder → List Char → Option Builder
  | 0, _, _ => none
  | fuel + 1, b, cs =>
    match skipTrivia (cs.length + 1) cs with
    | [] => some b
    | cs => do
      let (b, rest) ← readStatement? b cs
      readStatements? fuel b rest

/-- The entries of the table that a document denotes; `none` if it is malformed. A byte order mark
may stand in front. -/
def parse? (s : String) : Option (List (String × Toml)) := do
  let cs := match s.toList with
    | '\uFEFF' :: rest => rest
    | cs => cs
  let b ← readStatements? (cs.length + 1) {} cs
  return entriesToToml b.root

end Turnstile.Toml
