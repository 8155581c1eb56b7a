import Turnstile.Program.Launch
import Turnstile.Text.Lines

/-!
# Programs that work on files

Each takes its operands one after the other, goes on after a failure, and ends with a status that
says whether there was one.
-/

namespace Turnstile.Program

open Shell

/-- The state of a program that goes through its operands. -/
structure Pass where
  files : FileTree
  /-- What is written, by descriptor, the latest first. -/
  written : List (Nat × Bytes) := []
  code : Nat := 0

namespace Pass

/-- Goes on after a failure. -/
def failed (p : Pass) (c : Call) (message : String) (code : Nat := 1) : Pass :=
  { p with written := (2, toBytes (c.complaint message)) :: p.written, code }

def launch (p : Pass) : Launch :=
  { files := p.files
    written := p.written.reverse.filter (!·.2.isEmpty)
    next := .finish p.code }

end Pass

/-- Goes through operands. -/
def forOperands (c : Call) (operands : List String) (f : Pass → String → Pass) : Launch :=
  (operands.foldl f { files := c.files }).launch

/-- Quotes a name in a message. -/
def quoteName (s : String) : String := "'" ++ s ++ "'"

/-- The lines of octets with their numbers in front. -/
def numbered (data : Bytes) : Bytes :=
  let lines := (Text.lines (data.map fun b => Char.ofNat b.toNat)).zipIdx 1
  lines.flatMap fun (line, n) =>
    let digits := toString n
    toBytes (String.ofList (List.replicate (6 - digits.length) ' ') ++ digits ++ "\t" ++
      String.ofList line)

/-- Copies files, or its input, to its output. -/
def cat (c : Call) : Launch :=
  c.withArguments "nuAe" "" 1 fun a =>
    if a.has 'n' then c.digest a.operands 1 (fun _ => false) fun data => { out := numbered data }
    else if a.operands.isEmpty || a.operands == ["-"] then { files := c.files, next := .copy [1] }
    else forOperands c a.operands fun p o =>
      match c.content o with
      | .ok bs => { p with written := (1, bs) :: p.written }
      | .error e => p.failed c (o ++ ": " ++ e.reason)

/-- Copies its input to its output and to files. -/
def tee (c : Call) : Launch :=
  c.withArguments "ai" "" 1 fun a =>
    let step := fun (l : Launch × List Nat) (o : String) =>
      let (l, targets) := l
      match l.files.openForWriting c.cwd (Call.path o) with
      | .error e =>
        ({ l with written := l.written ++ [(2, toBytes (c.complaint (o ++ ": " ++ e.reason)))] }, targets)
      | .ok (place, files) =>
        let files := if a.has 'a' then files else files.put place (.file [])
        let d := 10 + targets.length
        ({ l with files, opened := l.opened ++ [(d, { place, isAppending := a.has 'a' })] },
          targets ++ [d])
    let (l, targets) := a.operands.foldl step
      (({ files := c.files, next := .finish 0 } : Launch), ([1] : List Nat))
    { l with next := .copy targets }

/-- Lists names, one a line. -/
def ls (c : Call) : Launch :=
  c.withArguments "aA1dFp" "" 2 fun a =>
    let namesIn := fun (files : FileTree) (place : Place) =>
      let names := (files.children place).map octets
      if a.has 'a' then (names ++ [".", ".."]).mergeSort
      else if a.has 'A' then names
      else names.filter fun n => n.toList.head? != some '.'
    let linesOf := fun (names : List String) => String.join (names.map (· ++ "\n"))
    let operands := (if a.operands.isEmpty then ["."] else a.operands).mergeSort
    let found := operands.map fun o => (o, c.files.find c.cwd (Call.path o))
    let errors := found.filterMap fun (o, r) => match r with
      | .error e => some (c.complaint ("cannot access " ++ quoteName o ++ ": " ++ e.reason))
      | .ok _ => none
    let plain := found.filterMap fun (o, r) => match r with
      | .ok (_, .file _) => some o
      | .ok (_, .directory) => if a.has 'd' then some o else none
      | .error _ => none
    let directories := found.filterMap fun (o, r) => match r with
      | .ok (place, .directory) => if a.has 'd' then none else some (o, place)
      | _ => none
    let sections := directories.map fun (o, place) =>
      (if 1 < operands.length then o ++ ":\n" else "") ++ linesOf (namesIn c.files place)
    let blocks := (if plain.isEmpty then [] else [linesOf plain]) ++ sections
    c.answer (String.intercalate "\n" blocks) (String.join errors) (if errors.isEmpty then 0 else 2)

/-- Makes files that are missing. -/
def touch (c : Call) : Launch :=
  c.withArguments "acm" "" 1 fun a =>
    if a.operands.isEmpty then c.misuse "missing file operand"
    else forOperands c a.operands fun p o =>
      match p.files.find c.cwd (Call.path o) with
      | .ok _ => p
      | .error _ =>
        if a.has 'c' then p
        else match p.files.openForWriting c.cwd (Call.path o) with
          | .ok (_, files) => { p with files }
          | .error e => p.failed c ("cannot touch " ++ quoteName o ++ ": " ++ e.reason)

/-- Removes files. -/
def rm (c : Call) : Launch :=
  c.withArguments "rRfvid" "" 1 fun a =>
    if a.operands.isEmpty && !a.has 'f' then c.misuse "missing operand"
    else forOperands c a.operands fun p o =>
      match p.files.find c.cwd (Call.path o) with
      | .error .notFound =>
        if a.has 'f' then p
        else p.failed c ("cannot remove " ++ quoteName o ++ ": " ++ FileError.notFound.reason)
      | .error e => p.failed c ("cannot remove " ++ quoteName o ++ ": " ++ e.reason)
      | .ok (place, .directory) =>
        if a.has 'r' || a.has 'R' then { p with files := p.files.erase place }
        else p.failed c ("cannot remove " ++ quoteName o ++ ": " ++ FileError.isDirectory.reason)
      | .ok (place, .file _) => { p with files := p.files.erase place }

/-- Makes directories. -/
def mkdir (c : Call) : Launch :=
  c.withArguments "pv" "m" 1 fun a =>
    if a.operands.isEmpty then c.misuse "missing operand"
    else forOperands c a.operands fun p o =>
      let cannot := fun (e : FileError) =>
        p.failed c ("cannot create directory " ++ quoteName o ++ ": " ++ e.reason)
      let trimmed := (Call.path o).toList.reverse.dropWhile (· = '/')
      let path := if trimmed.isEmpty then "/" else String.ofList trimmed.reverse
      if a.has 'p' then
        let start : Place := if Path.isAbsolute path then [] else c.cwd
        let place := Path.components path |>.filter (· != ".") |>.foldl
          (fun (at' : Place) name => if name == ".." then at'.dropLast else at' ++ [name]) start
        match (List.range place.length).find? fun n =>
            match p.files.node? (place.take (n + 1)) with
            | some (.file _) => true
            | _ => false with
        | some n => cannot (if n + 1 = place.length then .alreadyExists else .notDirectory)
        | none =>
          if p.files.isDirectory place then p
          else { p with files := p.files.putDeep place .directory }
      else
        match p.files.locate c.cwd path with
        | .error e => cannot e
        | .ok place =>
          if (p.files.node? place).isSome then cannot .alreadyExists
          else { p with files := p.files.put place .directory }

/-- Removes empty directories. -/
def rmdir (c : Call) : Launch :=
  c.withArguments "pv" "" 1 fun a =>
    if a.operands.isEmpty then c.misuse "missing operand"
    else forOperands c a.operands fun p o =>
      let cannot := fun (e : FileError) =>
        p.failed c ("failed to remove " ++ quoteName o ++ ": " ++ e.reason)
      match p.files.find c.cwd (Call.path o) with
      | .error e => cannot e
      | .ok (_, .file _) => cannot .notDirectory
      | .ok (place, .directory) =>
        if (p.files.children place).isEmpty then { p with files := p.files.erase place }
        else cannot .notEmpty

/-- The place that something is copied or moved to: inside a directory, or the place itself. -/
def destination (files : FileTree) (cwd : Place) (source target : String) :
    Except FileError Place := do
  let place ← files.locate cwd (Call.path target)
  if files.isDirectory place then
    return place ++ ((Path.fileName? (Call.path source)).toList)
  else return place

/-- All that is at a place and below it, moved to another place. -/
def transplant (files : FileTree) (source target : Place) : List (Place × FileNode) :=
  files.nodes.filterMap fun (place, node) =>
    if source.isPrefixOf place then some (target ++ place.drop source.length, node) else none

/-- Copies or moves all operands but the last to the last. -/
def transfer (c : Call) (a : Arguments) (verb : String) (isMove isDeep : Bool) : Launch :=
  match a.operands.reverse with
  | [] => c.misuse "missing file operand"
  | [o] => c.misuse ("missing destination file operand after " ++ quoteName o)
  | target :: sources =>
    if 1 < sources.length && !(match c.files.find c.cwd (Call.path target) with
        | .ok (_, .directory) => true
        | _ => false) then
      c.fail ("target " ++ quoteName target ++ ": " ++
        (if (c.files.find c.cwd (Call.path target)).isOk then FileError.notDirectory.reason
          else FileError.notFound.reason))
    else forOperands c sources.reverse fun p o =>
      match p.files.find c.cwd (Call.path o), destination p.files c.cwd o target with
      | .error e, _ => p.failed c ("cannot stat " ++ quoteName o ++ ": " ++ e.reason)
      | .ok _, .error e => p.failed c ("cannot " ++ verb ++ " " ++ quoteName target ++ ": " ++ e.reason)
      | .ok (source, node), .ok place =>
        if node == .directory && !isDeep then
          p.failed c ("-r not specified; omitting directory " ++ quoteName o)
        else if source == place then
          p.failed c (quoteName o ++ " and " ++ quoteName target ++ " are the same file")
        else
          let moved := transplant p.files source place
          let files := if isMove then p.files.erase source else p.files
          { p with files := moved.foldl (fun t (place, node) => t.put place node) files }

def cp (c : Call) : Launch :=
  c.withArguments "rRapfvin" "" 1 fun a =>
    transfer c a "create regular file" false (a.has 'r' || a.has 'R' || a.has 'a')

def mv (c : Call) : Launch :=
  c.withArguments "fvin" "" 1 fun a => transfer c a "move to" true true

end Turnstile.Program
