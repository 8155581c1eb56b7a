import Turnstile.Host.FileTree
import Turnstile.Shell.Arithmetic
import Turnstile.Shell.Pattern
import Turnstile.Shell.Syntax

/-!
# Expansion of words

A word becomes fields: its parameters, arithmetic and command outputs are put in, the results that
stand outside quotes are split, and what is a pattern becomes the names of files.

The output of a command is not known in advance. So an expansion takes the outputs that are known
already (`Progress.answers`), and where one more is needed it stops and says which command has to be
run (`Interrupt.needs`); then it is done again from the start with that output at hand.
-/

namespace Turnstile.Shell

/-- What expansions depend on beside variables. -/
structure Settings where
  /-- The positional parameters. -/
  params : List String := []
  /-- The name of the shell. -/
  name : String := "sh"
  /-- The exit status of the last command. -/
  status : Nat := 0
  /-- The number of the shell's process. -/
  pid : Nat := 0
  /-- The number of the last process in the background. -/
  lastJob : Option Nat := none
  /-- The letters of the options that are set. -/
  flags : String := ""
  deriving Inhabited

/-- Why an expansion stops. -/
inductive Interrupt where
  /-- The output of a command is needed. -/
  | needs (c : Command) (vars : Variables)
  /-- The shell ends with a message. -/
  | fault (message : String)

/-- Variables, and the outputs of commands that are known but not yet used. -/
structure Progress where
  vars : Variables
  answers : List String

abbrev Expand := StateT Progress (Except Interrupt)

/-- What a word expands to, before it is split. -/
inductive Item where
  | char (c : Char) (m : Mark)
  /-- Something in quotes, which makes a field even if it is empty. -/
  | present
  /-- The end of a field. -/
  | cut
  deriving DecidableEq

namespace Expansion

def mark (quoted : Bool) : Mark := if quoted then .quoted else .expanded

/-- The items of a text. -/
def ofText (s : String) (m : Mark) : List Item :=
  (if m = .quoted then [.present] else []) ++ s.toList.map (.char · m)

/-- The character that joins the positional parameters. -/
def joiner (vars : Variables) : String :=
  match vars.value? "IFS" with
  | none => " "
  | some s => String.ofList (s.toList.take 1)

/-- The value of a parameter that is one text; none if it is not set. -/
def value? (s : Settings) (vars : Variables) (name : String) : Option String :=
  match name with
  | "#" => some (toString s.params.length)
  | "?" => some (toString s.status)
  | "$" => some (toString s.pid)
  | "!" => s.lastJob.map toString
  | "-" => some s.flags
  | "0" => some s.name
  | "@" => if s.params.isEmpty then none else some (String.intercalate " " s.params)
  | "*" => if s.params.isEmpty then none else some (String.intercalate (joiner vars) s.params)
  | name =>
    match name.toNat? with
    | some n => s.params[n - 1]?
    | none => vars.value? name

/-- The items of a parameter's value. -/
def ofParam (s : Settings) (vars : Variables) (name : String) (quoted : Bool) : List Item :=
  if name == "@" || (name == "*" && !quoted) then
    (s.params.map fun p => ofText p (mark quoted)).intersperse [.cut] |>.flatten
  else ofText ((value? s vars name).getD "") (mark quoted)

/-- The text of items. -/
def textOf (items : List Item) : String :=
  String.ofList <| items.filterMap fun i => match i with
    | .char c _ => some c
    | .cut => some ' '
    | .present => none

/-- The marked text of items. -/
def markedOf (items : List Item) : Marked :=
  items.filterMap fun i => match i with
    | .char c m => some (c, m)
    | .cut => some (' ', .quoted)
    | .present => none

/-- What is said about a parameter that has no value and must have one. -/
def unsetMessage (name : String) : String := name ++ ": parameter not set"

/-- True of parameters that can lack a value. -/
def canBeUnset (name : String) : Bool := name != "@" && name != "*"

mutual

/-- The items of a part. -/
def ofPart (s : Settings) : Part → Expand (List Item)
  | .text t quoted => return ofText t (if quoted then .quoted else .literal)
  | .param name quoted => do
    let vars := (← get).vars
    if s.flags.contains 'u' && canBeUnset name && (value? s vars name).isNone then
      throw (.fault (unsetMessage name))
    return ofParam s vars name quoted
  | .paramLength name quoted => do
    let vars := (← get).vars
    let n := if name == "@" || name == "*" then s.params.length
      else ((value? s vars name).getD "").length
    return ofText (toString n) (mark quoted)
  | .paramWith name op colon word quoted => do
    let vars := (← get).vars
    let current := value? s vars name
    let isMissing := match current with
      | none => true
      | some v => colon && v.isEmpty
    match op with
    | .useDefault => if isMissing then ofParts s word else return ofParam s vars name quoted
    | .useOther =>
      if isMissing then return (if quoted then [.present] else []) else ofParts s word
    | .assignDefault =>
      if !isMissing then return ofParam s vars name quoted
      let value := textOf (← ofParts s word)
      if vars.isReadOnly name then throw (.fault (name ++ ": is read only"))
      modify fun p => { p with vars := p.vars.set name value }
      return ofText value (mark quoted)
    | .complain =>
      if !isMissing then return ofParam s vars name quoted
      let message := textOf (← ofParts s word)
      throw (.fault (if message.isEmpty then unsetMessage name else name ++ ": " ++ message))
    | .trimStart longest =>
      let pattern := Pattern.ofMarked (markedOf (← ofParts s word))
      let text := (current.getD "").toList
      return ofText (String.ofList (Pattern.trimStart pattern longest text)) (mark quoted)
    | .trimEnd longest =>
      let pattern := Pattern.ofMarked (markedOf (← ofParts s word))
      let text := (current.getD "").toList
      return ofText (String.ofList (Pattern.trimEnd pattern longest text)) (mark quoted)
  | .arithmetic e quoted => do
    let text := textOf (← ofParts s e)
    match Arithmetic.evaluate (← get).vars text with
    | .error f => throw (.fault (f.message text))
    | .ok (n, vars) =>
      modify fun p => { p with vars }
      return ofText (toString n) (mark quoted)
  | .output body quoted => do
    let p ← get
    match p.answers with
    | [] => throw (.needs body p.vars)
    | answer :: answers =>
      set { p with answers }
      return ofText answer (mark quoted)
  | .bad => throw (.fault "Bad substitution")

/-- The items of parts. -/
def ofParts (s : Settings) : List Part → Expand (List Item)
  | [] => return []
  | p :: rest => do
    let items ← ofPart s p
    return items ++ (← ofParts s rest)

end

/-- A word with a leading tilde replaced by the home directory. -/
def expandTilde (vars : Variables) (w : Word) : Word :=
  match w with
  | .text t false :: rest =>
    match t.toList, vars.value? "HOME" with
    | '~' :: more, some home =>
      if more.isEmpty && rest.isEmpty then [.text home true]
      else if more.head? = some '/' then
        .text home true :: .text (String.ofList more) false :: rest
      else w
    | _, _ => w
  | _ => w

/-- The items of a word. -/
def ofWord (s : Settings) (w : Word) : Expand (List Item) := do
  ofParts s (expandTilde (← get).vars w)

/-- The text of a word that is not split. -/
def text (s : Settings) (w : Word) : Expand String := return textOf (← ofWord s w)

/-! ## Splitting -/

/-- Splits items into fields, where `ifs` are the characters that separate results. A field that
is under way is held in reverse; `wasBlank` says that the last one was ended by a blank, to which
one more separator may belong. -/
def split (ifs : List Char) : Option Marked → Bool → List Marked → List Item → List Marked
  | field, _, acc, [] => (field.toList.map List.reverse ++ acc).reverse
  | field, wasBlank, acc, item :: rest =>
    match item with
    | .present => split ifs (some (field.getD [])) false acc rest
    | .cut => split ifs none false (field.toList.map List.reverse ++ acc) rest
    | .char c m =>
      if m = .expanded && ifs.contains c then
        if c = ' ' || c = '\t' || c = '\n' then
          match field with
          | some f => split ifs none true (f.reverse :: acc) rest
          | none => split ifs none wasBlank acc rest
        else
          match field with
          | some f => split ifs none false (f.reverse :: acc) rest
          | none => split ifs none false (if wasBlank then acc else [] :: acc) rest
      else split ifs (some ((c, m) :: field.getD [])) false acc rest

/-- The fields of items. -/
def fieldsOf (vars : Variables) (items : List Item) : List Marked :=
  split ((vars.value? "IFS").getD " \t\n").toList none false [] items

/-! ## Names of files -/

/-- The components of marked text. -/
def components (m : Marked) : List Marked :=
  let (last, done) := m.foldr (fun (c, q) (piece, done) =>
    if c = '/' then (([] : Marked), piece :: done) else ((c, q) :: piece, done))
    (([] : Marked), ([] : List Marked))
  last :: done

/-- The paths that components lead to, from a path that was reached. -/
def pathsFrom (files : FileTree) (cwd : Place) (reached : String) : List Marked → List String
  | [] => []
  | c :: rest =>
    let p := Pattern.ofMarked c
    let names :=
      if Pattern.hasWildcard p then
        let here := if reached.isEmpty then "." else reached
        match files.find cwd (Utf8.decodeLossy (toBytes here)) with
        | .ok (place, .directory) =>
          ((files.children place).map octets).filter fun name =>
            Pattern.isMatch p name.toList &&
              (name.toList.head? != some '.' || p.head? == some (.char '.'))
        | _ => []
      else [c.text]
    names.flatMap fun name =>
      let path := reached ++ name
      if rest.isEmpty then
        if (files.find cwd (Utf8.decodeLossy (toBytes path))).isOk then [path] else []
      else pathsFrom files cwd (path ++ "/") rest

/-- A field, or the files that it stands for if it is a pattern of any. -/
def filesOf (files : FileTree) (cwd : Place) (field : Marked) : List String :=
  if !Pattern.hasWildcard (Pattern.ofMarked field) then [field.text]
  else
    match (pathsFrom files cwd "" (components field)).mergeSort with
    | [] => [field.text]
    | paths => paths

/-- The fields of words. -/
def words (s : Settings) (files : FileTree) (cwd : Place) (ws : List Word) :
    Expand (List String) := do
  let fields ← ws.mapM fun w => do
    let items ← ofWord s w
    let fields := fieldsOf (← get).vars items
    return if s.flags.contains 'f' then fields.map Marked.text
      else fields.flatMap (filesOf files cwd)
  return fields.flatten

end Expansion

end Turnstile.Shell
