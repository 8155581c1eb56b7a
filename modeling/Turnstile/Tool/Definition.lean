import Turnstile.Filter.Pipeline
import Turnstile.Number.Word
import Turnstile.Service.Readiness
import Turnstile.Template
import Turnstile.Tool.Fault
import Turnstile.Tool.Source

/-!
# Tool definitions

A `Tool` is a definition that was checked. `Tool.ofSource` checks a declaration and reports the
first thing that is wrong with it; `Tool.render` fills a tool's command with values.

A definition depends on two things beside its text: the time limit that counts where it sets none,
and the home directory that a leading tilde of its working directory stands for (`Defaults`).
-/

namespace Turnstile

/-- A checked parameter. -/
structure Parameter where
  name : String
  description : String
  required : Bool
  default : Option String
  deriving DecidableEq, Repr

/-- A checked definition. -/
structure Tool where
  id : String
  command : String
  workdir : Option String := none
  description : String := ""
  parameters : List Parameter := []
  timeout : Timespan
  filter : Option OutputFilter := none
  /-- When the tool counts as started; absent for a tool that is run to its end. -/
  readiness : Option ReadinessCriteria := none
  available : Availability := {}
  gate : Gate
  env : List (String × String) := []

/-- What a definition takes from its surroundings. -/
structure Defaults where
  timeout : Timespan := .ofWholeSeconds 120
  home : Option String := none
  deriving DecidableEq, Repr

/-! ## Numbers -/

namespace LooseNumber

/-- The number that a field holds; a blank text holds none. -/
def value : LooseNumber → Except ValueFault (Option Binary64)
  | .integer n => .ok (some (.ofInt n))
  | .float x => .ok (some x)
  | .text s =>
    if Text.isAllBlank s then .ok none
    else match readFloat? (Text.trim s) with
      | some x => .ok (some x)
      | none => .error (.notANumber s)

/-- The span that a number of seconds writes. -/
def span (x : Binary64) : Except ValueFault Timespan :=
  if x.isNegative then .error (.negative x)
  else match Timespan.ofSeconds x with
    | .ok t => .ok t
    | .error e => .error (.span e)

/-- The greatest count. -/
def maxCount : Nat := Word.count - 1

/-- The count that a number writes. A number has no more than 53 significant bits, so the one that
is `maxCount + 1` stands for `maxCount`. -/
def count (x : Binary64) : Except ValueFault Nat :=
  match x.toNat? with
  | some n => if n ≤ maxCount + 1 then .ok (min n maxCount) else .error (.notACount x)
  | none => .error (.notACount x)

/-- A count that is not zero. -/
def positive (x : Binary64) : Except ValueFault Nat := do
  let n ← count x
  if n = 0 then throw .zero else return n

/-- The number of a TCP port. -/
def port (x : Binary64) : Except ValueFault Nat := do
  let n ← count x
  if 1 ≤ n ∧ n ≤ 65535 then return n else throw (.notAPort n)

end LooseNumber

/-- The value of an optional field, read in one of the ways above. -/
def LooseNumber.field {α : Type} (field : Setting) (f : Binary64 → Except ValueFault α)
    (v : Option LooseNumber) : Except Fault (Option α) :=
  match v with
  | none => .ok none
  | some v =>
    match v.value with
    | .error e => .error (.badValue field e)
    | .ok none => .ok none
    | .ok (some x) =>
      match f x with
      | .error e => .error (.badValue field e)
      | .ok a => .ok (some a)

/-! ## Parameters -/

/-- The text that a value stands for. Null stands for none; arrays and objects are refused. -/
def bindingText? : Json → Option (Option String)
  | .null => some none
  | .string s => some (some s)
  | .number n => some (some (Json.numberText n))
  | .bool b => some (some (if b then "true" else "false"))
  | .array _ | .object _ => none

namespace Parameter

/-- Checks one declaration, given the names that are declared before it. -/
def ofSource (declared : List String) (p : ParameterSource) : Except Fault Parameter :=
  if declared.contains p.name then .error (.duplicate p.name)
  else match p.default.map bindingText? with
    | some none => .error (.badValue .parameters (.nestedDefault p.name))
    | default => .ok {
        name := p.name
        description := p.description
        required := p.required
        default := default.join.join }

/-- Checks the declarations one by one. -/
def declare : List String → List ParameterSource → Except Fault (List Parameter)
  | _, [] => .ok []
  | declared, p :: rest => do
    let q ← ofSource declared p
    return q :: (← declare (p.name :: declared) rest)

/-- Checks the declarations against the placeholders of a command: the same names on both sides. -/
def check (command : String) (sources : List ParameterSource) : Except Fault (List Parameter) := do
  let parameters ← declare [] sources
  let referenced := Template.referenced command
  let names := parameters.map (·.name)
  match referenced.find? (!names.contains ·) with
  | some name => throw (.undeclared name)
  | none =>
    match names.find? (!referenced.contains ·) with
    | some name => throw (.unused name)
    | none => return parameters

end Parameter

/-! ## Definitions -/

namespace Tool

/-- An expression of the output filter; an empty one counts as none. -/
def matcher? (field : Setting) : Option String → Except Fault (Option Matcher)
  | none => .ok none
  | some source =>
    if source.isEmpty then .ok none
    else match Matcher.ofSource? source with
      | some m => .ok (some m)
      | none => .error (.badRegex field)

/-- Checks an output filter. -/
def checkFilter (f : FilterSource) : Except Fault OutputFilter := do
  let limitLines ← LooseNumber.field .limitLines LooseNumber.positive f.limitLines
  let limitChars ← LooseNumber.field .limitChars LooseNumber.positive f.limitChars
  let context ← LooseNumber.field .contextLines LooseNumber.count f.contextLines
  let grep ← matcher? .grep f.grep
  let remove ← matcher? .remove f.remove
  return { limitLines, limitChars, keep := f.keep, grep, context := context.getD 0, remove }

/-- How long a service is waited for when its definition gives other criteria only. -/
def defaultStartupWait : Timespan := .ofWholeSeconds 10

/-- Checks the criteria of readiness. -/
def checkReadiness (s : ToolSource) : Except Fault (Option ReadinessCriteria) := do
  let wait ← LooseNumber.field .startupWait LooseNumber.span s.startupWait
  let port ← LooseNumber.field .startupPort LooseNumber.port s.startupPort
  let keyword := s.startupKeyword.filter (!·.isEmpty)
  if wait.isNone && port.isNone && keyword.isNone then return none
  return some { deadline := wait.getD defaultStartupWait, port, keyword }

/-- Checks a working directory: blank for none, else an absolute path, where a leading tilde stands
for the home directory. -/
def checkWorkdir (home : Option String) (written : String) : Except Fault (Option String) :=
  let path := Text.trim written
  if path.isEmpty then .ok none
  else
    let expanded := match path.toList with
      | ['~'] => home
      | '~' :: '/' :: rest => home.map (Path.join · (String.ofList rest))
      | _ => some path
    match expanded with
    | none => .error (.badValue .workdir .homeUnknown)
    | some full =>
      if Path.isAbsolute full then .ok (some full)
      else .error (.badValue .workdir (.relativePath path))

/-- Checks a declaration. -/
def ofSource (d : Defaults) (id : String) (s : ToolSource) : Except Fault Tool := do
  let command := Text.trim s.command
  if command.isEmpty then throw .emptyCommand
  let parameters ← Parameter.check command s.parameters
  let timeout ← LooseNumber.field .timeout LooseNumber.span s.timeout
  let filter ← s.outputFilter.mapM checkFilter
  let readiness ← checkReadiness s
  let workdir ← checkWorkdir d.home s.workdir
  return {
    id, command, workdir, parameters, filter, readiness
    description := s.description
    timeout := timeout.getD d.timeout
    available := s.available
    gate := .ofPolicy s.confirmation
    env := s.env }

/-- The tool that a declaration makes, if there is one. -/
def ofSource? (d : Defaults) (id : String) (s : Option ToolSource) : Except ConfigError Tool :=
  match s with
  | none => .error (.refused id .malformed)
  | some s =>
    match ofSource d id s with
    | .ok t => .ok t
    | .error f => .error (.refused id f)

/-- The tool of a TOML document. -/
def ofToml (d : Defaults) (id text : String) : Except ConfigError Tool :=
  ofSource? d id (ToolSource.ofToml? text)

/-- The tool of a file. It is named for the file. -/
def ofFile (d : Defaults) (files : FileTree) (cwd : Place) (path : String) :
    Except ConfigError Tool :=
  match files.readText cwd path with
  | .error e => .error (.unreadable path e)
  | .ok text => ofToml d (Path.stem path) text

/-- True of a tool that goes on running. -/
def isService (t : Tool) : Bool := t.readiness.isSome

end Tool

/-! ## Rendering -/

/-- Values by parameter, each name once. -/
abbrev Bindings := List (String × Json)

/-- Values from pairs; the last pair of a name counts. -/
def Bindings.ofPairs (pairs : List (String × Json)) : Bindings :=
  pairs.foldl (fun acc p => acc.filter (·.1 != p.1) ++ [p]) []

/-- Why a command cannot be rendered. -/
inductive BindingFault where
  | unknown (tool name : String)
  | nested (name : String)
  | missing (name : String)
  deriving DecidableEq, Repr

def BindingFault.message : BindingFault → String
  | .unknown tool name => "tool `" ++ tool ++ "` has no parameter `" ++ name ++ "`"
  | .nested name => "parameter `" ++ name ++ "`: " ++ scalarExpected
  | .missing name => "missing required parameter `" ++ name ++ "`"

/-- The text of a parameter: its value, else its default, else, unless it is required, nothing. -/
def Parameter.value (bindings : Bindings) (p : Parameter) : Except BindingFault String :=
  match (bindings.lookup p.name).map bindingText? with
  | some none => .error (.nested p.name)
  | bound =>
    match bound.join.join.or p.default with
    | some v => .ok v
    | none => if p.required then .error (.missing p.name) else .ok ""

/-- The command of a tool with the values of its parameters filled in. -/
def Tool.render (t : Tool) (bindings : Bindings) : Except BindingFault String := do
  match bindings.find? fun b => !t.parameters.any (·.name == b.1) with
  | some (name, _) => throw (.unknown t.id name)
  | none =>
    let values ← t.parameters.mapM fun p => return (p.name, ← p.value bindings)
    return Template.fill t.command fun name => values.lookup name

end Turnstile
