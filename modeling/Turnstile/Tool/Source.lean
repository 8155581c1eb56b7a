import Turnstile.Filter.Cut
import Turnstile.Gate
import Turnstile.Number.Word
import Turnstile.Record

/-!
# Tool definitions as they are written

A `ToolSource` is a definition before it is checked. It is written as a TOML document, as a table
inside the configuration, or as JSON; `ToolSource.ofToml?`, `ofStored?` and `ofJson?` read these.
They differ in small points only (`Record.Form`), so one reader serves all three.

A field may be missing, and unknown fields do not count, but a field of the wrong type makes the
definition malformed.
-/

namespace Turnstile

/-- A number that may be written as a number or as a text. -/
inductive LooseNumber where
  | integer (n : Int)
  | float (x : Binary64)
  | text (s : String)
  deriving DecidableEq, Repr

/-- A parameter as it is declared. -/
structure ParameterSource where
  name : String
  description : String := ""
  required : Bool := true
  default : Option Json := none

/-- An output filter as it is declared. -/
structure FilterSource where
  limitLines : Option LooseNumber := none
  limitChars : Option LooseNumber := none
  keep : Side := .top
  grep : Option String := none
  contextLines : Option LooseNumber := none
  remove : Option String := none

/-- Where a tool is offered. -/
structure Availability where
  onLaptop : Bool := true
  whenIsolated : Bool := true
  deriving DecidableEq, Repr

/-- A tool as it is declared. -/
structure ToolSource where
  command : String := ""
  workdir : String := ""
  description : String := ""
  parameters : List ParameterSource := []
  timeout : Option LooseNumber := none
  outputFilter : Option FilterSource := none
  startupWait : Option LooseNumber := none
  startupPort : Option LooseNumber := none
  startupKeyword : Option String := none
  available : Availability := {}
  confirmation : Policy := {}
  env : List (String × String) := []

namespace ToolSource

open Record

/-- True of integers that fit in 64 bits, signed or unsigned. -/
def isWord (n : Int) : Bool := Word.isSigned n || Word.isUnsigned n

/-- A number or a text. An integer beyond the signed 64-bit range is a binary number. -/
def looseNumber? : Json → Option LooseNumber
  | .number (.integer n) =>
    if !isWord n then none
    else if Word.isSigned n then some (.integer n)
    else some (.float (.ofInt n))
  | .number (.float x) => some (.float x)
  | .string s => some (.text s)
  | _ => none

/-- The default of a parameter. Integers must fit in 64 bits, and what is no number is null. -/
def default? : Json → Option Json
  | .number (.integer n) => if isWord n then some (.number (.integer n)) else none
  | .number (.float (.infinite _)) => some .null
  | .number (.float .nan) => some .null
  | v => some v

/-- The end of an output that is kept. -/
def sideOf? : String → Option Side
  | "top" => some .top
  | "bottom" => some .bottom
  | _ => none

/-- Texts by name; the last of several entries of one name counts. -/
def texts? : Json → Option (List (String × String))
  | .object members => do
    let entries ← members.mapM fun (name, v) => (string? v).map (name, ·)
    return entries.foldl (fun acc e => acc.filter (·.1 ≠ e.1) ++ [e]) []
  | _ => none

/-! ## Records -/

def parameter? (form : Form) (v : Json) : Option ParameterSource := do
  let v ← fields? form ["name", "description", "required", "default"] v
  return {
    name := ← (v.get? "name").bind string?
    description := ← fieldOr "" string? "description" v
    required := ← fieldOr true bool? "required" v
    default := ← optional? default? "default" v }

def filter? (form : Form) (v : Json) : Option FilterSource := do
  let v ← fields? form ["limit_lines", "limit_chars", "valuable_top_or_bottom", "grep",
    "grep_context_lines", "remove_from_output"] v
  return {
    limitLines := ← optional? looseNumber? "limit_lines" v
    limitChars := ← optional? looseNumber? "limit_chars" v
    keep := ← fieldOr .top (choice? form sideOf?) "valuable_top_or_bottom" v
    grep := ← optional? string? "grep" v
    contextLines := ← optional? looseNumber? "grep_context_lines" v
    remove := ← optional? string? "remove_from_output" v }

def availability? (form : Form) (v : Json) : Option Availability := do
  let v ← fields? form ["on_your_laptop", "when_isolated"] v
  return {
    onLaptop := ← fieldOr true bool? "on_your_laptop" v
    whenIsolated := ← fieldOr true bool? "when_isolated" v }

def policy? (form : Form) (v : Json) : Option Policy := do
  let v ← fields? form ["ask_user", "deny", "case_insensitive"] v
  return {
    askUser := ← fieldOr [] (list? string?) "ask_user" v
    deny := ← fieldOr [] (list? string?) "deny" v
    ignoreCase := ← fieldOr false bool? "case_insensitive" v }

/-- Reads a definition. -/
def read? (form : Form) (v : Json) : Option ToolSource := do
  let v ← fields? form ["command", "command_workdir", "description", "parameters", "timeout",
    "output_filter", "startup_wait", "startup_wait_port", "startup_wait_keyword", "available",
    "confirmation", "env"] v
  return {
    command := ← fieldOr "" string? "command" v
    workdir := ← fieldOr "" string? "command_workdir" v
    description := ← fieldOr "" string? "description" v
    parameters := ← fieldOr [] (list? (parameter? form)) "parameters" v
    timeout := ← optional? looseNumber? "timeout" v
    outputFilter := ← optional? (filter? form) "output_filter" v
    startupWait := ← optional? looseNumber? "startup_wait" v
    startupPort := ← optional? looseNumber? "startup_wait_port" v
    startupKeyword := ← optional? string? "startup_wait_keyword" v
    available := ← fieldOr {} (availability? form) "available" v
    confirmation := ← fieldOr {} (policy? form) "confirmation" v
    env := ← fieldOr [] texts? "env" v }

/-- The definition that a TOML document writes. -/
def ofToml? (text : String) : Option ToolSource := do
  read? .document (.object (fromTomlEntries .document (← Toml.parse? text)))

/-- The definition that a value of the configuration writes. -/
def ofStored? (v : Toml) : Option ToolSource := read? .stored (fromToml .stored v)

/-- The definition that a JSON value writes. -/
def ofJson? (v : Json) : Option ToolSource := read? .json v

end ToolSource

end Turnstile
