import Turnstile.Host.Expansion
import Turnstile.Number.Word
import Turnstile.Registry

/-!
# Configuration of the host

A `Config` says where the host runs, how long things may take, and where tools are defined: inline,
or in files that patterns lead to.

* `Config.ofToml?` reads one from a document; what is missing has a default.
* `Config.load` reads the host's file, if it exists, and then lets variables of the environment
  override single settings (`Config.override`).
* `Config.registry` loads the tools: the inline ones first, then those of the files, each in
  ascending order. What is refused is left out.
-/

namespace Turnstile

/-- Where the trail of invocations goes. -/
structure AuditSettings where
  isEnabled : Bool := false
  /-- A path, or the word for the host's log. -/
  destination : String := "stdout"
  deriving DecidableEq, Repr

/-- The settings of the host. -/
structure Config where
  environment : Environment := .laptop
  /-- The time limit, in seconds, of tools that set none. -/
  defaultTimeout : Nat := 120
  killGraceMillis : Nat := 2000
  readinessPollMillis : Nat := 250
  /-- Patterns of files with definitions. -/
  definitionPaths : List String := []
  audit : AuditSettings := {}
  /-- The tools that are defined inline. -/
  tools : List (String × Toml) := []

/-- What of a host a configuration depends on. -/
structure HostView where
  files : FileTree
  cwd : Place
  /-- The variables of the environment. -/
  vars : List (String × String) := []
  /-- The home directory of the user, where no variable names one. -/
  userHome : Option String := none

/-- The home directory: that of the variable, unless it is empty. -/
def HostView.home (h : HostView) : Option String :=
  match h.vars.lookup "HOME" with
  | some dir => if dir.isEmpty then h.userHome else some dir
  | none => h.userHome

namespace Config

open Record

/-! ## Reading -/

/-- A natural number that fits in 64 bits. -/
def count? : Json → Option Nat
  | .number (.integer n) => if Word.isUnsigned n then some n.toNat else none
  | _ => none

def audit? (v : Json) : Option AuditSettings := do
  let v ← fields? .document ["enabled", "destination"] v
  return {
    isEnabled := ← fieldOr false bool? "enabled" v
    destination := ← fieldOr "stdout" string? "destination" v }

mutual

/-- True of a value all of whose integers fit in a signed 64-bit word. -/
def isStorable : Toml → Bool
  | .integer n => Word.isSigned n
  | .array items => areStorable items
  | .table entries => haveStorable entries
  | _ => true

def areStorable : List Toml → Bool
  | [] => true
  | v :: rest => isStorable v && areStorable rest

def haveStorable : List (String × Toml) → Bool
  | [] => true
  | (_, v) :: rest => isStorable v && haveStorable rest

end

/-- The inline definitions, in ascending order of their ids. -/
def tools? : Option Toml → Option (List (String × Toml))
  | none => some []
  | some (.table entries) =>
    if haveStorable entries then some (entries.mergeSort fun a b => a.1 ≤ b.1) else none
  | some _ => none

/-- The configuration that a document writes; `none` if it is no TOML or a field has the wrong
type. -/
def ofToml? (text : String) : Option Config := do
  let entries ← Toml.parse? text
  let v := Json.object (fromTomlEntries .document entries)
  return {
    environment := ← fieldOr .laptop (choice? .document Environment.ofName?) "environment" v
    defaultTimeout := ← fieldOr 120 count? "default_timeout" v
    killGraceMillis := ← fieldOr 2000 count? "kill_grace_ms" v
    readinessPollMillis := ← fieldOr 250 count? "readiness_poll_ms" v
    definitionPaths := ← fieldOr [] (list? string?) "definition_paths" v
    audit := ← fieldOr {} audit? "audit" v
    tools := ← tools? (Toml.lookup? "tools" entries) }

/-! ## Times -/

def timeout (c : Config) : Timespan := .ofWholeSeconds c.defaultTimeout

/-- The time between the request to end and the kill. -/
def killGrace (c : Config) : Timespan := .ofMillis c.killGraceMillis

/-- The time between two polls, never zero. -/
def readinessPoll (c : Config) : Timespan := .ofMillis (max c.readinessPollMillis 1)

/-! ## Loading -/

/-- Why a configuration cannot be had. -/
inductive LoadError where
  | unreadable (path : String)
  | malformed
  deriving DecidableEq, Repr

def LoadError.message : LoadError → String
  | .unreadable path => "failed to read config file " ++ path
  | .malformed => "failed to parse config file"

/-- A decimal numeral that fits in 64 bits, with an optional plus sign. -/
def readCount? (s : String) : Option Nat :=
  let digits := match s.toList with
    | '+' :: rest => rest
    | cs => cs
  if digits.isEmpty || !digits.all isDigit then none
  else
    let n := natOfDigits digits
    if n < Word.count then some n else none

/-- The path of the host's file: the one that is asked for, else that of the variable, else the
usual one. -/
def path (asked : Option String) (h : HostView) : String :=
  asked.getD ((h.vars.lookup "CMDGATE_CONFIG").getD "config/default.toml")

/-- Settings overridden by variables of the environment; values without sense do not count. -/
def override (h : HostView) (c : Config) : Config :=
  let timeout := (h.vars.lookup "CMDGATE_DEFAULT_TIMEOUT").bind readCount? |>.filter (0 < ·)
  let environment := (h.vars.lookup "CMDGATE_ENVIRONMENT").bind fun s => (Environment.read s).toOption
  let nonBlank := fun (name : String) =>
    (h.vars.lookup name).map Text.trim |>.filter (!·.isEmpty)
  let directory := (nonBlank "CMDGATE_TOOLS_DIR").map fun dir =>
    Text.trimEnd (· = '/') dir ++ "/*.toml"
  { c with
    defaultTimeout := timeout.getD c.defaultTimeout
    environment := environment.getD c.environment
    definitionPaths := c.definitionPaths ++ directory.toList
    audit := match nonBlank "CMDGATE_AUDIT_DESTINATION" with
      | some destination => { isEnabled := true, destination }
      | none => c.audit }

/-- The configuration of a host; a file that does not exist leaves the defaults. -/
def load (h : HostView) (path : String) : Except LoadError Config :=
  match h.files.find h.cwd path with
  | .error _ => .ok (override h {})
  | .ok _ =>
    match h.files.readText h.cwd path with
    | .error _ => .error (.unreadable path)
    | .ok text =>
      match ofToml? text with
      | some c => .ok (override h c)
      | none => .error .malformed

/-- The files with definitions, in ascending order. -/
def definitionFiles (c : Config) (h : HostView) : List String :=
  Path.sortUnique <| c.definitionPaths.flatMap fun pattern =>
    h.files.filesMatching h.cwd (Path.expandHome h.home pattern)

/-- What the definitions of a host take from it. -/
def defaults (c : Config) (h : HostView) : Defaults where
  timeout := c.timeout
  home := h.home

/-- The definitions of a host in the order in which they count. -/
def definitions (c : Config) (h : HostView) : List (Except ConfigError Tool) :=
  let d := c.defaults h
  c.tools.map (fun (id, v) => Tool.ofSource? d id (ToolSource.ofStored? v)) ++
    (c.definitionFiles h).map (Tool.ofFile d h.files h.cwd)

/-- The tools of a host. -/
def registry (c : Config) (h : HostView) : Registry :=
  Registry.registerAll { environment := c.environment }
    ((c.definitions h).filterMap (·.toOption))

end Config

end Turnstile
