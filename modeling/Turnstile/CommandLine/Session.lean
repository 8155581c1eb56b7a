import Turnstile.CommandLine.Grammar
import Turnstile.Config
import Turnstile.Process.Machine
import Turnstile.Runner.Session

/-!
# Carrying out a command line

`CommandLine.execute` carries out a command line on a machine. It gives back what is printed, the
exit code, and the machine after it.
-/

namespace Turnstile

/-- The search path of programs, where the environment has none. -/
def defaultPath : String := "/usr/local/sbin:/usr/local/bin:/usr/sbin:/usr/bin:/sbin:/bin"

/-- The machine of a host. -/
def HostView.machine (h : HostView) : Machine where
  world := { files := h.files }
  cwd := h.cwd
  env := if (h.vars.lookup "PATH").isSome then h.vars else ("PATH", defaultPath) :: h.vars

/-- Opens an audit trail: one word stands for the trace of the program, all others for a file. -/
def AuditSettings.openTrail (a : AuditSettings) (files : FileTree) (cwd : Place) :
    Except FileError (AuditSink × FileTree) :=
  if a.destination == "stdout" then .ok (.tracing, files)
  else do
    let (place, files) ← files.openForWriting cwd a.destination
    return (.jsonLines place, files)

/-- The runner of a host's tools. -/
def Config.runner (c : Config) (h : HostView) (m : Machine) : Runner Machine where
  registry := c.registry h
  killGrace := c.killGrace
  pollInterval := c.readinessPoll
  system := m

namespace CommandLine

/-- What a command line prints, and its exit code. -/
structure Output where
  exit : Nat := 0
  out : String := ""
  err : String := ""
  deriving DecidableEq, Repr

namespace Output

/-- A command line that fails. -/
def failure (message : String) : Output := { exit := 1, err := "Error: " ++ message ++ "\n" }

end Output

/-- The exit code that stands for how an invocation ended. -/
def exitCode : Status → Nat
  | .completed (some code) => if 0 ≤ code ∧ code ≤ 255 then code.toNat else 1
  | .completed none => 1
  | .timedOut => 124
  | .denied _ | .confirmationRequired _ => 126
  | .cancelled => 130
  | .started _ => 0

/-! ## Commands -/

/-- Lists the tools. -/
def list (r : Registry) (isPrompt : Bool) : Output :=
  if isPrompt then { out := r.prompt }
  else
    { out := String.join (r.tools.map fun t =>
        t.id ++ (if t.isService then " [service]" else "") ++ "  " ++ t.description ++ "\n") }

/-- Shows a rendered command and the decision on it. -/
def check (r : Runner Machine) (tool : String) (b : Bindings) : Output :=
  match r.check tool b with
  | .error e => .failure e.message
  | .ok c =>
    let (decision, exit) := match c.decision with
      | .allow => ("allow", 0)
      | .requireConfirmation p => ("requires confirmation (`" ++ p ++ "`)", 0)
      | .deny p => ("deny (`" ++ p ++ "`)", 126)
    { exit, out := "command:  " ++ c.command ++ "\ndecision: " ++ decision ++ "\n" }

/-- A text with a newline behind it, unless it is empty or has one. -/
def terminated (s : String) : String :=
  if s.isEmpty || s.toList.getLast? = some '\n' then s else s ++ "\n"

/-- Prints how an invocation ended. -/
def shown (result : InvocationResult) (isJson : Bool) : Output :=
  let exit := exitCode result.status
  if isJson then { exit, out := result.toJson.pretty ++ "\n" }
  else
    { exit
      out := terminated result.output
      err := result.toolId ++ ": " ++ result.status.text ++ "\n" }

/-- Waits until a service that was started is not running any more, and prints the rest. -/
def attend (r : Runner Machine) (tool : String) (o : Output) : Output × Machine :=
  let r := r.awaitService tool (.ofWholeSeconds 1)
  let (r, stopped) := r.shutdown
  let o := { o with err := o.err ++ tool ++ " is running, press Ctrl-C to stop\n" }
  (stopped.foldl (fun o s => { o with
    out := o.out ++ s.output
    err := o.err ++ s.toolId ++ " stopped after " ++ toString s.uptime.millis ++ " ms\n" }) o,
    r.system)

/-- The exit code of a program that broke off. -/
def brokenOff : Nat := 101

/-- Runs a tool. What needs confirmation and has none is declined. -/
def run (r : Runner Machine) (tool : String) (b : Bindings) (isConfirmed isJson : Bool) :
    Output × Machine :=
  match r.invoke tool b isConfirmed none with
  | (r, none) => ({ exit := brokenOff }, r.system)
  | (r, some (.error e)) => (.failure e.message, r.system)
  | (r, some (.ok result)) =>
    match result.status with
    | .confirmationRequired _ =>
      ({ exit := exitCode result.status, err := "declined\n" }, r.system)
    | .started _ => attend r tool (shown result isJson)
    | _ => (shown result isJson, r.system)

/-- Checks files with definitions. -/
def validate (c : Config) (h : HostView) (files : List String) : Output :=
  files.foldl (fun o path =>
    match Tool.ofFile (c.defaults h) h.files h.cwd path with
    | .error e => { o with exit := 1, out := o.out ++ "error " ++ path ++ ": " ++ e.message ++ "\n" }
    | .ok t =>
      let remark := if t.available.allows c.environment then ""
        else " (unavailable in " ++ c.environment.title ++ ")"
      { o with out := o.out ++ "ok    " ++ t.id ++ remark ++ "\n" }) {}

/-- Runs a tool with the audit trail that the configuration asks for. -/
def runAudited (c : Config) (h : HostView) (tool : String) (b : Bindings)
    (isConfirmed isJson : Bool) : Output × Machine :=
  let m := h.machine
  if !c.audit.isEnabled then run (c.runner h m) tool b isConfirmed isJson
  else match c.audit.openTrail h.files h.cwd with
    | .error _ => (.failure "failed to open audit log", m)
    | .ok (sink, files) =>
      let m := { m with world := { m.world with files } }
      run { c.runner h m with audit := some sink } tool b isConfirmed isJson

/-! ## The whole -/

/-- The version of the program. -/
def version : String := "cmdgate 0.3.0\n"

/-- Carries out a command line on a host. -/
def execute (h : HostView) (args : List String) : Output × Machine :=
  match Request.ofArguments args with
  | .error (.help topic) => ({ out := topic.help }, h.machine)
  | .error .version => ({ out := version }, h.machine)
  | .error .empty => ({ exit := 2, err := Topic.help .program }, h.machine)
  | .error (.misuse e) =>
    ({ exit := 2, err := "error: " ++ e.message ++ "\n\nFor more information, try '--help'.\n" },
      h.machine)
  | .ok request =>
    match Config.load h (Config.path request.config h) with
    | .error e => (.failure e.message, h.machine)
    | .ok c =>
      match request.command with
      | .list isPrompt => (list (c.registry h) isPrompt, h.machine)
      | .check tool params => (check (c.runner h h.machine) tool (bindings params), h.machine)
      | .run tool params isConfirmed isJson =>
        runAudited c h tool (bindings params) isConfirmed isJson
      | .validate files => (validate c h files, h.machine)

end CommandLine

end Turnstile
