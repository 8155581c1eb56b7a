import Turnstile.Audit
import Turnstile.Process.Platform
import Turnstile.Registry
import Turnstile.Service.Table

/-!
# The runner

A `Runner` holds the tools, the services that were started, and the platform that processes run on.

* `Runner.prepare` renders a command and asks the gate about it; `Runner.check` is what that shows.
* `Runner.conclude` and `Runner.fail` are the two ways in which an invocation ends whose command was
  rendered. Each adds one entry to the audit trail.

While somebody listens, the runner reports events: what an invocation is about to run, what the
processes write, and how the invocation ended.
-/

namespace Turnstile

/-- A runner of tools on a platform. -/
structure Runner (σ : Type) where
  registry : Registry
  /-- The time between the request to end and the kill. -/
  killGrace : Timespan
  /-- The time between two looks at a service that is starting. -/
  pollInterval : Timespan
  system : σ
  services : ServiceTable := []
  /-- Where the audit trail goes, if there is one. -/
  audit : Option AuditSink := none
  /-- The events so far, the latest first, if somebody listens. -/
  events : Option (List Event) := none
  /-- The processes that were started, with the tool and the invocation that they belong to. -/
  streams : List (ProcessId × String × String) := []
  /-- The number of invocations so far. -/
  count : Nat := 0

/-- An invocation whose command was rendered. -/
structure Invocation where
  id : String
  tool : Tool
  command : String
  decision : Decision
  startedAt : Instant
  /-- The instant at which the caller calls it off. -/
  cancelAt : Option Instant := none

/-- True of an invocation that its caller has called off by an instant. -/
def Invocation.isCalledOff (inv : Invocation) (now : Instant) : Bool :=
  inv.cancelAt.any (·.nanos ≤ now.nanos)

/-- A rendered command, and what the gate decides on it. -/
structure CheckResult where
  command : String
  decision : Decision
  deriving DecidableEq, Repr

namespace Runner

variable {σ : Type} [Platform σ]

/-! ## Rendering and the gate -/

/-- The tool of an id. -/
def find (r : Runner σ) (id : String) : Except ToolError Tool :=
  match r.registry.find? id with
  | some t => .ok t
  | none => .error (.unknownTool id)

/-- The command of a tool with its values filled in, and the decision of the gate. -/
def prepare (t : Tool) (bindings : Bindings) : Except ToolError CheckResult :=
  match t.render bindings with
  | .ok command => .ok { command, decision := t.gate.evaluate command }
  | .error f => .error (.invalidParams f.message)

/-- Renders a command and asks the gate, without running anything. -/
def check (r : Runner σ) (id : String) (bindings : Bindings) : Except ToolError CheckResult := do
  prepare (← r.find id) bindings

/-! ## Events -/

/-- Reports an event, if somebody listens. -/
def report (r : Runner σ) (e : Event) : Runner σ :=
  { r with events := r.events.map (e :: ·) }

/-- Reports what processes wrote since the last time. -/
def reportOutput (r : Runner σ) : Runner σ :=
  let (chunks, system) := Platform.takeChunks r.system
  chunks.foldl (fun r (p, chunk) =>
    match r.streams.lookup p with
    | some (tool, invocation) => r.report (.output tool invocation (Utf8.decodeLossy chunk))
    | none => r) { r with system }

/-! ## The ends of an invocation -/

/-- The time since an invocation began, in milliseconds. -/
def elapsedMillis (r : Runner σ) (inv : Invocation) : Nat :=
  ((Platform.now r.system).since inv.startedAt).millis

/-- Adds an entry to the audit trail. -/
def log (r : Runner σ) (inv : Invocation) (result : AuditResult) : Runner σ :=
  match r.audit with
  | none => r
  | some sink =>
    let entry : AuditEntry := {
      timestamp := (Timestamp.mk ((Platform.now r.system).nanos / 1000000)).text
      invocationId := inv.id
      tool := inv.tool.id
      command := inv.command
      result
      durationMillis := r.elapsedMillis inv }
    { r with system := sink.log entry r.system }

/-- Ends an invocation with a status. What was run has an output, which is filtered. -/
def conclude (r : Runner σ) (inv : Invocation) (status : Status) (raw : Option Bytes) :
    Runner σ × InvocationResult :=
  let filtered := match raw with
    | some raw => inv.tool.filtered raw
    | none => { output := "", stats := {} }
  let r := r.reportOutput
  let result : InvocationResult := {
    invocationId := inv.id
    toolId := inv.tool.id
    command := inv.command
    status
    output := filtered.output
    stats := filtered.stats
    elapsedMillis := r.elapsedMillis inv
    decision := inv.decision }
  let r := r.log inv (.ofStatus status)
  (r.report (.completed inv.tool.id inv.id status filtered.stats), result)

/-- Ends an invocation whose command could not be started. -/
def fail (r : Runner σ) (inv : Invocation) (e : ToolError) : Runner σ × ToolError :=
  (r.log inv (.error e.message), e)

end Runner

end Turnstile
