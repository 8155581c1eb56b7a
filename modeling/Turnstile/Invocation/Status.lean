import Turnstile.Filter.Stats
import Turnstile.Gate
import Turnstile.Json
import Turnstile.Service.Readiness

/-!
# How an invocation ends

A `Status` is the end of an invocation that was carried out or turned away; a `ToolError` is the
report of one that failed. `Status.error?` gives the error that a status amounts to.
-/

namespace Turnstile

/-- How an invocation ended. -/
inductive Status where
  /-- The process ended; without exit code it was killed. -/
  | completed (exitCode : Option Int)
  | timedOut
  | denied (pattern : String)
  | confirmationRequired (pattern : String)
  | cancelled
  /-- A service was launched and goes on running. -/
  | started (readiness : Readiness)
  deriving DecidableEq, Repr

namespace Status

def isSuccess : Status → Bool
  | .completed exitCode => exitCode == some 0
  | .started readiness => readiness == .ready
  | _ => false

/-- A status in messages. -/
def text : Status → String
  | .completed (some code) => "completed (exit code " ++ toString code ++ ")"
  | .completed none => "completed (killed by signal)"
  | .timedOut => "timed out"
  | .denied pattern => "denied by `" ++ pattern ++ "`"
  | .confirmationRequired pattern => "confirmation required by `" ++ pattern ++ "`"
  | .cancelled => "cancelled"
  | .started readiness => "service started (" ++ readiness.text ++ ")"

/-- The kind of a status in records. -/
def kind : Status → String
  | .completed _ => "completed"
  | .timedOut => "timed_out"
  | .denied _ => "denied"
  | .confirmationRequired _ => "confirmation_required"
  | .cancelled => "cancelled"
  | .started _ => "started"

/-- What a record holds beside the kind. -/
def payload : Status → List (String × Json)
  | .completed exitCode => [("exit_code", .ofOption .ofInt exitCode)]
  | .denied pattern | .confirmationRequired pattern => [("pattern", .string pattern)]
  | .started readiness => [("readiness", .string readiness.name)]
  | .timedOut | .cancelled => []

/-- A status as a record. -/
def toJson (s : Status) : Json := .object (("status", .string s.kind) :: s.payload)

end Status

/-- Why an invocation failed. -/
inductive ToolError where
  | unknownTool (id : String)
  | invalidParams (message : String)
  | spawn (message : String)
  | timeout (limit : Timespan) (output : Bytes)
  | denied (pattern : String)
  | confirmationRequired (pattern : String)
  | cancelled (output : Bytes)
  deriving DecidableEq, Repr

namespace ToolError

def message : ToolError → String
  | .unknownTool id => "unknown tool: " ++ id
  | .invalidParams message => "invalid tool parameters: " ++ message
  | .spawn message => "failed to spawn command: " ++ message
  | .timeout limit _ => "command timed out after " ++ limit.text
  | .denied pattern => "command denied by pattern `" ++ pattern ++ "`"
  | .confirmationRequired pattern => "command requires confirmation (pattern `" ++ pattern ++ "`)"
  | .cancelled _ => "operation cancelled"

/-- What was captured before the failure, where that counts. -/
def output? : ToolError → Option Bytes
  | .timeout _ output | .cancelled output => some output
  | _ => none

end ToolError

/-- A decision as a record. -/
def Decision.toJson : Decision → Json
  | .allow => .object [("decision", .string "allow")]
  | .requireConfirmation pattern =>
    .object [("decision", .string "require_confirmation"), ("pattern", .string pattern)]
  | .deny pattern => .object [("decision", .string "deny"), ("pattern", .string pattern)]

/-- Sizes as a record. -/
def FilterStats.toJson (s : FilterStats) : Json :=
  .object [("raw_bytes", .ofNat s.rawBytes), ("raw_chars", .ofNat s.rawChars),
    ("raw_lines", .ofNat s.rawLines), ("filtered_chars", .ofNat s.filteredChars),
    ("filtered_lines", .ofNat s.filteredLines)]

/-- What an invocation gives back. -/
structure InvocationResult where
  invocationId : String
  toolId : String
  /-- The rendered command. -/
  command : String
  status : Status
  /-- The filtered output. -/
  output : String
  stats : FilterStats
  elapsedMillis : Nat
  decision : Decision
  deriving DecidableEq, Repr

namespace InvocationResult

/-- The error that a result amounts to, for one that was turned away or called off. -/
def error? (r : InvocationResult) : Option ToolError :=
  match r.status with
  | .denied pattern => some (.denied pattern)
  | .confirmationRequired pattern => some (.confirmationRequired pattern)
  | .cancelled => some (.cancelled (Utf8.encode r.output))
  | .completed _ | .timedOut | .started _ => none

/-- A result as a record. -/
def toJson (r : InvocationResult) : Json :=
  .object [("invocation_id", .string r.invocationId), ("tool_id", .string r.toolId),
    ("command", .string r.command), ("status", r.status.toJson), ("output", .string r.output),
    ("stats", r.stats.toJson), ("elapsed_ms", .ofNat r.elapsedMillis),
    ("decision", r.decision.toJson)]

end InvocationResult

/-- What is reported while invocations run. -/
inductive Event where
  | started (tool invocation command : String)
  | output (tool invocation chunk : String)
  | completed (tool invocation : String) (status : Status) (stats : FilterStats)
  deriving DecidableEq, Repr

/-- The invocation that an event is about. -/
def Event.invocation : Event → String
  | .started _ invocation _ | .output _ invocation _ | .completed _ invocation _ _ => invocation

end Turnstile
