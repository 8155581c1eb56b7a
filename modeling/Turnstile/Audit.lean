import Turnstile.Invocation.Status
import Turnstile.Process.Platform
import Turnstile.Timestamp

/-!
# The audit trail

One record of JSON for each invocation whose command was rendered. An `AuditSink` is where records
go: `AuditEntry.line` is what is added to a file, and since JSON escapes control characters, the
only newline of a line is the one at its end.
-/

namespace Turnstile

/-- How an invocation ended, as the trail tells it. -/
inductive AuditResult where
  | success (exitCode : Option Int)
  | blocked (pattern : String)
  | confirmation (pattern : String)
  | error (message : String)
  | timeout
  | cancelled
  | started (readiness : Readiness)
  deriving DecidableEq, Repr

namespace AuditResult

def ofStatus : Status → AuditResult
  | .completed exitCode => .success exitCode
  | .timedOut => .timeout
  | .denied pattern => .blocked pattern
  | .confirmationRequired pattern => .confirmation pattern
  | .cancelled => .cancelled
  | .started readiness => .started readiness

/-- A result as a record. -/
def toJson : AuditResult → Json
  | .success exitCode =>
    .object [("type", .string "success"), ("exit_code", .ofOption .ofInt exitCode)]
  | .blocked pattern => .object [("type", .string "blocked"), ("pattern", .string pattern)]
  | .confirmation pattern =>
    .object [("type", .string "confirmation"), ("pattern", .string pattern)]
  | .error message => .object [("type", .string "error"), ("message", .string message)]
  | .timeout => .object [("type", .string "timeout")]
  | .cancelled => .object [("type", .string "cancelled")]
  | .started readiness =>
    .object [("type", .string "started"), ("readiness", .string readiness.name)]

end AuditResult

/-- An entry of the trail. -/
structure AuditEntry where
  timestamp : String
  invocationId : String
  tool : String
  command : String
  result : AuditResult
  durationMillis : Nat
  deriving DecidableEq, Repr

namespace AuditEntry

/-- An entry as a record. -/
def toJson (e : AuditEntry) : Json :=
  .object [("timestamp", .string e.timestamp), ("invocation_id", .string e.invocationId),
    ("tool", .string e.tool), ("command", .string e.command), ("result", e.result.toJson),
    ("duration_ms", .ofNat e.durationMillis)]

/-- The record of an entry. -/
def record (e : AuditEntry) : String := e.toJson.compact

/-- The line of an entry. -/
def line (e : AuditEntry) : String := e.record ++ "\n"

end AuditEntry

/-- Where the entries of a trail go. -/
inductive AuditSink where
  /-- To whoever follows the trace of the program. -/
  | tracing
  /-- To the end of a file. -/
  | jsonLines (place : Place)
  deriving DecidableEq, Repr

/-- Hands an entry over. -/
def AuditSink.log {σ : Type} [Platform σ] (sink : AuditSink) (e : AuditEntry) (s : σ) : σ :=
  match sink with
  | .tracing => Platform.trace e.record s
  | .jsonLines place => Platform.appendFile place (Utf8.encode e.line) s

end Turnstile
