import Turnstile.Filter.Pipeline
import Turnstile.Process.Platform
import Turnstile.Tool.Definition

/-!
# The table of services

A service that was started is kept in a table under the id of its tool, at most one for each id. A
new entry replaces the old one, which the caller then has to stop; an entry that is taken out is
likewise in the hands of the caller.

`ServiceEntry.status` is what can be told about a service, with its output filtered.
-/

namespace Turnstile

/-- A service that was started, and what it was started from. -/
structure ServiceEntry where
  process : ProcessId
  tool : Tool
  invocationId : String
  readiness : Readiness
  startedAt : Instant

/-- What can be told about a service. -/
structure ServiceStatus where
  toolId : String
  invocationId : String
  isRunning : Bool
  /-- The exit code of a process that ended by itself. -/
  exitCode : Option Int
  readiness : Readiness
  /-- The filtered output. -/
  output : String
  stats : FilterStats
  uptime : Timespan
  deriving DecidableEq, Repr

namespace Tool

/-- The output of a tool filtered as its definition says. -/
def filtered (t : Tool) (raw : Bytes) : OutputFilter.Filtered :=
  (t.filter.getD {}).run raw.length (Utf8.decodeLossyChars raw)

end Tool

/-- The status of a service. -/
def ServiceEntry.status {σ : Type} [Platform σ] (s : σ) (e : ServiceEntry) : ServiceStatus :=
  let filtered := e.tool.filtered (Platform.capture s e.process).bytes
  let outcome := Platform.outcome? s e.process
  { toolId := e.tool.id
    invocationId := e.invocationId
    isRunning := outcome.isNone
    exitCode := match outcome with
      | some (.exited code) => code
      | _ => none
    readiness := e.readiness
    output := filtered.output
    stats := filtered.stats
    uptime := (Platform.now s).since e.startedAt }

/-- Services by the id of their tool. -/
abbrev ServiceTable := List (String × ServiceEntry)

namespace ServiceTable

/-- Puts an entry into the table: the entry that it replaces, and the table after it. -/
def insert (t : ServiceTable) (id : String) (e : ServiceEntry) :
    Option ServiceEntry × ServiceTable :=
  (t.lookup id, (id, e) :: t.filter (·.1 != id))

/-- Takes an entry out of the table. -/
def take (t : ServiceTable) (id : String) : Option ServiceEntry × ServiceTable :=
  (t.lookup id, t.filter (·.1 != id))

/-- The ids in the table, in ascending order. -/
def ids (t : ServiceTable) : List String := (t.map (·.1)).mergeSort

end ServiceTable

end Turnstile
