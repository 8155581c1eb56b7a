import Turnstile.Process.Capture
import Turnstile.Process.Supervisor
import Turnstile.Host.FileTree
import Turnstile.Timespan

/-!
# What processes run on

A `Platform` is what commands are started on: it has a clock, it starts and supervises processes,
and it keeps what they wrote. Invocations are defined over any platform, so what holds of them holds
whatever the processes do, and whichever commands the system refuses to start.
-/

namespace Turnstile

/-- The number of a process that was started. -/
abbrev ProcessId := Nat

/-- A command to be started, and the limits that it runs under. -/
structure SpawnRequest where
  command : String
  workdir : String
  /-- Variables that are set beside those of the host. -/
  env : List (String × String)
  timeout : Timespan
  /-- The time between the request to end and the kill. -/
  grace : Timespan
  /-- The instant at which the caller calls the command off. -/
  cancelAt : Option Instant := none

/-- Why a command cannot be started. -/
inductive SpawnError where
  | noWorkdir (path : String)
  /-- The system does not start the shell, and says why. -/
  | refused (message : String)
  deriving DecidableEq, Repr

def SpawnError.message : SpawnError → String
  | .noWorkdir path => "working directory " ++ path ++ " does not exist or is not a directory"
  | .refused message => message

/-- What processes run on; `σ` is its state. -/
class Platform (σ : Type) where
  now : σ → Instant
  /-- Starts a command under supervision. -/
  spawn : SpawnRequest → σ → Except SpawnError ProcessId × σ
  /-- Asks a process to end. -/
  requestStop : ProcessId → σ → σ
  /-- How a process ended, once it did and its output is complete. -/
  outcome? : σ → ProcessId → Option Outcome
  /-- What a process wrote so far. -/
  capture : σ → ProcessId → Capture
  /-- True if something accepts connections at a port. -/
  isPortOpen : σ → Nat → Bool
  /-- Lets time pass, at most to an instant, and no further than to the end of a process. -/
  advance : Instant → σ → σ
  /-- The chunks that were captured since the last time, in the order of their arrival. -/
  takeChunks : σ → List (ProcessId × Bytes) × σ
  /-- Adds octets at the end of a file. -/
  appendFile : Place → Bytes → σ → σ
  /-- Hands a record to whoever follows the trace of the program. -/
  trace : String → σ → σ

namespace Platform

/-- True while a process has not ended. -/
def isRunning {σ : Type} [Platform σ] (s : σ) (p : ProcessId) : Bool := (outcome? s p).isNone

end Platform

end Turnstile
