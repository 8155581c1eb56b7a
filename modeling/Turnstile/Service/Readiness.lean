import Turnstile.Process.Capture
import Turnstile.Timespan

/-!
# Readiness of services

A service counts as started once its criteria hold: a text in its output, an open port, or, if
neither is asked for, the mere passing of time.

* `ReadinessCriteria.isFixedDelay` says that only time counts.
* A `Monitor` polls the other criteria. `Monitor.poll` judges one poll, given what can be seen of
  the process at that moment: first the criteria, then the end of the process, then the deadline.
-/

namespace Turnstile

/-- What a service must do to count as started. -/
structure ReadinessCriteria where
  /-- How long the criteria are waited for. -/
  deadline : Timespan
  /-- The port that must accept a connection. -/
  port : Option Nat := none
  /-- The text that the output must contain. -/
  keyword : Option String := none
  deriving DecidableEq, Repr

/-- True if time alone counts. -/
def ReadinessCriteria.isFixedDelay (c : ReadinessCriteria) : Bool :=
  c.port.isNone && c.keyword.isNone

/-- How far the start of a service has come. -/
inductive Readiness where
  | spawned
  | waiting
  | ready
  | timedOut
  /-- The process ended before the criteria held. -/
  | exited
  deriving DecidableEq, Repr

namespace Readiness

/-- True of a state that does not change any more. -/
def isTerminal : Readiness → Bool
  | .ready | .timedOut | .exited => true
  | .spawned | .waiting => false

/-- The name of a state in records. -/
def name : Readiness → String
  | .spawned => "spawned"
  | .waiting => "waiting"
  | .ready => "ready"
  | .timedOut => "timed_out"
  | .exited => "exited"

/-- A state in messages. -/
def text : Readiness → String
  | .timedOut => "timed out"
  | r => r.name

/-- The state of a name. -/
def ofName? : String → Option Readiness
  | "spawned" => some .spawned
  | "waiting" => some .waiting
  | "ready" => some .ready
  | "timed_out" => some .timedOut
  | "exited" => some .exited
  | _ => none

end Readiness

/-- What one poll sees. -/
structure Sighting where
  output : Capture
  /-- Whether the port accepted a connection. -/
  portOpen : Bool
  isRunning : Bool
  now : Instant

/-- A watch over a service that is starting. -/
structure Monitor where
  keyword : Option Bytes
  port : Option Nat
  deadline : Instant
  /-- Whether the keyword, if there is one, was found. -/
  keywordSeen : Bool
  /-- The offset up to which the output was searched in vain. -/
  scanned : Nat := 0
  deriving DecidableEq, Repr

namespace Monitor

/-- The watch that starts at an instant; none if the clock cannot show the deadline. -/
def start? (c : ReadinessCriteria) (now : Instant) : Option Monitor :=
  (now.plus? c.deadline).map fun deadline =>
    { keyword := c.keyword.map Utf8.encode
      port := c.port
      deadline
      keywordSeen := c.keyword.isNone }

/-- Searches the output that is new since the last search. -/
def scan (m : Monitor) (output : Capture) : Monitor :=
  if m.keywordSeen then m
  else match m.keyword with
    | none => m
    | some keyword =>
      match output.find keyword m.scanned with
      | .at _ => { m with keywordSeen := true }
      | .resume offset => { m with scanned := offset }

/-- The verdict on what was seen, if there is one yet. -/
def verdict? (m : Monitor) (portOpen isRunning : Bool) (now : Instant) : Option Readiness :=
  if m.keywordSeen && (m.port.isNone || portOpen) then some .ready
  else if !isRunning then some .exited
  else if m.deadline.nanos ≤ now.nanos then some .timedOut
  else none

/-- One poll: the watch after it and its verdict. -/
def poll (m : Monitor) (s : Sighting) : Monitor × Option Readiness :=
  let m := m.scan s.output
  (m, m.verdict? s.portOpen s.isRunning s.now)

end Monitor

end Turnstile
