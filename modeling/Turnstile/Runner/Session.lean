import Turnstile.Process.Execution
import Turnstile.Runner.Operation

/-!
# Running operations to their end

`Runner.drive` takes the steps of one operation and lets time pass between them. The operations of a
runner are driven one after the other; each gives its answer and the runner after it. An invocation
that breaks off gives none.
-/

namespace Turnstile.Runner

variable {σ : Type} [Platform σ]

/-- Lets time pass until an operation may go on. -/
def rest (r : Runner σ) (op : Operation) : Runner σ :=
  let limit := op.wake?.getD Platform.horizon
  { r with system := Platform.advance ⟨min Platform.horizon.nanos limit.nanos⟩ r.system }

/-- The next step of an operation, or, while it waits, the time after which it may go on. A step
after which the operation is no further is followed by a rest. -/
def proceed (r : Runner σ) (op : Operation) : Runner σ × Operation :=
  match r.step op with
  | some (r', op') => if op'.rank < op.rank then (r', op') else (r'.rest op', op')
  | none => (r.rest op, op)

/-- What is left of the time that the clock can show, and of an operation. -/
def budget (r : Runner σ) (op : Operation) : Nat :=
  (Platform.horizon.nanos - (Platform.now r.system).nanos) + op.rank

/-- Runs an operation to its end. If its time is used up, what it waits for never comes. -/
def drive (r : Runner σ) (op : Operation) : Runner σ × Option Answer :=
  match op with
  | .finished a => (r, some a)
  | .brokenOff .. => (r, none)
  | op =>
    let (r', op') := r.proceed op
    if _h : r'.budget op' < r.budget op then r'.drive op' else (r', none)
termination_by r.budget op

/-- Invokes a tool; none if there is no answer. -/
def invoke (r : Runner σ) (id : String) (bindings : Bindings) (isConfirmed : Bool)
    (cancelAt : Option Instant) : Runner σ × Option (Except ToolError InvocationResult) :=
  let (r, op) := r.beginInvocation id bindings isConfirmed cancelAt
  match r.drive op with
  | (r, some (.invocation result)) => (r, some result)
  | (r, _) => (r, none)

/-- Stops a service: its last status, if it was in the table. -/
def stopService (r : Runner σ) (id : String) : Runner σ × Option ServiceStatus :=
  let (r, op) := r.beginStop id
  match r.drive op with
  | (r, some (.stopped status)) => (r, status)
  | (r, _) => (r, none)

/-- Stops all services: their last statuses, in ascending order of their tools. -/
def shutdown (r : Runner σ) : Runner σ × List ServiceStatus :=
  let (r, op) := r.beginShutdown
  match r.drive op with
  | (r, some (.allStopped statuses)) => (r, statuses)
  | (r, _) => (r, [])

/-- The status of a service that is in the table. -/
def serviceStatus (r : Runner σ) (id : String) : Option ServiceStatus :=
  (r.services.lookup id).map (·.status r.system)

/-- The ids of the services in the table. -/
def runningServices (r : Runner σ) : List String := r.services.ids

/-- Lets time pass until a service is not running, which is looked at after each interval. -/
def awaitService (r : Runner σ) (id : String) (interval : Timespan) : Runner σ :=
  let isDone := fun (s : σ) =>
    ((r.services.lookup id).map fun e => !Platform.isRunning s e.process).getD true
  { r with system := Platform.waitUntil interval isDone r.system }

/-- The events since the last time, in order; somebody goes on listening. -/
def takeEvents (r : Runner σ) : List Event × Runner σ :=
  let r := r.reportOutput
  ((r.events.getD []).reverse, { r with events := r.events.map fun _ => [] })

end Turnstile.Runner
