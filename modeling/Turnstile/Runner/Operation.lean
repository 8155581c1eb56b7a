import Turnstile.Runner.Basic

/-!
# Operations of a runner

What a runner does is split into steps: an invocation, the stop of a service, and the stop of all of
them. `Runner.step` carries out one step of an `Operation`, or none while it has to wait, and
`Operation.wake?` is the instant at which waiting ends by itself. Between two steps other operations
can take theirs, and processes can do anything.

* `Runner.beginInvocation` refuses what the gate does not allow; nothing is started for it.
* A service is launched by stopping the one that runs, starting the new one, watching it until it is
  ready, and putting it into the table. One that ends instead is treated like any command.
* If the clock cannot show how long a service is to be waited for, the invocation breaks off without
  an answer (`Operation.brokenOff`). Its process was started, and goes on.
-/

namespace Turnstile

/-- A watch over a service that is starting. -/
inductive Watch where
  /-- The service counts as ready at an instant. -/
  | delay (deadline : Instant)
  /-- The criteria are looked at, next at an instant. -/
  | poll (m : Monitor) (next : Instant)

/-- Where an invocation stands. -/
inductive Phase where
  /-- The service that ran before is ending. -/
  | clearing (previous : ProcessId)
  | starting
  | running (p : ProcessId)
  | watching (p : ProcessId) (startedAt : Instant) (w : Watch)
  /-- The service will not be ready; its end is waited for. -/
  | failing (p : ProcessId)
  /-- The service is in the table, and one that it replaced is ending. -/
  | replacing (readiness : Readiness) (raw : Bytes) (replaced : ProcessId)

/-- What an operation gives back. -/
inductive Answer where
  | invocation (r : Except ToolError InvocationResult)
  | stopped (s : Option ServiceStatus)
  | allStopped (ss : List ServiceStatus)

/-- Something that a runner is doing. -/
inductive Operation where
  | invoking (inv : Invocation) (phase : Phase)
  /-- A service that is out of the table is ending. -/
  | stopping (e : ServiceEntry)
  /-- Services that are out of the table are ended one after the other. -/
  | stoppingAll (current : ServiceEntry) (rest : List ServiceEntry) (done : List ServiceStatus)
  /-- An invocation that is over without an answer. Nobody has to do with its process any more. -/
  | brokenOff (inv : Invocation) (p : ProcessId)
  | finished (a : Answer)

namespace Watch

/-- The watch over a service that starts now; none if the clock cannot show how long it lasts. -/
def start? (c : ReadinessCriteria) (now : Instant) : Option Watch :=
  (Monitor.start? c now).map fun m => if c.isFixedDelay then .delay m.deadline else .poll m now

/-- The next instant that a watch waits for. -/
def wake : Watch → Instant
  | .delay deadline => deadline
  | .poll _ next => next

end Watch

namespace Operation

/-- The instant at which an operation goes on, whatever the processes do. -/
def wake? : Operation → Option Instant
  | .invoking inv (.watching _ _ w) =>
    match inv.cancelAt with
    | some c => some ⟨min c.nanos w.wake.nanos⟩
    | none => some w.wake
  | _ => none

/-- How an invocation goes on whose process was started. A service that was called off is not
watched any more; one that cannot be watched is left to itself. -/
def launched (inv : Invocation) (p : ProcessId) (now : Instant) : Operation :=
  match inv.tool.readiness with
  | none => .invoking inv (.running p)
  | some c =>
    if inv.isCalledOff now then .invoking inv (.failing p)
    else match Watch.start? c now with
      | some w => .invoking inv (.watching p now w)
      | none => .brokenOff inv p

/-- A number that falls with every step but a look at a service that is starting. -/
def rank : Operation → Nat
  | .invoking _ (.clearing _) => 5
  | .invoking _ .starting => 4
  | .invoking _ (.running _) => 3
  | .invoking _ (.watching ..) => 3
  | .invoking _ (.failing _) => 2
  | .invoking _ (.replacing ..) => 1
  | .stopping _ => 1
  | .stoppingAll _ rest _ => rest.length + 1
  | .brokenOff .. | .finished _ => 0

end Operation

namespace Runner

variable {σ : Type} [Platform σ]

/-! ## The beginnings of operations -/

/-- The end of an invocation that was turned away or ran to its end. -/
def answer (r : Runner σ) (inv : Invocation) (status : Status) (raw : Option Bytes) :
    Runner σ × Operation :=
  let (r, result) := r.conclude inv status raw
  (r, .finished (.invocation (.ok result)))

/-- Takes the service of a tool out of the table and asks it to end. -/
def takeService (r : Runner σ) (id : String) : Option ServiceEntry × Runner σ :=
  let (entry, services) := r.services.take id
  match entry with
  | some e => (some e, { r with
      services, system := Platform.requestStop e.process r.system })
  | none => (none, r)

/-- Goes on with an invocation that the gate lets pass. -/
def letPass (r : Runner σ) (inv : Invocation) : Runner σ × Operation :=
  let r := r.reportOutput.report (.started inv.tool.id inv.id inv.command)
  if inv.tool.isService then
    match r.takeService inv.tool.id with
    | (some e, r) => (r, .invoking inv (.clearing e.process))
    | (none, r) => (r, .invoking inv .starting)
  else (r, .invoking inv .starting)

/-- Begins an invocation: finds the tool, renders its command and asks the gate. -/
def beginInvocation (r : Runner σ) (id : String) (bindings : Bindings) (isConfirmed : Bool)
    (cancelAt : Option Instant) : Runner σ × Operation :=
  match r.find id with
  | .error e => (r, .finished (.invocation (.error e)))
  | .ok tool =>
    match prepare tool bindings with
    | .error e => (r, .finished (.invocation (.error e)))
    | .ok checked =>
      let inv : Invocation := {
        tool, cancelAt
        id := "invocation-" ++ toString (r.count + 1)
        command := checked.command
        decision := checked.decision
        startedAt := Platform.now r.system }
      let r := { r with count := r.count + 1 }
      match checked.decision with
      | .deny pattern => r.answer inv (.denied pattern) none
      | .requireConfirmation pattern =>
        if isConfirmed then r.letPass inv else r.answer inv (.confirmationRequired pattern) none
      | .allow => r.letPass inv

/-- Begins to stop a service. -/
def beginStop (r : Runner σ) (id : String) : Runner σ × Operation :=
  match r.takeService id with
  | (some e, r) => (r, .stopping e)
  | (none, r) => (r, .finished (.stopped none))

/-- Goes on with stopping services one after the other. -/
def stopNext (r : Runner σ) (done : List ServiceStatus) :
    List ServiceEntry → Runner σ × Operation
  | [] =>
    (r, .finished (.allStopped (done.reverse.mergeSort fun a b => a.toolId ≤ b.toolId)))
  | e :: rest =>
    ({ r with system := Platform.requestStop e.process r.system }, .stoppingAll e rest done)

/-- Begins to stop all services. -/
def beginShutdown (r : Runner σ) : Runner σ × Operation :=
  stopNext { r with services := [] } [] (r.services.map (·.2))

/-! ## Steps -/

/-- The status of a command that ended. -/
def statusOf : Outcome → Status
  | .exited code => .completed code
  | .timedOut => .timedOut
  | .cancelled => .cancelled

/-- Starts the command of an invocation. -/
def start (r : Runner σ) (inv : Invocation) : Runner σ × Operation :=
  let request : SpawnRequest := {
    command := inv.command
    workdir := inv.tool.workdir.getD "."
    env := inv.tool.env
    timeout := inv.tool.timeout
    grace := r.killGrace
    cancelAt := inv.cancelAt }
  match Platform.spawn request r.system with
  | (.error e, system) =>
    let (r, e) := { r with system }.fail inv (.spawn e.message)
    (r, .finished (.invocation (.error e)))
  | (.ok p, system) =>
    ({ r with system, streams := (p, inv.tool.id, inv.id) :: r.streams },
      .launched inv p (Platform.now system))

/-- Puts a service into the table. -/
def enter (r : Runner σ) (inv : Invocation) (p : ProcessId) (startedAt : Instant)
    (readiness : Readiness) : Runner σ × Operation :=
  let raw := (Platform.capture r.system p).bytes
  let entry : ServiceEntry := {
    process := p, tool := inv.tool, invocationId := inv.id, readiness, startedAt }
  let (replaced, services) := r.services.insert inv.tool.id entry
  let r := { r with services }
  match replaced with
  | none => r.answer inv (.started readiness) (some raw)
  | some e =>
    ({ r with system := Platform.requestStop e.process r.system },
      .invoking inv (.replacing readiness raw e.process))

/-- Looks at a service that is starting; none if it is too early. -/
def look (r : Runner σ) (inv : Invocation) (p : ProcessId) (startedAt : Instant) (w : Watch) :
    Option (Runner σ × Operation) :=
  let now := Platform.now r.system
  let isRunning := Platform.isRunning r.system p
  match w with
  | .delay deadline =>
    if inv.isCalledOff now || !isRunning then some (r, .invoking inv (.failing p))
    else if deadline.nanos ≤ now.nanos then some (r.enter inv p startedAt .ready)
    else none
  | .poll m next =>
    if inv.isCalledOff now then some (r, .invoking inv (.failing p))
    else if now.nanos < next.nanos then none
    else
      let (m, verdict) := m.poll {
        output := Platform.capture r.system p
        portOpen := m.port.any (Platform.isPortOpen r.system)
        isRunning
        now }
      match verdict with
      | some .ready => some (r.enter inv p startedAt .ready)
      | some .timedOut => some (r.enter inv p startedAt .timedOut)
      | some _ => some (r, .invoking inv (.failing p))
      | none =>
        let next : Instant := ⟨now.nanos + r.pollInterval.nanos⟩
        some (r, .invoking inv (.watching p startedAt (.poll m next)))

/-- One step of an operation; none while it has to wait, and once it is over. -/
def step (r : Runner σ) : Operation → Option (Runner σ × Operation)
  | .invoking inv (.clearing previous) =>
    if Platform.isRunning r.system previous then none else some (r, .invoking inv .starting)
  | .invoking inv .starting => some (r.start inv)
  | .invoking inv (.running p) | .invoking inv (.failing p) =>
    (Platform.outcome? r.system p).map fun o =>
      r.answer inv (statusOf o) (some (Platform.capture r.system p).bytes)
  | .invoking inv (.watching p startedAt w) => r.look inv p startedAt w
  | .invoking inv (.replacing readiness raw replaced) =>
    if Platform.isRunning r.system replaced then none
    else some (r.answer inv (.started readiness) (some raw))
  | .stopping e =>
    if Platform.isRunning r.system e.process then none
    else some (r, .finished (.stopped (some (e.status r.system))))
  | .stoppingAll e rest done =>
    if Platform.isRunning r.system e.process then none
    else some (r.stopNext (e.status r.system :: done) rest)
  | .brokenOff .. | .finished _ => none

end Runner

end Turnstile
