import Turnstile.Process.Platform
import Turnstile.Process.Schedule

/-!
# A machine

A `Machine` is a platform in full: a world of processes, with a `Task` for each command that was
started, which holds the state of its supervisor and the instants that it waits for.

* `Task.event?` is what a supervisor sees next, and `Machine.settle` lets all of them react.
* `Machine.advance` lets processes take their turns, or, if all of them wait, moves the clock to the
  next instant that matters.
-/

namespace Turnstile

/-- A command under supervision. The leader of its group has the number of the group and of the
capture. -/
structure Task where
  leader : ProcessId
  state : Supervisor := .watching
  deadline : Nat
  /-- The instant at which a stop was or will be asked for. -/
  stopAt : Option Nat
  grace : Nat
  /-- The instant of the next look at the group. -/
  lookAt : Nat := 0
  /-- The instant at which patience with the group, or with the readers, ends. -/
  giveUpAt : Nat := 0

namespace Task

/-- The time between two looks at a group. -/
def lookInterval : Nat := 25000000

/-- The exit code of the leader, once it ended. -/
def leaderStatus? (w : World) (t : Task) : Option ExitStatus :=
  (w.process? t.leader).bind (·.ended)

/-- True if a live process can still write to the capture. -/
def isCaptureHeld (w : World) (t : Task) : Bool :=
  w.processes.any fun p => p.isAlive && p.channels.contains (.capture t.leader)

/-- True once a stop was asked for. -/
def isStopDue (w : World) (t : Task) : Bool := t.stopAt.any (· ≤ w.now)

/-- What a supervisor sees now. While the leader runs, its end comes first; after it, the look at
the group. -/
def event? (w : World) (t : Task) : Option Supervisor.Event :=
  let isGone := (w.groupMembers t.leader).isEmpty
  let cutoff? :=
    if t.deadline ≤ w.now then some Supervisor.Event.deadlinePassed
    else if t.isStopDue w then some .stopRequested
    else none
  match t.state with
  | .watching =>
    match t.leaderStatus? w with
    | some status => some (.leaderExited (status.code?.map Int.ofNat))
    | none => cutoff?
  | .outliving _ => if t.lookAt ≤ w.now && isGone then some .groupGone else cutoff?
  | .terminating _ => if t.lookAt ≤ w.now && isGone then some .groupGone else none
  | .draining _ => if !t.isCaptureHeld w || t.giveUpAt ≤ w.now then some .drained else none
  | .finished _ => none

/-- The instants that a supervisor waits for. -/
def wakes (t : Task) : List Nat :=
  match t.state with
  | .watching => t.deadline :: t.stopAt.toList
  | .outliving _ => t.lookAt :: t.deadline :: t.stopAt.toList
  | .terminating _ => [t.lookAt, t.giveUpAt]
  | .draining _ => [t.giveUpAt]
  | .finished _ => []

/-- Carries out what a supervisor does. -/
def perform (w : World) (t : Task) : Supervisor.Effect → World
  | .closeCapture => w.changeCapture t.leader Capture.close
  | .terminateGroup => w.signalGroup t.leader .terminate

/-- Lets a supervisor react to an event. -/
def react (w : World) (t : Task) (e : Supervisor.Event) : World × Task :=
  let (state, effects) := t.state.step e
  let w := effects.foldl (perform · t) w
  let w := match e with
    | .leaderExited _ => w.reap t.leader
    | _ => w
  (w, { t with state, lookAt := w.now, giveUpAt := w.now + t.grace })

/-- Looks at the group again later; a group that was given time enough is killed. -/
def look (w : World) (t : Task) : World × Task :=
  match t.state with
  | .terminating _ =>
    if t.giveUpAt ≤ w.now then (w.signalGroup t.leader .kill, { t with lookAt := w.now })
    else if t.lookAt ≤ w.now then (w, { t with lookAt := w.now + lookInterval })
    else (w, t)
  | .outliving _ =>
    if t.lookAt ≤ w.now then (w, { t with lookAt := w.now + lookInterval }) else (w, t)
  | _ => (w, t)

/-- Lets a supervisor react to all that it sees now; the fuel bounds the number of reactions. -/
def settle : Nat → World → Task → World × Task
  | 0, w, t => (w, t)
  | fuel + 1, w, t =>
    match t.event? w with
    | some e =>
      let (w, t) := t.react w e
      settle fuel w t
    | none =>
      let (w, t) := t.look w
      match t.event? w with
      | some e =>
        let (w, t) := t.react w e
        settle fuel w t
      | none => (w, t)

end Task

/-- A machine. -/
structure Machine where
  world : World
  tasks : List Task := []
  /-- The directory that commands are started in. -/
  cwd : Place
  /-- The variables of the environment. -/
  env : List (String × String) := []
  /-- The records that were traced, the latest first. -/
  traced : List String := []

namespace Machine

/-- Lets all supervisors react. -/
def settle (m : Machine) : Machine :=
  let (world, tasks) := m.tasks.foldl (fun (w, done) t =>
    let (w, t) := Task.settle 8 w t
    (w, t :: done)) (m.world, [])
  { m with world, tasks := tasks.reverse }

/-- The number of commands that ended. -/
def finishedCount (m : Machine) : Nat := (m.tasks.filter fun t => t.state.outcome?.isSome).length

/-- The next instant after now at which something happens by itself. -/
def nextWake? (m : Machine) : Option Nat :=
  (m.world.nextWake?.toList ++ (m.tasks.flatMap (·.wakes)).filter (m.world.now < ·)).min?

/-- Lets one process do a step, or else moves the clock, at most to an instant. -/
def tick (limit : Nat) (m : Machine) : Machine :=
  match m.world.advance with
  | some world => { m with world }
  | none =>
    let target := min limit (m.nextWake?.getD limit)
    { m with world := { m.world with now := max m.world.now target } }

/-- Lets time pass, at most to an instant, and no further than to the end of a command, which itself
takes a little time. -/
def advance (limit : Nat) (m : Machine) : Machine :=
  let settled := m.settle
  if m.finishedCount < settled.finishedCount then
    { settled with world := { settled.world with now := settled.world.now + World.stepTime } }
  else if limit ≤ settled.world.now then settled
  else
    let next := settled.tick limit
    if _h : limit - next.world.now < limit - m.world.now then next.advance limit else next
termination_by limit - m.world.now

/-- A time limit that the clock cannot show does not pass. -/
def farFuture : Timespan := .ofWholeSeconds (86400 * 365 * 30)

/-- The deadline of a command that starts at an instant; none if the clock cannot show even the far
future. -/
def deadline? (startedAt : Instant) (timeout : Timespan) : Option Instant :=
  (startedAt.plus? timeout).or (startedAt.plus? farFuture)

/-- The time that it takes until a new command runs. -/
def spawnDelay : Nat := 500000

/-- The room that the system has for one argument or variable and the octet that ends it. -/
def argumentRoom : Nat := 131072

/-- Why the system does not start a program with these arguments and variables: the octet that ends
each of them stands in one, or one is too long. -/
def refusal? (texts : List Bytes) : Option String :=
  if texts.any (·.contains 0) then some "nul byte found in provided data"
  else if texts.any (argumentRoom ≤ ·.length) then some "Argument list too long (os error 7)"
  else none

/-- Starts the shell of a command in a directory. It leads a new group. -/
def launch (r : SpawnRequest) (cwd : Place) (m : Machine) : ProcessId × Machine :=
  let w := m.world
  let leader := w.next
  let octetPair := fun (v : String × String) => (Shell.octets v.1, Shell.octets v.2)
  let process : Process := {
    pid := leader
    parent := 0
    group := leader
    descriptors := [(0, .null), (1, .capture leader), (2, .capture leader)]
    wakeAt := w.now + spawnDelay
    cwd
    activity := .launch ["sh", "-c", Shell.octets r.command]
      ((Program.extend m.env r.env).map octetPair) }
  let deadline := (deadline? ⟨w.now⟩ r.timeout).getD ⟨w.now + farFuture.nanos⟩
  let task : Task := {
    leader
    deadline := deadline.nanos
    stopAt := r.cancelAt.map (·.nanos)
    grace := r.grace.nanos }
  (leader, { m with
    world := { w.add process with captures := (leader, {}) :: w.captures }
    tasks := m.tasks ++ [task] })

/-- Starts a command in a shell of its own, if its directory is there and the system takes it. -/
def spawn (r : SpawnRequest) (m : Machine) : Except SpawnError ProcessId × Machine :=
  match m.world.files.find m.cwd r.workdir with
  | .ok (cwd, .directory) =>
    let assignments := (Program.extend m.env r.env).map fun v => v.1 ++ "=" ++ v.2
    match refusal? ((r.command :: assignments).map Utf8.encode) with
    | some message => (.error (.refused message), m)
    | none =>
      let (leader, m) := m.launch r cwd
      (.ok leader, m)
  | _ => (.error (.noWorkdir r.workdir), m)

/-- Asks a process to end. -/
def requestStop (p : ProcessId) (m : Machine) : Machine :=
  { m with tasks := m.tasks.map fun t =>
      if t.leader == p then
        { t with stopAt := some (min m.world.now (t.stopAt.getD m.world.now)) }
      else t }

def task? (m : Machine) (p : ProcessId) : Option Task := m.tasks.find? (·.leader == p)

instance : Platform Machine where
  now m := ⟨m.world.now⟩
  spawn := spawn
  requestStop := requestStop
  outcome? m p := (m.task? p).bind (·.state.outcome?)
  capture m p := (m.world.captures.lookup p).getD {}
  isPortOpen _ _ := false
  advance limit m := m.advance limit.nanos
  takeChunks m := (m.world.chunks.reverse, { m with world := { m.world with chunks := [] } })
  appendFile place data m :=
    { m with world := { m.world with files := m.world.files.append place data } }
  trace record m := { m with traced := record :: m.traced }

end Machine

end Turnstile
