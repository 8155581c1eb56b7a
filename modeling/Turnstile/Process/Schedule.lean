import Turnstile.Shell.Step

/-!
# The schedule of processes

`World.stepProcess` lets one process do one step, if it can. `World.advance` gives the next process
its turn, and the clock goes on a little; if no process can do anything, `World.nextWake?` is the
instant at which the next one wakes.
-/

namespace Turnstile.World

/-! ## Steps of processes -/

/-- Writes what a process has to write next; none if there is no room. -/
def flush (w : World) (p : Process) (c : Channel) (data : Bytes) (rest : List (Channel × Bytes)) :
    Option World :=
  match w.write c data with
  | .broken => some ((w.change p.pid fun p => { p with pending := rest }).signal p.pid .brokenPipe)
  | .taken n w =>
    if n = data.length then some (w.change p.pid fun p => { p with pending := rest })
    else if n = 0 then none
    else some (w.change p.pid fun p => { p with pending := (c, data.drop n) :: rest })

/-- The time that it takes to start a program. -/
def startDelay : Nat := 500000

/-- Starts the program that the arguments name. -/
def start (w : World) (p : Process) (arguments : List String) (env : List (String × String)) :
    World :=
  let name := arguments.headD ""
  match Catalog.program? name with
  | none => w.finish p.pid (.exited 127)
  | some program =>
    let l := program {
      name, env
      arguments := arguments.drop 1
      cwd := p.cwd
      now := w.now
      files := w.files }
    let w := { w with files := l.files }
    let (descriptors, w) := l.opened.foldl (fun (ds, w) (d, h) =>
      let (handle, w) := w.openHandle h
      (Descriptors.set ds d (some (.file handle)), w)) (p.descriptors, w)
    let pending := l.written.filterMap fun (d, data) => (descriptors.lookup d).map (·, data)
    w.change p.pid fun p => { p with
      descriptors
      pending := p.pending ++ pending
      wakeAt := w.now + startDelay
      activity := .program l.next }

/-- Octets for descriptors, to be written. -/
def pendingFor (p : Process) (targets : List Nat) (data : Bytes) : List (Channel × Bytes) :=
  if data.isEmpty then [] else targets.filterMap fun d => (p.channel? d).map (·, data)

/-- The time between two writes of a program that never stops writing. -/
def floodDelay : Nat := 10000000

/-- Goes on with a program; none if it has to wait. -/
def stepProgram (w : World) (p : Process) (program : Program) : Option World :=
  let input := (p.channel? 0).getD .null
  let next := fun (w : World) (pending : List (Channel × Bytes)) (program : Program) =>
    w.change p.pid fun p => { p with
      pending := p.pending ++ pending, activity := .program program }
  match program with
  | .finish code => some (w.finish p.pid (.exited (code % 256)))
  | .pause instant => some (w.change p.pid fun p => { p with
      wakeAt := instant, activity := .program (.finish 0) })
  | .copy targets =>
    match w.read input Pipe.capacity with
    | .nothing => none
    | .finish => some (w.finish p.pid (.exited 0))
    | .data bs w => some (next w (pendingFor p targets bs) (.copy targets))
  | .gather taken isEnough report =>
    let done := fun (w : World) (taken : List Bytes) =>
      let r := report taken.reverse.flatten
      next w (pendingFor p [1] r.out ++ pendingFor p [2] r.err) (.finish r.code)
    match w.read input Pipe.capacity with
    | .nothing => none
    | .finish => some (done w taken)
    | .data bs w =>
      let taken := bs :: taken
      if isEnough taken.reverse.flatten then some (done w taken)
      else some (next w [] (.gather taken isEnough report))
  | .flood data =>
    some (w.change p.pid fun p => { p with
      pending := pendingFor p [1] data, wakeAt := w.now + floodDelay })
  | .become arguments env =>
    let name := arguments.headD ""
    if (Catalog.program? name).isSome then
      some (w.change p.pid fun p => { p with activity := .launch arguments env })
    else
      let message := "env: '" ++ name ++ "': No such file or directory\n"
      some (next w (pendingFor p [2] (Shell.toBytes message)) (.finish 127))
  | .detach arguments env =>
    some (w.change p.pid fun p => { p with
      group := p.pid, activity := .program (.become arguments env) })
  | .interpret s => some (w.change p.pid fun p => { p with
      activity := .shell (s.placed p.pid p.cwd) })
  | .readScript taken s =>
    match w.read input Pipe.capacity with
    | .nothing => none
    | .finish =>
      let text := Shell.ofBytes taken.reverse.flatten
      some (next w [] (.interpret (s.pushScript text)))
    | .data bs w => some (next w [] (.readScript (bs :: taken) s))

/-- Lets a process do one step; none if it has to wait. -/
def stepProcess (w : World) (p : Process) : Option World :=
  if !p.isAlive || w.now < p.wakeAt then none
  else match p.pending with
    | (c, data) :: rest => w.flush p c data rest
    | [] =>
      match p.activity with
      | .launch arguments env => some (w.start p arguments env)
      | .program program => w.stepProgram p program
      | .shell s => ({ world := w, process := p, shell := s } : Shell.Turn).step

/-! ## Turns -/

/-- The time of a step. -/
def stepTime : Nat := 2000

/-- Lets the next process that can do a step do one. -/
def advance (w : World) : Option World :=
  let (before, behind) := w.processes.partition fun p => p.pid ≤ w.turn
  (behind ++ before).findSome? fun p =>
    (w.stepProcess p).map fun w => { w with now := w.now + stepTime, turn := p.pid }

/-- The instant at which the next process wakes. -/
def nextWake? (w : World) : Option Nat :=
  ((w.processes.filter fun p => p.isAlive && w.now < p.wakeAt).map (·.wakeAt)).min?

end Turnstile.World
