import Turnstile.Process.World
import Turnstile.Program.Catalog

/-!
# A shell at work

A `Turn` is a shell in its process and its world, for the time of one step; `Turn.commit` puts it
back. This module holds what steps are made of: output and messages, statuses, children, and the
redirection of descriptors.
-/

namespace Turnstile.Shell

/-- A shell in its process and its world. -/
structure Turn where
  world : World
  process : Process
  shell : State

namespace Turn

/-- The world with what became of the shell. -/
def commit (t : Turn) : World :=
  t.world.change t.process.pid fun _ => { t.process with activity := .shell t.shell }

def scene (t : Turn) : Condition.Scene where
  files := t.world.files
  cwd := t.process.cwd

/-! ## Output -/

/-- Writes octets to a descriptor, as soon as there is room. -/
def write (t : Turn) (descriptor : Nat) (data : Bytes) : Turn :=
  match t.process.channel? descriptor with
  | some c =>
    if data.isEmpty then t
    else { t with process := { t.process with pending := t.process.pending ++ [(c, data)] } }
  | none => t

/-- Writes a text to a descriptor. -/
def say (t : Turn) (descriptor : Nat) (s : String) : Turn := t.write descriptor (toBytes s)

/-- Writes a message, with the shell and the line in front. -/
def complain (t : Turn) (s : String) : Turn :=
  t.say 2 (t.shell.settings.name ++ ": " ++ toString t.shell.line ++ ": " ++ s ++ "\n")

/-- Writes a message that is headed, too, by the script that a command runs. -/
def report (t : Turn) (s : String) : Turn :=
  t.complain (match t.shell.heading with
    | some heading => heading ++ ": " ++ s
    | none => s)

/-! ## Statuses -/

def setStatus (t : Turn) (n : Nat) : Turn := { t with shell := t.shell.setStatus n }

def push (t : Turn) (f : Frame) : Turn := { t with shell := t.shell.push f }

def setVars (t : Turn) (vars : Variables) : Turn := { t with shell := { t.shell with vars } }

/-- Ends the shell with a status. -/
def exit (t : Turn) (n : Nat) : Turn :=
  { t with shell := { t.shell.setStatus n with frames := [], finalStatus := none } }

/-- Ends a command with a status, and the shell too if it is to end on failures and nothing looks at
this one. -/
def settle (t : Turn) (n : Nat) : Turn :=
  if n ≠ 0 && t.shell.settings.flags.contains 'e' && !t.shell.isTesting then t.exit n
  else t.setStatus n

/-- Ends a command with a message. -/
def fail (t : Turn) (s : String) (n : Nat := 1) : Turn := (t.complain s).settle n

/-- Ends the shell with a message of a command. -/
def abort (t : Turn) (s : String) : Turn := (t.complain s).exit 2

/-- Ends the shell with a message. -/
def giveUp (t : Turn) (s : String) : Turn := (t.report s).exit 2

/-! ## Children -/

/-- The time that it takes until a new process runs. -/
def forkDelay : Nat := 500000

/-- A new child. Signals that are handled go back to what they do by themselves. -/
def fork (t : Turn) (descriptors : Descriptors) (activity : Activity) : Nat × Turn :=
  let pid := t.world.next
  let child : Process := {
    pid, descriptors, activity
    parent := t.process.pid
    group := t.process.group
    ignored := t.process.ignored
    wakeAt := t.world.now + forkDelay
    cwd := t.process.cwd }
  (pid, { t with world := t.world.add child })

/-- The shell of a child that runs a command. It does not end on failures that are looked at. -/
def subshell (t : Turn) (c : Command) : Activity :=
  let s := { t.shell with frames := [.run c], traps := [], finalStatus := none }
  .shell (if t.shell.isTesting then s.setOption 'e' false else s)

/-- The status of a child that ended, which is then forgotten. Older children that have ended are
seen before. -/
def reap? (t : Turn) (child : Nat) : Option (ExitStatus × Turn) :=
  match t.world.process? child with
  | some p => p.ended.map fun e =>
      let older := t.world.processes.filter fun q =>
        q.parent == t.process.pid && q.pid < child && !q.isAlive
      let seen := older.map (·.pid) ++ t.shell.seen
      (e, { t with world := t.world.reap child, shell := { t.shell with seen } })
  | none => some (.exited 127, t)

/-- Says how a child ended, if a signal ended it. -/
def mourn (t : Turn) : ExitStatus → Turn
  | .killed s => match s.obituary? with
    | some text => t.say 2 (text ++ "\n")
    | none => t
  | .exited _ => t

/-! ## Descriptors -/

def setDescriptor (t : Turn) (d : Nat) (c : Option Channel) : Turn :=
  { t with process := { t.process with descriptors := t.process.descriptors.set d c } }

/-- Puts descriptors back. -/
def restore (t : Turn) (saved : List (Nat × Option Channel)) : Turn :=
  saved.foldl (fun t (d, c) => t.setDescriptor d c) t

/-- Why a file cannot be opened or made, in the shell's words. -/
def reasonFor (isCreating : Bool) : FileError → String
  | .notFound | .notDirectory => if isCreating then "Directory nonexistent" else "No such file"
  | e => e.reason

/-- Opens a file that is written. -/
def openOutput (t : Turn) (path : String) (isAppending isKept : Bool) :
    Except String (Channel × Turn) :=
  match t.world.files.openForWriting t.process.cwd (Call.path path) with
  | .error e => .error ("cannot create " ++ path ++ ": " ++ reasonFor true e)
  | .ok (place, files) =>
    let files := if isKept then files else files.put place (.file [])
    let (handle, world) := { t.world with files }.openHandle { place, isAppending }
    .ok (.file handle, { t with world })

/-- The channel that a redirection leads to; none closes the descriptor. -/
def channelFor (t : Turn) (kind : RedirectKind) (text : String) :
    Except String (Option Channel × Turn) :=
  let isPath := kind != .copy && kind != .document
  let device := if isPath then ["/dev/stdin", "/dev/stdout", "/dev/stderr"].idxOf? text else none
  if let some d := device then .ok (t.process.channel? d, t)
  else if isPath && text == "/dev/null" then .ok (some .null, t)
  else if isPath && text == "/dev/zero" then .ok (some .zeros, t)
  else match kind with
  | .input =>
    match t.world.files.find t.process.cwd (Call.path text) with
    | .error e => .error ("cannot open " ++ text ++ ": " ++ reasonFor false e)
    | .ok (place, _) =>
      let (handle, world) := t.world.openHandle { place }
      .ok (some (.file handle), { t with world })
  | .output => do
    let (c, t) ← t.openOutput text false false
    return (some c, t)
  | .append => do
    let (c, t) ← t.openOutput text true true
    return (some c, t)
  | .both => do
    let (c, t) ← t.openOutput text false true
    return (some c, t)
  | .copy =>
    if text == "-" then .ok (none, t)
    else match text.toNat? with
      | none => .error "Syntax error: Bad fd number"
      | some d =>
        match t.process.channel? d with
        | some c => .ok (some c, t)
        | none => .error (text ++ ": Bad file descriptor")
  | .document =>
    let (pipe, world) := t.world.makeFilledPipe (toBytes text)
    .ok (some (.pipeEnd pipe true), { t with world })

/-- Redirects descriptors one after another. The result says what they were before; after a failure
all are as before. -/
def redirect (t : Turn) (saved : List (Nat × Option Channel)) :
    List (Nat × RedirectKind × String) →
      Except (String × Turn) (List (Nat × Option Channel) × Turn)
  | [] => .ok (saved, t)
  | (d, kind, text) :: rest =>
    match t.channelFor kind text with
    | .error message => .error (message, t.restore saved)
    | .ok (c, t) =>
      let saved := if saved.any (·.1 == d) then saved else (d, t.process.channel? d) :: saved
      (t.setDescriptor d c).redirect saved rest

/-! ## Leaving frames -/

/-- Puts variables back. -/
def restoreVars (t : Turn) (saved : List (String × Option Variable)) : Turn :=
  t.setVars (saved.foldl (fun vars (name, v) =>
    match v with
    | some v => vars.change name fun _ => v
    | none => vars.unset name) t.shell.vars)

/-- Sets the positional parameters. -/
def setParams (t : Turn) (params : List String) : Turn :=
  { t with shell := { t.shell with settings := { t.shell.settings with params } } }

/-- What is to be undone when a frame is left early. -/
def undo (t : Turn) : Frame → Turn
  | .restore saved => t.restore saved
  | .restoreVars saved => t.restoreVars saved
  | .leave params => t.setParams params
  | .leaveScript _ heading => { t with shell := { t.shell with heading } }
  | _ => t

/-- Leaves frames up to the first of a kind, which stays. -/
def leaveUntil (p : Frame → Bool) : List Frame → Turn → Turn
  | [], t => { t with shell := { t.shell with frames := [] } }
  | f :: rest, t =>
    if p f then { t with shell := { t.shell with frames := f :: rest } }
    else leaveUntil p rest (t.undo f)

/-- Leaves frames up to the first of a kind, and that too. -/
def leaveThrough (p : Frame → Bool) (t : Turn) : Turn :=
  let t := leaveUntil p t.shell.frames t
  match t.shell.frames with
  | f :: rest => { t with shell := { t.shell with frames := rest } }.undo f
  | [] => t

end Turn

end Turnstile.Shell
