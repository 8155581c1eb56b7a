import Turnstile.Process.Capture
import Turnstile.Shell.State
import Turnstile.Timespan

/-!
# The world of processes

Processes, the pipes between them, and the files and the clock that they share. A process runs a
shell or one of the host's `Program`s. This module holds the types, and the operations on channels:
`World.write` takes as much as a channel has room for, and `World.read` gives what there is, nothing
yet, or the end.
-/

namespace Turnstile

/-- What a program that has taken its input writes, and its exit code. -/
structure Report where
  out : Bytes := []
  err : Bytes := []
  code : Nat := 0

/-- What a program has yet to do. -/
inductive Program where
  /-- To end. -/
  | finish (code : Nat)
  /-- To wait for an instant. -/
  | pause (instant : Nat)
  /-- To copy its input to descriptors. -/
  | copy (targets : List Nat)
  /-- To take its input until there is enough of it, and then to report. -/
  | gather (taken : List Bytes) (isEnough : Bytes → Bool) (report : Bytes → Report)
  /-- To write the same over and over. -/
  | flood (data : Bytes)
  /-- To become another program. -/
  | become (arguments : List String) (env : List (String × String))
  /-- To become another program as the leader of a group of its own. -/
  | detach (arguments : List String) (env : List (String × String))
  /-- To become a shell. -/
  | interpret (s : Shell.State)
  /-- To become a shell whose script is the input. -/
  | readScript (taken : List Bytes) (s : Shell.State)

/-- What a process is about. -/
inductive Activity where
  /-- A program that is about to start, with its arguments and environment. -/
  | launch (arguments : List String) (env : List (String × String))
  | program (p : Program)
  | shell (s : Shell.State)

/-- A process. -/
structure Process where
  pid : Nat
  parent : Nat
  group : Nat
  descriptors : Descriptors
  /-- Output that is not written yet. -/
  pending : List (Channel × Bytes) := []
  ignored : List Signal := []
  /-- Signals that came and are to be handled. -/
  raised : List Signal := []
  /-- The instant before which it does not run. -/
  wakeAt : Nat := 0
  cwd : Place
  activity : Activity
  /-- How it ended. -/
  ended : Option ExitStatus := none

/-- A pipe and the octets in it. -/
structure Pipe where
  data : Bytes := []

namespace Pipe

/-- The number of octets that a pipe holds. -/
def capacity : Nat := 65536

end Pipe

/-- An open file. -/
structure Handle where
  place : Place
  offset : Nat := 0
  /-- Whether everything is written at the end. -/
  isAppending : Bool := false

/-- The processes of a host and what they share. -/
structure World where
  /-- The time in nanoseconds. -/
  now : Nat := 0
  files : FileTree
  processes : List Process := []
  pipes : List (Nat × Pipe) := []
  handles : List (Nat × Handle) := []
  captures : List (Nat × Capture) := []
  /-- The chunks that were captured, the latest first. -/
  chunks : List (Nat × Bytes) := []
  /-- The number of the next process, pipe or file. -/
  next : Nat := 100
  /-- The process that did the last step. -/
  turn : Nat := 0

namespace Process

/-- All channels that a process holds open, those it put aside included. -/
def channels (p : Process) : List Channel :=
  let saved := match p.activity with
    | .shell s => s.frames.flatMap fun f => match f with
      | .restore saved => saved.filterMap (·.2)
      | .collect _ _ pipe _ _ => [.pipeEnd pipe true]
      | _ => []
    | _ => []
  p.descriptors.map (·.2) ++ saved ++ p.pending.map (·.1)

/-- The channel of a descriptor. -/
def channel? (p : Process) (descriptor : Nat) : Option Channel := p.descriptors.lookup descriptor

def isAlive (p : Process) : Bool := p.ended.isNone

end Process

/-- Descriptors with one of them changed or, without channel, closed. -/
def Descriptors.set (ds : Descriptors) (d : Nat) (c : Option Channel) : Descriptors :=
  (c.toList.map (d, ·)) ++ ds.filter (·.1 != d)

namespace World

def process? (w : World) (pid : Nat) : Option Process := w.processes.find? (·.pid == pid)

/-- Changes a process. -/
def change (w : World) (pid : Nat) (f : Process → Process) : World :=
  { w with processes := w.processes.map fun p => if p.pid == pid then f p else p }

/-- Changes an entry of a list of entries by number. -/
def changeEntry {α : Type} (entries : List (Nat × α)) (id : Nat) (f : α → α) : List (Nat × α) :=
  entries.map fun e => if e.1 == id then (id, f e.2) else e

/-- Changes a capture. -/
def changeCapture (w : World) (id : Nat) (f : Capture → Capture) : World :=
  { w with captures := changeEntry w.captures id f }

/-- True if a live process holds an end of a pipe. -/
def isHeld (w : World) (pipe : Nat) (isReader : Bool) : Bool :=
  w.processes.any fun p => p.isAlive && p.channels.contains (.pipeEnd pipe isReader)

/-- A new pipe. -/
def makePipe (w : World) : Nat × World :=
  (w.next, { w with next := w.next + 1, pipes := (w.next, {}) :: w.pipes })

/-- A new pipe with something in it. -/
def makeFilledPipe (w : World) (data : Bytes) : Nat × World :=
  (w.next, { w with next := w.next + 1, pipes := (w.next, { data }) :: w.pipes })

/-- Opens a file at a place. -/
def openHandle (w : World) (h : Handle) : Nat × World :=
  (w.next, { w with next := w.next + 1, handles := (w.next, h) :: w.handles })

/-- The most that a reader of captured output takes at once. -/
def chunkSize : Nat := 4096

/-- Octets in chunks of at most a given size; the fuel bounds their number. -/
def chunksOf (size : Nat) : Nat → Bytes → List Bytes
  | 0, _ => []
  | fuel + 1, data =>
    if data.isEmpty then []
    else data.take size :: chunksOf size fuel (data.drop size)

/-- Adds output to a capture, chunk by chunk. Chunks that it does not take are not reported. -/
def captureData (w : World) (id : Nat) (data : Bytes) : World :=
  match w.captures.lookup id with
  | none => w
  | some c =>
    if c.isClosed then w
    else
      let pieces := chunksOf chunkSize (data.length + 1) data
      { w with
        captures := changeEntry w.captures id fun c => pieces.foldl Capture.append c
        chunks := pieces.foldl (fun acc piece => (id, piece) :: acc) w.chunks }

/-- The outcome of writing. -/
inductive Written where
  /-- This many octets were taken. -/
  | taken (n : Nat) (w : World)
  /-- Nobody will ever read them. -/
  | broken

/-- Writes to a channel as much as it has room for. -/
def write (w : World) (c : Channel) (data : Bytes) : Written :=
  match c with
  | .null | .zeros => .taken data.length w
  | .capture id => .taken data.length (w.captureData id data)
  | .file handle =>
    match w.handles.lookup handle with
    | none => .broken
    | some h =>
      match w.files.node? h.place with
      | some (.file content) =>
        let start := if h.isAppending then content.length else h.offset
        let content' := content.take start ++ List.replicate (start - content.length) 0 ++ data ++
          content.drop (start + data.length)
        .taken data.length { w with
          files := w.files.put h.place (.file content')
          handles := changeEntry w.handles handle fun h => { h with offset := start + data.length } }
      | _ => .taken data.length w
  | .pipeEnd pipe _ =>
    if !w.isHeld pipe true then .broken
    else
      match w.pipes.lookup pipe with
      | none => .broken
      | some p =>
        let n := min data.length (Pipe.capacity - p.data.length)
        .taken n { w with
          pipes := changeEntry w.pipes pipe fun p => { p with data := p.data ++ data.take n } }

/-- The outcome of reading. -/
inductive Taken where
  | data (bs : Bytes) (w : World)
  /-- There is nothing yet. -/
  | nothing
  | finish

/-- Reads at most a number of octets from a channel. -/
def read (w : World) (c : Channel) (most : Nat) : Taken :=
  match c with
  | .null | .capture _ => .finish
  | .zeros => .data (List.replicate most 0) w
  | .file handle =>
    match w.handles.lookup handle with
    | none => .finish
    | some h =>
      match w.files.node? h.place with
      | some (.file content) =>
        let bs := (content.drop h.offset).take most
        if bs.isEmpty then .finish
        else .data bs { w with
          handles := changeEntry w.handles handle fun h => { h with offset := h.offset + bs.length } }
      | _ => .finish
  | .pipeEnd pipe _ =>
    match w.pipes.lookup pipe with
    | none => .finish
    | some p =>
      if p.data.isEmpty then if w.isHeld pipe false then .nothing else .finish
      else .data (p.data.take most) { w with
        pipes := changeEntry w.pipes pipe fun p => { p with data := p.data.drop most } }

/-! ## Processes -/

/-- Ends a process. Its channels are closed, and its children are nobody's. -/
def finish (w : World) (pid : Nat) (status : ExitStatus) : World :=
  { w with
    processes := w.processes.map fun p =>
      if p.pid == pid then
        { p with ended := some status, descriptors := [], pending := [], activity := .program (.finish 0) }
      else p }

/-- The live processes of a group. -/
def groupMembers (w : World) (group : Nat) : List Process :=
  w.processes.filter fun p => p.isAlive && p.group == group

/-- Sends a signal to a process. -/
def signal (w : World) (pid : Nat) (s : Signal) : World :=
  match w.process? pid with
  | none => w
  | some p =>
    if !p.isAlive then w
    else if s == .kill then w.finish pid (.killed s)
    else if p.ignored.contains s then w
    else
      let isTrapped := match p.activity with
        | .shell sh => sh.traps.any (·.1 == some s)
        | _ => false
      if isTrapped then w.change pid fun p => { p with raised := p.raised ++ [s] }
      else if s.isFatal then w.finish pid (.killed s)
      else w

/-- Sends a signal to all processes of a group. -/
def signalGroup (w : World) (group : Nat) (s : Signal) : World :=
  (w.groupMembers group).foldl (fun w p => w.signal p.pid s) w

/-- Adds a process. -/
def add (w : World) (p : Process) : World :=
  { w with processes := w.processes ++ [p], next := max w.next (p.pid + 1) }

/-- Forgets a process that ended. -/
def reap (w : World) (pid : Nat) : World :=
  { w with processes := w.processes.filter (·.pid != pid) }

end World

end Turnstile
