import Turnstile.Process.Signal
import Turnstile.Shell.Expansion
import Turnstile.Shell.Reader

/-!
# The state of a shell

A shell keeps what it has yet to do as a stack of `Frame`s: commands to run, and what becomes of the
status of a command that runs now. So the place of a command shows in the stack: below testing
frames a failure does not end the shell (`ShellState.isTesting`), and with nothing below it the last
command of a shell can take the shell's place.
-/

namespace Turnstile

/-- What a descriptor of a process leads to. -/
inductive Channel where
  /-- Nowhere; it is empty when it is read. -/
  | null
  /-- Nowhere; zeros without end are read. -/
  | zeros
  /-- The captured output with a given number. -/
  | capture (id : Nat)
  /-- An open file. -/
  | file (handle : Nat)
  | pipeEnd (pipe : Nat) (isReader : Bool)
  deriving DecidableEq, Repr

/-- The descriptors of a process. -/
abbrev Descriptors := List (Nat × Channel)

namespace Shell

/-- What a shell has yet to do. -/
inductive Frame where
  | run (c : Command)
  /-- The lines of a script, and what is wrong behind them. -/
  | script (lines : List Command) (fault : Option (Nat × SyntaxFault))
  /-- Runs a command, the outputs of some of whose substitutions are known. -/
  | expand (c : Command) (answers : List String)
  /-- Reads the output of a child that a command needs. -/
  | collect (c : Command) (answers : List String) (pipe child : Nat) (taken : List Bytes)
  /-- Takes the status of a child in the foreground. -/
  | await (child : Nat)
  /-- Waits for the children of a pipeline and takes the status of the last. -/
  | awaitAll (children : List Nat) (last : Nat)
  /-- Waits until children in the background have ended. -/
  | awaitJobs (children : List Nat)
  /-- Waits for jobs in turn and takes the status of the last. -/
  | awaitEach (jobs : List Nat)
  | negate
  | andThen (c : Command)
  | orElse (c : Command)
  | choose (yes no : Command)
  /-- Goes on with the body of a loop or ends it, with the status of the last round at hand. -/
  | loopTest (onSuccess : Bool) (test body : Command) (status : Nat)
  | loopBody (onSuccess : Bool) (test body : Command)
  | each (name : String) (values : List String) (body : Command)
  /-- Puts descriptors back. -/
  | restore (saved : List (Nat × Option Channel))
  /-- Puts variables back. -/
  | restoreVars (saved : List (String × Option Variable))
  /-- Ends a function. -/
  | leave (params : List String)
  /-- Ends a script that ran inside of another one, which messages are headed by again. -/
  | leaveScript (isFile : Bool) (heading : Option String)
  /-- Reads a line into variables. -/
  | readLine (names : List String) (raw : Bool) (taken : List (Char × Mark))
  /-- Sets the status. -/
  | answer (status : Nat)

/-- True of frames that look at a status. -/
def Frame.isTest : Frame → Bool
  | .negate | .andThen _ | .orElse _ | .choose .. | .loopTest .. => true
  | _ => false

/-- True of frames that a return leaves. -/
def Frame.isReturn : Frame → Bool
  | .leave _ => true
  | .leaveScript isFile _ => isFile
  | _ => false

/-- True of frames of loops. -/
def Frame.isLoop : Frame → Bool
  | .loopTest .. | .loopBody .. | .each .. => true
  | _ => false

/-- A shell. -/
structure State where
  vars : Variables := []
  settings : Settings := {}
  functions : List (String × Command) := []
  /-- What is done on a signal, and, without signal, at the end. -/
  traps : List (Option Signal × String) := []
  frames : List Frame := []
  /-- The line of the command that runs. -/
  line : Nat := 1
  /-- What messages are headed by inside of a script that a command runs. -/
  heading : Option String := none
  /-- Jobs that were seen to have ended. -/
  seen : List Nat := []
  /-- The status that the shell ends with, once that is settled. -/
  finalStatus : Option Nat := none
  deriving Inhabited

namespace State

def status (s : State) : Nat := s.settings.status

def setStatus (s : State) (n : Nat) : State :=
  { s with settings := { s.settings with status := n } }

def push (s : State) (f : Frame) : State := { s with frames := f :: s.frames }

/-- True if the status of what runs now is looked at later. -/
def isTesting (s : State) : Bool := s.frames.any (·.isTest)

/-- True if nothing is left to do after what runs now. -/
def isLast (s : State) : Bool := s.frames.isEmpty && s.traps.isEmpty

/-- Sets or clears the letter of an option. -/
def setOption (s : State) (letter : Char) (isOn : Bool) : State :=
  let others := s.settings.flags.toList.filter (· ≠ letter)
  { s with
    settings := { s.settings with
      flags := String.ofList (if isOn then others ++ [letter] else others) } }

/-- A shell that has nothing to do. -/
def ofEnvironment (env : List (String × String)) : State where
  vars := .ofEnvironment env

/-- Lets a shell run a script before all else. -/
def pushScript (s : State) (text : String) : State :=
  let script := Script.read text
  s.push (.script script.lines script.fault)

/-- Lets a shell run a script inside of the one that it runs. -/
def pushInner (s : State) (isFile : Bool) (heading text : String) : State :=
  let outer := s.heading
  { (s.setStatus 0).push (.leaveScript isFile outer) with heading := some heading }.pushScript text

/-- The shell in a process with a given number and working directory. -/
def placed (s : State) (pid : Nat) (cwd : Place) : State :=
  { s with
    vars := (s.vars.set "PWD" (octets (FileTree.pathOf cwd))).set "OPTIND" "1"
    settings := { s.settings with pid } }

end State

end Shell

end Turnstile
