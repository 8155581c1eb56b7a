/-!
# Signals and exit statuses
-/

namespace Turnstile

/-- A signal. -/
inductive Signal where
  | hangup
  | interrupt
  | quit
  | kill
  | user1
  | user2
  | brokenPipe
  | alarm
  | terminate
  | child
  | continue
  deriving DecidableEq, Repr, Inhabited

namespace Signal

/-- Signals with their numbers and names. -/
def all : List (Signal × Nat × String) :=
  [(.hangup, 1, "HUP"), (.interrupt, 2, "INT"), (.quit, 3, "QUIT"), (.kill, 9, "KILL"),
    (.user1, 10, "USR1"), (.user2, 12, "USR2"), (.brokenPipe, 13, "PIPE"), (.alarm, 14, "ALRM"),
    (.terminate, 15, "TERM"), (.child, 17, "CHLD"), (.continue, 18, "CONT")]

def number (s : Signal) : Nat :=
  match all.find? (·.1 == s) with
  | some (_, n, _) => n
  | none => 0

def ofNumber? (n : Nat) : Option Signal := (all.find? (·.2.1 == n)).map (·.1)

def ofName? (name : String) : Option Signal := (all.find? (·.2.2 == name)).map (·.1)

/-- True of signals that end a process which does not handle them. -/
def isFatal : Signal → Bool
  | .child | .continue => false
  | _ => true

/-- What a shell says about a process that was ended by a signal; nothing about some. -/
def obituary? : Signal → Option String
  | .hangup => some "Hangup"
  | .quit => some "Quit"
  | .kill => some "Killed"
  | .user1 => some "User defined signal 1"
  | .user2 => some "User defined signal 2"
  | .alarm => some "Alarm clock"
  | .terminate => some "Terminated"
  | .interrupt | .brokenPipe | .child | .continue => none

end Signal

/-- How a process ended. -/
inductive ExitStatus where
  | exited (code : Nat)
  | killed (signal : Signal)
  deriving DecidableEq, Repr

namespace ExitStatus

/-- The exit code; none for a process that was ended by a signal. -/
def code? : ExitStatus → Option Nat
  | .exited code => some code
  | .killed _ => none

/-- The status that a shell shows. -/
def shown : ExitStatus → Nat
  | .exited code => code
  | .killed s => 128 + s.number

end ExitStatus

end Turnstile
