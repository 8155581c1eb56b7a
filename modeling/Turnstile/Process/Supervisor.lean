/-!
# Supervision of a process group

A command runs as the leader of a group of processes. Its supervisor waits for the leader to end and
then for the rest of the group, unless a deadline passes or a stop is asked for first; then it
closes the capture and ends the group. At last it lets the readers of the output finish, and
publishes one outcome.

* `Supervisor.step` is the reaction to one event; an event that does not fit the state changes
  nothing, so a published outcome stays.
* `Supervisor.step_finished` and `Supervisor.outcome?_mono` say so.
-/

namespace Turnstile

/-- How a supervised process ended. -/
inductive Outcome where
  /-- By itself; without exit code it was killed by a signal. -/
  | exited (exitCode : Option Int)
  | timedOut
  | cancelled
  deriving DecidableEq, Repr

/-- Why a process is ended before its time. -/
inductive Cutoff where
  | deadline
  | stop
  deriving DecidableEq, Repr

def Cutoff.outcome : Cutoff → Outcome
  | .deadline => .timedOut
  | .stop => .cancelled

/-- Where a supervisor stands. -/
inductive Supervisor where
  /-- The leader runs. -/
  | watching
  /-- The leader ended; others of its group may still run. -/
  | outliving (exitCode : Option Int)
  /-- The group was asked to end. -/
  | terminating (cutoff : Cutoff)
  /-- The group is gone; the readers take what is left in the pipes. -/
  | draining (outcome : Outcome)
  | finished (outcome : Outcome)
  deriving DecidableEq, Repr

namespace Supervisor

/-- What a supervisor reacts to. -/
inductive Event where
  | leaderExited (exitCode : Option Int)
  /-- No process of the group is left. -/
  | groupGone
  | deadlinePassed
  | stopRequested
  /-- The readers are done, or have been given up. -/
  | drained
  deriving DecidableEq, Repr

/-- What a supervisor does. -/
inductive Effect where
  /-- Takes no more output. -/
  | closeCapture
  /-- Asks the group to end. -/
  | terminateGroup
  deriving DecidableEq, Repr

/-- What a supervisor does when a process is to be ended before its time. -/
def cut (c : Cutoff) : Supervisor × List Effect :=
  (.terminating c, [.closeCapture, .terminateGroup])

/-- The reaction to an event. -/
def step : Supervisor → Event → Supervisor × List Effect
  | .watching, .leaderExited code => (.outliving code, [])
  | .watching, .deadlinePassed | .outliving _, .deadlinePassed => cut .deadline
  | .watching, .stopRequested | .outliving _, .stopRequested => cut .stop
  | .outliving code, .groupGone => (.draining (.exited code), [])
  | .terminating c, .groupGone => (.draining c.outcome, [])
  | .draining o, .drained => (.finished o, [])
  | s, _ => (s, [])

/-- The published outcome. -/
def outcome? : Supervisor → Option Outcome
  | .finished o => some o
  | _ => none

/-- Nothing happens any more once an outcome is published. -/
@[simp] theorem step_finished (o : Outcome) (e : Event) : step (.finished o) e = (.finished o, []) := by
  cases e <;> rfl

/-- A published outcome stays. -/
theorem outcome?_mono {s : Supervisor} {o : Outcome} (h : s.outcome? = some o) (e : Event) :
    (s.step e).1.outcome? = some o := by
  cases s <;> simp_all [outcome?]

end Supervisor

end Turnstile
