import Turnstile.Invocation.Status
import Turnstile.Process.Platform

/-!
# Running a command to its end

* `Platform.waitUntil` lets time pass until something holds.
* `Platform.awaitOutcome` waits for the end of a process.
* `Platform.run` starts a command, waits for its end and collects its output.

No wait goes on beyond `Platform.horizon`, the last instant that the clock shows.
-/

namespace Turnstile.Platform

variable {σ : Type} [Platform σ]

/-- The last instant that the clock shows. -/
def horizon : Instant := ⟨Instant.maxSeconds * Timespan.nanosPerSecond⟩

/-- Lets time pass until something holds, which is looked at after each interval and whenever a
process ends. -/
def waitUntil (interval : Timespan) (done : σ → Bool) (s : σ) : σ :=
  if done s then s
  else
    let next := advance ⟨min horizon.nanos ((now s).nanos + interval.nanos)⟩ s
    if _h : horizon.nanos - (now next).nanos < horizon.nanos - (now s).nanos then
      waitUntil interval done next
    else next
termination_by horizon.nanos - (now s).nanos

/-- Lets a span of time pass. -/
def pause (t : Timespan) (s : σ) : σ :=
  let target := (now s).nanos + t.nanos
  waitUntil t (fun s => target ≤ (now s).nanos) s

/-- Waits for the end of a process. -/
def awaitOutcome (p : ProcessId) (s : σ) : Outcome × σ :=
  let s := waitUntil ⟨horizon.nanos⟩ (fun s => !isRunning s p) s
  ((outcome? s p).getD .cancelled, s)

/-- Starts a command and waits for its end: its exit code and its output. -/
def run (r : SpawnRequest) (s : σ) : Except ToolError (Option Int × Bytes) × σ :=
  match spawn r s with
  | (.error e, s) => (.error (.spawn e.message), s)
  | (.ok p, s) =>
    let (outcome, s) := awaitOutcome p s
    let output := (capture s p).bytes
    match outcome with
    | .exited code => (.ok (code, output), s)
    | .timedOut => (.error (.timeout r.timeout output), s)
    | .cancelled => (.error (.cancelled output), s)

end Turnstile.Platform
