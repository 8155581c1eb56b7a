import Turnstile.Proofs.Runner.Recorded
import Turnstile.Proofs.Service.Waiting

/-!
# The watch of a runner over a service

A runner looks at a service that is starting in steps of its own, and between two looks anything can
happen to it. `Runner.Watches` is a number of looks that all went on watching.

**Theorem** (`look_of_watches`): the next look does what the wait over all that was seen says
(`Wait.run`). What is proved of waits thus holds of the services of a runner.
-/

namespace Turnstile

/-- The wait that a watch stands for. -/
def Watch.wait : Watch → Wait
  | .delay deadline => .sleeping deadline
  | .poll m _ => .polling m

/-- A watch that starts is the wait that begins. -/
theorem Watch.wait_start {c : ReadinessCriteria} {now : Instant} {w : Watch}
    (h : Watch.start? c now = some w) : w.wait = Wait.start c now := by
  unfold Watch.start? at h
  obtain ⟨m, hm, rfl⟩ := Option.map_eq_some_iff.mp h
  unfold Wait.start
  rw [hm]
  cases c.isFixedDelay with
  | true => rfl
  | false => rfl

namespace Runner

variable {σ : Type} [Platform σ]

/-- What a look at a process sees. -/
def sighting (r : Runner σ) (p : ProcessId) (port : Option Nat) : Sighting where
  output := Platform.capture r.system p
  portOpen := port.any (Platform.isPortOpen r.system)
  isRunning := Platform.isRunning r.system p
  now := Platform.now r.system

/-- What a runner does as a wait says; none while it sleeps. -/
def follow (r : Runner σ) (inv : Invocation) (p : ProcessId) (startedAt : Instant) :
    Wait → Option (Runner σ × Operation)
  | .resolved .ready => some (r.enter inv p startedAt .ready)
  | .resolved .timedOut => some (r.enter inv p startedAt .timedOut)
  | .resolved _ => some (r, .invoking inv (.failing p))
  | .polling m =>
    let next : Instant := ⟨(Platform.now r.system).nanos + r.pollInterval.nanos⟩
    some (r, .invoking inv (.watching p startedAt (.poll m next)))
  | .sleeping _ | .unbegun | .brokenOff => none

variable {r : Runner σ} {inv : Invocation} {p : ProcessId} {startedAt : Instant}

/-- A look that is due is a poll. -/
theorem look_poll {m : Monitor} {next : Instant}
    (hcancel : inv.isCalledOff (Platform.now r.system) = false)
    (hdue : next.nanos ≤ (Platform.now r.system).nanos) :
    r.look inv p startedAt (.poll m next) =
      r.follow inv p startedAt ((Wait.polling m).poll (r.sighting p m.port)) := by
  unfold look Wait.poll sighting
  simp only [hcancel, Bool.false_eq_true, if_false, if_neg (Nat.not_lt.mpr hdue)]
  generalize m.poll _ = polled
  rcases polled with ⟨m', _ | verdict⟩
  · rfl
  · cases verdict <;> rfl

/-- A look at a service of which only time counts is a poll, too. -/
theorem look_delay {deadline : Instant}
    (hcancel : inv.isCalledOff (Platform.now r.system) = false)
    (port : Option Nat) :
    r.look inv p startedAt (.delay deadline) =
      r.follow inv p startedAt ((Wait.sleeping deadline).poll (r.sighting p port)) := by
  unfold look Wait.poll
  simp only [hcancel, sighting]
  by_cases hrunning : Platform.isRunning r.system p = true
  · by_cases hdue : deadline.nanos ≤ (Platform.now r.system).nanos
    · simp [hrunning, hdue, follow]
    · simp [hrunning, hdue, follow]
  · simp [hrunning, follow]

/-- A service that is put into the table is not watched any more. -/
theorem enter_ne_watching {readiness : Readiness} {s : Runner σ} {w : Watch} :
    r.enter inv p startedAt readiness ≠ (s, .invoking inv (.watching p startedAt w)) := by
  cases hlookup : r.services.lookup inv.tool.id with
  | none =>
      rw [enter_new hlookup]
      intro h
      cases congrArg Prod.snd h
  | some e =>
      rw [enter_replacing hlookup]
      intro h
      cases congrArg Prod.snd h

/-- A look that goes on watching is due, and is a poll without a verdict. -/
theorem poll_of_look {m : Monitor} {next : Instant} {w : Watch}
    (h : r.look inv p startedAt (.poll m next) =
      some (r, .invoking inv (.watching p startedAt w))) :
    ∃ m' next', w = .poll m' next' ∧ m.poll (r.sighting p m.port) = (m', none) := by
  by_cases hcancel : inv.isCalledOff (Platform.now r.system) = true
  · simp [look, hcancel] at h
  · by_cases hdue : next.nanos ≤ (Platform.now r.system).nanos
    · rw [look_poll (by simpa using hcancel) hdue] at h
      unfold Wait.poll at h
      rcases hpoll : m.poll (r.sighting p m.port) with ⟨m', _ | verdict⟩
      · simp only [hpoll, follow, Option.some.injEq, Prod.mk.injEq, true_and,
          Operation.invoking.injEq, Phase.watching.injEq] at h
        exact ⟨m', _, h.symm, rfl⟩
      · simp only [hpoll] at h
        cases verdict with
        | ready | timedOut => exact (enter_ne_watching (Option.some.inj h)).elim
        | spawned | waiting | exited => simp [follow] at h
    · have hearly : (Platform.now r.system).nanos < next.nanos := by omega
      simp [look, hcancel, hearly] at h

variable (σ) in
/-- Looks at a service that is starting, each at a runner to which anything may have happened since
the last one. All of them went on watching. -/
inductive Watches (inv : Invocation) (p : ProcessId) (startedAt : Instant) (c : ReadinessCriteria)
    (now : Instant) : List Sighting → Watch → Prop
  | start {w : Watch} : Watch.start? c now = some w → Watches inv p startedAt c now [] w
  | look {ss : List Sighting} {m : Monitor} {next : Instant} {w : Watch} {r : Runner σ} :
      Watches inv p startedAt c now ss (.poll m next) →
      r.look inv p startedAt (.poll m next) = some (r, .invoking inv (.watching p startedAt w)) →
      Watches inv p startedAt c now (ss ++ [r.sighting p c.port]) w

variable {c : ReadinessCriteria} {now : Instant} {ss : List Sighting} {w : Watch}

/-- A watch is the wait over all that was seen, and looks at the port of the criteria. -/
theorem Watches.wait_eq (h : Watches σ inv p startedAt c now ss w) :
    w.wait = Wait.run c now ss ∧ ∀ m next, w = .poll m next → m.port = c.port := by
  induction h with
  | start hstart =>
      refine ⟨Watch.wait_start hstart, fun m next hw => ?_⟩
      unfold Watch.start? at hstart
      obtain ⟨m₀, hm, hwatch⟩ := Option.map_eq_some_iff.mp hstart
      rw [hw] at hwatch
      split_ifs at hwatch
      cases hwatch
      exact (Monitor.start?_tracks hm).port
  | @look ss m next w r hbefore hlook ih =>
      obtain ⟨hwait, hport⟩ := ih
      have hsame := hport m next rfl
      obtain ⟨m', next', rfl, hpoll⟩ := poll_of_look hlook
      rw [hsame] at hpoll
      constructor
      · unfold Wait.run at hwait ⊢
        rw [List.foldl_append, ← hwait]
        simp only [Watch.wait, List.foldl_cons, List.foldl_nil, Wait.poll, hpoll]
      · rintro m'' next'' ⟨⟩
        have hkept : (m.poll (r.sighting p c.port)).1.port = m.port := Monitor.poll_port m _
        rw [hpoll] at hkept
        exact hkept.trans hsame

/-- **A look that is due does what the wait over all that was seen says.** -/
theorem look_of_watches (h : Watches σ inv p startedAt c now ss w)
    (hcancel : inv.isCalledOff (Platform.now r.system) = false)
    (hdue : ∀ m next, w = .poll m next → next.nanos ≤ (Platform.now r.system).nanos) :
    r.look inv p startedAt w =
      r.follow inv p startedAt (Wait.run c now (ss ++ [r.sighting p c.port])) := by
  obtain ⟨hwait, hport⟩ := h.wait_eq
  have hrun : Wait.run c now (ss ++ [r.sighting p c.port]) =
      w.wait.poll (r.sighting p c.port) := by
    rw [hwait]
    exact List.foldl_append
  rw [hrun]
  cases w with
  | delay deadline => exact look_delay hcancel c.port
  | poll m next =>
      rw [look_poll hcancel (hdue m next rfl), hport m next rfl]
      rfl

end Runner

end Turnstile
