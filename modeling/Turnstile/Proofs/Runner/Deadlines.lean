import Turnstile.Proofs.Runner.Custody
import Turnstile.Proofs.Tool.Rendering

/-!
# Deadlines that the clock can show

The seconds of a definition are words without sign, and those of the clock are words with one. So a
definition that is accepted can ask for a deadline beyond what the clock shows (`Instant.CanShow`).

**Theorem** (`ofSource_deadlines`): the supervisor of a command has a deadline whatever the time
limit is, while the clock goes on for thirty years; it takes the far future for a limit that is
beyond the clock. The watch over a service has no such way out: it begins exactly if the clock can
show how long the service is waited for (`ToolSource.Waits`), and the invocation breaks off exactly
if it cannot. The process runs nevertheless, and nobody waits for it (`invocation_stranded`).
-/

namespace Turnstile

/-! ### The supervisor -/

namespace Machine

/-- The deadline of a command is that of its limit, else the far future. -/
theorem deadline?_eq {now : Instant} {limit : Timespan} :
    deadline? now limit =
      if now.CanShow limit then some ⟨now.nanos + limit.nanos⟩
      else if now.CanShow farFuture then some ⟨now.nanos + farFuture.nanos⟩
      else none := by
  unfold deadline?
  split_ifs with hlimit hfar
  · rw [Instant.plus?_of_canShow hlimit, Option.some_or]
  · rw [Instant.plus?_of_not_canShow hlimit, Instant.plus?_of_canShow hfar, Option.none_or]
  · rw [Instant.plus?_of_not_canShow hlimit, Instant.plus?_of_not_canShow hfar, Option.none_or]

/-- The supervisor of a command that is started has this deadline. -/
theorem exists_task_of_spawn {r : SpawnRequest} {m m' : Machine} {p : ProcessId}
    (h : spawn r m = (.ok p, m')) :
    ∃ t ∈ m'.tasks, t.leader = p ∧
      ∀ deadline, deadline? ⟨m.world.now⟩ r.timeout = some deadline →
        t.deadline = deadline.nanos := by
  obtain ⟨cwd, hlaunch⟩ := exists_launch_of_spawn h
  cases hlaunch
  refine ⟨_, List.mem_append_right _ (List.mem_singleton.mpr rfl), rfl, ?_⟩
  intro deadline hdeadline
  simp only [hdeadline, Option.getD_some]

end Machine

/-! ### What a definition asks for -/

namespace LooseNumber

theorem ofSeconds_of_span {x : Binary64} {t : Timespan} (h : span x = .ok t) :
    Timespan.ofSeconds x = .ok t := by
  unfold span at h
  split at h
  · cases h
  · cases hseconds : Timespan.ofSeconds x with
    | error e => simp [hseconds] at h
    | ok t' =>
        rw [hseconds] at h
        cases h
        rfl

end LooseNumber

/-- How long a definition asks to wait for its service: the number of seconds that it writes, or, if
it has other criteria only, ten seconds. -/
inductive ToolSource.Waits (s : ToolSource) : Timespan → Prop
  | written {n : LooseNumber} {x : Binary64} {wait : Timespan} : s.startupWait = some n →
      n.value = .ok (some x) → Timespan.ofSeconds x = .ok wait → s.Waits wait
  | default : (∀ n, s.startupWait = some n → n.value = .ok none) →
      ((∃ n x, s.startupPort = some n ∧ n.value = .ok (some x)) ∨
        ∃ keyword, s.startupKeyword = some keyword ∧ keyword.isEmpty = false) →
      s.Waits (.ofWholeSeconds 10)

namespace Tool

/-- A definition without a number to wait for has its service watched for what else it asks. -/
theorem asks_iff {s : ToolSource} {port? : Option Nat}
    (h : LooseNumber.field .startupPort LooseNumber.port s.startupPort = .ok port?) :
    ((∃ n x, s.startupPort = some n ∧ n.value = .ok (some x)) ∨
        ∃ keyword, s.startupKeyword = some keyword ∧ keyword.isEmpty = false) ↔
      (port?.isNone && (s.startupKeyword.filter (!·.isEmpty)).isNone) = false := by
  have hkeyword : (∃ keyword, s.startupKeyword = some keyword ∧ keyword.isEmpty = false) ↔
      (s.startupKeyword.filter (!·.isEmpty)).isNone = false := by
    cases s.startupKeyword with
    | none => simp
    | some keyword => simp [Option.filter]
  rw [hkeyword, Bool.and_eq_false_iff]
  refine or_congr_left ?_
  cases port? with
  | none =>
      have hblank := LooseNumber.field_eq_none_iff.mp h
      constructor
      · rintro ⟨n, x, hn, hx⟩
        cases (hblank n hn).symm.trans hx
      · rintro ⟨⟩
  | some port =>
      obtain ⟨n, x, hn, hx, -⟩ := LooseNumber.field_eq_some_iff.mp h
      exact ⟨fun _ => rfl, fun _ => ⟨n, x, hn, hx⟩⟩

/-- What a definition asks for is what its service is waited for. -/
theorem waits_iff_of_checkReadiness {s : ToolSource} {criteria : Option ReadinessCriteria}
    (h : checkReadiness s = .ok criteria) {wait : Timespan} :
    s.Waits wait ↔ ∃ c, criteria = some c ∧ c.deadline = wait := by
  obtain ⟨wait?, hwait, port?, hport, rfl⟩ := checkReadiness_eq_ok_iff.mp h
  cases wait? with
  | some w =>
      obtain ⟨n, x, hwritten, hvalue, hspan⟩ := LooseNumber.field_eq_some_iff.mp hwait
      have hseconds := LooseNumber.ofSeconds_of_span hspan
      constructor
      · intro hwaits
        cases hwaits with
        | written hn hx hs =>
            cases hwritten.symm.trans hn
            cases hvalue.symm.trans hx
            cases hseconds.symm.trans hs
            exact ⟨_, rfl, rfl⟩
        | default hblank =>
            cases (hblank n hwritten).symm.trans hvalue
      · rintro ⟨c, hc, rfl⟩
        cases hc
        exact .written hwritten hvalue hseconds
  | none =>
      have hblank := LooseNumber.field_eq_none_iff.mp hwait
      have hasks := asks_iff hport
      rw [Option.isNone_none, Bool.true_and]
      constructor
      · intro hwaits
        cases hwaits with
        | written hn hx hs => cases (hblank _ hn).symm.trans hx
        | default _ hother =>
            rw [hasks.mp hother]
            exact ⟨_, rfl, rfl⟩
      · rintro ⟨c, hc, rfl⟩
        split_ifs at hc with hother
        cases hc
        exact .default hblank (hasks.mpr (Bool.not_eq_true _ ▸ hother))

/-- The criteria of a definition are checked. -/
theorem checkReadiness_of_ofSource {d : Defaults} {id : String} {s : ToolSource} {t : Tool}
    (h : ofSource d id s = .ok t) : checkReadiness s = .ok t.readiness :=
  (ofSource_eq_ok_iff.mp h).readiness

end Tool

/-! ### The invocation -/

/-- An invocation whose process is started breaks off exactly if the clock cannot show how long the
service is to be waited for. -/
theorem Operation.launched_eq_brokenOff_iff {inv : Invocation} {p : ProcessId} {now : Instant}
    (hcalled : inv.isCalledOff now = false) :
    launched inv p now = .brokenOff inv p ↔
      ∃ c, inv.tool.readiness = some c ∧ ¬ now.CanShow c.deadline := by
  unfold launched
  cases inv.tool.readiness with
  | none => simp
  | some c =>
      simp only [hcalled, Bool.false_eq_true, if_false, Option.some.injEq, exists_eq_left',
        ← Watch.start?_eq_none_iff]
      cases Watch.start? c now <;> simp

namespace Tool

/-- **What deadlines a definition can ask for.** The supervisor of its command has one at every
instant that leaves the clock thirty years, whatever the time limit is. Its service is watched from
every instant from which the clock can show how long that is to last, and from no other: an
invocation that starts the service then breaks off. -/
theorem ofSource_deadlines {d : Defaults} {id : String} {s : ToolSource} {t : Tool}
    (h : ofSource d id s = .ok t) :
    (∀ now, (Machine.deadline? now t.timeout).isSome = true ↔
        now.CanShow t.timeout ∨ now.CanShow Machine.farFuture) ∧
      (∀ (request : SpawnRequest) (m m' : Machine) p, request.timeout = t.timeout →
        m.spawn request = (.ok p, m') → Instant.CanShow ⟨m.world.now⟩ Machine.farFuture →
        ∃ task ∈ m'.tasks, task.leader = p ∧
          some ⟨task.deadline⟩ = Machine.deadline? ⟨m.world.now⟩ t.timeout) ∧
      (∀ now, (∀ c ∈ t.readiness, (Monitor.start? c now).isSome = true) ↔
        ∀ wait, s.Waits wait → now.CanShow wait) ∧
      ∀ {σ : Type} [Platform σ] (r : Runner σ) (inv : Invocation) p system, inv.tool = t →
        Platform.spawn (r.requestOf inv) r.system = (.ok p, system) →
        inv.isCalledOff (Platform.now system) = false →
        ((r.start inv).2 = .brokenOff inv p ↔
          ∃ wait, s.Waits wait ∧ ¬ (Platform.now system).CanShow wait) := by
  have hwaits (wait : Timespan) : s.Waits wait ↔ ∃ c, t.readiness = some c ∧ c.deadline = wait :=
    waits_iff_of_checkReadiness (checkReadiness_of_ofSource h)
  have hdeadline (now : Instant) : (Machine.deadline? now t.timeout).isSome = true ↔
      now.CanShow t.timeout ∨ now.CanShow Machine.farFuture := by
    rw [Machine.deadline?_eq]
    split_ifs with hlimit hfar <;> simp [*]
  refine ⟨hdeadline, ?_, fun now => ?_, ?_⟩
  · intro request m m' p htimeout hspawn hfar
    obtain ⟨task, htask, hleader, htimed⟩ := Machine.exists_task_of_spawn hspawn
    obtain ⟨deadline, hsome⟩ :=
      Option.isSome_iff_exists.mp ((hdeadline ⟨m.world.now⟩).mpr (.inr hfar))
    refine ⟨task, htask, hleader, ?_⟩
    rw [htimed deadline (htimeout ▸ hsome), hsome]
  · simp only [Monitor.start?_isSome_iff, hwaits]
    constructor
    · rintro hall wait ⟨c, hc, rfl⟩
      exact hall c hc
    · intro hall c hc
      exact hall _ ⟨c, hc, rfl⟩
  · intro σ _ r inv p system htool hspawn hcalled
    subst htool
    rw [Runner.start_ok hspawn]
    simp only [Operation.launched_eq_brokenOff_iff hcalled, hwaits]
    constructor
    · rintro ⟨c, hc, hbeyond⟩
      exact ⟨_, ⟨c, hc, rfl⟩, hbeyond⟩
    · rintro ⟨_, ⟨c, hc, rfl⟩, hbeyond⟩
      exact ⟨c, hc, hbeyond⟩

open Course (foreverTool foreverRunner foreverRun)

/-- The definition of a service that is waited for, and may run, for a number of seconds that fits
in 64 bits but not in the clock. -/
def foreverSource : ToolSource where
  command := "sleep 60"
  workdir := "/"
  timeout := some (.float (.ofDecimal false 1 19))
  startupWait := some (.float (.ofDecimal false 1 19))

/-- An invocation of this service. -/
def foreverInvocation : Invocation where
  id := "invocation-1"
  tool := foreverTool
  command := "sleep 60"
  decision := .allow
  startedAt := ⟨0⟩

/-- The service may run for as long as its definition says, but nobody can wait for it as long. -/
theorem ofSource_deadlines_forever :
    ofSource {} "nap" foreverSource = .ok foreverTool ∧
      (Machine.deadline? ⟨0⟩ foreverTool.timeout).isSome = true ∧
      ¬ (∀ c ∈ foreverTool.readiness, (Monitor.start? c ⟨0⟩).isSome = true) ∧
      (foreverRunner.start foreverInvocation).2 = .brokenOff foreverInvocation 100 := by
  have hchecked : ofSource {} "nap" foreverSource = .ok foreverTool := rfl
  have hwaits : foreverSource.Waits (.ofWholeSeconds 10000000000000000000) :=
    .written rfl rfl rfl
  obtain ⟨hsupervised, -, hwatched, hstranded⟩ := ofSource_deadlines hchecked
  refine ⟨hchecked, (hsupervised ⟨0⟩).mpr (.inr (by decide)), fun hall => ?_, ?_⟩
  · have hshown := (hwatched ⟨0⟩).mp hall _ hwaits
    exact absurd hshown (by decide)
  · exact (hstranded foreverRunner foreverInvocation 100 _ rfl rfl rfl).mpr
      ⟨_, hwaits, by decide⟩

/-- **A wait that the clock cannot show breaks the invocation off**, at whatever instant it is made:
the process runs, and nobody waits for it. -/
theorem invocation_stranded :
    ofSource {} "nap" foreverSource = .ok foreverTool ∧
      (∀ now, ∃ c ∈ foreverTool.readiness, Monitor.start? c now = none) ∧
      ((Course.start foreverRunner).play foreverRun).Runs 100 ∧
      ∃ job op, job ∈ ((Course.start foreverRunner).play foreverRun).jobs ∧
        job.stage = .going op ∧ (∀ a, op ≠ .finished a) ∧
        ∀ r : Runner (Recorded Machine), r.step op = none := by
  have hbeyond (now : Instant) :
      ¬ now.CanShow (.ofWholeSeconds 10000000000000000000) := by
    simp only [Instant.CanShow, Timespan.ofWholeSeconds, Timespan.nanosPerSecond, Word.half]
    omega
  obtain ⟨job, hjob, inv, hbroken⟩ : ∃ job ∈ ((Course.start foreverRunner).play foreverRun).jobs,
      ∃ inv, job.stage = .going (.brokenOff inv 100) :=
    ⟨_, List.mem_singleton.mpr rfl, _, rfl⟩
  refine ⟨rfl, fun now => ⟨_, rfl, Monitor.start?_eq_none_iff.mpr (hbeyond now)⟩, by decide +kernel,
    job, _, hjob, hbroken, ?_, fun r => rfl⟩
  intro a ha
  cases ha

end Tool

end Turnstile
