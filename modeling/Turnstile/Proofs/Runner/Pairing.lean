import Turnstile.Process.Machine
import Turnstile.Proofs.Runner.Course

/-!
# What is heard of an invocation

An invocation that the gate lets pass is reported as started, and the answer of an invocation as
completed. The two are the *marks* among the events (`Event.isMark`); the rest is output. What a
listener hears in a course is what it takes on the way and what is left for it at the end
(`Course.heard`).

`Runner.Opens` lists what the beginning of a call marks, and `Runner.Proceeds` what a step of an
invocation marks. The runner numbers invocations, so their marks do not mix (`Course.Paired`).

**Theorem** (`Course.play_pairs`): of each invocation that gave a result exactly one completion is
heard, with that result, and an invocation that was reported as started is heard as a pair, a start
and a completion, exactly if its command could be started. After a failure to start there is no
completion (`Course.heard_of_lost`).
-/

namespace Turnstile

variable {σ : Type}

/-! ### Marks -/

/-- True of an event that marks the beginning or the end of an invocation. -/
def Event.isMark : Event → Bool
  | .started .. | .completed .. => true
  | .output .. => false

/-- True of a mark of the invocation of an id. -/
def Event.isMarkOf (id : String) (e : Event) : Bool := e.isMark && e.invocation == id

/-- True of the completion of the invocation of an id. -/
def Event.isCompletionOf (id : String) : Event → Bool
  | .completed _ i _ _ => i == id
  | .started .. | .output .. => false

/-- The event that reports a result. -/
def InvocationResult.completion (result : InvocationResult) : Event :=
  .completed result.toolId result.invocationId result.status result.stats

/-- The id of the invocation of a number. -/
def invocationId (n : Nat) : String := "invocation-" ++ toString n

/-- Every number has an id of its own. -/
theorem invocationId_inj {m n : Nat} (h : invocationId m = invocationId n) : m = n := by
  have hdigits : toString m = toString n := (String.append_right_inj "invocation-").mp h
  rw [Nat.toString_eq_ofList_toDigits, Nat.toString_eq_ofList_toDigits, String.ofList_inj]
    at hdigits
  rw [← Nat.ofDigitChars_ten_toDigits (n := m), hdigits, Nat.ofDigitChars_ten_toDigits]

/-- The marks of an invocation are the marks that have its id. -/
theorem filter_isMarkOf (id : String) (events : List Event) :
    events.filter (Event.isMarkOf id) =
      (events.filter Event.isMark).filter (·.invocation == id) := by
  rw [List.filter_filter]
  exact List.filter_congr fun e _ => Bool.and_comm _ _

/-- The completions are among the marks. -/
theorem filter_isCompletionOf (id : String) (events : List Event) :
    events.filter (Event.isCompletionOf id) =
      (events.filter (Event.isMarkOf id)).filter (Event.isCompletionOf id) := by
  rw [List.filter_filter]
  refine List.filter_congr fun e _ => ?_
  cases e <;> simp [Event.isCompletionOf, Event.isMarkOf, Event.isMark, Event.invocation]

/-! ### What a runner marks -/

namespace Runner

/-- What a runner marked between two states, in order. -/
structure Notes (r : Runner σ) (marks : List Event) (r' : Runner σ) : Prop where
  events : ∃ events, r'.events = r.events.map (events ++ ·) ∧
    events.reverse.filter Event.isMark = marks
  count : r'.count = r.count

/-- Nothing is noted where events and count stay the same. -/
theorem Notes.quiet {r r' : Runner σ} (hevents : r'.events = r.events)
    (hcount : r'.count = r.count) : Notes r [] r' where
  events := by
    refine ⟨[], ?_, rfl⟩
    rw [hevents]
    exact Option.map_id'.symm
  count := hcount

/-- What two steps note is noted one after the other. -/
theorem Notes.trans {r₁ r₂ r₃ : Runner σ} {marks₁ marks₂ : List Event} (h₁ : Notes r₁ marks₁ r₂)
    (h₂ : Notes r₂ marks₂ r₃) : Notes r₁ (marks₁ ++ marks₂) r₃ where
  events := by
    obtain ⟨events₁, hevents₁, hmarks₁⟩ := h₁.events
    obtain ⟨events₂, hevents₂, hmarks₂⟩ := h₂.events
    refine ⟨events₂ ++ events₁, ?_, ?_⟩
    · rw [hevents₂, hevents₁, Option.map_map]
      refine Option.map_congr fun events _ => ?_
      exact (List.append_assoc events₂ events₁ events).symm
    · rw [List.reverse_append, List.filter_append, hmarks₁, hmarks₂]
  count := h₂.count.trans h₁.count

/-- A mark that is reported is noted. -/
theorem notes_report (r : Runner σ) {e : Event} (h : e.isMark = true) :
    Notes r [e] (r.report e) :=
  ⟨⟨[e], rfl, by simp [h]⟩, rfl⟩

variable [Platform σ] (r : Runner σ) (inv : Invocation)

/-- Output is no mark. -/
theorem notes_reportOutput : Notes r [] r.reportOutput := by
  obtain ⟨outputs, houtput, hreport⟩ := reportOutput_eq_outputs r
  rw [hreport]
  refine ⟨⟨outputs, rfl, ?_⟩, rfl⟩
  rw [List.filter_eq_nil_iff]
  intro e he hmark
  cases e with
  | output => cases hmark
  | started | completed => exact houtput _ (List.mem_reverse.mp he)

/-- The trail has no marks. -/
theorem notes_log (result : AuditResult) : Notes r [] (r.log inv result) := by
  obtain haudit | ⟨sink, haudit⟩ := Option.eq_none_or_eq_some r.audit
  · rw [log_none r haudit]
    exact .quiet rfl rfl
  · rw [log_some r haudit]
    exact .quiet rfl rfl

/-- An answer is reported as what it is. -/
theorem notes_answer (status : Status) (raw : Option Bytes) :
    ∃ r' result, r.answer inv status raw = (r', .finished (.invocation (.ok result))) ∧
      Notes r [result.completion] r' ∧ result.invocationId = inv.id ∧
      result.toolId = inv.tool.id := by
  refine ⟨_, _, rfl, ?_, rfl, rfl⟩
  have hlogged := (notes_reportOutput r).trans (notes_log r.reportOutput inv (.ofStatus status))
  exact hlogged.trans (notes_report _ rfl)

/-- A service is taken without a mark. -/
theorem notes_takeService (id : String) : Notes r [] (r.takeService id).2 := by
  unfold takeService ServiceTable.take
  cases r.services.lookup id with
  | none => exact .quiet rfl rfl
  | some e => exact .quiet rfl rfl

/-- What the gate lets pass is reported as started. -/
theorem notes_letPass :
    Notes r [.started inv.tool.id inv.id inv.command] (r.letPass inv).1 ∧
      ∃ phase, (r.letPass inv).2 = .invoking inv phase := by
  have hstarted : Notes r [.started inv.tool.id inv.id inv.command]
      (r.reportOutput.report (.started inv.tool.id inv.id inv.command)) :=
    (notes_reportOutput r).trans (notes_report _ rfl)
  unfold letPass
  generalize r.reportOutput.report (.started inv.tool.id inv.id inv.command) = reported at hstarted
  by_cases hservice : inv.tool.isService
  · simp only [if_pos hservice]
    have htaken := hstarted.trans (notes_takeService reported inv.tool.id)
    rcases htake : reported.takeService inv.tool.id with ⟨entry, taken⟩
    rw [htake] at htaken
    cases entry with
    | none => exact ⟨htaken, _, rfl⟩
    | some e => exact ⟨htaken, _, rfl⟩
  · simp only [if_neg hservice]
    exact ⟨hstarted, _, rfl⟩

/-! ### Stops -/

/-- The next service is stopped without a mark. -/
theorem notes_stopNext (done : List ServiceStatus) (rest : List ServiceEntry) :
    Notes r [] (r.stopNext done rest).1 ∧ (r.stopNext done rest).2.IsStop := by
  cases rest with
  | nil => exact ⟨.quiet rfl rfl, trivial⟩
  | cons e rest => exact ⟨.quiet rfl rfl, trivial⟩

/-- A stop begins without a mark. -/
theorem notes_beginStop (id : String) :
    Notes r [] (r.beginStop id).1 ∧ (r.beginStop id).2.IsStop := by
  have hnotes := notes_takeService r id
  rcases htake : r.takeService id with ⟨entry, taken⟩
  rw [htake] at hnotes
  unfold beginStop
  cases entry with
  | none =>
      simp only [htake]
      exact ⟨hnotes, trivial⟩
  | some e =>
      simp only [htake]
      exact ⟨hnotes, trivial⟩

/-- A step of an operation that stops services marks nothing. -/
theorem notes_stop {op : Operation} (hstop : op.IsStop) {s : Runner σ × Operation}
    (h : r.step op = some s) : Notes r [] s.1 ∧ s.2.IsStop := by
  cases op with
  | invoking _ _ | brokenOff _ _ => cases hstop
  | finished a => cases h
  | stopping e =>
      obtain ⟨-, rfl⟩ : Platform.isRunning r.system e.process = false ∧ _ = s := by
        simpa [step] using h
      exact ⟨.quiet rfl rfl, trivial⟩
  | stoppingAll e rest done =>
      obtain ⟨-, rfl⟩ : Platform.isRunning r.system e.process = false ∧ _ = s := by
        simpa [step] using h
      exact notes_stopNext r _ rest

/-! ### What a beginning marks -/

/-- What the beginning of a call marks, and how far the call gets with it. -/
inductive Opens (r : Runner σ) : Runner σ × Stage → List Event → Prop
  /-- No invocation begins, or its command cannot be rendered. -/
  | aside {r' : Runner σ} {stage : Stage} : Notes r [] r' →
      (∀ op, stage = .going op → op.IsStop ∨ ∃ e, op = .finished (.invocation (.error e))) →
      Opens r (r', stage) []
  | refused {r' : Runner σ} {result : InvocationResult} :
      Notes { r with count := r.count + 1 } [result.completion] r' →
      result.invocationId = invocationId (r.count + 1) →
      Opens r (r', .going (.finished (.invocation (.ok result)))) [result.completion]
  | passed {r' : Runner σ} {inv : Invocation} {phase : Phase} :
      Notes { r with count := r.count + 1 } [.started inv.tool.id inv.id inv.command] r' →
      inv.id = invocationId (r.count + 1) →
      Opens r (r', .going (.invoking inv phase)) [.started inv.tool.id inv.id inv.command]

variable {r inv}

/-- The gate opens a call with one mark: that it has started, or its completion. -/
theorem obeyGate_opens (hid : inv.id = invocationId (r.count + 1)) (isConfirmed : Bool) :
    ∃ marks, Opens r
      (({ r with count := r.count + 1 }.obeyGate inv isConfirmed).1,
        .going ({ r with count := r.count + 1 }.obeyGate inv isConfirmed).2) marks := by
  have hpassed : ∃ marks, Opens r (({ r with count := r.count + 1 }.letPass inv).1,
      .going ({ r with count := r.count + 1 }.letPass inv).2) marks := by
    obtain ⟨hnotes, phase, hphase⟩ := notes_letPass { r with count := r.count + 1 } inv
    rw [hphase]
    exact ⟨_, .passed hnotes hid⟩
  have hrefused (status : Status) :
      ∃ marks, Opens r (({ r with count := r.count + 1 }.answer inv status none).1,
        .going ({ r with count := r.count + 1 }.answer inv status none).2) marks := by
    obtain ⟨r', result, hanswer, hnotes, hresult, -⟩ :=
      notes_answer { r with count := r.count + 1 } inv status none
    rw [hanswer]
    exact ⟨_, .refused hnotes (hresult.trans hid)⟩
  unfold obeyGate
  cases inv.decision with
  | deny pattern => exact hrefused (.denied pattern)
  | allow => exact hpassed
  | requireConfirmation pattern =>
      cases isConfirmed with
      | true => exact hpassed
      | false => exact hrefused (.confirmationRequired pattern)

/-- **The beginning of a call marks an invocation that is turned away as completed and one that is
let pass as started.** -/
theorem begin_opens (r : Runner σ) (call : RunnerCall) :
    ∃ marks, Opens r (r.begin call) marks := by
  have hasks (stage : Stage) (hstage : ∀ op, stage ≠ .going op) : Opens r (r, stage) [] :=
    .aside (.quiet rfl rfl) fun op hop => (hstage op hop).elim
  cases call with
  | check id bindings => exact ⟨_, hasks _ fun op hop => by cases hop⟩
  | serviceStatus id => exact ⟨_, hasks _ fun op hop => by cases hop⟩
  | run e =>
      have hfailed (e : ToolError) :
          Opens r (r, .going (.finished (.invocation (.error e)))) [] := by
        refine .aside (.quiet rfl rfl) fun op hop => .inr ⟨e, ?_⟩
        exact (Stage.going.inj hop).symm
      unfold Runner.begin beginOrder
      cases hfind : r.registry.find? e.order.id with
      | none =>
          simp only [beginInvocation_unknown hfind]
          exact ⟨_, hfailed _⟩
      | some tool =>
          cases hrender : tool.render e.order.bindings with
          | error f =>
              simp only [beginInvocation_invalid hfind hrender]
              exact ⟨_, hfailed _⟩
          | ok command =>
              simp only [beginInvocation_rendered hfind hrender]
              exact obeyGate_opens rfl e.order.isConfirmed
  | stopService id =>
      obtain ⟨hnotes, hstop⟩ := notes_beginStop r id
      exact ⟨_, .aside hnotes fun op hop => .inl (Stage.going.inj hop ▸ hstop)⟩
  | shutdown =>
      have hcleared : Notes r [] { r with services := [] } := .quiet rfl rfl
      obtain ⟨hnotes, hstop⟩ := notes_stopNext { r with services := [] } [] (r.services.map (·.2))
      refine ⟨_, .aside (hcleared.trans hnotes) fun op hop => .inl ?_⟩
      rw [← Stage.going.inj hop]
      exact hstop

/-! ### What a step marks -/

/-- What a step of an invocation marks, and how it goes on. -/
inductive Proceeds (r : Runner σ) (inv : Invocation) : Runner σ × Operation → List Event → Prop
  | on {r' : Runner σ} {phase : Phase} : Notes r [] r' → Proceeds r inv (r', .invoking inv phase) []
  | brokenOff {r' : Runner σ} {p : ProcessId} : Notes r [] r' →
      Proceeds r inv (r', .brokenOff inv p) []
  | answered {r' : Runner σ} {result : InvocationResult} : Notes r [result.completion] r' →
      result.invocationId = inv.id → result.toolId = inv.tool.id →
      Proceeds r inv (r', .finished (.invocation (.ok result))) [result.completion]
  /-- The command could not be started: nothing is reported. -/
  | failed {r' : Runner σ} {message : String} : Notes r [] r' →
      Proceeds r inv (r', .finished (.invocation (.error (.spawn message)))) []

variable (r inv)

/-- An answer reports the completion. -/
theorem answer_proceeds (status : Status) (raw : Option Bytes) :
    ∃ marks, Proceeds r inv (r.answer inv status raw) marks := by
  obtain ⟨r', result, hanswer, hnotes, hid, htool⟩ := notes_answer r inv status raw
  rw [hanswer]
  exact ⟨_, .answered hnotes hid htool⟩

/-- A start reports no mark, whether it goes on, breaks off or fails. -/
theorem start_proceeds : ∃ marks, Proceeds r inv (r.start inv) marks := by
  rcases hspawn : Platform.spawn (r.requestOf inv) r.system with ⟨result, system⟩
  have hspawned : Notes r [] { r with system } := .quiet rfl rfl
  cases result with
  | error e =>
      rw [start_error hspawn]
      exact ⟨_, .failed (hspawned.trans (notes_log { r with system } inv _))⟩
  | ok p =>
      rw [start_ok hspawn]
      obtain ⟨phase, hphase, -⟩ | ⟨hbroken, -⟩ :=
        Operation.launched_cases inv p (Platform.now system)
      · rw [hphase]
        exact ⟨_, .on (.quiet rfl rfl)⟩
      · rw [hbroken]
        exact ⟨_, .brokenOff (.quiet rfl rfl)⟩

/-- A service that is entered is answered, or has the one before it to stop. -/
theorem enter_proceeds (p : ProcessId) (startedAt : Instant) (readiness : Readiness) :
    ∃ marks, Proceeds r inv (r.enter inv p startedAt readiness) marks := by
  cases hlookup : r.services.lookup inv.tool.id with
  | none =>
      have hentered : Notes r [] (r.entered inv p startedAt readiness) := .quiet rfl rfl
      obtain ⟨r', result, hanswer, hnotes, hid, htool⟩ :=
        notes_answer (r.entered inv p startedAt readiness) inv (.started readiness)
          (some (Platform.capture r.system p).bytes)
      rw [enter_new hlookup, hanswer]
      exact ⟨_, .answered (hentered.trans hnotes) hid htool⟩
  | some old =>
      rw [enter_replacing hlookup]
      exact ⟨_, .on (.quiet rfl rfl)⟩

variable {r inv}

/-- **A step of an invocation marks its answer, and nothing else.** -/
theorem step_proceeds {phase : Phase} {s : Runner σ × Operation}
    (h : r.step (.invoking inv phase) = some s) : ∃ marks, Proceeds r inv s marks := by
  cases step_moves h with
  | on phase => exact ⟨_, .on (.quiet rfl rfl)⟩
  | started => exact start_proceeds r inv
  | entered p startedAt readiness => exact enter_proceeds r inv p startedAt readiness
  | answered raw => exact answer_proceeds r inv _ raw

end Runner

/-! ### What is told of a call -/

/-- The number that the runner gave to the invocation of a call, if it gave it one. -/
def Job.number? (job : Job σ) : Option Nat :=
  job.turns.getLast?.bind fun t =>
    if t.before.count < t.after.count then some t.after.count else none

/-- What the marks of an invocation tell of it, wherever it stands. -/
inductive Stage.Tells (id : String) : Stage → List Event → Prop
  | refused {result : InvocationResult} : result.invocationId = id →
      Tells id (.going (.finished (.invocation (.ok result)))) [result.completion]
  | going {inv : Invocation} {phase : Phase} : inv.id = id →
      Tells id (.going (.invoking inv phase)) [.started inv.tool.id inv.id inv.command]
  | brokenOff {inv : Invocation} {p : ProcessId} : inv.id = id →
      Tells id (.going (.brokenOff inv p)) [.started inv.tool.id inv.id inv.command]
  | answered {result : InvocationResult} {command : String} : result.invocationId = id →
      Tells id (.going (.finished (.invocation (.ok result))))
        [.started result.toolId result.invocationId command, result.completion]
  | unstarted {tool command message : String} :
      Tells id (.going (.finished (.invocation (.error (.spawn message)))))
        [.started tool id command]

/-- A call that began no invocation, or one whose marks tell where it stands. A start that was
reported in one of its turns is among them. -/
inductive Job.Told (marks : List Event) (job : Job σ) : Prop
  | aside : job.number? = none →
      (∀ op, job.stage = .going op → op.IsStop ∨ ∃ e, op = .finished (.invocation (.error e))) →
      (∀ t ∈ job.turns, ∀ tool id command, .started tool id command ∉ t.events) → Told marks job
  | numbered (n : Nat) : job.number? = some n →
      job.stage.Tells (invocationId n) (marks.filter (·.invocation == invocationId n)) →
      (∀ t ∈ job.turns, ∀ tool id command, .started tool id command ∈ t.events →
        .started tool id command ∈ marks.filter (·.invocation == invocationId n)) → Told marks job

/-- Marks of other invocations change nothing. -/
theorem Job.Told.append {marks : List Event} {job : Job σ} (h : job.Told marks)
    {new : List Event}
    (hother : ∀ n, job.number? = some n → ∀ e ∈ new, e.invocation ≠ invocationId n) :
    job.Told (marks ++ new) := by
  cases h with
  | aside hnumber hstage hturns => exact .aside hnumber hstage hturns
  | numbered n hnumber htells hturns =>
      have hnone : new.filter (·.invocation == invocationId n) = [] :=
        List.filter_eq_nil_iff.mpr fun e he => by simpa using hother n hnumber e he
      have hsame : (marks ++ new).filter (·.invocation == invocationId n) =
          marks.filter (·.invocation == invocationId n) := by
        rw [List.filter_append, hnone, List.append_nil]
      refine .numbered n hnumber ?_ ?_
      · rwa [hsame]
      · rwa [hsame]

/-- A turn gives no new number. -/
theorem Job.number?_turn {r r' : Runner (Recorded σ)} (hcount : r'.count = r.count) (job : Job σ)
    (stage : Stage) :
    Job.number? { job with stage, turns := ⟨r, r'⟩ :: job.turns } = job.number? := by
  unfold Job.number?
  cases hlast : job.turns.getLast? with
  | none =>
      rw [List.getLast?_eq_none_iff.mp hlast]
      simp [hcount]
  | some t => rw [List.getLast?_cons, hlast, Option.getD_some]

/-- The events that are left for the listener, in order. -/
def Runner.left (r : Runner σ) : List Event := (r.events.getD []).reverse

section Listening

variable {before after : Runner (Recorded σ)} {marks : List Event}

/-- Who listens goes on listening. -/
theorem Runner.Notes.isSome_events (h : before.Notes marks after)
    (hlistens : before.events.isSome) : after.events.isSome := by
  obtain ⟨events, hevents, -⟩ := h.events
  rw [hevents, Option.isSome_map]
  exact hlistens

/-- What is left for the listener grows by the marks. -/
theorem Runner.Notes.filter_left (h : before.Notes marks after) (hlistens : before.events.isSome) :
    after.left.filter Event.isMark = before.left.filter Event.isMark ++ marks := by
  obtain ⟨events, hevents, rfl⟩ := h.events
  obtain ⟨old, hold⟩ := Option.isSome_iff_exists.mp hlistens
  rw [Runner.left, Runner.left, hevents, hold]
  simp

/-- A start that was reported in a turn is among its marks. -/
theorem Turn.mem_of_notes (h : before.Notes marks after) (hlistens : before.events.isSome)
    {tool id command : String} (hmem : .started tool id command ∈ Turn.events ⟨before, after⟩) :
    .started tool id command ∈ marks := by
  obtain ⟨events, hevents, rfl⟩ := h.events
  obtain ⟨old, hold⟩ := Option.isSome_iff_exists.mp hlistens
  have hadded : Turn.events ⟨before, after⟩ = events := by
    refine added_eq events ?_
    rw [hevents, hold]
    rfl
  rw [hadded] at hmem
  exact List.mem_filter.mpr ⟨List.mem_reverse.mpr hmem, rfl⟩

end Listening

namespace Course

/-- All the marks of a course so far: somebody listens, the runner counts the invocations, each of
which has a number of its own, and the marks tell of them. -/
structure Paired (c : Course σ) (marks : List Event) : Prop where
  listens : c.runner.events.isSome
  counted : ∀ e ∈ marks, ∃ n ≤ c.runner.count, e.invocation = invocationId n
  numbers : ∀ job ∈ c.jobs, ∀ n, job.number? = some n → n ≤ c.runner.count
  distinct : ∀ (i j : Nat) (job job' : Job σ), c.jobs[i]? = some job → c.jobs[j]? = some job' →
    ∀ n, job.number? = some n → job'.number? = some n → i = j
  told : ∀ job ∈ c.jobs, job.Told marks

namespace Paired

variable {marks : List Event} {c : Course σ}

/-- What happens outside of the calls marks nothing. -/
theorem outside (h : c.Paired marks) {r : Runner (Recorded σ)} (hlistens : r.events.isSome)
    (hcount : r.count = c.runner.count) : ({ c with runner := r } : Course σ).Paired marks where
  listens := hlistens
  counted := hcount ▸ h.counted
  numbers := hcount ▸ h.numbers
  distinct := h.distinct
  told := h.told

/-- No mark has the next number. -/
theorem filter_next (h : c.Paired marks) :
    marks.filter (·.invocation == invocationId (c.runner.count + 1)) = [] := by
  rw [List.filter_eq_nil_iff]
  intro e he hnext
  obtain ⟨n, hn, hid⟩ := h.counted e he
  have hsame := invocationId_inj (hid.symm.trans (by simpa using hnext))
  omega

/-- One job changes, or a new one comes, and what is marked is its own. -/
theorem change (h : c.Paired marks) {r : Runner (Recorded σ)} {jobs : List (Job σ)} {i : Nat}
    {job : Job σ} {new : List Event} (hlistens : r.events.isSome)
    (hcount : c.runner.count ≤ r.count) (hat : jobs[i]? = some job)
    (hrest : ∀ k, k ≠ i → jobs[k]? = c.jobs[k]?)
    (hnumber : ∀ n, job.number? = some n → n ≤ r.count ∧
      ∀ k, k ≠ i → ∀ other, c.jobs[k]? = some other → other.number? ≠ some n)
    (hown : ∀ e ∈ new, ∃ n, job.number? = some n ∧ e.invocation = invocationId n)
    (htold : job.Told (marks ++ new)) :
    ({ runner := r, jobs } : Course σ).Paired (marks ++ new) := by
  -- Each job is the one that changes or one that was there, with another number.
  have hcases {k : Nat} {other : Job σ} (hk : jobs[k]? = some other) :
      k = i ∧ other = job ∨ k ≠ i ∧ c.jobs[k]? = some other := by
    by_cases hki : k = i
    · subst hki
      rw [hat] at hk
      exact .inl ⟨rfl, (Option.some.inj hk).symm⟩
    · rw [hrest k hki] at hk
      exact .inr ⟨hki, hk⟩
  refine ⟨hlistens, fun e he => ?_, fun other hmem n hn => ?_, ?_, fun other hmem => ?_⟩
  · rcases List.mem_append.mp he with hold | hnew
    · obtain ⟨n, hn, hid⟩ := h.counted e hold
      exact ⟨n, Nat.le_trans hn hcount, hid⟩
    · obtain ⟨n, hn, hid⟩ := hown e hnew
      exact ⟨n, (hnumber n hn).1, hid⟩
  · obtain ⟨k, hk⟩ := List.mem_iff_getElem?.mp hmem
    rcases hcases hk with ⟨-, rfl⟩ | ⟨-, hold⟩
    · exact (hnumber n hn).1
    · exact Nat.le_trans (h.numbers other (List.mem_of_getElem? hold) n hn) hcount
  · intro k l first second hk hl n hfirst hsecond
    rcases hcases hk with ⟨rfl, rfl⟩ | ⟨hki, hkold⟩
    · rcases hcases hl with ⟨rfl, -⟩ | ⟨hli, hlold⟩
      · rfl
      · exact absurd hsecond ((hnumber n hfirst).2 l hli second hlold)
    · rcases hcases hl with ⟨rfl, rfl⟩ | ⟨-, hlold⟩
      · exact absurd hfirst ((hnumber n hsecond).2 k hki first hkold)
      · exact h.distinct k l first second hkold hlold n hfirst hsecond
  · obtain ⟨k, hk⟩ := List.mem_iff_getElem?.mp hmem
    rcases hcases hk with ⟨-, rfl⟩ | ⟨hki, hold⟩
    · exact htold
    · refine (h.told other (List.mem_of_getElem? hold)).append fun n hn e he heq => ?_
      obtain ⟨m, hm, hid⟩ := hown e he
      have hsame := invocationId_inj (hid.symm.trans heq)
      subst hsame
      exact (hnumber m hm).2 k hki other hold hn

/-- A new job comes, with the next number if it begins an invocation. -/
theorem append (h : c.Paired marks) {r : Runner (Recorded σ)} {job : Job σ} {new : List Event}
    (hlistens : r.events.isSome) (hcount : c.runner.count ≤ r.count)
    (hnumber : ∀ n, job.number? = some n → n = c.runner.count + 1 ∧ r.count = n)
    (hown : ∀ e ∈ new, ∃ n, job.number? = some n ∧ e.invocation = invocationId n)
    (htold : job.Told (marks ++ new)) :
    ({ runner := r, jobs := c.jobs ++ [job] } : Course σ).Paired (marks ++ new) := by
  refine h.change hlistens hcount List.getElem?_concat_length (fun k hk => ?_) (fun n hn => ?_)
    hown htold
  · rcases Nat.lt_or_gt_of_ne hk with hlt | hgt
    · exact List.getElem?_append_left hlt
    · rw [List.getElem?_eq_none (by simp; omega), List.getElem?_eq_none (by omega)]
  · obtain ⟨hnext, hlast⟩ := hnumber n hn
    refine ⟨Nat.le_of_eq hlast.symm, fun k hk other hother hsame => ?_⟩
    have hold := h.numbers other (List.mem_of_getElem? hother) n hsame
    omega

/-- An invocation begins, and is told of by one mark. -/
theorem begun (h : c.Paired marks) {r : Runner (Recorded σ)} {call : RunnerCall} {stage : Stage}
    {e : Event} (hnotes : Runner.Notes { c.runner with count := c.runner.count + 1 } [e] r)
    (hid : e.invocation = invocationId (c.runner.count + 1))
    (htells : stage.Tells (invocationId (c.runner.count + 1)) [e]) :
    ({ runner := r, jobs := c.jobs ++ [{ call, stage, turns := [⟨c.runner, r⟩] }] } :
      Course σ).Paired (marks ++ [e]) := by
  have hlistens : ({ c.runner with count := c.runner.count + 1 } :
      Runner (Recorded σ)).events.isSome := h.listens
  have hcount : r.count = c.runner.count + 1 := hnotes.count
  have hnumber : ({ call, stage, turns := [⟨c.runner, r⟩] } : Job σ).number? =
      some (c.runner.count + 1) := by
    simp [Job.number?, hcount]
  have hmarks : (marks ++ [e]).filter (·.invocation == invocationId (c.runner.count + 1)) =
      [e] := by
    rw [List.filter_append, h.filter_next]
    simp [hid]
  refine h.append (hnotes.isSome_events hlistens) (by omega) (fun n hn => ?_) (fun e' he => ?_)
    (.numbered _ hnumber ?_ ?_)
  · rw [hnumber] at hn
    cases hn
    exact ⟨rfl, hcount⟩
  · rw [List.mem_singleton.mp he]
    exact ⟨_, hnumber, hid⟩
  · rwa [hmarks]
  · intro t ht tool id command hmem
    rw [List.mem_singleton.mp ht] at hmem
    rw [hmarks]
    exact Turn.mem_of_notes hnotes hlistens hmem

/-- A job takes a turn, in which it marks what it tells. -/
theorem turned (h : c.Paired marks) {i : Nat} {job : Job σ} (hjob : c.jobs[i]? = some job)
    {r : Runner (Recorded σ)} {stage : Stage} {new : List Event}
    (hnotes : c.runner.Notes new r)
    (hown : ∀ e ∈ new, ∃ n, job.number? = some n ∧ e.invocation = invocationId n)
    (htold : Job.Told (marks ++ new)
      { job with stage, turns := ⟨c.runner, r⟩ :: job.turns }) :
    ({ runner := r, jobs := c.jobs.set i { job with stage, turns := ⟨c.runner, r⟩ :: job.turns } } :
      Course σ).Paired (marks ++ new) := by
  have hi : i < c.jobs.length := (List.getElem?_eq_some_iff.mp hjob).1
  have hnumber := Job.number?_turn hnotes.count job stage
  refine h.change (hnotes.isSome_events h.listens) (Nat.le_of_eq hnotes.count.symm)
    (List.getElem?_set_self hi) (fun k hk => List.getElem?_set_ne (Ne.symm hk))
    (fun n hn => ?_) (hnumber ▸ hown) htold
  rw [hnumber] at hn
  rw [hnotes.count]
  refine ⟨h.numbers job (List.mem_of_getElem? hjob) n hn, fun k hk other hother hsame => ?_⟩
  exact hk (h.distinct k i other job hother hjob n hsame hn)

/-- A job that begins no invocation takes a turn. -/
theorem turned_aside (h : c.Paired marks) {i : Nat} {job : Job σ} (hjob : c.jobs[i]? = some job)
    (hnumber : job.number? = none)
    (hturns : ∀ t ∈ job.turns, ∀ tool id command, .started tool id command ∉ t.events)
    {r : Runner (Recorded σ)} {op : Operation} (hnotes : c.runner.Notes [] r) (hstop : op.IsStop) :
    ({ runner := r
       jobs := c.jobs.set i { job with stage := .going op, turns := ⟨c.runner, r⟩ :: job.turns } } :
      Course σ).Paired (marks ++ []) := by
  refine h.turned hjob hnotes (fun e he => by cases he) (.aside ?_ ?_ ?_)
  · rw [Job.number?_turn hnotes.count job, hnumber]
  · intro op' hop
    exact .inl (Stage.going.inj hop ▸ hstop)
  · intro t ht tool id command hmem
    rcases List.mem_cons.mp ht with rfl | hold
    · cases Turn.mem_of_notes hnotes h.listens hmem
    · exact hturns t hold tool id command hmem

/-- The job of an invocation takes a turn: what is new is its own, and tells with what was marked
before where the invocation stands. -/
theorem turned_own (h : c.Paired marks) {i n : Nat} {job : Job σ} (hjob : c.jobs[i]? = some job)
    (hnumber : job.number? = some n) {own new : List Event}
    (hown : marks.filter (·.invocation == invocationId n) = own)
    (hturns : ∀ t ∈ job.turns, ∀ tool id command, .started tool id command ∈ t.events →
      .started tool id command ∈ own)
    {r : Runner (Recorded σ)} {stage : Stage} (hnotes : c.runner.Notes new r)
    (hnew : ∀ e ∈ new, e.invocation = invocationId n)
    (htells : stage.Tells (invocationId n) (own ++ new)) :
    ({ runner := r, jobs := c.jobs.set i { job with stage, turns := ⟨c.runner, r⟩ :: job.turns } } :
      Course σ).Paired (marks ++ new) := by
  have hmarks : (marks ++ new).filter (·.invocation == invocationId n) = own ++ new := by
    have hkept : new.filter (·.invocation == invocationId n) = new :=
      List.filter_eq_self.mpr fun e he => by simp [hnew e he]
    rw [List.filter_append, hown, hkept]
  refine h.turned hjob hnotes (fun e he => ⟨n, hnumber, hnew e he⟩) (.numbered n ?_ ?_ ?_)
  · rw [Job.number?_turn hnotes.count job, hnumber]
  · rwa [hmarks]
  · intro t ht tool id command hmem
    rw [hmarks]
    rcases List.mem_cons.mp ht with rfl | hold
    · exact List.mem_append_right own (Turn.mem_of_notes hnotes h.listens hmem)
    · exact List.mem_append_left new (hturns t hold tool id command hmem)

end Paired

/-- At the start no mark is there, and no job. -/
theorem paired_start {r : Runner σ} (h : r.events = some []) : (start r).Paired [] where
  listens := by
    change r.events.isSome
    rw [h]
    rfl
  counted e he := by cases he
  numbers job hjob := by cases hjob
  distinct i j job job' hjob := by cases hjob
  told job hjob := by cases hjob

variable [Platform σ] {marks : List Event} {c : Course σ}

/-- A call adds its job behind the others. -/
theorem next_call {call : RunnerCall} {r : Runner (Recorded σ)} {stage : Stage}
    (h : c.runner.begin call = (r, stage)) :
    c.next (.call call) =
      { runner := r, jobs := c.jobs ++ [{ call, stage, turns := [⟨c.runner, r⟩] }] } := by
  simp only [next, h]

/-- A call that begins is told of. -/
theorem paired_call (h : c.Paired marks) (call : RunnerCall) :
    ∃ new, (c.next (.call call)).Paired (marks ++ new) ∧
      (c.next (.call call)).runner.left.filter Event.isMark =
        c.runner.left.filter Event.isMark ++ new := by
  have hlistens := h.listens
  obtain ⟨new, hopens⟩ := Runner.begin_opens c.runner call
  rcases hbegin : c.runner.begin call with ⟨r, stage⟩
  rw [hbegin] at hopens
  rw [next_call hbegin]
  cases hopens with
  | aside hnotes hstage =>
      have hnumber : ({ call, stage, turns := [⟨c.runner, r⟩] } : Job σ).number? = none := by
        simp [Job.number?, hnotes.count]
      refine ⟨[], h.append (hnotes.isSome_events hlistens) (Nat.le_of_eq hnotes.count.symm)
        (fun n hn => ?_) (fun e he => by cases he) (.aside hnumber hstage ?_),
        hnotes.filter_left hlistens⟩
      · rw [hnumber] at hn
        cases hn
      · intro t ht tool id command hmem
        rw [List.mem_singleton.mp ht] at hmem
        cases Turn.mem_of_notes hnotes hlistens hmem
  | refused hnotes hid => exact ⟨_, h.begun hnotes hid (.refused hid), hnotes.filter_left hlistens⟩
  | passed hnotes hid => exact ⟨_, h.begun hnotes hid (.going hid), hnotes.filter_left hlistens⟩

/-- A call that takes a step is told of. -/
theorem paired_step (h : c.Paired marks) {i : Nat} {job : Job σ} (hjob : c.jobs[i]? = some job)
    {op : Operation} (hstage : job.stage = .going op) {s : Runner (Recorded σ) × Operation}
    (hstep : c.runner.step op = some s) :
    ∃ new, c.runner.Notes new s.1 ∧
      ({ runner := s.1
         jobs := c.jobs.set i
           { job with stage := .going s.2, turns := ⟨c.runner, s.1⟩ :: job.turns } } :
        Course σ).Paired (marks ++ new) := by
  have hfinished {a : Answer} (h : op = .finished a) : False := by
    rw [h] at hstep
    cases hstep
  cases h.told job (List.mem_of_getElem? hjob) with
  | aside hnumber hop hturns =>
      rcases hop op hstage with hstop | ⟨e, he⟩
      · obtain ⟨hnotes, hstop'⟩ := Runner.notes_stop c.runner hstop hstep
        exact ⟨[], hnotes, h.turned_aside hjob hnumber hturns hnotes hstop'⟩
      · exact (hfinished he).elim
  | numbered n hnumber htells hturns =>
      rw [hstage] at htells
      generalize hown : marks.filter (·.invocation == invocationId n) = own at htells hturns
      cases htells with
      | refused _ | answered _ | unstarted => exact (hfinished rfl).elim
      | brokenOff _ => cases hstep
      | going hid =>
          obtain ⟨new, hproceeds⟩ := Runner.step_proceeds hstep
          cases hproceeds with
          | on hnotes =>
              refine ⟨_, hnotes, h.turned_own hjob hnumber hown hturns hnotes ?_ (.going hid)⟩
              intro e he
              cases he
          | brokenOff hnotes =>
              refine ⟨_, hnotes, h.turned_own hjob hnumber hown hturns hnotes ?_ (.brokenOff hid)⟩
              intro e he
              cases he
          | failed hnotes =>
              refine ⟨_, hnotes, h.turned_own hjob hnumber hown hturns hnotes ?_ ?_⟩
              · intro e he
                cases he
              · rw [hid]
                exact .unstarted
          | answered hnotes hresult htool =>
              refine ⟨_, hnotes, h.turned_own hjob hnumber hown hturns hnotes ?_ ?_⟩
              · intro e he
                rw [List.mem_singleton.mp he]
                exact hresult.trans hid
              · rw [← hresult, ← htool]
                exact .answered (hresult.trans hid)

/-- **The step lemma**: a turn adds the marks of its own job. -/
theorem paired_turn (h : c.Paired marks) (i : Nat) :
    ∃ new, (c.next (.turn i)).Paired (marks ++ new) ∧
      (c.next (.turn i)).runner.left.filter Event.isMark =
        c.runner.left.filter Event.isMark ++ new := by
  obtain hnext | ⟨job, op, r, op', hjob, hstage, hstep, hnext⟩ := c.next_turn_cases i
  · rw [hnext]
    exact ⟨[], by rwa [List.append_nil], (List.append_nil _).symm⟩
  · obtain ⟨new, hnotes, hpaired⟩ := paired_step h hjob hstage hstep
    rw [hnext]
    exact ⟨new, hpaired, hnotes.filter_left h.listens⟩

/-! ### What is heard -/

/-- What the listener takes when something happens. -/
def takes (c : Course σ) : Occurrence σ → List Event
  | .collect => c.runner.takeEvents.1
  | .call _ | .turn _ | .world _ => []

/-- What the listener takes in the course of a list of occurrences. -/
def taken (c : Course σ) : List (Occurrence σ) → List Event
  | [] => []
  | o :: os => c.takes o ++ (c.next o).taken os

/-- All that the listener hears: what it takes on the way, and what is left at the end. -/
def heard (c : Course σ) (os : List (Occurrence σ)) : List Event :=
  c.taken os ++ (c.play os).runner.takeEvents.1

/-- What the listener would take is what is left for it, with more output. -/
theorem filter_takeEvents (h : c.runner.events.isSome) :
    c.runner.takeEvents.1.filter Event.isMark = c.runner.left.filter Event.isMark := by
  have hleft := c.runner.notes_reportOutput.filter_left h
  rwa [List.append_nil] at hleft

/-- Nothing is left of what was taken. -/
theorem left_takeEvents (r : Runner (Recorded σ)) : r.takeEvents.2.left = [] := by
  unfold Runner.takeEvents Runner.left
  cases hevents : r.reportOutput.events with
  | none => simp [hevents]
  | some events => simp [hevents]

/-- When the listener takes what is left, it hears what it would have heard. -/
theorem paired_collect (h : c.Paired marks) : (c.next .collect).Paired marks := by
  have hnotes := c.runner.notes_reportOutput
  refine h.outside ?_ hnotes.count
  simpa [Runner.takeEvents] using hnotes.isSome_events h.listens

/-- **Whatever happens, what was taken and what is left tells of the calls.** -/
theorem paired_next {before : List Event}
    (h : c.Paired ((before ++ c.runner.left).filter Event.isMark)) (o : Occurrence σ) :
    (c.next o).Paired ((before ++ c.takes o ++ (c.next o).runner.left).filter Event.isMark) := by
  rw [List.filter_append] at h ⊢
  cases o with
  | call call =>
      obtain ⟨new, hpaired, hleft⟩ := paired_call h call
      rwa [takes, List.append_nil, hleft, ← List.append_assoc]
  | turn i =>
      obtain ⟨new, hpaired, hleft⟩ := paired_turn h i
      rwa [takes, List.append_nil, hleft, ← List.append_assoc]
  | world s =>
      rw [takes, List.append_nil]
      exact h.outside h.listens rfl
  | collect =>
      have hempty : (c.next .collect).runner.left = [] := left_takeEvents c.runner
      rw [hempty, takes, List.filter_append, filter_takeEvents h.listens, List.filter_nil,
        List.append_nil]
      exact paired_collect h

/-- **The run lemma**: the marks of a course are paired. -/
theorem paired_play {before : List Event}
    (h : c.Paired ((before ++ c.runner.left).filter Event.isMark)) (os : List (Occurrence σ)) :
    (c.play os).Paired
      ((before ++ c.taken os ++ (c.play os).runner.left).filter Event.isMark) := by
  induction os generalizing c before with
  | nil => rwa [taken, List.append_nil]
  | cons o os ih =>
      have hrest := ih (paired_next h o)
      rwa [List.append_assoc before] at hrest

/-- What is heard in a course tells of its calls. -/
theorem paired_heard {r : Runner σ} (h : r.events = some []) (os : List (Occurrence σ)) :
    ((start r).play os).Paired (((start r).heard os).filter Event.isMark) := by
  have hempty : (start r).runner.left = [] := by
    change (r.events.getD []).reverse = []
    rw [h]
    rfl
  have hstart : (start r).Paired (([] ++ (start r).runner.left).filter Event.isMark) := by
    rw [hempty]
    exact paired_start h
  have hplay := paired_play hstart os
  rwa [List.filter_append, List.nil_append, ← filter_takeEvents hplay.listens,
    ← List.filter_append] at hplay

/-- **Invocations are heard in pairs, unless their command cannot be started.** Of an invocation
that is over and that was reported as started, exactly its start and one completion after it are
heard if its command could be started, and otherwise no completion. Of one that gave a result
exactly one completion is heard, which carries the result. -/
theorem play_pairs {r : Runner σ} (hlistens : r.events = some []) (os : List (Occurrence σ))
    {job : Job σ} (hjob : job ∈ ((start r).play os).jobs) {a : Except ToolError InvocationResult}
    (hover : job.stage = .going (.finished (.invocation a))) :
    (∀ t ∈ job.turns, ∀ tool id command, .started tool id command ∈ t.events →
      ((∃ status stats, ((start r).heard os).filter (Event.isMarkOf id) =
          [.started tool id command, .completed tool id status stats]) ↔
        ∀ message, a ≠ .error (.spawn message))) ∧
    ∀ result, a = .ok result →
      ((start r).heard os).filter (Event.isCompletionOf result.invocationId) =
        [result.completion] := by
  cases (paired_heard hlistens os).told job hjob with
  | aside hnumber hstage hturns =>
      refine ⟨fun t ht tool id command hmem => (hturns t ht tool id command hmem).elim, ?_⟩
      rintro result rfl
      rcases hstage _ hover with hstop | ⟨e, he⟩
      · cases hstop
      · cases he
  | numbered n hnumber htells hturns =>
      have hmarks := filter_isMarkOf (invocationId n) ((start r).heard os)
      generalize (((start r).heard os).filter Event.isMark).filter
        (·.invocation == invocationId n) = own at htells hturns hmarks
      rw [hover] at htells
      cases htells with
      | @refused result hid =>
          refine ⟨fun t ht tool id command hmem => ?_, fun result' hresult => ?_⟩
          · cases List.mem_singleton.mp (hturns t ht tool id command hmem)
          · cases hresult
            rw [filter_isCompletionOf, hid, hmarks]
            simp [InvocationResult.completion, Event.isCompletionOf, hid]
      | @answered result command' hid =>
          refine ⟨fun t ht tool id command hmem => ?_, fun result' hresult => ?_⟩
          · refine iff_of_true ?_ (fun message => by simp)
            have hstart := hturns t ht tool id command hmem
            simp only [InvocationResult.completion, List.mem_cons, List.not_mem_nil, or_false,
              reduceCtorEq, Event.started.injEq] at hstart
            obtain ⟨rfl, rfl, rfl⟩ := hstart
            rw [hid, hmarks, hid]
            exact ⟨result.status, result.stats, by rw [InvocationResult.completion, hid]⟩
          · cases hresult
            rw [filter_isCompletionOf, hid, hmarks]
            simp [InvocationResult.completion, Event.isCompletionOf, hid]
      | @unstarted tool' command' message =>
          refine ⟨fun t ht tool id command hmem => ?_, fun result' hresult => by cases hresult⟩
          refine iff_of_false ?_ (fun hnot => hnot message rfl)
          have hstart := hturns t ht tool id command hmem
          simp only [List.mem_singleton, Event.started.injEq] at hstart
          obtain ⟨rfl, rfl, rfl⟩ := hstart
          rw [hmarks]
          rintro ⟨status, stats, hpair⟩
          cases hpair

/-- A tool that lists a directory. -/
def listTool (workdir : String) : Tool where
  id := "list"
  description := ""
  command := "ls"
  workdir := some workdir
  timeout := .ofWholeSeconds 120
  gate := .ofPolicy {}

/-- A runner of this tool, with a listener. -/
def listRunner (workdir : String) : Runner Machine where
  registry := { tools := [listTool workdir] }
  killGrace := .ofWholeSeconds 1
  pollInterval := .ofWholeSeconds 1
  system := { world := { files := {} }, cwd := [] }
  events := some []

/-- All processes end. -/
def allEnd (c : Course Machine) : Occurrence Machine :=
  .world { c.runner.system.inner with
    tasks := c.runner.system.inner.tasks.map fun t =>
      { t with state := .finished (.exited (some 0)) } }

/-- The beginning of a run of the tool. -/
def listBegun : List (Occurrence Machine) := [.call (.run (.invoke "list" [])), .turn 0]

/-- A run of the tool to its end. -/
def listRun : List (Occurrence Machine) :=
  listBegun ++ [allEnd ((start (listRunner "/")).play listBegun), .turn 0]

/-- A start and a completion are heard of a tool that ran. -/
theorem play_listRun :
    (listRunner "/").events = some [] ∧
      ∃ job ∈ ((start (listRunner "/")).play listRun).jobs, ∃ result,
        job.stage = .going (.finished (.invocation (.ok result))) ∧
          (∃ t ∈ job.turns, .started "list" "invocation-1" "ls" ∈ t.events) ∧
          (∃ status stats, ((start (listRunner "/")).heard listRun).filter
              (Event.isMarkOf "invocation-1") =
            [.started "list" "invocation-1" "ls",
              .completed "list" "invocation-1" status stats]) ∧
          ((start (listRunner "/")).heard listRun).filter
            (Event.isCompletionOf result.invocationId) = [result.completion] := by
  obtain ⟨job, hjob, result, hover, t, ht, hstarted⟩ :
      ∃ job ∈ ((start (listRunner "/")).play listRun).jobs, ∃ result,
        job.stage = .going (.finished (.invocation (.ok result))) ∧
          ∃ t ∈ job.turns, .started "list" "invocation-1" "ls" ∈ t.events := by
    refine ⟨_, List.mem_singleton.mpr rfl, _, rfl, _,
      List.mem_cons_of_mem _ (List.mem_cons_of_mem _ (List.mem_singleton.mpr rfl)), ?_⟩
    decide +kernel
  obtain ⟨hpair, hcompletion⟩ := play_pairs (r := listRunner "/") rfl listRun hjob hover
  exact ⟨rfl, job, hjob, result, hover, ⟨t, ht, hstarted⟩,
    (hpair t ht "list" "invocation-1" "ls" hstarted).mpr (fun message h => by cases h),
    hcompletion result rfl⟩

/-- In a directory that is missing the tool is heard to start, and not to end. -/
theorem heard_of_lost :
    ∃ job ∈ ((start (listRunner "/nowhere")).play listBegun).jobs, ∃ message,
      job.stage = .going (.finished (.invocation (.error (.spawn message)))) ∧
        (∃ t ∈ job.turns, .started "list" "invocation-1" "ls" ∈ t.events) ∧
        (start (listRunner "/nowhere")).heard listBegun =
          [.started "list" "invocation-1" "ls"] := by
  refine ⟨_, List.mem_singleton.mpr rfl, _, rfl, ⟨_, List.mem_cons_of_mem _
    (List.mem_singleton.mpr rfl), ?_⟩, ?_⟩
  · decide +kernel
  · decide +kernel

end Course

end Turnstile
