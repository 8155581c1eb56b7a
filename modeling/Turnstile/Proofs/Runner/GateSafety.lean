import Turnstile.Proofs.Runner.Course

/-!
# The gate over whole runs

An order *prepares* an invocation if the invocation's command is what the tool's template gives for
the order's values, and its decision is what the gate answers for this command
(`Order.Prepares`). It *passes* if the answer is no denial, and is an approval unless the user
approved (`Order.Passes`).

**Theorem** (`play_gateSafe`): in every course of a runner, whatever is spawned is spawned by a call
whose order prepared and passed an invocation with this very command, which is also the command of
its report, its audit entry and its result. A call that is refused spawns nothing, asks no process
to end, and leaves the table of services alone.

The invariant is `Account`, which says of each job that it orders nothing, was refused when it
began, or goes on with an invocation that passed, which may end or break off. The beginning of a
call establishes it (`begin_sound`), and each step of a job keeps it (`step_sound`).
-/

namespace Turnstile

variable {σ : Type}

/-! ### Orders and their invocations -/

namespace Order

/-- The command of an invocation is the one that was rendered for the order, and the gate was asked
about it. -/
structure Prepares (o : Order) (registry : Registry) (inv : Invocation) : Prop where
  tool : registry.find? o.id = some inv.tool
  command : inv.tool.render o.bindings = .ok inv.command
  decision : inv.decision = inv.tool.gate.evaluate inv.command

/-- The gate does not deny the command, and allows it unless the user approved. -/
structure Passes (o : Order) (inv : Invocation) : Prop where
  not_denied : ∀ pattern, inv.tool.gate.evaluate inv.command ≠ .deny pattern
  allowed : o.isConfirmed = false → inv.tool.gate.evaluate inv.command = .allow

end Order

/-- An answer to an order that is not carried out. -/
def IsRefusal : Except ToolError InvocationResult → Prop
  | .ok result => result.status.IsRefusal
  | .error (.unknownTool _) | .error (.invalidParams _) => True
  | .error _ => False

namespace Job

/-- Whatever a job names a command in, names that of the invocation: what it spawned, its report,
its entry in the audit trail, and its result. -/
structure Carries (job : Job σ) (inv : Invocation) : Prop where
  owns : ∀ t ∈ job.turns, inv.Owns t.deeds t.events
  /-- Its first step reports it as started, if somebody listens. -/
  reported : ∃ t, job.turns.getLast? = some t ∧
    (t.before.events.isSome → .started inv.tool.id inv.id inv.command ∈ t.events)
  /-- The step with its answer adds an entry to the audit trail, if there is one. -/
  logged : ∀ a, job.stage = .going (.finished a) →
    ∃ t, job.turns.head? = some t ∧ inv.LoggedIn t.before.audit t.deeds
  result : ∀ result, job.stage = .going (.finished (.invocation (.ok result))) → result.Of inv

/-- A job ended with a refusal. -/
def Refused (job : Job σ) : Prop :=
  ∃ a, job.stage = .going (.finished (.invocation a)) ∧ IsRefusal a

/-- What the gate is for: a spawn was ordered, rendered, asked about and let pass, and a refusal has
no effects. -/
structure GateSafe (registry : Registry) (job : Job σ) : Prop where
  spawned : ∀ t ∈ job.turns, ∀ request, .spawn request ∈ t.deeds →
    ∃ o inv, job.call.order? = some o ∧ o.Prepares registry inv ∧ o.Passes inv ∧
      request.command = inv.command ∧ job.Carries inv
  refused : job.Refused → ∀ t ∈ job.turns,
    (∀ request, .spawn request ∉ t.deeds) ∧ (∀ p, .requestStop p ∉ t.deeds) ∧
      t.after.services = t.before.services

end Job

/-! ### What a step shows -/

namespace Turn

variable {r r' : Runner (Recorded σ)} {deeds : List Deed} {events : List Event}

/-- The deeds of a turn are those that it did. -/
theorem deeds_of_did (h : r.Did deeds events r') : (⟨r, r'⟩ : Turn σ).deeds = deeds := by
  rw [Turn.deeds, h.journal, added_append]

/-- The events of a turn are those that it reported, if anyone listens. -/
theorem events_of_did (h : r.Did deeds events r') (hlistens : r.events.isSome) :
    (⟨r, r'⟩ : Turn σ).events = events := by
  obtain ⟨es, hes⟩ := Option.isSome_iff_exists.mp hlistens
  rw [Turn.events, h.events, hes]
  exact added_append events es

/-- An event of a turn was reported in it. -/
theorem mem_of_mem_events (h : r.Did deeds events r') {e : Event}
    (he : e ∈ (⟨r, r'⟩ : Turn σ).events) : e ∈ events := by
  by_cases hlistens : r.events.isSome
  · rwa [events_of_did h hlistens] at he
  · rw [Option.not_isSome_iff_eq_none] at hlistens
    rw [Turn.events, h.events, hlistens] at he
    cases he

/-- A turn belongs to the invocation that its deeds and events belong to. -/
theorem owns_of_did {inv : Invocation} (h : r.Did deeds events r') (howns : inv.Owns deeds events) :
    inv.Owns (⟨r, r'⟩ : Turn σ).deeds (⟨r, r'⟩ : Turn σ).events := by
  rw [deeds_of_did h]
  exact ⟨howns.spawn, howns.recorded,
    fun tool id command hmem => howns.started tool id command (mem_of_mem_events h hmem)⟩

/-- A turn is logged if its deeds are. -/
theorem loggedIn_of_did {inv : Invocation} (h : r.Did deeds events r')
    (hlogged : inv.LoggedIn r.audit deeds) :
    inv.LoggedIn r.audit (⟨r, r'⟩ : Turn σ).deeds := by
  rwa [deeds_of_did h]

end Turn

/-! ### The invariant -/

/-- The kinds of jobs. -/
inductive Account (registry : Registry) : Job σ → Prop
  /-- It orders nothing: it asks, or it stops services. -/
  | aside {job : Job σ} (hstage : ∀ op, job.stage = .going op → op.IsStop)
      (hturns : ∀ t ∈ job.turns, ∀ request, .spawn request ∉ t.deeds) : Account registry job
  /-- It was refused when it began. -/
  | refused {job : Job σ} {a : Except ToolError InvocationResult} {t : Turn σ}
      (hstage : job.stage = .going (.finished (.invocation a))) (hturns : job.turns = [t])
      (hdeeds : ∀ d ∈ t.deeds, d.isRecord = true)
      (hservices : t.after.services = t.before.services) : Account registry job
  /-- It goes on with an invocation that passed, or did so. -/
  | passed {job : Job σ} {o : Order} {inv : Invocation} (horder : job.call.order? = some o)
      (hprepares : o.Prepares registry inv) (hpasses : o.Passes inv) (hcarries : job.Carries inv)
      (hstage : (∃ phase, job.stage = .going (.invoking inv phase)) ∨
        (∃ p, job.stage = .going (.brokenOff inv p)) ∨
        ∃ a, job.stage = .going (.finished (.invocation a)) ∧ ¬ IsRefusal a) :
      Account registry job

/-- A job that is accounted for is safe. -/
theorem Account.gateSafe {registry : Registry} {job : Job σ} (h : Account registry job) :
    job.GateSafe registry := by
  cases h with
  | aside hstage hturns =>
      refine ⟨fun t ht request hmem => (hturns t ht request hmem).elim, ?_⟩
      rintro ⟨a, ha, -⟩
      exact (hstage _ ha).elim
  | refused hstage hturns hdeeds hservices =>
      have hnone {t : Turn σ} (ht : t ∈ job.turns) {d : Deed} (hd : d ∈ t.deeds) :
          d.isRecord = true := by
        rw [hturns, List.mem_singleton] at ht
        subst ht
        exact hdeeds d hd
      refine ⟨fun t ht request hmem => ?_, fun _ t ht => ⟨fun request hmem => ?_,
        fun p hmem => ?_, ?_⟩⟩
      · cases hnone ht hmem
      · cases hnone ht hmem
      · cases hnone ht hmem
      · rw [hturns, List.mem_singleton] at ht
        subst ht
        exact hservices
  | passed horder hprepares hpasses hcarries hstage =>
      refine ⟨fun t ht request hmem => ?_, ?_⟩
      · exact ⟨_, _, horder, hprepares, hpasses, (hcarries.owns t ht).spawn request hmem, hcarries⟩
      · rintro ⟨a, ha, hrefusal⟩
        obtain ⟨phase, hphase⟩ | ⟨p, hbroken⟩ | ⟨a', ha', hnot⟩ := hstage
        · rw [hphase] at ha
          cases ha
        · rw [hbroken] at ha
          cases ha
        · rw [ha'] at ha
          cases ha
          exact (hnot hrefusal).elim

/-! ### Jobs after a step -/

/-- A step that a job takes is accounted for, and so is the job after it. -/
def Sound (registry : Registry) (r : Runner (Recorded σ)) (call : RunnerCall)
    (turns : List (Turn σ)) (s : Runner (Recorded σ) × Stage) : Prop :=
  (∃ deeds events, r.Did deeds events s.1) ∧
    Account registry { call, stage := s.2, turns := ⟨r, s.1⟩ :: turns }

/-- A job that only stops services spawns nothing. -/
theorem stops_sound {registry : Registry} {r : Runner (Recorded σ)}
    {s : Runner (Recorded σ) × Operation} (h : r.Stops s) {call : RunnerCall}
    {turns : List (Turn σ)} (hturns : ∀ t ∈ turns, ∀ request, .spawn request ∉ t.deeds) :
    Sound registry r call turns (s.1, .going s.2) := by
  obtain ⟨deeds, hdeeds, hdid, hstop⟩ := h
  refine ⟨⟨deeds, [], hdid⟩, .aside (fun op hop => ?_) (fun t ht request hmem => ?_)⟩
  · cases hop
    exact hstop
  · cases ht with
    | head =>
        rw [Turn.deeds_of_did hdid] at hmem
        obtain ⟨p, hp⟩ := hdeeds _ hmem
        cases hp
    | tail _ ht => exact hturns t ht request hmem

/-- A job whose answer is an entry in the audit trail at most. -/
theorem account_of_refusal {registry : Registry} {r r' : Runner (Recorded σ)} {deeds : List Deed}
    {events : List Event} (h : r.Did deeds events r')
    (hdeeds : ∀ d ∈ deeds, d.isRecord = true)
    (hservices : r'.services = r.services) (call : RunnerCall)
    (a : Except ToolError InvocationResult) :
    Account registry { call, stage := .going (.finished (.invocation a)), turns := [⟨r, r'⟩] } := by
  refine .refused rfl rfl (fun d hd => ?_) hservices
  rw [Turn.deeds_of_did h] at hd
  exact hdeeds d hd

/-- A job of an invocation that goes on, after one more step that is its own. -/
theorem carries_of_goes {r r' : Runner (Recorded σ)} {deeds : List Deed} {events : List Event}
    {op : Operation} {inv : Invocation} (h : r.Did deeds events r')
    (howns : inv.Owns deeds events) (hgoes : inv.Goes r.audit deeds op) {call : RunnerCall}
    {turns : List (Turn σ)} (hturns : ∀ t ∈ turns, inv.Owns t.deeds t.events)
    (hreported : ∃ t, ((⟨r, r'⟩ : Turn σ) :: turns).getLast? = some t ∧
      (t.before.events.isSome → .started inv.tool.id inv.id inv.command ∈ t.events)) :
    Job.Carries { call, stage := .going op, turns := ⟨r, r'⟩ :: turns } inv where
  owns t ht := by
    cases ht with
    | head => exact Turn.owns_of_did h howns
    | tail _ ht => exact hturns t ht
  reported := hreported
  logged a ha := by
    cases ha
    cases hgoes with
    | answered _ _ _ hlogged =>
        exact ⟨⟨r, r'⟩, rfl, Turn.loggedIn_of_did h hlogged⟩
    | failed _ hlogged =>
        exact ⟨⟨r, r'⟩, rfl, Turn.loggedIn_of_did h hlogged⟩
  result result hresult := by
    cases hresult
    cases hgoes with
    | answered _ hof => exact hof

/-- An invocation that goes on is running, broke off, or ended with an answer that is no refusal. -/
theorem going_of_goes {audit : Option AuditSink} {deeds : List Deed} {op : Operation}
    {inv : Invocation} (h : inv.Goes audit deeds op) :
    (∃ phase, Stage.going op = .going (.invoking inv phase)) ∨
      (∃ p, Stage.going op = .going (.brokenOff inv p)) ∨
      ∃ a, Stage.going op = .going (.finished (.invocation a)) ∧ ¬ IsRefusal a := by
  cases h with
  | on phase => exact .inl ⟨phase, rfl⟩
  | brokenOff p => exact .inr (.inl ⟨p, rfl⟩)
  | answered result _ hnot _ => exact .inr (.inr ⟨.ok result, rfl, hnot⟩)
  | failed message _ => exact .inr (.inr ⟨.error (.spawn message), rfl, id⟩)

/-! ### The beginning of a call -/

section Steps

variable [Platform σ] {registry : Registry} {call : RunnerCall}

/-- What the gate turns away is refused. -/
theorem answer_sound {before r : Runner (Recorded σ)} (hsame : before.Did [] [] r)
    (hservices : r.services = before.services) (inv : Invocation) (status : Status) :
    Sound registry before call []
      ((r.answer inv status none).1, .going (r.answer inv status none).2) := by
  obtain ⟨deeds, events, -, -, hrecords, -, hdid⟩ := r.did_answer inv status none
  obtain ⟨result, -, -, hanswer⟩ := r.answer_result inv status none
  have hboth := hsame.after hdid
  refine ⟨⟨_, _, hboth⟩, ?_⟩
  simp only [hanswer]
  exact account_of_refusal hboth hrecords ((r.answer_services inv status none).trans hservices) _ _

/-- What the gate lets pass goes on. -/
theorem letPass_sound {before r : Runner (Recorded σ)} (hsame : before.Did [] [] r) {o : Order}
    (horder : call.order? = some o) {inv : Invocation} (hprepares : o.Prepares registry inv)
    (hpasses : o.Passes inv) :
    Sound registry before call [] ((r.letPass inv).1, .going (r.letPass inv).2) := by
  obtain ⟨deeds, events, howns, hdid, hgoes, hstarted⟩ := r.letPass_steps inv
  have hboth := hsame.after hdid
  rw [hsame.audit] at hgoes
  refine ⟨⟨_, _, hboth⟩, .passed horder hprepares hpasses ?_ (going_of_goes hgoes)⟩
  refine carries_of_goes hboth howns hgoes (fun t ht => (List.not_mem_nil ht).elim) ?_
  refine ⟨⟨before, (r.letPass inv).1⟩, rfl, fun hlistens => ?_⟩
  rwa [Turn.events_of_did hboth hlistens]

/-- The gate's decision on the rendered command tells which of both it is. -/
theorem obeyGate_sound {before r : Runner (Recorded σ)} (hsame : before.Did [] [] r)
    (hservices : r.services = before.services) {o : Order} (horder : call.order? = some o)
    {inv : Invocation} (hprepares : o.Prepares registry inv) :
    Sound registry before call []
      ((r.obeyGate inv o.isConfirmed).1, .going (r.obeyGate inv o.isConfirmed).2) := by
  have hdecision := hprepares.decision
  unfold Runner.obeyGate
  cases hcase : inv.decision with
  | deny pattern => exact answer_sound hsame hservices inv (.denied pattern)
  | allow =>
      rw [hcase] at hdecision
      refine letPass_sound hsame horder hprepares ⟨fun pattern hdeny => ?_, fun _ => hdecision.symm⟩
      rw [← hdecision] at hdeny
      cases hdeny
  | requireConfirmation pattern =>
      rw [hcase] at hdecision
      cases hconfirmed : o.isConfirmed with
      | true =>
          refine letPass_sound hsame horder hprepares ⟨fun pattern hdeny => ?_, fun hnot => ?_⟩
          · rw [← hdecision] at hdeny
            cases hdeny
          · rw [hconfirmed] at hnot
            cases hnot
      | false => exact answer_sound hsame hservices inv (.confirmationRequired pattern)

/-- An order begins soundly. -/
theorem beginOrder_sound (r : Runner (Recorded σ)) {o : Order} (horder : call.order? = some o) :
    Sound r.registry r call [] ((r.beginOrder o).1, .going (r.beginOrder o).2) := by
  have hnothing : r.Did [] [] r := .quiet rfl rfl rfl rfl
  have hnone : ∀ d ∈ ([] : List Deed), d.isRecord = true :=
    fun _ hd => (List.not_mem_nil hd).elim
  unfold Runner.beginOrder
  cases hfind : r.registry.find? o.id with
  | none =>
      rw [Runner.beginInvocation_unknown hfind]
      exact ⟨⟨_, _, hnothing⟩, account_of_refusal hnothing hnone rfl _ _⟩
  | some tool =>
      cases hrender : tool.render o.bindings with
      | error f =>
          rw [Runner.beginInvocation_invalid hfind hrender]
          exact ⟨⟨_, _, hnothing⟩, account_of_refusal hnothing hnone rfl _ _⟩
      | ok command =>
          rw [Runner.beginInvocation_rendered hfind hrender]
          have hcount : r.Did [] [] { r with count := r.count + 1 } := .quiet rfl rfl rfl rfl
          exact obeyGate_sound hcount rfl horder ⟨hfind, hrender, rfl⟩

/-- **A call that begins is of one of the kinds.** -/
theorem begin_sound (r : Runner (Recorded σ)) (call : RunnerCall) :
    Sound r.registry r call [] (r.begin call) := by
  have hnone : ∀ t ∈ ([] : List (Turn σ)), ∀ request, .spawn request ∉ t.deeds :=
    fun _ ht => (List.not_mem_nil ht).elim
  have hasks (stage : Stage) (hstage : ∀ op, stage ≠ .going op) :
      Sound r.registry r call [] (r, stage) := by
    have hnothing : r.Did [] [] r := .quiet rfl rfl rfl rfl
    refine ⟨⟨_, _, hnothing⟩, .aside (fun op hop => (hstage op hop).elim) ?_⟩
    intro t ht request hmem
    rw [List.mem_singleton.mp ht, Turn.deeds_of_did hnothing] at hmem
    cases hmem
  cases call with
  | check id bindings => exact hasks _ (fun op hop => by cases hop)
  | run e => exact beginOrder_sound r rfl
  | serviceStatus id => exact hasks _ (fun op hop => by cases hop)
  | stopService id => exact stops_sound (r.beginStop_stops id) hnone
  | shutdown => exact stops_sound r.beginShutdown_stops hnone

/-! ### Steps and runs -/

/-- **A step keeps the kind of a job.** -/
theorem step_sound {r : Runner (Recorded σ)} {job : Job σ} (h : Account registry job)
    {op : Operation} (hop : job.stage = .going op) {s : Runner (Recorded σ) × Operation}
    (hstep : r.step op = some s) :
    Sound registry r job.call job.turns (s.1, .going s.2) := by
  have hfinished {a : Answer} (hstage : job.stage = .going (.finished a)) : False := by
    rw [hstage] at hop
    cases hop
    cases hstep
  cases h with
  | aside hstage hturns => exact stops_sound (r.stop_stops (hstage op hop) hstep) hturns
  | refused hstage => exact (hfinished hstage).elim
  | passed horder hprepares hpasses hcarries hstage =>
      obtain ⟨phase, hphase⟩ | ⟨p, hbroken⟩ | ⟨a, ha, -⟩ := hstage
      · rw [hphase] at hop
        cases hop
        obtain ⟨deeds, events, howns, hdid, hgoes⟩ := r.invoking_steps _ hstep
        refine ⟨⟨deeds, events, hdid⟩, .passed horder hprepares hpasses ?_ (going_of_goes hgoes)⟩
        obtain ⟨t, ht, hreported⟩ := hcarries.reported
        refine carries_of_goes hdid howns hgoes hcarries.owns ⟨t, ?_, hreported⟩
        rw [List.getLast?_cons, ht]
        rfl
      · rw [hbroken] at hop
        cases hop
        cases hstep
      · exact (hfinished ha).elim

end Steps

namespace Course

variable {registry : Registry}

/-- The tools are still the same, each job is of one of the kinds, and whatever was asked of the
platform was asked by a job. -/
structure Accounted (registry : Registry) (c : Course σ) : Prop where
  tools : c.runner.registry = registry
  jobs : ∀ job ∈ c.jobs, Account registry job
  deeds : ∀ d ∈ c.runner.system.journal, ∃ job ∈ c.jobs, ∃ t ∈ job.turns, d ∈ t.deeds

/-- A course without jobs is accounted for. -/
theorem accounted_start (r : Runner σ) : (start r).Accounted r.registry where
  tools := rfl
  jobs _ hjob := (List.not_mem_nil hjob).elim
  deeds _ hd := (List.not_mem_nil hd).elim

/-- What happens outside changes no job. -/
theorem accounted_of_same {c : Course σ} (h : c.Accounted registry) {r : Runner (Recorded σ)}
    (htools : r.registry = c.runner.registry)
    (hjournal : r.system.journal = c.runner.system.journal) :
    ({ c with runner := r } : Course σ).Accounted registry where
  tools := htools.trans h.tools
  jobs := h.jobs
  deeds d hd := h.deeds d (hjournal ▸ hd)

/-- Jobs are kept with their turns, and one takes a turn that is accounted for. -/
theorem accounted_of_sound {c : Course σ} (h : c.Accounted registry) {call : RunnerCall}
    {turns : List (Turn σ)} {s : Runner (Recorded σ) × Stage}
    (hsound : Sound registry c.runner call turns s) {jobs : List (Job σ)}
    (hnew : { call, stage := s.2, turns := ⟨c.runner, s.1⟩ :: turns } ∈ jobs)
    (hjobs : ∀ job ∈ jobs,
      job = { call, stage := s.2, turns := ⟨c.runner, s.1⟩ :: turns } ∨ job ∈ c.jobs)
    (hkept : ∀ job ∈ c.jobs, ∃ job' ∈ jobs, ∀ t ∈ job.turns, t ∈ job'.turns) :
    ({ runner := s.1, jobs } : Course σ).Accounted registry := by
  obtain ⟨⟨deeds, events, hdid⟩, haccount⟩ := hsound
  refine ⟨hdid.registry.trans h.tools, fun job hjob => ?_, fun d hd => ?_⟩
  · obtain rfl | hold := hjobs job hjob
    · exact haccount
    · exact h.jobs job hold
  · have hd : d ∈ s.1.system.journal := hd
    rw [hdid.journal, List.mem_append] at hd
    obtain hd | hd := hd
    · refine ⟨_, hnew, _, List.mem_cons_self, ?_⟩
      rwa [Turn.deeds_of_did hdid]
    · obtain ⟨job, hjob, t, ht, hmem⟩ := h.deeds d hd
      obtain ⟨job', hjob', hturns⟩ := hkept job hjob
      exact ⟨job', hjob', t, hturns t ht, hmem⟩

variable [Platform σ]

/-- A call adds a job that is accounted for. -/
theorem accounted_call {c : Course σ} (h : c.Accounted registry) (call : RunnerCall) :
    (c.next (.call call)).Accounted registry := by
  have hsound := begin_sound c.runner call
  rw [h.tools] at hsound
  refine accounted_of_sound h hsound (List.mem_append_right _ (List.mem_singleton.mpr rfl)) ?_ ?_
  · intro job hjob
    obtain hold | hnew := List.mem_append.mp hjob
    · exact .inr hold
    · exact .inl (List.mem_singleton.mp hnew)
  · exact fun job hjob => ⟨job, List.mem_append_left _ hjob, fun _ ht => ht⟩

/-- A turn goes on with one job, and leaves the others as they are. -/
theorem accounted_turn {c : Course σ} (h : c.Accounted registry) (i : Nat) :
    (c.next (.turn i)).Accounted registry := by
  obtain hnext | ⟨job, op, r, op', hjob, hstage, hstep, hnext⟩ := c.next_turn_cases i
  · rwa [hnext]
  · obtain ⟨hi, rfl⟩ := List.getElem?_eq_some_iff.mp hjob
    have hsound := step_sound (h.jobs _ (List.getElem_mem hi)) hstage hstep
    rw [hnext]
    refine accounted_of_sound h hsound (List.mem_set hi _) ?_ ?_
    · intro job hmem
      exact (List.mem_or_eq_of_mem_set hmem).symm
    · intro job hmem
      obtain ⟨k, hk, rfl⟩ := List.mem_iff_getElem.mp hmem
      by_cases hik : i = k
      · subst hik
        exact ⟨_, List.mem_set hi _, fun t ht => List.mem_cons_of_mem _ ht⟩
      · refine ⟨c.jobs[k], ?_, fun _ ht => ht⟩
        rw [List.mem_iff_getElem?]
        exact ⟨k, by rw [List.getElem?_set_ne hik, List.getElem?_eq_getElem hk]⟩

/-- **Whatever happens, everything is accounted for.** -/
theorem accounted_next {c : Course σ} (h : c.Accounted registry) (o : Occurrence σ) :
    (c.next o).Accounted registry := by
  cases o with
  | call call => exact accounted_call h call
  | turn i => exact accounted_turn h i
  | world s => exact accounted_of_same h rfl rfl
  | collect =>
      obtain ⟨⟨events, -, hdid⟩, -⟩ := c.runner.did_reportOutput
      exact accounted_of_same h hdid.registry hdid.journal

/-- **The run lemma**: every job of a course is accounted for. -/
theorem accounted_play {c : Course σ} (h : c.Accounted registry) (os : List (Occurrence σ)) :
    (c.play os).Accounted registry := by
  induction os generalizing c with
  | nil => exact h
  | cons o os ih => exact ih (accounted_next h o)

/-- **Gate safety over whole runs**: whatever is spawned in a course is spawned by a call whose
order passed the gate with this very command, and calls that are refused have no effects. -/
theorem play_gateSafe (r : Runner σ) (os : List (Occurrence σ)) :
    (∀ request, .spawn request ∈ ((start r).play os).runner.system.journal →
      ∃ job ∈ ((start r).play os).jobs, ∃ t ∈ job.turns, .spawn request ∈ t.deeds) ∧
    ∀ job ∈ ((start r).play os).jobs, job.GateSafe r.registry := by
  have haccounted := accounted_play (accounted_start r) os
  refine ⟨fun request hmem => haccounted.deeds _ hmem, fun job hjob => ?_⟩
  exact (haccounted.jobs job hjob).gateSafe

end Course

end Turnstile
