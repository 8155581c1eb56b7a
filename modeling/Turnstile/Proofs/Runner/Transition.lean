import Turnstile.Proofs.Runner.Course
import Turnstile.Proofs.Service.Waiting

/-!
# What the operations of a runner do with processes

`Runner.Beginning` lists what the beginning of a call can do with the table of services, and
`Runner.Transition` what a step of an operation can do with it and with the processes that the
operation has to do with. Whatever is proved about them is read off these lists.

**Theorem** (`begin_beginning`): the beginning of a call does one of the things of the first list.
**Theorem** (`step_transition`): a step of an operation does one of the things of the second.
-/

namespace Turnstile

/-- A watch over a service starts exactly if the clock can show how long it lasts. -/
theorem Watch.start?_eq_none_iff {c : ReadinessCriteria} {now : Instant} :
    start? c now = none ↔ ¬ now.CanShow c.deadline := by
  unfold start?
  rw [Option.map_eq_none_iff, Monitor.start?_eq_none_iff]

variable {σ : Type}

namespace Runner

/-- The same tools, services and started processes. -/
structure Alike (r r' : Runner σ) : Prop where
  registry : r'.registry = r.registry
  services : r'.services = r.services
  streams : r'.streams = r.streams

/-- What two steps have in common, both leave. -/
theorem Alike.trans {r₁ r₂ r₃ : Runner σ} (h₁ : Alike r₁ r₂) (h₂ : Alike r₂ r₃) : Alike r₁ r₃ where
  registry := h₂.registry.trans h₁.registry
  services := h₂.services.trans h₁.services
  streams := h₂.streams.trans h₁.streams

variable [Platform σ] (r : Runner σ) (inv : Invocation)

/-- A report of output changes events and traffic only. -/
theorem reportOutput_alike : Alike r r.reportOutput := by
  obtain ⟨outputs, -, hreport⟩ := reportOutput_eq_outputs r
  rw [hreport]
  exact ⟨rfl, rfl, rfl⟩

/-- An entry of the trail changes none of the tables. -/
theorem log_alike (result : AuditResult) : Alike r (r.log inv result) := by
  obtain haudit | ⟨sink, haudit⟩ := Option.eq_none_or_eq_some r.audit
  · rw [log_none r haudit]
    exact ⟨rfl, rfl, rfl⟩
  · rw [log_some r haudit]
    exact ⟨rfl, rfl, rfl⟩

/-- An answer is a result of the given status, and changes none of the tables. -/
theorem answer_alike (status : Status) (raw : Option Bytes) :
    ∃ r' result, r.answer inv status raw = (r', .finished (.invocation (.ok result))) ∧
      Alike r r' ∧ result.status = status := by
  refine ⟨_, _, rfl, ?_, rfl⟩
  have hlogged := log_alike r.reportOutput inv (.ofStatus status)
  have hboth := (reportOutput_alike r).trans hlogged
  exact ⟨hboth.registry, hboth.services, hboth.streams⟩

/-! ### Beginnings -/

/-- The last that was done is to ask a process to end. -/
def HasAsked (r : Runner σ) (p : ProcessId) : Prop := ∃ s, r.system = Platform.requestStop p s

/-- What the beginning of a call can do with services. -/
inductive Beginning (r : Runner σ) : RunnerCall → Runner σ × Stage → Prop
  /-- The call is over: it asked, it was refused, or there is nothing to stop. -/
  | answered {call : RunnerCall} {r' : Runner σ} {stage : Stage} : Alike r r' →
      (call = .shutdown → r.services = []) →
      (∀ op, stage = .going op → ∃ a, op = .finished a ∧
        ∀ result readiness, a = .invocation (.ok result) → result.status ≠ .started readiness) →
      Beginning r call (r', stage)
  /-- No service of the tool is in the table. -/
  | passed {e : Entry} {inv : Invocation} {r' : Runner σ} : Alike r r' →
      r.registry.find? inv.tool.id = some inv.tool →
      (inv.tool.isService = true → r.services.lookup inv.tool.id = none) →
      Beginning r (.run e) (r', .going (.invoking inv .starting))
  /-- The service of the tool is taken out of the table and asked to end. -/
  | relaunched {e : Entry} {inv : Invocation} {previous : ServiceEntry} {r' : Runner σ} :
      r'.registry = r.registry → r'.streams = r.streams →
      r.services.lookup inv.tool.id = some previous →
      r'.services = r.services.filter (·.1 != inv.tool.id) → HasAsked r' previous.process →
      Beginning r (.run e) (r', .going (.invoking inv (.clearing previous.process)))
  | stopped {id : String} {e : ServiceEntry} {r' : Runner σ} :
      r'.registry = r.registry → r'.streams = r.streams → r.services.lookup id = some e →
      r'.services = r.services.filter (·.1 != id) → HasAsked r' e.process →
      Beginning r (.stopService id) (r', .going (.stopping e))
  /-- All services are taken out of the table, and the first is asked to end. -/
  | shutDown {e : ServiceEntry} {rest : List ServiceEntry} {r' : Runner σ} :
      r'.registry = r.registry → r'.streams = r.streams →
      r.services.map (·.2) = e :: rest → r'.services = [] → HasAsked r' e.process →
      Beginning r .shutdown (r', .going (.stoppingAll e rest []))

/-- Where no service is in the table, none is taken. -/
theorem takeService_none {id : String} (h : r.services.lookup id = none) :
    r.takeService id = (none, r) := by
  unfold takeService ServiceTable.take
  rw [h]

/-- The service of an id is taken out of the table. -/
theorem takeService_some {id : String} {e : ServiceEntry} (h : r.services.lookup id = some e) :
    r.takeService id = (some e, { r with
      services := r.services.filter (·.1 != id)
      system := Platform.requestStop e.process r.system }) := by
  unfold takeService ServiceTable.take
  rw [h]

variable {r inv}

/-- A call that is answered at once has begun without a process. -/
theorem beginning_of_answer {before : Runner σ} (hsame : Alike before r) (e : Entry)
    {status : Status} (hstatus : ∀ readiness, status ≠ .started readiness) (raw : Option Bytes) :
    Beginning before (.run e)
      ((r.answer inv status raw).1, .going (r.answer inv status raw).2) := by
  obtain ⟨r', result, hanswer, hanswered, rfl⟩ := answer_alike r inv status raw
  rw [hanswer]
  refine .answered (hsame.trans hanswered) (fun h => by cases h) fun op hop =>
    ⟨_, (Stage.going.inj hop).symm, ?_⟩
  rintro result' readiness ⟨⟩
  exact hstatus readiness

/-- A command that passes the gate starts, or has the service before it to stop. -/
theorem letPass_beginning {before : Runner σ} (hsame : Alike before r)
    (hfind : r.registry.find? inv.tool.id = some inv.tool) (e : Entry) :
    Beginning before (.run e) ((r.letPass inv).1, .going (r.letPass inv).2) := by
  have hreported : Alike r (r.reportOutput.report (.started inv.tool.id inv.id inv.command)) :=
    (reportOutput_alike r).trans ⟨rfl, rfl, rfl⟩
  have hpassed := hsame.trans hreported
  rw [hsame.registry] at hfind
  unfold letPass
  generalize r.reportOutput.report (.started inv.tool.id inv.id inv.command) = reported
    at hpassed
  by_cases hservice : inv.tool.isService
  · simp only [if_pos hservice]
    obtain hlookup | ⟨previous, hlookup⟩ :=
      Option.eq_none_or_eq_some (reported.services.lookup inv.tool.id)
    · rw [takeService_none reported hlookup]
      rw [hpassed.services] at hlookup
      exact .passed hpassed hfind fun _ => hlookup
    · rw [takeService_some reported hlookup]
      rw [hpassed.services] at hlookup
      exact .relaunched hpassed.registry hpassed.streams hlookup
        (congrArg (List.filter (·.1 != inv.tool.id)) hpassed.services) ⟨_, rfl⟩
  · simp only [if_neg hservice]
    exact .passed hpassed hfind fun h => (hservice h).elim

/-- What the gate decides either answers the call or lets the command pass. -/
theorem obeyGate_beginning {before : Runner σ} (hsame : Alike before r)
    (hfind : r.registry.find? inv.tool.id = some inv.tool) (isConfirmed : Bool) (e : Entry) :
    Beginning before (.run e)
      ((r.obeyGate inv isConfirmed).1, .going (r.obeyGate inv isConfirmed).2) := by
  unfold obeyGate
  cases inv.decision with
  | deny pattern => exact beginning_of_answer hsame e (fun _ h => by cases h) none
  | allow => exact letPass_beginning hsame hfind e
  | requireConfirmation pattern =>
      cases isConfirmed with
      | true => exact letPass_beginning hsame hfind e
      | false => exact beginning_of_answer hsame e (fun _ h => by cases h) none

/-- A tool is found by its own id. -/
theorem id_of_find? {registry : Registry} {id : String} {tool : Tool}
    (h : registry.find? id = some tool) : tool.id = id := by
  unfold Registry.find? at h
  simpa using List.find?_some h

/-- An order begins with the gate, unless its tool is unknown or its bindings do not fit. -/
theorem beginOrder_beginning (r : Runner σ) (e : Entry) :
    Beginning r (.run e) ((r.beginOrder e.order).1, .going (r.beginOrder e.order).2) := by
  have hrefused (error : ToolError) :
      Beginning r (.run e) (r, .going (.finished (.invocation (.error error)))) := by
    refine .answered ⟨rfl, rfl, rfl⟩ (fun h => by cases h) fun op hop =>
      ⟨_, (Stage.going.inj hop).symm, ?_⟩
    rintro result readiness ⟨⟩
  unfold beginOrder
  cases hfind : r.registry.find? e.order.id with
  | none =>
      rw [beginInvocation_unknown hfind]
      exact hrefused _
  | some tool =>
      cases hrender : tool.render e.order.bindings with
      | error f =>
          rw [beginInvocation_invalid hfind hrender]
          exact hrefused _
      | ok command =>
          rw [beginInvocation_rendered hfind hrender]
          have hcounted : Alike r { r with count := r.count + 1 } := ⟨rfl, rfl, rfl⟩
          have hid := id_of_find? hfind
          refine obeyGate_beginning hcounted ?_ _ e
          change r.registry.find? tool.id = some tool
          rw [hid, hfind]

/-- A stop begins with the process of the service in its hands. -/
theorem beginStop_beginning (r : Runner σ) (id : String) :
    Beginning r (.stopService id) ((r.beginStop id).1, .going (r.beginStop id).2) := by
  unfold beginStop
  obtain hlookup | ⟨e, hlookup⟩ := Option.eq_none_or_eq_some (r.services.lookup id)
  · rw [takeService_none r hlookup]
    refine .answered ⟨rfl, rfl, rfl⟩ (fun h => by cases h) fun op hop =>
      ⟨_, (Stage.going.inj hop).symm, ?_⟩
    rintro result readiness ⟨⟩
  · rw [takeService_some r hlookup]
    exact .stopped rfl rfl hlookup rfl ⟨_, rfl⟩

/-- The end of all services begins with all of their processes in its hands. -/
theorem beginShutdown_beginning (r : Runner σ) :
    Beginning r .shutdown (r.beginShutdown.1, .going r.beginShutdown.2) := by
  unfold beginShutdown
  cases hservices : r.services with
  | nil =>
      refine .answered ⟨rfl, hservices.symm, rfl⟩ (fun _ => hservices) fun op hop =>
        ⟨_, (Stage.going.inj hop).symm, ?_⟩
      rintro result readiness ⟨⟩
  | cons s rest => exact .shutDown rfl rfl (congrArg (List.map (·.2)) hservices) rfl ⟨_, rfl⟩

/-- **The beginning of a call does one of the things on the list.** -/
theorem begin_beginning (r : Runner σ) (call : RunnerCall) :
    Beginning r call (r.begin call) := by
  cases call with
  | check _ _ | serviceStatus _ =>
      exact .answered ⟨rfl, rfl, rfl⟩ (fun h => by cases h) fun op hop => by cases hop
  | run e => exact beginOrder_beginning r e
  | stopService id => exact beginStop_beginning r id
  | shutdown => exact beginShutdown_beginning r

/-! ### Steps -/

/-- What a step of an operation can do with services and processes. -/
inductive Transition (r : Runner σ) : Operation → Runner σ × Operation → Prop
  /-- The service that ran before has ended. -/
  | cleared {inv : Invocation} {previous : ProcessId} :
      Platform.isRunning r.system previous = false →
      Transition r (.invoking inv (.clearing previous)) (r, .invoking inv .starting)
  | launched {inv : Invocation} {p : ProcessId} {phase : Phase} {r' : Runner σ} :
      r'.registry = r.registry → r'.services = r.services →
      r'.streams = (p, inv.tool.id, inv.id) :: r.streams →
      (phase = .running p ∨ phase = .failing p ∨ ∃ now w, phase = .watching p now w) →
      Transition r (.invoking inv .starting) (r', .invoking inv phase)
  /-- The process was started, and the clock cannot show how long it is to be waited for. -/
  | brokenOff {inv : Invocation} {p : ProcessId} {criteria : ReadinessCriteria} {r' : Runner σ} :
      r'.registry = r.registry → r'.services = r.services →
      r'.streams = (p, inv.tool.id, inv.id) :: r.streams →
      inv.tool.readiness = some criteria →
      ¬ (Platform.now r'.system).CanShow criteria.deadline →
      Transition r (.invoking inv .starting) (r', .brokenOff inv p)
  | unstarted {inv : Invocation} {e : ToolError} {r' : Runner σ} : Alike r r' →
      Transition r (.invoking inv .starting) (r', .finished (.invocation (.error e)))
  /-- The process has ended. -/
  | ended {inv : Invocation} {phase : Phase} {p : ProcessId} {o : Outcome} {r' : Runner σ}
      {result : InvocationResult} : phase = .running p ∨ phase = .failing p →
      Platform.outcome? r.system p = some o → Alike r r' → result.status = statusOf o →
      Transition r (.invoking inv phase) (r', .finished (.invocation (.ok result)))
  | watched {inv : Invocation} {p : ProcessId} {startedAt : Instant} {w : Watch} {phase : Phase} :
      (phase = .failing p ∨ ∃ w', phase = .watching p startedAt w') →
      Transition r (.invoking inv (.watching p startedAt w)) (r, .invoking inv phase)
  /-- The service is put into the table. -/
  | entered {inv : Invocation} {p : ProcessId} {startedAt : Instant} {w : Watch}
      {readiness : Readiness} {e : ServiceEntry} {r' : Runner σ} {result : InvocationResult} :
      e.process = p → e.tool = inv.tool → r.services.lookup inv.tool.id = none →
      r'.registry = r.registry → r'.streams = r.streams →
      r'.services = (r.services.insert inv.tool.id e).2 → result.status = .started readiness →
      Transition r (.invoking inv (.watching p startedAt w))
        (r', .finished (.invocation (.ok result)))
  /-- The service replaces another one in the table, which is asked to end. -/
  | replaced {inv : Invocation} {p : ProcessId} {startedAt : Instant} {w : Watch}
      {readiness : Readiness} {raw : Bytes} {e old : ServiceEntry} {r' : Runner σ} :
      e.process = p → e.tool = inv.tool → r.services.lookup inv.tool.id = some old →
      r'.registry = r.registry → r'.streams = r.streams →
      r'.services = (r.services.insert inv.tool.id e).2 → HasAsked r' old.process →
      Transition r (.invoking inv (.watching p startedAt w))
        (r', .invoking inv (.replacing readiness raw old.process))
  /-- The service that was replaced has ended. -/
  | settled {inv : Invocation} {readiness : Readiness} {raw : Bytes} {replaced : ProcessId}
      {r' : Runner σ} {result : InvocationResult} :
      Platform.isRunning r.system replaced = false → Alike r r' →
      result.status = .started readiness →
      Transition r (.invoking inv (.replacing readiness raw replaced))
        (r', .finished (.invocation (.ok result)))
  | stopped {e : ServiceEntry} {status : Option ServiceStatus} :
      Platform.isRunning r.system e.process = false →
      Transition r (.stopping e) (r, .finished (.stopped status))
  /-- The next service is asked to end. -/
  | stoppedOne {e e' : ServiceEntry} {rest : List ServiceEntry} {done done' : List ServiceStatus}
      {r' : Runner σ} : Platform.isRunning r.system e.process = false → Alike r r' →
      HasAsked r' e'.process →
      Transition r (.stoppingAll e (e' :: rest) done) (r', .stoppingAll e' rest done')
  | stoppedAll {e : ServiceEntry} {done ss : List ServiceStatus} :
      Platform.isRunning r.system e.process = false →
      Transition r (.stoppingAll e [] done) (r, .finished (.allStopped ss))

/-- A start has a process in its hands, breaks off with it, or is refused. -/
theorem start_transition (r : Runner σ) (inv : Invocation) :
    Transition r (.invoking inv .starting) (r.start inv) := by
  rcases hspawn : Platform.spawn (r.requestOf inv) r.system with ⟨result, system⟩
  cases result with
  | error e =>
      rw [start_error hspawn]
      have hlogged := log_alike { r with system } inv (.error (ToolError.spawn e.message).message)
      exact .unstarted ⟨hlogged.registry, hlogged.services, hlogged.streams⟩
  | ok p =>
      rw [start_ok hspawn]
      obtain ⟨phase, hphase, hwhich⟩ | ⟨hbroken, criteria, hcriteria, hwatch⟩ :=
        Operation.launched_cases inv p (Platform.now system)
      · rw [hphase]
        refine .launched rfl rfl rfl (hwhich.imp_right (Or.imp_right ?_))
        rintro ⟨w, rfl⟩
        exact ⟨_, w, rfl⟩
      · rw [hbroken]
        exact .brokenOff rfl rfl rfl hcriteria (Watch.start?_eq_none_iff.mp hwatch)

/-- A service goes into the table, and the one before it comes into the hands. -/
theorem enter_transition (r : Runner σ) (inv : Invocation) (p : ProcessId) (startedAt : Instant)
    (w : Watch) (readiness : Readiness) :
    Transition r (.invoking inv (.watching p startedAt w))
      (r.enter inv p startedAt readiness) := by
  cases hlookup : r.services.lookup inv.tool.id with
  | none =>
      rw [enter_new hlookup]
      obtain ⟨r', result, hanswer, halike, hstatus⟩ :=
        answer_alike (r.entered inv p startedAt readiness) inv (.started readiness)
          (some (Platform.capture r.system p).bytes)
      rw [hanswer]
      exact .entered rfl rfl hlookup halike.registry halike.streams halike.services hstatus
  | some old =>
      rw [enter_replacing hlookup]
      exact .replaced rfl rfl hlookup rfl rfl rfl ⟨_, rfl⟩

/-- **A step of an operation does one of the things on the list.** -/
theorem step_transition {r : Runner σ} {op : Operation} {s : Runner σ × Operation}
    (h : r.step op = some s) : Transition r op s := by
  have hended {inv : Invocation} {phase : Phase} {p : ProcessId}
      (hphase : phase = .running p ∨ phase = .failing p)
      (h : (Platform.outcome? r.system p).map (fun o =>
        r.answer inv (statusOf o) (some (Platform.capture r.system p).bytes)) = some s) :
      Transition r (.invoking inv phase) s := by
    obtain ⟨o, ho, rfl⟩ := Option.map_eq_some_iff.mp h
    obtain ⟨r', result, hanswer, halike, hstatus⟩ := answer_alike r inv (statusOf o)
      (some (Platform.capture r.system p).bytes)
    rw [hanswer]
    exact .ended hphase ho halike hstatus
  cases op with
  | invoking inv phase =>
      cases phase with
      | clearing previous =>
          obtain ⟨hgone, rfl⟩ : Platform.isRunning r.system previous = false ∧ _ = s := by
            simpa [step] using h
          exact .cleared hgone
      | starting =>
          cases h
          exact start_transition r inv
      | running p => exact hended (.inl rfl) h
      | watching p startedAt w =>
          obtain ⟨phase, rfl, hphase⟩ | ⟨readiness, rfl⟩ := look_cases h
          · exact .watched hphase
          · exact enter_transition r inv p startedAt w readiness
      | failing p => exact hended (.inr rfl) h
      | replacing readiness raw replaced =>
          obtain ⟨hgone, rfl⟩ : Platform.isRunning r.system replaced = false ∧ _ = s := by
            simpa [step] using h
          obtain ⟨r', result, hanswer, halike, hstatus⟩ :=
            answer_alike r inv (.started readiness) (some raw)
          rw [hanswer]
          exact .settled hgone halike hstatus
  | stopping e =>
      obtain ⟨hgone, rfl⟩ : Platform.isRunning r.system e.process = false ∧ _ = s := by
        simpa [step] using h
      exact .stopped hgone
  | stoppingAll e rest done =>
      obtain ⟨hgone, rfl⟩ : Platform.isRunning r.system e.process = false ∧ _ = s := by
        simpa [step] using h
      cases rest with
      | nil => exact .stoppedAll hgone
      | cons e' rest => exact .stoppedOne hgone ⟨rfl, rfl, rfl⟩ ⟨_, rfl⟩
  | brokenOff _ _ | finished _ => cases h

end Runner

end Turnstile
