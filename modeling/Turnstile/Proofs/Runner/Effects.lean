import Turnstile.Proofs.Runner.Recorded

/-!
# What the parts of a runner do

`Runner.Did` says what a runner did between two of its states: the deeds on the platform and the
events that it reported. Each part of an operation has a lemma with what it did, and the parts are
put together by `Did.trans`.

**Theorem** (`invoking_steps`): whatever an invocation that passed the gate does in a step is its
own (`Invocation.Owns`), and it goes on or ends with an answer of its own (`Invocation.Goes`).
**Theorem** (`stop_stops`): a step of an operation that stops services asks processes to end, and
does nothing else.
-/

namespace Turnstile

variable {σ : Type}

/-! ### Deeds and reports -/

/-- Some output of a process. -/
def Event.IsOutput : Event → Prop
  | .output .. => True
  | _ => False

namespace Runner

/-- A chunk of output is reported as such, or belongs to no process that is known. -/
theorem reportChunk_eq (r : Runner σ) (c : ProcessId × Bytes) :
    ∃ outputs : List Event, (∀ e ∈ outputs, e.IsOutput) ∧
      r.reportChunk c = { r with events := r.events.map (outputs ++ ·) } := by
  unfold reportChunk
  cases r.streams.lookup c.1 with
  | none => exact ⟨[], by simp, by simp⟩
  | some owner =>
      refine ⟨[.output owner.1 owner.2 (Utf8.decodeLossy c.2)], fun e he => ?_, rfl⟩
      rw [List.mem_singleton.mp he]
      trivial

/-- Chunks are reported as output, one event each. -/
theorem reportChunks_eq (r : Runner σ) (chunks : List (ProcessId × Bytes)) :
    ∃ outputs : List Event, (∀ e ∈ outputs, e.IsOutput) ∧
      chunks.foldl reportChunk r = { r with events := r.events.map (outputs ++ ·) } := by
  induction chunks generalizing r with
  | nil => exact ⟨[], by simp, by simp⟩
  | cons c chunks ih =>
      obtain ⟨outputs₁, houtput₁, hchunk⟩ := reportChunk_eq r c
      obtain ⟨outputs₂, houtput₂, hchunks⟩ := ih (r.reportChunk c)
      refine ⟨outputs₂ ++ outputs₁, fun e he => ?_, ?_⟩
      · exact (List.mem_append.mp he).elim (houtput₂ e) (houtput₁ e)
      · rw [List.foldl_cons, hchunks, hchunk]
        simp [Function.comp_def]

/-- To report output is to take what arrived, and to add events that show it. -/
theorem reportOutput_eq_outputs [Platform σ] (r : Runner σ) :
    ∃ outputs : List Event, (∀ e ∈ outputs, e.IsOutput) ∧
      r.reportOutput = { r with
        system := (Platform.takeChunks r.system).2
        events := r.events.map (outputs ++ ·) } := by
  rw [reportOutput_eq]
  exact reportChunks_eq { r with system := (Platform.takeChunks r.system).2 } _

/-- What a runner did between two states, the latest first. Its tools and the sink of its audit
trail never change. -/
structure Did (r : Runner (Recorded σ)) (deeds : List Deed) (events : List Event)
    (r' : Runner (Recorded σ)) : Prop where
  journal : r'.system.journal = deeds ++ r.system.journal
  events : r'.events = r.events.map (events ++ ·)
  registry : r'.registry = r.registry
  audit : r'.audit = r.audit

/-- Deeds of which nothing is reported. -/
theorem Did.quiet {r r' : Runner (Recorded σ)} {deeds : List Deed}
    (hjournal : r'.system.journal = deeds ++ r.system.journal) (hevents : r'.events = r.events)
    (hregistry : r'.registry = r.registry) (haudit : r'.audit = r.audit) :
    Did r deeds [] r' where
  journal := hjournal
  events := by
    rw [hevents]
    exact Option.map_id'.symm
  registry := hregistry
  audit := haudit

/-- What two steps do is done one after the other. -/
theorem Did.trans {r₁ r₂ r₃ : Runner (Recorded σ)} {deeds₁ deeds₂ : List Deed}
    {events₁ events₂ : List Event} (h₁ : Did r₁ deeds₁ events₁ r₂)
    (h₂ : Did r₂ deeds₂ events₂ r₃) : Did r₁ (deeds₂ ++ deeds₁) (events₂ ++ events₁) r₃ where
  journal := by rw [h₂.journal, h₁.journal, List.append_assoc]
  events := by
    rw [h₂.events, h₁.events, Option.map_map]
    refine Option.map_congr fun es _ => ?_
    exact (List.append_assoc events₂ events₁ es).symm
  registry := h₂.registry.trans h₁.registry
  audit := h₂.audit.trans h₁.audit

/-- What was done after nothing was done. -/
theorem Did.after {r₁ r₂ r₃ : Runner (Recorded σ)} {deeds : List Deed} {events : List Event}
    (h₁ : Did r₁ [] [] r₂) (h₂ : Did r₂ deeds events r₃) : Did r₁ deeds events r₃ := by
  have hboth := h₁.trans h₂
  rwa [List.append_nil, List.append_nil] at hboth

/-- An event that is reported is one event and no deed. -/
theorem did_report (r : Runner (Recorded σ)) (e : Event) : Did r [] [e] (r.report e) where
  journal := rfl
  events := rfl
  registry := rfl
  audit := rfl

variable [Platform σ] (r : Runner (Recorded σ))

/-- A report of output has events of output only, and no deed. -/
theorem did_reportOutput :
    (∃ events, (∀ e ∈ events, e.IsOutput) ∧ Did r [] events r.reportOutput) ∧
      r.reportOutput.services = r.services := by
  obtain ⟨outputs, houtput, hreport⟩ := reportOutput_eq_outputs r
  rw [hreport]
  exact ⟨⟨outputs, houtput, ⟨rfl, rfl, rfl, rfl⟩⟩, rfl⟩

end Runner

/-! ### What belongs to an invocation -/

/-- An answer that was turned away without anything being started. -/
def Status.IsRefusal : Status → Prop
  | .denied _ | .confirmationRequired _ => True
  | _ => False

/-- A result that carries what the invocation was. -/
structure InvocationResult.Of (result : InvocationResult) (inv : Invocation) : Prop where
  invocationId : result.invocationId = inv.id
  toolId : result.toolId = inv.tool.id
  command : result.command = inv.command
  decision : result.decision = inv.decision

/-- An entry of the audit trail that carries what the invocation was. -/
structure AuditEntry.Of (entry : AuditEntry) (inv : Invocation) : Prop where
  invocationId : entry.invocationId = inv.id
  tool : entry.tool = inv.tool.id
  command : entry.command = inv.command

namespace Invocation

/-- Whatever in deeds and reports names a command names that of the invocation. -/
structure Owns (inv : Invocation) (deeds : List Deed) (events : List Event) : Prop where
  spawn : ∀ request, .spawn request ∈ deeds → request.command = inv.command
  recorded : ∀ d ∈ deeds, d.isRecord = true →
    ∃ (sink : AuditSink) (entry : AuditEntry), entry.Of inv ∧ d = sink.deed entry
  started : ∀ tool id command, .started tool id command ∈ events →
    tool = inv.tool.id ∧ id = inv.id ∧ command = inv.command

/-- If there is an audit trail, an entry of the invocation is handed over to its sink. -/
def LoggedIn (inv : Invocation) (audit : Option AuditSink) (deeds : List Deed) : Prop :=
  ∀ sink, audit = some sink → ∃ entry : AuditEntry, entry.Of inv ∧ sink.deed entry ∈ deeds

/-- How an invocation that the gate let pass goes on after a step. -/
inductive Goes (inv : Invocation) (audit : Option AuditSink) (deeds : List Deed) :
    Operation → Prop
  | on (phase : Phase) : Goes inv audit deeds (.invoking inv phase)
  | brokenOff (p : ProcessId) : Goes inv audit deeds (.brokenOff inv p)
  | answered (result : InvocationResult) :
      result.Of inv → ¬ result.status.IsRefusal → inv.LoggedIn audit deeds →
        Goes inv audit deeds (.finished (.invocation (.ok result)))
  | failed (message : String) :
      inv.LoggedIn audit deeds →
        Goes inv audit deeds (.finished (.invocation (.error (.spawn message))))

variable {inv : Invocation} {deeds deeds' : List Deed} {events events' : List Event}

/-- What two steps own, both own. -/
theorem Owns.both (h : inv.Owns deeds events) (h' : inv.Owns deeds' events') :
    inv.Owns (deeds' ++ deeds) (events' ++ events) where
  spawn request hmem := (List.mem_append.mp hmem).elim (h'.spawn request) (h.spawn request)
  recorded d hmem := (List.mem_append.mp hmem).elim (h'.recorded d) (h.recorded d)
  started tool id command hmem :=
    (List.mem_append.mp hmem).elim (h'.started tool id command) (h.started tool id command)

/-- Nothing belongs to any invocation. -/
theorem owns_nothing (inv : Invocation) : inv.Owns [] [] where
  spawn _ hmem := by cases hmem
  recorded _ hmem := by cases hmem
  started _ _ _ hmem := by cases hmem

/-- A stop that is asked for belongs to whichever invocation asks. -/
theorem owns_requestStop (inv : Invocation) (p : ProcessId) : inv.Owns [.requestStop p] [] where
  spawn _ hmem := by cases List.mem_singleton.mp hmem
  recorded _ hmem hrecord := by
    cases List.mem_singleton.mp hmem
    cases hrecord
  started _ _ _ hmem := by cases hmem

end Invocation

/-- An operation that stops services. -/
def Operation.IsStop : Operation → Prop
  | .stopping _ | .stoppingAll .. | .finished (.stopped _) | .finished (.allStopped _) => True
  | _ => False

namespace Runner

/-- In a step, an invocation that the gate let pass did what is its own. -/
def Steps (r : Runner (Recorded σ)) (inv : Invocation) (s : Runner (Recorded σ) × Operation) :
    Prop :=
  ∃ deeds events, inv.Owns deeds events ∧ Did r deeds events s.1 ∧ inv.Goes r.audit deeds s.2

/-- In a step, services were asked to end, and nothing was started, reported or written. -/
def Stops (r : Runner (Recorded σ)) (s : Runner (Recorded σ) × Operation) : Prop :=
  ∃ deeds, (∀ d ∈ deeds, ∃ p, d = .requestStop p) ∧ Did r deeds [] s.1 ∧ s.2.IsStop

/-- To wait, or to look and go on watching, leaves no trace. -/
theorem waits_steps (r : Runner (Recorded σ)) (inv : Invocation) (phase : Phase) :
    r.Steps inv (r, .invoking inv phase) :=
  ⟨[], [], inv.owns_nothing, .quiet rfl rfl rfl rfl, .on phase⟩

variable [Platform σ] (r : Runner (Recorded σ)) (inv : Invocation)

/-! ### The ends of an invocation -/

/-- An entry is added to the audit trail, and nothing else is done. -/
theorem did_log_some {sink : AuditSink} (haudit : r.audit = some sink) (result : AuditResult) :
    Did r [sink.deed (r.entryOf inv result)] [] (r.log inv result) := by
  rw [log_some r haudit]
  exact .quiet (sink.log_journal _ r.system) rfl rfl rfl

/-- If there is no audit trail, nothing is done. -/
theorem did_log (result : AuditResult) :
    ∃ deeds, inv.Owns deeds [] ∧ inv.LoggedIn r.audit deeds ∧
      (∀ d ∈ deeds, d.isRecord = true) ∧ Did r deeds [] (r.log inv result) := by
  obtain haudit | ⟨sink, haudit⟩ := Option.eq_none_or_eq_some r.audit
  · rw [log_none r haudit, haudit]
    refine ⟨[], inv.owns_nothing, fun _ hsink => ?_, fun _ hd => ?_, .quiet rfl rfl rfl rfl⟩
    · cases hsink
    · cases hd
  · have hentry : (r.entryOf inv result).Of inv := ⟨rfl, rfl, rfl⟩
    have hrecord := sink.isRecord_deed (r.entryOf inv result)
    refine ⟨_, ⟨?_, ?_, ?_⟩, ?_, ?_, did_log_some r inv haudit result⟩
    · intro request hmem
      rw [← List.mem_singleton.mp hmem] at hrecord
      cases hrecord
    · intro d hmem _
      exact ⟨sink, _, hentry, List.mem_singleton.mp hmem⟩
    · intro tool id command hmem
      cases hmem
    · intro sink' hsink
      cases haudit.symm.trans hsink
      exact ⟨_, hentry, List.mem_singleton.mpr rfl⟩
    · intro d hd
      rwa [List.mem_singleton.mp hd]

/-- The trail has no part in the table of services. -/
theorem log_services (result : AuditResult) : (r.log inv result).services = r.services := by
  obtain haudit | ⟨sink, haudit⟩ := Option.eq_none_or_eq_some r.audit
  · rw [log_none r haudit]
  · rw [log_some r haudit]

/-- The runner after an answer. -/
theorem answer_runner (status : Status) (raw : Option Bytes) :
    ∃ stats, (r.answer inv status raw).1 =
      (r.reportOutput.log inv (.ofStatus status)).report
        (.completed inv.tool.id inv.id status stats) :=
  ⟨_, rfl⟩

/-- An answer is added to the audit trail, and nothing is started or asked to end for it. -/
theorem did_answer (status : Status) (raw : Option Bytes) :
    ∃ deeds events, inv.Owns deeds events ∧ inv.LoggedIn r.audit deeds ∧
      (∀ d ∈ deeds, d.isRecord = true) ∧
      (∀ tool id command, .started tool id command ∉ events) ∧
      Did r deeds events (r.answer inv status raw).1 := by
  obtain ⟨⟨outputs, houtput, hreported⟩, -⟩ := did_reportOutput r
  obtain ⟨deeds, howns, hlogged, hrecords, hdid⟩ := did_log r.reportOutput inv (.ofStatus status)
  obtain ⟨stats, hrunner⟩ := answer_runner r inv status raw
  have hquiet (tool id command : String) :
      .started tool id command ∉ .completed inv.tool.id inv.id status stats :: outputs := by
    intro hmem
    cases hmem with
    | tail _ hmem => exact houtput _ hmem
  rw [hreported.audit] at hlogged
  refine ⟨deeds, _, ⟨howns.spawn, howns.recorded, ?_⟩, hlogged, hrecords, hquiet, ?_⟩
  · intro tool id command hmem
    exact (hquiet tool id command hmem).elim
  · rw [hrunner]
    simpa using (hreported.trans hdid).trans (did_report _ _)

/-- Neither has an answer. -/
theorem answer_services (status : Status) (raw : Option Bytes) :
    (r.answer inv status raw).1.services = r.services := by
  have hlog := log_services r.reportOutput inv (.ofStatus status)
  exact hlog.trans (did_reportOutput r).2

/-- The answer carries the invocation. -/
theorem answer_result (status : Status) (raw : Option Bytes) :
    ∃ result : InvocationResult, result.Of inv ∧ result.status = status ∧
      (r.answer inv status raw).2 = .finished (.invocation (.ok result)) :=
  ⟨_, ⟨rfl, rfl, rfl, rfl⟩, rfl, rfl⟩

/-! ### Services -/

/-- A service that is taken out of the table is asked to end. -/
theorem did_takeService (id : String) :
    (∃ e, (r.takeService id).1 = some e ∧
        Did r [.requestStop e.process] [] (r.takeService id).2) ∨
      (r.takeService id).1 = none ∧ (r.takeService id).2 = r := by
  unfold takeService ServiceTable.take
  cases r.services.lookup id with
  | none => exact .inr ⟨rfl, rfl⟩
  | some e => exact .inl ⟨e, rfl, .quiet rfl rfl rfl rfl⟩

/-! ### The step of an invocation -/

/-- An invocation that goes on is reported as started, and the service that runs is asked to
end. -/
theorem letPass_steps :
    ∃ deeds events, inv.Owns deeds events ∧ Did r deeds events (r.letPass inv).1 ∧
      inv.Goes r.audit deeds (r.letPass inv).2 ∧
      .started inv.tool.id inv.id inv.command ∈ events := by
  obtain ⟨⟨outputs, houtput, hreported⟩, -⟩ := did_reportOutput r
  have hstarted := hreported.trans (did_report _ (.started inv.tool.id inv.id inv.command))
  have howns : inv.Owns [] (.started inv.tool.id inv.id inv.command :: outputs) := by
    refine ⟨fun _ hmem => (List.not_mem_nil hmem).elim,
      fun _ hmem => (List.not_mem_nil hmem).elim, ?_⟩
    intro tool id command hmem
    cases hmem with
    | head => exact ⟨rfl, rfl, rfl⟩
    | tail _ hmem => exact (houtput _ hmem).elim
  have hmem : .started inv.tool.id inv.id inv.command ∈
      .started inv.tool.id inv.id inv.command :: outputs := List.mem_cons_self
  unfold letPass
  generalize r.reportOutput.report (.started inv.tool.id inv.id inv.command) = reported at hstarted
  by_cases hservice : inv.tool.isService
  · simp only [if_pos hservice]
    rcases htake : reported.takeService inv.tool.id with ⟨entry, taken⟩
    obtain ⟨e, hentry, hdid⟩ | ⟨hentry, hrunner⟩ := did_takeService reported inv.tool.id
    · rw [htake] at hentry hdid
      cases hentry
      exact ⟨_, _, howns.both (inv.owns_requestStop e.process), hstarted.trans hdid,
        .on (.clearing e.process), hmem⟩
    · rw [htake] at hentry hrunner
      cases hentry
      cases hrunner
      exact ⟨_, _, howns, hstarted, .on .starting, hmem⟩
  · simp only [if_neg hservice]
    exact ⟨_, _, howns, hstarted, .on .starting, hmem⟩

/-- An answer that is no refusal is a step of its invocation. -/
theorem answer_steps {status : Status} (h : ¬ status.IsRefusal) (raw : Option Bytes) :
    r.Steps inv (r.answer inv status raw) := by
  obtain ⟨deeds, events, howns, hlogged, -, -, hdid⟩ := did_answer r inv status raw
  obtain ⟨result, hresult, rfl, hanswer⟩ := answer_result r inv status raw
  refine ⟨deeds, events, howns, hdid, ?_⟩
  rw [hanswer]
  exact .answered result hresult h hlogged

/-- The command that is started is that of the invocation. -/
theorem start_steps : r.Steps inv (r.start inv) := by
  have howns : inv.Owns [.spawn (r.requestOf inv)] [] := by
    refine ⟨fun request hmem => ?_, fun d hmem hrecord => ?_, fun _ _ _ hmem => by cases hmem⟩
    · cases List.mem_singleton.mp hmem
      rfl
    · cases List.mem_singleton.mp hmem
      cases hrecord
  rcases hspawn : Platform.spawn (r.requestOf inv) r.system with ⟨result, system⟩
  have hjournal : system.journal = [.spawn (r.requestOf inv)] ++ r.system.journal := by
    have hsystem := congrArg (·.2.journal) hspawn
    exact hsystem.symm
  cases result with
  | error e =>
      have hspawned : Did r [.spawn (r.requestOf inv)] [] { r with system } :=
        .quiet hjournal rfl rfl rfl
      obtain ⟨deeds, hlog, hlogged, -, hdid⟩ := did_log { r with system } inv
        (.error (ToolError.spawn e.message).message)
      rw [start_error hspawn]
      refine ⟨_, _, howns.both hlog, hspawned.trans hdid, .failed e.message ?_⟩
      intro sink hsink
      obtain ⟨entry, hentry, hmem⟩ := hlogged sink hsink
      exact ⟨entry, hentry, List.mem_append_left _ hmem⟩
  | ok p =>
      rw [start_ok hspawn]
      have hgoes : inv.Goes r.audit [.spawn (r.requestOf inv)]
          (.launched inv p (Platform.now system)) := by
        obtain ⟨phase, hphase, -⟩ | ⟨hbroken, -⟩ :=
          Operation.launched_cases inv p (Platform.now system)
        · rw [hphase]
          exact .on phase
        · rw [hbroken]
          exact .brokenOff p
      exact ⟨_, _, howns, .quiet hjournal rfl rfl rfl, hgoes⟩

/-- A service is entered by a step of its invocation. -/
theorem enter_steps (p : ProcessId) (startedAt : Instant) (readiness : Readiness) :
    r.Steps inv (r.enter inv p startedAt readiness) := by
  have hstarted : ¬ (Status.started readiness).IsRefusal := id
  cases hlookup : r.services.lookup inv.tool.id with
  | none =>
      rw [enter_new hlookup]
      obtain ⟨deeds, events, howns, hdid, hgoes⟩ :=
        answer_steps (r.entered inv p startedAt readiness) inv hstarted
          (some (Platform.capture r.system p).bytes)
      have hentered : Did r [] [] (r.entered inv p startedAt readiness) := .quiet rfl rfl rfl rfl
      exact ⟨deeds, events, howns, hentered.after hdid, hgoes⟩
  | some e =>
      rw [enter_replacing hlookup]
      exact ⟨_, _, inv.owns_requestStop e.process, .quiet rfl rfl rfl rfl, .on _⟩

/-- No outcome of a process is a refusal. -/
theorem not_isRefusal_statusOf (o : Outcome) : ¬ (statusOf o).IsRefusal := by
  cases o <;> exact id

/-- What a step of an invocation can be. -/
inductive Moves {σ : Type} [Platform σ] (r : Runner σ) (inv : Invocation) :
    Runner σ × Operation → Prop
  | on (phase : Phase) : Moves r inv (r, .invoking inv phase)
  | started : Moves r inv (r.start inv)
  | entered (p : ProcessId) (startedAt : Instant) (readiness : Readiness) :
      Moves r inv (r.enter inv p startedAt readiness)
  | answered {status : Status} (raw : Option Bytes) :
      ¬ status.IsRefusal → Moves r inv (r.answer inv status raw)

/-- Whatever phase an invocation is in, its step is one of these. -/
theorem step_moves {r : Runner σ} {inv : Invocation} {phase : Phase} {s : Runner σ × Operation}
    (h : r.step (.invoking inv phase) = some s) : Moves r inv s := by
  cases phase with
  | clearing previous =>
      obtain ⟨-, rfl⟩ : Platform.isRunning r.system previous = false ∧ _ = s := by
        simpa [step] using h
      exact .on _
  | starting =>
      cases h
      exact .started
  | running p | failing p =>
      obtain ⟨o, -, rfl⟩ := Option.map_eq_some_iff.mp h
      exact .answered _ (not_isRefusal_statusOf o)
  | watching p startedAt w =>
      obtain ⟨phase, rfl, -⟩ | ⟨readiness, rfl⟩ := look_cases h
      · exact .on phase
      · exact .entered p startedAt readiness
  | replacing readiness raw replaced =>
      obtain ⟨-, rfl⟩ : Platform.isRunning r.system replaced = false ∧ _ = s := by
        simpa [step] using h
      have hstarted : ¬ (Status.started readiness).IsRefusal := id
      exact .answered _ hstarted

/-- **Whatever an invocation does in a step is its own**, and it ends with an answer of its own. -/
theorem invoking_steps {phase : Phase} {s : Runner (Recorded σ) × Operation}
    (h : r.step (.invoking inv phase) = some s) : r.Steps inv s := by
  cases step_moves h with
  | on phase => exact waits_steps r inv phase
  | started => exact start_steps r inv
  | entered p startedAt readiness => exact enter_steps r inv p startedAt readiness
  | answered raw hstatus => exact answer_steps r inv hstatus raw

/-! ### The step of a stop -/

/-- A stop begins as one. -/
theorem beginStop_stops (id : String) : r.Stops (r.beginStop id) := by
  unfold beginStop
  rcases htake : r.takeService id with ⟨entry, taken⟩
  obtain ⟨e, hentry, hdid⟩ | ⟨hentry, hrunner⟩ := did_takeService r id
  · rw [htake] at hentry hdid
    cases hentry
    exact ⟨_, fun d hd => ⟨_, List.mem_singleton.mp hd⟩, hdid, trivial⟩
  · rw [htake] at hentry hrunner
    cases hentry
    cases hrunner
    exact ⟨[], fun _ hd => (List.not_mem_nil hd).elim, .quiet rfl rfl rfl rfl, trivial⟩

/-- The next service is stopped by one. -/
theorem stopNext_stops (done : List ServiceStatus) (rest : List ServiceEntry) :
    r.Stops (r.stopNext done rest) := by
  cases rest with
  | nil => exact ⟨[], fun _ hd => (List.not_mem_nil hd).elim, .quiet rfl rfl rfl rfl, trivial⟩
  | cons e rest =>
      exact ⟨[.requestStop e.process], fun d hd => ⟨_, List.mem_singleton.mp hd⟩,
        .quiet rfl rfl rfl rfl, trivial⟩

/-- The end of all services begins as stops. -/
theorem beginShutdown_stops : r.Stops r.beginShutdown := by
  obtain ⟨deeds, hdeeds, hdid, hstop⟩ :=
    stopNext_stops { r with services := [] } [] (r.services.map Prod.snd)
  have hcleared : Did r [] [] { r with services := [] } := .quiet rfl rfl rfl rfl
  exact ⟨deeds, hdeeds, hcleared.after hdid, hstop⟩

/-- A step of a stop only stops services. -/
theorem stop_stops {op : Operation} (hop : op.IsStop) {s : Runner (Recorded σ) × Operation}
    (h : r.step op = some s) : r.Stops s := by
  cases op with
  | invoking _ _ | brokenOff _ _ => exact hop.elim
  | stopping e =>
      simp only [step] at h
      split at h
      · cases h
      · cases h
        exact ⟨[], fun _ hd => (List.not_mem_nil hd).elim, .quiet rfl rfl rfl rfl, trivial⟩
  | stoppingAll e rest done =>
      simp only [step] at h
      split at h
      · cases h
      · cases h
        exact stopNext_stops r _ rest
  | finished a => cases h

end Runner

end Turnstile
