import Turnstile.Runner.Session

/-!
# A platform with a record

`Recorded σ` is the platform `σ` with a journal of what was asked of it: every command that was to
be started, every process that was asked to end, every write to a file, and every record that was
traced.

A runner on it does what it does on `σ`: the beginnings of operations, their steps
(`step_unrecorded`) and their whole runs (`drive_unrecorded`) are the same without the record. What
the journal of a run shows is thus what happens on `σ`.
-/

namespace Turnstile

/-- Something asked of a platform that leaves a trace on it. -/
inductive Deed where
  | spawn (request : SpawnRequest)
  | requestStop (p : ProcessId)
  | append (place : Place) (data : Bytes)
  | trace (record : String)

/-- True of a deed that hands a record over. -/
def Deed.isRecord : Deed → Bool
  | .append .. | .trace _ => true
  | .spawn _ | .requestStop _ => false

/-- What a sink asks of a platform for an entry. -/
def AuditSink.deed : AuditSink → AuditEntry → Deed
  | .tracing, e => .trace e.record
  | .jsonLines place, e => .append place (Utf8.encode e.line)

/-- What a sink receives is a record of the trail. -/
theorem AuditSink.isRecord_deed (sink : AuditSink) (e : AuditEntry) :
    (sink.deed e).isRecord = true := by
  cases sink with
  | tracing => rfl
  | jsonLines place => rfl

/-- A platform, and what was asked of it so far. -/
structure Recorded (σ : Type) where
  inner : σ
  /-- The deeds, the latest first. -/
  journal : List Deed := []

variable {σ : Type}

instance [Platform σ] : Platform (Recorded σ) where
  now s := Platform.now s.inner
  spawn request s :=
    let (result, inner) := Platform.spawn request s.inner
    (result, { inner, journal := .spawn request :: s.journal })
  requestStop p s :=
    { inner := Platform.requestStop p s.inner, journal := .requestStop p :: s.journal }
  outcome? s p := Platform.outcome? s.inner p
  capture s p := Platform.capture s.inner p
  isPortOpen s port := Platform.isPortOpen s.inner port
  advance t s := { s with inner := Platform.advance t s.inner }
  takeChunks s :=
    let (chunks, inner) := Platform.takeChunks s.inner
    (chunks, { s with inner })
  appendFile place data s :=
    { inner := Platform.appendFile place data s.inner, journal := .append place data :: s.journal }
  trace record s :=
    { inner := Platform.trace record s.inner, journal := .trace record :: s.journal }

/-- The journal has the entry of the trail as its newest deed. -/
theorem AuditSink.log_journal [Platform σ] (sink : AuditSink) (e : AuditEntry) (s : Recorded σ) :
    (sink.log e s).journal = sink.deed e :: s.journal := by
  cases sink with
  | tracing => rfl
  | jsonLines place => rfl

namespace Operation

/-- An invocation whose process was started goes on, unless the clock cannot show how long the
service is to be waited for. -/
theorem launched_cases (inv : Invocation) (p : ProcessId) (now : Instant) :
    (∃ phase, launched inv p now = .invoking inv phase ∧
        (phase = .running p ∨ phase = .failing p ∨ ∃ w, phase = .watching p now w)) ∨
      launched inv p now = .brokenOff inv p ∧
        ∃ c, inv.tool.readiness = some c ∧ Watch.start? c now = none := by
  unfold launched
  cases inv.tool.readiness with
  | none => exact .inl ⟨_, rfl, .inl rfl⟩
  | some c =>
      by_cases hoff : inv.isCalledOff now
      · simp only [if_pos hoff]
        exact .inl ⟨_, rfl, .inr (.inl rfl)⟩
      simp only [if_neg hoff]
      cases hstart : Watch.start? c now with
      | none => exact .inr ⟨rfl, c, rfl, hstart⟩
      | some w => exact .inl ⟨_, rfl, .inr (.inr ⟨w, rfl⟩)⟩

end Operation

namespace Runner

/-! ### Equations of the runner -/

/-- Reports one chunk of output. -/
def reportChunk (r : Runner σ) (c : ProcessId × Bytes) : Runner σ :=
  match r.streams.lookup c.1 with
  | some (tool, invocation) => r.report (.output tool invocation (Utf8.decodeLossy c.2))
  | none => r

section Equations

variable [Platform σ] (r : Runner σ)

/-- A report hands on the chunks of the system, one after another. -/
theorem reportOutput_eq :
    r.reportOutput = (Platform.takeChunks r.system).1.foldl reportChunk
      { r with system := (Platform.takeChunks r.system).2 } := rfl

/-- The entry of an invocation in the audit trail. -/
def entryOf (inv : Invocation) (result : AuditResult) : AuditEntry where
  timestamp := (Timestamp.mk ((Platform.now r.system).nanos / 1000000)).text
  invocationId := inv.id
  tool := inv.tool.id
  command := inv.command
  result := result
  durationMillis := r.elapsedMillis inv

/-- Without a logger, nothing is noted. -/
theorem log_none {inv : Invocation} {result : AuditResult} (h : r.audit = none) :
    r.log inv result = r := by
  unfold log
  rw [h]

/-- With a logger, its sink receives the entry and nothing else changes. -/
theorem log_some {inv : Invocation} {result : AuditResult} {sink : AuditSink}
    (h : r.audit = some sink) :
    r.log inv result = { r with system := sink.log (r.entryOf inv result) r.system } := by
  unfold log
  simp only [h]
  rfl

/-- The invocation of a rendered command. -/
def invocationOf (tool : Tool) (command : String) (cancelAt : Option Instant) : Invocation where
  id := "invocation-" ++ toString (r.count + 1)
  tool := tool
  command := command
  decision := tool.gate.evaluate command
  startedAt := Platform.now r.system
  cancelAt := cancelAt

/-- Refuses an invocation, or goes on with it, as the gate decided. -/
def obeyGate (inv : Invocation) (isConfirmed : Bool) : Runner σ × Operation :=
  match inv.decision with
  | .deny pattern => r.answer inv (.denied pattern) none
  | .requireConfirmation pattern =>
    if isConfirmed then r.letPass inv else r.answer inv (.confirmationRequired pattern) none
  | .allow => r.letPass inv

variable {r} {id : String} {bindings : Bindings} {isConfirmed : Bool} {cancelAt : Option Instant}

/-- An id that no tool has is refused. -/
theorem beginInvocation_unknown (h : r.registry.find? id = none) :
    r.beginInvocation id bindings isConfirmed cancelAt =
      (r, .finished (.invocation (.error (.unknownTool id)))) := by
  unfold beginInvocation find
  rw [h]

/-- Bindings that do not fit the command are refused, with the fault's message. -/
theorem beginInvocation_invalid {tool : Tool} {f : BindingFault}
    (h : r.registry.find? id = some tool) (hrender : tool.render bindings = .error f) :
    r.beginInvocation id bindings isConfirmed cancelAt =
      (r, .finished (.invocation (.error (.invalidParams f.message)))) := by
  unfold beginInvocation find prepare
  rw [h]
  simp only [hrender]

/-- The command that was rendered is the one that the gate is asked about. -/
theorem beginInvocation_rendered {tool : Tool} {command : String}
    (h : r.registry.find? id = some tool) (hrender : tool.render bindings = .ok command) :
    r.beginInvocation id bindings isConfirmed cancelAt =
      { r with count := r.count + 1 }.obeyGate (r.invocationOf tool command cancelAt)
        isConfirmed := by
  unfold beginInvocation find prepare
  rw [h]
  simp only [hrender]
  rfl

variable {inv : Invocation}

/-- What a platform is asked for at the start of an invocation. -/
def requestOf (r : Runner σ) (inv : Invocation) : SpawnRequest where
  command := inv.command
  workdir := inv.tool.workdir.getD "."
  env := inv.tool.env
  timeout := inv.tool.timeout
  grace := r.killGrace
  cancelAt := inv.cancelAt

/-- A start that the system refuses is noted and answered with the system's message. -/
theorem start_error {e : SpawnError} {system : σ}
    (h : Platform.spawn (r.requestOf inv) r.system = (.error e, system)) :
    r.start inv = ({ r with system }.log inv (.error (ToolError.spawn e.message).message),
      .finished (.invocation (.error (.spawn e.message)))) := by
  unfold requestOf at h
  unfold start
  simp only [h]
  rfl

/-- A start that succeeds opens a stream, and the call looks after the process. -/
theorem start_ok {p : ProcessId} {system : σ}
    (h : Platform.spawn (r.requestOf inv) r.system = (.ok p, system)) :
    r.start inv = ({ r with system, streams := (p, inv.tool.id, inv.id) :: r.streams },
      .launched inv p (Platform.now system)) := by
  unfold requestOf at h
  unfold start
  simp only [h]

variable {p : ProcessId} {startedAt : Instant} {readiness : Readiness}

/-- The runner with a service in its table. -/
def entered (r : Runner σ) (inv : Invocation) (p : ProcessId) (startedAt : Instant)
    (readiness : Readiness) : Runner σ :=
  let entry : ServiceEntry := {
    process := p, tool := inv.tool, invocationId := inv.id, readiness, startedAt }
  { r with services := (r.services.insert inv.tool.id entry).2 }

/-- The first process of a service is entered and answered. -/
theorem enter_new (h : r.services.lookup inv.tool.id = none) :
    r.enter inv p startedAt readiness =
      (r.entered inv p startedAt readiness).answer inv (.started readiness)
        (some (Platform.capture r.system p).bytes) := by
  unfold enter
  simp only [ServiceTable.insert, h]
  rfl

/-- One that replaces another has the other stopped first. -/
theorem enter_replacing {e : ServiceEntry} (h : r.services.lookup inv.tool.id = some e) :
    r.enter inv p startedAt readiness =
      ({ r.entered inv p startedAt readiness with
          system := Platform.requestStop e.process r.system },
        .invoking inv (.replacing readiness (Platform.capture r.system p).bytes e.process)) := by
  unfold enter
  simp only [ServiceTable.insert, h]
  rfl

/-- A look at a service that is starting goes on watching it, gives it up, or puts it into the
table. -/
theorem look_cases {w : Watch} {s : Runner σ × Operation}
    (h : r.look inv p startedAt w = some s) :
    (∃ phase, s = (r, .invoking inv phase) ∧
        (phase = .failing p ∨ ∃ w', phase = .watching p startedAt w')) ∨
      ∃ readiness, s = r.enter inv p startedAt readiness := by
  have hfailing : ∃ phase, (r, Operation.invoking inv (.failing p)) = (r, .invoking inv phase) ∧
      (phase = .failing p ∨ ∃ w', phase = .watching p startedAt w') := ⟨_, rfl, .inl rfl⟩
  unfold look at h
  dsimp only at h
  cases w with
  | delay deadline =>
      dsimp only at h
      split at h
      · cases h
        exact .inl hfailing
      · split at h
        · cases h
          exact .inr ⟨_, rfl⟩
        · cases h
  | poll m next =>
      dsimp only at h
      split at h
      · cases h
        exact .inl hfailing
      · split at h
        · cases h
        · split at h <;> cases h
          · exact .inr ⟨_, rfl⟩
          · exact .inr ⟨_, rfl⟩
          · exact .inl hfailing
          · exact .inl ⟨_, rfl, .inr ⟨_, rfl⟩⟩

/-- A finished operation needs no driving. -/
theorem drive_finished (a : Answer) : r.drive (.finished a) = (r, some a) := by
  rw [drive]

/-- An invocation that broke off is not driven. -/
theorem drive_brokenOff : r.drive (.brokenOff inv p) = (r, none) := by
  rw [drive]

/-- Any other operation is driven on while there is time. -/
theorem drive_eq {op : Operation} (h : ∀ a, op ≠ .finished a)
    (hbroken : ∀ inv p, op ≠ .brokenOff inv p) :
    r.drive op =
      if (r.proceed op).1.budget (r.proceed op).2 < r.budget op then
        (r.proceed op).1.drive (r.proceed op).2
      else ((r.proceed op).1, none) := by
  rw [drive]
  · rfl
  · exact h
  · exact hbroken

end Equations

/-! ### Without the record -/

/-- The runner without the record. -/
def unrecorded (r : Runner (Recorded σ)) : Runner σ where
  registry := r.registry
  killGrace := r.killGrace
  pollInterval := r.pollInterval
  system := r.system.inner
  services := r.services
  audit := r.audit
  events := r.events
  streams := r.streams
  count := r.count

/-- A runner and an operation without the record. -/
def unrecordedStep (s : Runner (Recorded σ) × Operation) : Runner σ × Operation :=
  (s.1.unrecorded, s.2)

/-- A chunk is reported alike. -/
theorem reportChunk_unrecorded (r : Runner (Recorded σ)) (c : ProcessId × Bytes) :
    r.unrecorded.reportChunk c = (r.reportChunk c).unrecorded := by
  unfold reportChunk
  have hstreams : r.unrecorded.streams = r.streams := rfl
  rw [hstreams]
  cases r.streams.lookup c.1 with
  | none => rfl
  | some owner => rfl

variable [Platform σ] (r : Runner (Recorded σ))

/-- All output is reported alike. -/
theorem reportOutput_unrecorded : r.unrecorded.reportOutput = r.reportOutput.unrecorded := by
  have hfold (r : Runner (Recorded σ)) (chunks : List (ProcessId × Bytes)) :
      chunks.foldl reportChunk r.unrecorded = (chunks.foldl reportChunk r).unrecorded :=
    List.foldl_hom unrecorded reportChunk_unrecorded
  exact hfold { r with system := (Platform.takeChunks r.system).2 } _

/-- The trail is the same. -/
theorem log_unrecorded (inv : Invocation) (result : AuditResult) :
    r.unrecorded.log inv result = (r.log inv result).unrecorded := by
  unfold log
  have haudit : r.unrecorded.audit = r.audit := rfl
  rw [haudit]
  cases r.audit with
  | none => rfl
  | some sink => cases sink <;> rfl

/-- A result is concluded alike. -/
theorem conclude_unrecorded (inv : Invocation) (status : Status) (raw : Option Bytes) :
    r.unrecorded.conclude inv status raw =
      ((r.conclude inv status raw).1.unrecorded, (r.conclude inv status raw).2) := by
  unfold conclude
  simp only [reportOutput_unrecorded, log_unrecorded]
  rfl

/-- A call is answered alike. -/
theorem answer_unrecorded (inv : Invocation) (status : Status) (raw : Option Bytes) :
    r.unrecorded.answer inv status raw = unrecordedStep (r.answer inv status raw) := by
  unfold answer
  rw [conclude_unrecorded]
  rfl

/-- The same service is taken. -/
theorem takeService_unrecorded (id : String) :
    r.unrecorded.takeService id = ((r.takeService id).1, (r.takeService id).2.unrecorded) := by
  unfold takeService
  have hservices : r.unrecorded.services = r.services := rfl
  rw [hservices]
  obtain ⟨entry, services⟩ := r.services.take id
  cases entry with
  | none => rfl
  | some e => rfl

/-- A command passes alike. -/
theorem letPass_unrecorded (inv : Invocation) :
    r.unrecorded.letPass inv = unrecordedStep (r.letPass inv) := by
  have hreport : r.unrecorded.reportOutput.report (.started inv.tool.id inv.id inv.command) =
      (r.reportOutput.report (.started inv.tool.id inv.id inv.command)).unrecorded := by
    rw [reportOutput_unrecorded]
    rfl
  unfold letPass
  rw [hreport]
  generalize r.reportOutput.report (.started inv.tool.id inv.id inv.command) = reported
  by_cases hservice : inv.tool.isService
  · simp only [if_pos hservice, takeService_unrecorded]
    obtain ⟨entry, taken⟩ := reported.takeService inv.tool.id
    cases entry with
    | none => rfl
    | some e => rfl
  · simp only [if_neg hservice]
    rfl

/-- The gate is obeyed alike. -/
theorem obeyGate_unrecorded (inv : Invocation) (isConfirmed : Bool) :
    r.unrecorded.obeyGate inv isConfirmed = unrecordedStep (r.obeyGate inv isConfirmed) := by
  unfold obeyGate
  cases inv.decision with
  | allow => exact letPass_unrecorded r inv
  | deny pattern => exact answer_unrecorded r inv (.denied pattern) none
  | requireConfirmation pattern =>
      cases isConfirmed with
      | true => exact letPass_unrecorded r inv
      | false => exact answer_unrecorded r inv (.confirmationRequired pattern) none

/-- An invocation begins alike. -/
theorem beginInvocation_unrecorded (id : String) (bindings : Bindings) (isConfirmed : Bool)
    (cancelAt : Option Instant) :
    r.unrecorded.beginInvocation id bindings isConfirmed cancelAt =
      unrecordedStep (r.beginInvocation id bindings isConfirmed cancelAt) := by
  have hregistry : r.unrecorded.registry = r.registry := rfl
  cases hfind : r.registry.find? id with
  | none =>
      rw [beginInvocation_unknown hfind, beginInvocation_unknown (hregistry ▸ hfind)]
      rfl
  | some tool =>
      cases hrender : tool.render bindings with
      | error f =>
          rw [beginInvocation_invalid hfind hrender,
            beginInvocation_invalid (hregistry ▸ hfind) hrender]
          rfl
      | ok command =>
          rw [beginInvocation_rendered hfind hrender,
            beginInvocation_rendered (hregistry ▸ hfind) hrender]
          exact obeyGate_unrecorded { r with count := r.count + 1 } _ isConfirmed

/-- A stop begins alike. -/
theorem beginStop_unrecorded (id : String) :
    r.unrecorded.beginStop id = unrecordedStep (r.beginStop id) := by
  unfold beginStop
  rw [takeService_unrecorded]
  obtain ⟨entry, taken⟩ := r.takeService id
  cases entry with
  | none => rfl
  | some e => rfl

/-- The next service is stopped alike. -/
theorem stopNext_unrecorded (done : List ServiceStatus) (rest : List ServiceEntry) :
    r.unrecorded.stopNext done rest = unrecordedStep (r.stopNext done rest) := by
  cases rest with
  | nil => rfl
  | cons e rest => rfl

/-- The end of all services begins alike. -/
theorem beginShutdown_unrecorded : r.unrecorded.beginShutdown = unrecordedStep r.beginShutdown :=
  stopNext_unrecorded { r with services := [] } [] (r.services.map Prod.snd)

/-- A process is started, or refused, alike. -/
theorem start_unrecorded (inv : Invocation) :
    r.unrecorded.start inv = unrecordedStep (r.start inv) := by
  rcases hspawn : Platform.spawn (r.unrecorded.requestOf inv) r.unrecorded.system
    with ⟨result, inner⟩
  have hrecorded : Platform.spawn (r.requestOf inv) r.system =
      (result, { inner, journal := .spawn (r.requestOf inv) :: r.system.journal }) := by
    have hinner : Platform.spawn (r.requestOf inv) r.system.inner = (result, inner) := hspawn
    simp only [Platform.spawn, hinner]
  cases result with
  | error e =>
      rw [start_error hspawn, start_error hrecorded]
      let system : Recorded σ :=
        { inner, journal := .spawn (r.requestOf inv) :: r.system.journal }
      exact Prod.ext (log_unrecorded { r with system } inv _) rfl
  | ok p =>
      rw [start_ok hspawn, start_ok hrecorded]
      rfl

/-- A service is entered alike. -/
theorem enter_unrecorded (inv : Invocation) (p : ProcessId) (startedAt : Instant)
    (readiness : Readiness) :
    r.unrecorded.enter inv p startedAt readiness =
      unrecordedStep (r.enter inv p startedAt readiness) := by
  have hservices : r.unrecorded.services = r.services := rfl
  cases hlookup : r.services.lookup inv.tool.id with
  | none =>
      rw [enter_new hlookup, enter_new (hservices ▸ hlookup)]
      exact answer_unrecorded (r.entered inv p startedAt readiness) inv _ _
  | some e =>
      rw [enter_replacing hlookup, enter_replacing (hservices ▸ hlookup)]
      rfl

/-- The look after a process finds the same. -/
theorem look_unrecorded (inv : Invocation) (p : ProcessId) (startedAt : Instant) (w : Watch) :
    r.unrecorded.look inv p startedAt w = (r.look inv p startedAt w).map unrecordedStep := by
  have hnow : Platform.now r.unrecorded.system = Platform.now r.system := rfl
  have hrunning : Platform.isRunning r.unrecorded.system p = Platform.isRunning r.system p := rfl
  have hcapture : Platform.capture r.unrecorded.system p = Platform.capture r.system p := rfl
  have hport : Platform.isPortOpen r.unrecorded.system = Platform.isPortOpen r.system := rfl
  unfold look
  simp only [hnow, hrunning, hcapture, hport, enter_unrecorded]
  cases w with
  | delay deadline =>
      by_cases hcut : inv.isCalledOff (Platform.now r.system) || !Platform.isRunning r.system p
      · simp only [if_pos hcut]
        rfl
      by_cases hlate : deadline.nanos ≤ (Platform.now r.system).nanos
      · simp only [if_neg hcut, if_pos hlate]
        rfl
      · simp only [if_neg hcut, if_neg hlate]
        rfl
  | poll m next =>
      by_cases hcancel : inv.isCalledOff (Platform.now r.system)
      · simp only [if_pos hcancel]
        rfl
      by_cases hearly : (Platform.now r.system).nanos < next.nanos
      · simp only [if_neg hcancel, if_pos hearly]
        rfl
      simp only [if_neg hcancel, if_neg hearly]
      generalize m.poll _ = polled
      obtain ⟨m, verdict⟩ := polled
      cases verdict with
      | none => rfl
      | some state => cases state <;> rfl

/-- A step of an operation is the same without the record. -/
theorem step_unrecorded (op : Operation) :
    r.unrecorded.step op = (r.step op).map unrecordedStep := by
  have hrunning (p : ProcessId) :
      Platform.isRunning r.unrecorded.system p = Platform.isRunning r.system p := rfl
  have hended (inv : Invocation) (p : ProcessId) :
      (Platform.outcome? r.unrecorded.system p).map (fun o =>
          r.unrecorded.answer inv (statusOf o)
            (some (Platform.capture r.unrecorded.system p).bytes)) =
        ((Platform.outcome? r.system p).map fun o =>
          r.answer inv (statusOf o) (some (Platform.capture r.system p).bytes)).map
            unrecordedStep := by
    rw [Option.map_map]
    refine Option.map_congr fun o _ => ?_
    exact answer_unrecorded r inv (statusOf o) _
  cases op with
  | invoking inv phase =>
      cases phase with
      | clearing previous =>
          simp only [step, hrunning]
          split <;> rfl
      | starting => exact congrArg some (start_unrecorded r inv)
      | running p => exact hended inv p
      | watching p startedAt w => exact look_unrecorded r inv p startedAt w
      | failing p => exact hended inv p
      | replacing readiness raw replaced =>
          simp only [step, hrunning]
          split
          · rfl
          · exact congrArg some (answer_unrecorded r inv (.started readiness) (some raw))
  | stopping e =>
      simp only [step, hrunning]
      split <;> rfl
  | stoppingAll e rest done =>
      simp only [step, hrunning]
      split
      · rfl
      · exact congrArg some (stopNext_unrecorded r (e.status r.system :: done) rest)
  | brokenOff inv p => rfl
  | finished a => rfl

/-- Without the record, the runner rests as long. -/
theorem proceed_unrecorded (op : Operation) :
    r.unrecorded.proceed op = unrecordedStep (r.proceed op) := by
  unfold proceed
  rw [step_unrecorded]
  cases r.step op with
  | none => rfl
  | some s =>
      obtain ⟨r', op'⟩ := s
      by_cases hrank : op'.rank < op.rank
      · simp only [Option.map_some, unrecordedStep, if_pos hrank]
      · simp only [Option.map_some, unrecordedStep, if_neg hrank]
        rfl

/-- An operation runs to the same end without the record. -/
theorem drive_unrecorded (op : Operation) :
    r.unrecorded.drive op = ((r.drive op).1.unrecorded, (r.drive op).2) := by
  induction hbudget : r.budget op using Nat.strongRecOn generalizing r op with
  | ind n ih =>
      subst hbudget
      by_cases hfinished : ∃ a, op = .finished a
      · obtain ⟨a, rfl⟩ := hfinished
        rw [drive_finished, drive_finished]
      have hgoes : ∀ a, op ≠ .finished a := fun a ha => hfinished ⟨a, ha⟩
      by_cases hover : ∃ inv p, op = .brokenOff inv p
      · obtain ⟨inv, p, rfl⟩ := hover
        rw [drive_brokenOff, drive_brokenOff]
      have hbroken : ∀ inv p, op ≠ .brokenOff inv p := fun inv p h => hover ⟨inv, p, h⟩
      have hbudget (r : Runner (Recorded σ)) (op : Operation) :
          r.unrecorded.budget op = r.budget op := rfl
      rw [drive_eq hgoes hbroken, drive_eq hgoes hbroken, proceed_unrecorded]
      simp only [unrecordedStep, hbudget]
      by_cases hlt : (r.proceed op).1.budget (r.proceed op).2 < r.budget op
      · rw [if_pos hlt, if_pos hlt]
        exact ih _ hlt _ _ rfl
      · rw [if_neg hlt, if_neg hlt]

end Runner

end Turnstile
