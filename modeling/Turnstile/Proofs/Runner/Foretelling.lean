import Turnstile.Proofs.Runner.Trail

/-!
# What a check foretells

A check renders a command and asks the gate about it, and runs nothing. `Foretells` says what it
tells of the invocation of the same tool with the same values, wherever this invocation stands.

* `beginOrder_follows` and `step_follows`: what a check says of an invocation holds as it begins,
  and each step keeps it (`Follows`).
* `forall_jobs_play`: what holds of each job as it begins, and is kept by its steps, holds of the
  jobs of all courses.

**Theorem** (`Course.play_foretold`): in every course of a runner, whatever the processes do and
whatever else the runner is called for, an order fails with an early error exactly if its check
does. Any other error comes from the start of the process, and a result carries the command and the
decision of the check, and is a refusal exactly if the check says so. A check itself leaves the
runner as it is.
-/

namespace Turnstile

variable {σ : Type}

/-! ### What a check says -/

namespace Runner

variable {r : Runner σ} {id : String} {bindings : Bindings}

/-- An id that no tool has is refused. -/
theorem check_unknown (h : r.registry.find? id = none) :
    r.check id bindings = .error (.unknownTool id) := by
  unfold check find
  rw [h]
  rfl

/-- Bindings that do not fit are refused with the fault's message. -/
theorem check_invalid {tool : Tool} {f : BindingFault} (h : r.registry.find? id = some tool)
    (hrender : tool.render bindings = .error f) :
    r.check id bindings = .error (.invalidParams f.message) := by
  unfold check find
  rw [h]
  change prepare tool bindings = _
  unfold prepare
  rw [hrender]

/-- A rendered command is checked by the gate. -/
theorem check_rendered {tool : Tool} {command : String} (h : r.registry.find? id = some tool)
    (hrender : tool.render bindings = .ok command) :
    r.check id bindings = .ok { command, decision := tool.gate.evaluate command } := by
  unfold check find
  rw [h]
  change prepare tool bindings = _
  unfold prepare
  rw [hrender]

/-- A check depends on the tools only. -/
theorem check_congr {τ : Type} {s : Runner τ} (h : s.registry = r.registry)
    (id : String) (bindings : Bindings) : s.check id bindings = r.check id bindings := by
  unfold check find
  rw [h]

end Runner

/-- The gate lets a command pass, as its check says. -/
structure CheckResult.Passes (c : CheckResult) (isConfirmed : Bool) : Prop where
  not_denied : ∀ pattern, c.decision ≠ .deny pattern
  confirmed : ∀ pattern, c.decision = .requireConfirmation pattern → isConfirmed = true

/-- A result carries what was checked, and it is a refusal exactly if the check says so. -/
structure InvocationResult.AsChecked (result : InvocationResult) (c : CheckResult)
    (isConfirmed : Bool) : Prop where
  command : result.command = c.command
  decision : result.decision = c.decision
  denied : ∀ pattern, result.status = .denied pattern ↔ c.decision = .deny pattern
  confirmationRequired : ∀ pattern, result.status = .confirmationRequired pattern ↔
    c.decision = .requireConfirmation pattern ∧ isConfirmed = false

/-- What a check tells of an order, which stands where it stands. -/
structure Foretells (checked : Except ToolError CheckResult) (isConfirmed : Bool) (stage : Stage) :
    Prop where
  /-- The order fails as its check does, and at once. -/
  early : ∀ e, checked = .error e ↔
    e.IsEarly ∧ stage = .going (.finished (.invocation (.error e)))
  /-- Otherwise it fails only if its process cannot be started. -/
  failed : ∀ c e, checked = .ok c → stage = .going (.finished (.invocation (.error e))) →
    ∃ message, e = .spawn message
  answered : ∀ c result, checked = .ok c →
    stage = .going (.finished (.invocation (.ok result))) → result.AsChecked c isConfirmed
  /-- What the gate turns away is answered at once. -/
  refused : ∀ c, checked = .ok c → ¬ c.Passes isConfirmed →
    ∃ result, stage = .going (.finished (.invocation (.ok result)))

/-! ### The stages of an order -/

/-- The stages that an order can reach after its check. -/
inductive Follows (checked : Except ToolError CheckResult) (isConfirmed : Bool) : Stage → Prop
  | early {e : ToolError} : checked = .error e → e.IsEarly →
      Follows checked isConfirmed (.going (.finished (.invocation (.error e))))
  | underWay {c : CheckResult} {inv : Invocation} {phase : Phase} : checked = .ok c →
      c.Passes isConfirmed → inv.command = c.command → inv.decision = c.decision →
      Follows checked isConfirmed (.going (.invoking inv phase))
  | brokenOff {c : CheckResult} {inv : Invocation} {p : ProcessId} : checked = .ok c →
      c.Passes isConfirmed → Follows checked isConfirmed (.going (.brokenOff inv p))
  | failed {c : CheckResult} {message : String} : checked = .ok c → c.Passes isConfirmed →
      Follows checked isConfirmed (.going (.finished (.invocation (.error (.spawn message)))))
  | answered {c : CheckResult} {result : InvocationResult} : checked = .ok c →
      result.AsChecked c isConfirmed →
      Follows checked isConfirmed (.going (.finished (.invocation (.ok result))))

variable {checked : Except ToolError CheckResult} {isConfirmed : Bool} {stage : Stage}

/-- What follows the check ends as it foretold. -/
theorem Follows.foretells (h : Follows checked isConfirmed stage) :
    Foretells checked isConfirmed stage := by
  cases h with
  | early hchecked hearly =>
      subst hchecked
      refine ⟨fun e => ⟨?_, ?_⟩, ?_, ?_, ?_⟩
      · rintro ⟨⟩
        exact ⟨hearly, rfl⟩
      · rintro ⟨-, ⟨⟩⟩
        rfl
      · rintro c e ⟨⟩
      · rintro c result ⟨⟩
      · rintro c ⟨⟩
  | underWay hchecked hpasses | brokenOff hchecked hpasses =>
      subst hchecked
      refine ⟨fun e => ⟨?_, ?_⟩, ?_, ?_, ?_⟩
      · rintro ⟨⟩
      · rintro ⟨-, ⟨⟩⟩
      · rintro c e - ⟨⟩
      · rintro c result - ⟨⟩
      · rintro c ⟨⟩ hnot
        exact (hnot hpasses).elim
  | @failed c message hchecked hpasses =>
      subst hchecked
      refine ⟨fun e => ⟨?_, ?_⟩, ?_, ?_, ?_⟩
      · rintro ⟨⟩
      · rintro ⟨hearly, ⟨⟩⟩
        exact hearly.elim
      · rintro c e - ⟨⟩
        exact ⟨message, rfl⟩
      · rintro c result - ⟨⟩
      · rintro c ⟨⟩ hnot
        exact (hnot hpasses).elim
  | @answered c result hchecked hresult =>
      subst hchecked
      refine ⟨fun e => ⟨?_, ?_⟩, ?_, ?_, ?_⟩
      · rintro ⟨⟩
      · rintro ⟨-, ⟨⟩⟩
      · rintro c e - ⟨⟩
      · rintro c result ⟨⟩ ⟨⟩
        exact hresult
      · rintro c - -
        exact ⟨result, rfl⟩

/-- The result of an invocation that passed carries what was checked. -/
theorem InvocationResult.Of.asChecked {result : InvocationResult} {inv : Invocation}
    {c : CheckResult} (h : result.Of inv) (hstatus : ¬ result.status.IsRefusal)
    (hpasses : c.Passes isConfirmed) (hcommand : inv.command = c.command)
    (hdecision : inv.decision = c.decision) : result.AsChecked c isConfirmed where
  command := h.command.trans hcommand
  decision := h.decision.trans hdecision
  denied pattern := by
    refine ⟨fun heq => ?_, fun heq => (hpasses.not_denied pattern heq).elim⟩
    rw [heq] at hstatus
    exact (hstatus trivial).elim
  confirmationRequired pattern := by
    refine ⟨fun heq => ?_, fun ⟨heq, hnot⟩ => ?_⟩
    · rw [heq] at hstatus
      exact (hstatus trivial).elim
    · rw [hpasses.confirmed pattern heq] at hnot
      cases hnot

/-- A step of an invocation that passed leads to what its check foretold. -/
theorem Invocation.Goes.follows {inv : Invocation} {audit : Option AuditSink} {deeds : List Deed}
    {op : Operation} {c : CheckResult} (h : inv.Goes audit deeds op) (hchecked : checked = .ok c)
    (hpasses : c.Passes isConfirmed) (hcommand : inv.command = c.command)
    (hdecision : inv.decision = c.decision) : Follows checked isConfirmed (.going op) := by
  cases h with
  | on phase => exact .underWay hchecked hpasses hcommand hdecision
  | brokenOff p => exact .brokenOff hchecked hpasses
  | answered result hresult hstatus _ =>
      exact .answered hchecked (hresult.asChecked hstatus hpasses hcommand hdecision)
  | failed message _ => exact .failed hchecked hpasses

section Steps

variable [Platform σ]

/-- The gate turns away what the check says, and goes on with the rest. -/
theorem obeyGate_follows (r : Runner (Recorded σ)) {inv : Invocation} {c : CheckResult}
    (hchecked : checked = .ok c) (hcommand : inv.command = c.command)
    (hdecision : inv.decision = c.decision) (isConfirmed : Bool) :
    Follows checked isConfirmed (.going (r.obeyGate inv isConfirmed).2) := by
  have hpass (hpasses : c.Passes isConfirmed) :
      Follows checked isConfirmed (.going (r.letPass inv).2) := by
    obtain ⟨deeds, events, -, -, hgoes, -⟩ := r.letPass_steps inv
    exact hgoes.follows hchecked hpasses hcommand hdecision
  have hanswer {status : Status}
      (hdenied : ∀ pattern, status = .denied pattern ↔ c.decision = .deny pattern)
      (hrequired : ∀ pattern, status = .confirmationRequired pattern ↔
        c.decision = .requireConfirmation pattern ∧ isConfirmed = false) :
      Follows checked isConfirmed (.going (r.answer inv status none).2) := by
    obtain ⟨result, hresult, rfl, heq⟩ := r.answer_result inv status none
    rw [heq]
    exact .answered hchecked
      ⟨hresult.command.trans hcommand, hresult.decision.trans hdecision, hdenied, hrequired⟩
  unfold Runner.obeyGate
  rw [hdecision]
  cases hcase : c.decision with
  | deny pattern => exact hanswer (by simp [hcase]) (by simp [hcase])
  | allow => exact hpass ⟨by simp [hcase], by simp [hcase]⟩
  | requireConfirmation pattern =>
      cases isConfirmed with
      | true => exact hpass ⟨by simp [hcase], fun _ _ => rfl⟩
      | false => exact hanswer (by simp [hcase]) (by simp [hcase])

/-- **An order begins as its check says.** -/
theorem beginOrder_follows (r : Runner (Recorded σ)) (o : Order) :
    Follows (r.check o.id o.bindings) o.isConfirmed (.going (r.beginOrder o).2) := by
  unfold Runner.beginOrder
  cases hfind : r.registry.find? o.id with
  | none =>
      rw [Runner.beginInvocation_unknown hfind]
      exact .early (Runner.check_unknown hfind) trivial
  | some tool =>
      cases hrender : tool.render o.bindings with
      | error f =>
          rw [Runner.beginInvocation_invalid hfind hrender]
          exact .early (Runner.check_invalid hfind hrender) trivial
      | ok command =>
          rw [Runner.beginInvocation_rendered hfind hrender]
          exact obeyGate_follows _ (Runner.check_rendered hfind hrender) rfl rfl o.isConfirmed

/-- **A step leads on as the check says.** -/
theorem step_follows {r : Runner (Recorded σ)} {op : Operation}
    (h : Follows checked isConfirmed (.going op)) {s : Runner (Recorded σ) × Operation}
    (hstep : r.step op = some s) : Follows checked isConfirmed (.going s.2) := by
  cases h with
  | early | brokenOff | failed | answered => cases hstep
  | underWay hchecked hpasses hcommand hdecision =>
      obtain ⟨deeds, events, -, -, hgoes⟩ := r.invoking_steps _ hstep
      exact hgoes.follows hchecked hpasses hcommand hdecision

end Steps

/-! ### Whole runs -/

namespace Course

variable [Platform σ]

/-- What holds of each job as it begins, and is kept by its steps, holds of all jobs. -/
theorem forall_jobs_play {r : Runner σ} {P : Job σ → Prop}
    (hbegin : ∀ (s : Runner (Recorded σ)) (call : RunnerCall), s.registry = r.registry →
      P { call, stage := (s.begin call).2, turns := [⟨s, (s.begin call).1⟩] })
    (hstep : ∀ (s : Runner (Recorded σ)) (job : Job σ) (op : Operation)
      (s' : Runner (Recorded σ) × Operation), P job → job.stage = .going op →
      s.step op = some s' →
      P { job with stage := .going s'.2, turns := ⟨s, s'.1⟩ :: job.turns })
    (os : List (Occurrence σ)) : ∀ job ∈ ((start r).play os).jobs, P job := by
  have hplay {c : Course σ} (hc : c.Accounted r.registry) (hjobs : ∀ job ∈ c.jobs, P job) :
      ∀ job ∈ (c.play os).jobs, P job := by
    induction os generalizing c with
    | nil => exact hjobs
    | cons o os ih =>
        refine ih (accounted_next hc o) ?_
        cases o with
        | call call =>
            intro job hjob
            obtain hold | hnew := List.mem_append.mp hjob
            · exact hjobs job hold
            · rw [List.mem_singleton.mp hnew]
              exact hbegin c.runner call hc.tools
        | turn i =>
            obtain hnext | ⟨job, op, s, op', hjob, hstage, hmoves, hnext⟩ := c.next_turn_cases i
            · rwa [hnext]
            · rw [hnext]
              intro job' hjob'
              obtain hold | rfl := List.mem_or_eq_of_mem_set hjob'
              · exact hjobs job' hold
              · exact hstep c.runner job op (s, op') (hjobs job (List.mem_of_getElem? hjob))
                  hstage hmoves
        | world s => exact hjobs
        | collect => exact hjobs
  exact hplay (accounted_start r) fun _ hjob => (List.not_mem_nil hjob).elim

/-- Every order stands where its check says. -/
theorem follows_play (r : Runner σ) (os : List (Occurrence σ)) :
    ∀ job ∈ ((start r).play os).jobs, ∀ o, job.call.order? = some o →
      Follows (r.check o.id o.bindings) o.isConfirmed job.stage := by
  refine forall_jobs_play (fun s call htools o ho => ?_)
    (fun s job op s' hjob hstage hstep o ho => ?_) os
  · cases call with
    | run e =>
        obtain rfl := Option.some.inj ho
        rw [← Runner.check_congr htools]
        exact beginOrder_follows s e.order
    | check _ _ | serviceStatus _ | stopService _ | shutdown => cases ho
  · have hfollows := hjob o ho
    rw [hstage] at hfollows
    exact step_follows hfollows hstep

/-- So does an invocation that nobody interrupts. -/
theorem follows_invoke {r : Runner σ} {o : Order} {a : Except ToolError InvocationResult}
    (h : (r.invoke o.id o.bindings o.isConfirmed o.cancelAt).2 = some a) :
    Follows (r.check o.id o.bindings) o.isConfirmed (.going (.finished (.invocation a))) := by
  have hdrive : ((r.beginOrder o).1.drive (r.beginOrder o).2).2 = some (.invocation a) := by
    revert h
    unfold Runner.invoke Runner.beginOrder
    rcases r.beginInvocation o.id o.bindings o.isConfirmed o.cancelAt with ⟨begun, op⟩
    dsimp only
    rcases begun.drive op with ⟨ended, _ | answer⟩
    · rintro ⟨⟩
    · cases answer with
      | invocation result =>
          rintro ⟨⟩
          rfl
      | stopped _ | allStopped _ => rintro ⟨⟩
  have hbegin : r.beginOrder o = Runner.unrecordedStep (r.recording.beginOrder o) :=
    r.recording.beginInvocation_unrecorded o.id o.bindings o.isConfirmed o.cancelAt
  rw [hbegin, Runner.unrecordedStep, Runner.drive_unrecorded] at hdrive
  have hbegun : (start r).runner.begin
      (.run (.invokeWithCancel o.id o.bindings o.isConfirmed o.cancelAt)) =
      ((r.recording.beginOrder o).1, .going (r.recording.beginOrder o).2) := rfl
  obtain ⟨os, job, -, hjobs, hcall, hstage⟩ := exists_play_call (start r) hbegun
  have hmem : job ∈ ((start r).play os).jobs := by
    rw [hjobs]
    exact List.mem_append_right _ (List.mem_singleton.mpr rfl)
  have hfollows := follows_play r os job hmem o (by rw [hcall]; rfl)
  rwa [hstage _ hdrive] at hfollows

/-- **A check foretells the invocation**: in every course, an order fails with an early error
exactly if its check does, it fails otherwise only if its process cannot be started, and its result
carries the command and the decision of the check, and is a refusal exactly if the check says so.
The same holds of an invocation that is run to its end. A check tells the same at any time, and
leaves the runner as it is. -/
theorem play_foretold (r : Runner σ) (os : List (Occurrence σ)) :
    (∀ job ∈ ((start r).play os).jobs, ∀ o, job.call.order? = some o →
      Foretells (r.check o.id o.bindings) o.isConfirmed job.stage) ∧
    (∀ (o : Order) a, (r.invoke o.id o.bindings o.isConfirmed o.cancelAt).2 = some a →
      Foretells (r.check o.id o.bindings) o.isConfirmed (.going (.finished (.invocation a)))) ∧
    ∀ job ∈ ((start r).play os).jobs, ∀ id bindings, job.call = .check id bindings →
      job.stage = .checked (r.check id bindings) ∧
        ∃ t, job.turns = [t] ∧ t.after = t.before := by
  refine ⟨fun job hjob o ho => (follows_play r os job hjob o ho).foretells,
    fun o a ha => (follows_invoke ha).foretells, ?_⟩
  refine forall_jobs_play (fun s call htools id bindings hcall => ?_)
    (fun s job op s' hjob hstage _ id bindings hcall => ?_) os
  · cases hcall
    exact ⟨congrArg Stage.checked (Runner.check_congr htools id bindings), _, rfl, rfl⟩
  · rw [(hjob id bindings hcall).1] at hstage
    cases hstage

end Course

end Turnstile
