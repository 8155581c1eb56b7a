import Turnstile.Proofs.Runner.Effects

/-!
# Whole runs of a runner

A `Course` is a runner and the calls that were made to it. Calls are made in any order, and any
number of them can be under way; an `Occurrence` is a new call, a step of one that is under way, or
something that happens outside: the processes do anything, time passes, or the listener takes the
events. `Course.play` plays a list of occurrences.

Each job keeps its turns, which are the states of the runner before and after each of its own steps,
so that what it did can be told from what the others did (`Turn.deeds`, `Turn.events`).

**Theorem** (`exists_play_performAll`): calls that are carried out one after the other, each to its
end, are one course among others, whose record can be left out.
-/

namespace Turnstile

variable {σ : Type}

/-! ### Calls -/

/-- A tool and its values, as an agent writes them. -/
structure ToolCall where
  toolId : String
  params : Bindings

/-- A tool that is to be run. -/
structure Order where
  id : String
  bindings : Bindings
  isConfirmed : Bool
  cancelAt : Option Instant := none

/-- The ways to have a tool run. -/
inductive Entry where
  | invoke (id : String) (bindings : Bindings)
  | invokeConfirmed (id : String) (bindings : Bindings)
  | invokeWithCancel (id : String) (bindings : Bindings) (isConfirmed : Bool)
      (cancelAt : Option Instant)
  | execute (c : ToolCall)
  | executeConfirmed (c : ToolCall)

/-- What is ordered in one of the ways. -/
def Entry.order : Entry → Order
  | .invoke id bindings => { id, bindings, isConfirmed := false }
  | .invokeConfirmed id bindings => { id, bindings, isConfirmed := true }
  | .invokeWithCancel id bindings isConfirmed cancelAt => { id, bindings, isConfirmed, cancelAt }
  | .execute c => { id := c.toolId, bindings := c.params, isConfirmed := false }
  | .executeConfirmed c => { id := c.toolId, bindings := c.params, isConfirmed := true }

/-- A call to a runner. -/
inductive RunnerCall where
  | check (id : String) (bindings : Bindings)
  | run (e : Entry)
  | serviceStatus (id : String)
  | stopService (id : String)
  | shutdown

/-- What a call orders to be run. -/
def RunnerCall.order? : RunnerCall → Option Order
  | .run e => some e.order
  | .check .. | .serviceStatus _ | .stopService _ | .shutdown => none

/-- How far a call got. -/
inductive Stage where
  | checked (result : Except ToolError CheckResult)
  | told (status : Option ServiceStatus)
  | going (op : Operation)

/-- Begins to run a tool. -/
def Runner.beginOrder [Platform σ] (r : Runner σ) (o : Order) : Runner σ × Operation :=
  r.beginInvocation o.id o.bindings o.isConfirmed o.cancelAt

/-- Begins what a call asks for. -/
def Runner.begin [Platform σ] (r : Runner σ) : RunnerCall → Runner σ × Stage
  | .check id bindings => (r, .checked (r.check id bindings))
  | .run e => ((r.beginOrder e.order).1, .going (r.beginOrder e.order).2)
  | .serviceStatus id => (r, .told (r.serviceStatus id))
  | .stopService id => ((r.beginStop id).1, .going (r.beginStop id).2)
  | .shutdown => (r.beginShutdown.1, .going r.beginShutdown.2)

/-- Carries out a call to its end. -/
def Runner.perform [Platform σ] (r : Runner σ) : RunnerCall → Runner σ
  | .run e => (r.invoke e.order.id e.order.bindings e.order.isConfirmed e.order.cancelAt).1
  | .stopService id => (r.stopService id).1
  | .shutdown => r.shutdown.1
  | .check .. | .serviceStatus _ => r

/-! ### Courses -/

/-- What was put in front of a list. -/
def added {α : Type} (before after : List α) : List α := after.take (after.length - before.length)

/-- What was put in front was added. -/
theorem added_append {α : Type} (new before : List α) : added before (new ++ before) = new := by
  rw [added, List.length_append, Nat.add_sub_cancel, List.take_left]

/-- The same, where the list is known by an equation. -/
theorem added_eq {α : Type} (new : List α) {before after : List α} (h : after = new ++ before) :
    added before after = new := by
  rw [h]
  exact added_append new before

/-- Nothing was added to a list that is the same. -/
theorem not_mem_added {α : Type} {before after : List α} (h : after = before) (a : α) :
    a ∉ added before after := by
  rw [added_eq [] h]
  exact List.not_mem_nil

/-- A runner before and after a step. -/
structure Turn (σ : Type) where
  before : Runner (Recorded σ)
  after : Runner (Recorded σ)

namespace Turn

/-- What the platform was asked for in a step. -/
def deeds (t : Turn σ) : List Deed := added t.before.system.journal t.after.system.journal

/-- What was reported in a step. -/
def events (t : Turn σ) : List Event := added (t.before.events.getD []) (t.after.events.getD [])

end Turn

/-- A call, how far it got, and its steps, the latest first. -/
structure Job (σ : Type) where
  call : RunnerCall
  stage : Stage
  turns : List (Turn σ)

/-- A runner, and the calls that were made to it. -/
structure Course (σ : Type) where
  runner : Runner (Recorded σ)
  jobs : List (Job σ) := []

/-- Something that happens in a course. -/
inductive Occurrence (σ : Type) where
  | call (c : RunnerCall)
  /-- A call that is under way takes a step, if it need not wait. -/
  | turn (i : Nat)
  /-- Processes do something, or time passes. -/
  | world (s : σ)
  /-- The listener takes the events. -/
  | collect

/-- A runner whose record begins. -/
def Runner.recording (r : Runner σ) : Runner (Recorded σ) where
  registry := r.registry
  killGrace := r.killGrace
  pollInterval := r.pollInterval
  system := { inner := r.system }
  services := r.services
  audit := r.audit
  events := r.events
  streams := r.streams
  count := r.count

namespace Course

/-- The course that begins with a runner. -/
def start (r : Runner σ) : Course σ where
  runner := r.recording

variable [Platform σ]

/-- A job takes a step, if it need not wait. -/
def step (c : Course σ) (i : Nat) (job : Job σ) : Course σ :=
  match job.stage with
  | .going op =>
    match c.runner.step op with
    | some (r, op) =>
      { runner := r
        jobs := c.jobs.set i
          { job with stage := .going op, turns := ⟨c.runner, r⟩ :: job.turns } }
    | none => c
  | _ => c

/-- The course after something happened. -/
def next (c : Course σ) : Occurrence σ → Course σ
  | .call call =>
    let (r, stage) := c.runner.begin call
    { runner := r, jobs := c.jobs ++ [{ call, stage, turns := [⟨c.runner, r⟩] }] }
  | .turn i =>
    match c.jobs[i]? with
    | some job => c.step i job
    | none => c
  | .world s => { c with runner := { c.runner with system := { c.runner.system with inner := s } } }
  | .collect => { c with runner := c.runner.takeEvents.2 }

/-- The course after a list of occurrences. -/
def play (c : Course σ) (os : List (Occurrence σ)) : Course σ := os.foldl next c

/-- Occurrences happen one after another. -/
theorem play_append (c : Course σ) (os os' : List (Occurrence σ)) :
    c.play (os ++ os') = (c.play os).play os' := List.foldl_append

/-! ### Running to the end -/

/-- A job whose operation goes on goes on with the runner that it leaves. -/
theorem step_some {c : Course σ} {i : Nat} {job : Job σ} {op op' : Operation}
    {r : Runner (Recorded σ)} (hstage : job.stage = .going op)
    (h : c.runner.step op = some (r, op')) :
    c.step i job =
      { runner := r
        jobs := c.jobs.set i
          { job with stage := .going op', turns := ⟨c.runner, r⟩ :: job.turns } } := by
  unfold step
  rw [hstage]
  simp only [h]

/-- A turn is a step of its job. -/
theorem next_turn {c : Course σ} {i : Nat} {job : Job σ} (h : c.jobs[i]? = some job) :
    c.next (.turn i) = c.step i job := by
  unfold next
  simp only [h]

/-- At the turn of a job nothing happens, or its operation takes a step. -/
theorem next_turn_cases (c : Course σ) (i : Nat) :
    c.next (.turn i) = c ∨ ∃ job op r op', c.jobs[i]? = some job ∧ job.stage = .going op ∧
      c.runner.step op = some (r, op') ∧
      c.next (.turn i) =
        { runner := r
          jobs := c.jobs.set i
            { job with stage := .going op', turns := ⟨c.runner, r⟩ :: job.turns } } := by
  cases hjob : c.jobs[i]? with
  | none => exact .inl (by simp only [next, hjob])
  | some job =>
      rw [next_turn hjob]
      cases hstage : job.stage with
      | checked _ | told _ => exact .inl (by simp only [step, hstage])
      | going op =>
          cases hstep : c.runner.step op with
          | none => exact .inl (by simp only [step, hstage, hstep])
          | some s => exact .inr ⟨job, op, s.1, s.2, rfl, hstage, hstep, step_some hstage hstep⟩

/-- A step, a rest, or both. -/
theorem exists_play_proceed {c : Course σ} {i : Nat} {job : Job σ} {op : Operation}
    (hjob : c.jobs[i]? = some job) (hstage : job.stage = .going op) :
    ∃ os job', (c.play os).runner = (c.runner.proceed op).1 ∧
      (c.play os).jobs = c.jobs.set i job' ∧ job'.call = job.call ∧
      job'.stage = .going (c.runner.proceed op).2 := by
  unfold Runner.proceed
  cases hstep : c.runner.step op with
  | none =>
      refine ⟨[.world _], job, rfl, ?_, rfl, hstage⟩
      obtain ⟨hi, rfl⟩ := List.getElem?_eq_some_iff.mp hjob
      exact (List.set_getElem_self hi).symm
  | some s =>
      obtain ⟨r, op'⟩ := s
      have hturn : c.next (.turn i) = _ := (next_turn hjob).trans (step_some hstage hstep)
      by_cases hrank : op'.rank < op.rank
      · simp only [if_pos hrank]
        exact ⟨[.turn i], _, congrArg runner hturn, congrArg jobs hturn, rfl, rfl⟩
      · simp only [if_neg hrank]
        have hplay : c.play [.turn i, .world (r.rest op').system.inner] =
            (c.next (.turn i)).next (.world (r.rest op').system.inner) := rfl
        rw [hturn] at hplay
        exact ⟨_, _, congrArg runner hplay, congrArg jobs hplay, rfl, rfl⟩

/-- **To run an operation to its end is to play a course**, in which nobody else takes a step. -/
theorem exists_play_drive {c : Course σ} {i : Nat} {job : Job σ} {op : Operation}
    (hjob : c.jobs[i]? = some job) (hstage : job.stage = .going op) :
    ∃ os job', (c.play os).runner = (c.runner.drive op).1 ∧
      (c.play os).jobs = c.jobs.set i job' ∧ job'.call = job.call ∧
      ∀ a, (c.runner.drive op).2 = some a → job'.stage = .going (.finished a) := by
  induction hbudget : c.runner.budget op using Nat.strongRecOn generalizing c job op with
  | ind n ih =>
      subst hbudget
      by_cases hfinished : ∃ a, op = .finished a
      · obtain ⟨a, rfl⟩ := hfinished
        obtain ⟨hi, hjobs⟩ := List.getElem?_eq_some_iff.mp hjob
        rw [Runner.drive_finished]
        refine ⟨[], job, rfl, ?_, rfl, fun a' ha => ?_⟩
        · rw [← hjobs]
          exact (List.set_getElem_self hi).symm
        · cases ha
          exact hstage
      by_cases hbroken : ∃ inv p, op = .brokenOff inv p
      · obtain ⟨inv, p, rfl⟩ := hbroken
        obtain ⟨hi, hjobs⟩ := List.getElem?_eq_some_iff.mp hjob
        rw [Runner.drive_brokenOff]
        refine ⟨[], job, rfl, ?_, rfl, fun a ha => by cases ha⟩
        rw [← hjobs]
        exact (List.set_getElem_self hi).symm
      obtain ⟨os, job₁, hrunner, hjobs, hcall, hstage₁⟩ := exists_play_proceed hjob hstage
      rw [Runner.drive_eq (fun a ha => hfinished ⟨a, ha⟩) fun inv p h => hbroken ⟨inv, p, h⟩]
      by_cases hlt : (c.runner.proceed op).1.budget (c.runner.proceed op).2 < c.runner.budget op
      · rw [if_pos hlt]
        have hi : i < c.jobs.length := (List.getElem?_eq_some_iff.mp hjob).1
        have hjob₁ : (c.play os).jobs[i]? = some job₁ := by
          rw [hjobs, List.getElem?_set_self hi]
        rw [← hrunner] at hlt
        obtain ⟨os', job', hrunner', hjobs', hcall', hstage'⟩ := ih _ hlt hjob₁ hstage₁ rfl
        refine ⟨os ++ os', job', ?_, ?_, hcall'.trans hcall, ?_⟩
        · rw [play_append, hrunner', hrunner]
        · rw [play_append, hjobs', hjobs, List.set_set]
        · rwa [hrunner] at hstage'
      · rw [if_neg hlt]
        exact ⟨os, job₁, hrunner, hjobs, hcall, fun a ha => by cases ha⟩

/-- So is to begin a call and to run it to its end. -/
theorem exists_play_call (c : Course σ) {call : RunnerCall} {r : Runner (Recorded σ)}
    {op : Operation} (h : c.runner.begin call = (r, .going op)) :
    ∃ os job, (c.play os).runner = (r.drive op).1 ∧ (c.play os).jobs = c.jobs ++ [job] ∧
      job.call = call ∧ ∀ a, (r.drive op).2 = some a → job.stage = .going (.finished a) := by
  let first : Job σ := { call, stage := .going op, turns := [⟨c.runner, r⟩] }
  have hnext : c.next (.call call) = { runner := r, jobs := c.jobs ++ [first] } := by
    simp only [next, h]
    rfl
  have hfirst : (c.next (.call call)).jobs[c.jobs.length]? = some first := by
    rw [hnext]
    exact List.getElem?_concat_length
  obtain ⟨os, job, hrunner, hjobs, hcall, hstage⟩ := exists_play_drive hfirst rfl
  rw [hnext] at hrunner hjobs hstage
  refine ⟨.call call :: os, job, ?_, ?_, hcall, hstage⟩
  · rw [play, List.foldl_cons, hnext]
    exact hrunner
  · rw [play, List.foldl_cons, hnext]
    refine hjobs.trans ?_
    simp

/-- An invocation without interruption is an order that is driven to its end. -/
theorem invoke_runner (r : Runner σ) (o : Order) :
    (r.invoke o.id o.bindings o.isConfirmed o.cancelAt).1 =
      ((r.beginOrder o).1.drive (r.beginOrder o).2).1 := by
  unfold Runner.invoke Runner.beginOrder
  rcases r.beginInvocation o.id o.bindings o.isConfirmed o.cancelAt with ⟨begun, op⟩
  dsimp only
  rcases begun.drive op with ⟨ended, _ | a⟩
  · rfl
  · cases a <;> rfl

/-- A stop without interruption is one that is driven to its end. -/
theorem stopService_runner (r : Runner σ) (id : String) :
    (r.stopService id).1 = ((r.beginStop id).1.drive (r.beginStop id).2).1 := by
  unfold Runner.stopService
  rcases r.beginStop id with ⟨begun, op⟩
  dsimp only
  rcases begun.drive op with ⟨ended, _ | a⟩
  · rfl
  · cases a <;> rfl

/-- The end of all services without interruption is driven to its end. -/
theorem shutdown_runner (r : Runner σ) :
    r.shutdown.1 = (r.beginShutdown.1.drive r.beginShutdown.2).1 := by
  unfold Runner.shutdown
  rcases r.beginShutdown with ⟨begun, op⟩
  dsimp only
  rcases begun.drive op with ⟨ended, _ | a⟩
  · rfl
  · cases a <;> rfl

/-- To carry out a call is to begin it and to drive its operation. -/
theorem perform_of_going {r r' : Runner σ} {call : RunnerCall} {op : Operation}
    (h : r.begin call = (r', .going op)) : r.perform call = (r'.drive op).1 := by
  have hfst := congrArg Prod.fst h
  have hsnd := congrArg Prod.snd h
  cases call with
  | check id bindings => cases hsnd
  | serviceStatus id => cases hsnd
  | run e =>
      cases hfst
      cases hsnd
      exact invoke_runner r e.order
  | stopService id =>
      cases hfst
      cases hsnd
      exact stopService_runner r id
  | shutdown =>
      cases hfst
      cases hsnd
      exact shutdown_runner r

/-- A call without an operation only asks. -/
theorem perform_of_not_going {r : Runner σ} {call : RunnerCall}
    (h : ∀ op, (r.begin call).2 ≠ .going op) : r.perform call = r ∧ (r.begin call).1 = r := by
  cases call with
  | check id bindings => exact ⟨rfl, rfl⟩
  | serviceStatus id => exact ⟨rfl, rfl⟩
  | run e => exact (h _ rfl).elim
  | stopService id => exact (h _ rfl).elim
  | shutdown => exact (h _ rfl).elim

/-- A call that is carried out to its end is a job of a course. -/
theorem exists_play_perform (c : Course σ) (call : RunnerCall) :
    ∃ os job, (c.play os).runner = c.runner.perform call ∧
      (c.play os).jobs = c.jobs ++ [job] ∧ job.call = call := by
  by_cases hgoing : ∃ op, (c.runner.begin call).2 = .going op
  · obtain ⟨op, hop⟩ := hgoing
    have hbegin : c.runner.begin call = ((c.runner.begin call).1, .going op) := Prod.ext rfl hop
    obtain ⟨os, job, hrunner, hjobs, hcall, -⟩ := exists_play_call c hbegin
    exact ⟨os, job, hrunner.trans (perform_of_going hbegin).symm, hjobs, hcall⟩
  · obtain ⟨hperform, hbegin⟩ := perform_of_not_going fun op hop => hgoing ⟨op, hop⟩
    exact ⟨[.call call], _, hbegin.trans hperform.symm, rfl, rfl⟩

/-- Calls that are carried out one after the other are jobs of a course. -/
theorem exists_play_foldl (c : Course σ) (calls : List RunnerCall) :
    ∃ os, (c.play os).runner = calls.foldl Runner.perform c.runner ∧
      (c.play os).jobs.map (·.call) = c.jobs.map (·.call) ++ calls := by
  induction calls generalizing c with
  | nil => exact ⟨[], rfl, (List.append_nil _).symm⟩
  | cons call calls ih =>
      obtain ⟨os, job, hrunner, hjobs, rfl⟩ := exists_play_perform c call
      obtain ⟨os', hrunner', hcalls'⟩ := ih (c.play os)
      refine ⟨os ++ os', ?_, ?_⟩
      · rw [play_append, hrunner', hrunner, List.foldl_cons]
      · rw [play_append, hcalls', hjobs, List.map_append, List.append_assoc]
        rfl

/-- A call begins alike. -/
theorem begin_unrecorded (r : Runner (Recorded σ)) (call : RunnerCall) :
    r.unrecorded.begin call = ((r.begin call).1.unrecorded, (r.begin call).2) := by
  have hgoing {s : Runner σ × Operation} {s' : Runner (Recorded σ) × Operation}
      (h : s = Runner.unrecordedStep s') :
      (s.1, Stage.going s.2) = (s'.1.unrecorded, Stage.going s'.2) := by
    rw [h]
    rfl
  cases call with
  | check id bindings => rfl
  | serviceStatus id => rfl
  | run e => exact hgoing (r.beginInvocation_unrecorded _ _ _ _)
  | stopService id => exact hgoing (r.beginStop_unrecorded id)
  | shutdown => exact hgoing r.beginShutdown_unrecorded

/-- A call is performed alike. -/
theorem perform_unrecorded (r : Runner (Recorded σ)) (call : RunnerCall) :
    r.unrecorded.perform call = (r.perform call).unrecorded := by
  have hbegin := begin_unrecorded r call
  by_cases hgoing : ∃ op, (r.begin call).2 = .going op
  · obtain ⟨op, hop⟩ := hgoing
    rw [hop] at hbegin
    rw [perform_of_going hbegin, Runner.drive_unrecorded]
    exact congrArg Runner.unrecorded (perform_of_going (Prod.ext rfl hop)).symm
  · have hrecorded := perform_of_not_going fun op hop => hgoing ⟨op, hop⟩
    have hplain : r.unrecorded.perform call = r.unrecorded := by
      refine (perform_of_not_going fun op hop => hgoing ⟨op, ?_⟩).1
      rwa [hbegin] at hop
    rw [hplain, hrecorded.1]

/-- **Calls that are carried out one after the other are a course**, which leads to the same runner
once the record is left out. -/
theorem exists_play_performAll (r : Runner σ) (calls : List RunnerCall) :
    ∃ os, ((start r).play os).runner.unrecorded = calls.foldl Runner.perform r ∧
      ((start r).play os).jobs.map (·.call) = calls := by
  obtain ⟨os, hrunner, hcalls⟩ := exists_play_foldl (start r) calls
  refine ⟨os, ?_, hcalls⟩
  rw [hrunner]
  exact (List.foldl_hom Runner.unrecorded perform_unrecorded).symm

end Course

end Turnstile
