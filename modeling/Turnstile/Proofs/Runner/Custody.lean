import Turnstile.Proofs.Process.Supervision
import Turnstile.Proofs.Runner.GateSafety
import Turnstile.Proofs.Runner.Transfer

/-!
# No process is orphaned

In a course, calls to a runner take their steps in any order, and processes do what they want. A
process that was started is *held* by the table of services or by a job that is under way
(`Course.Holds`). It is *abandoned* if its invocation broke off (`Course.Abandoned`).

**Theorem** (`play_noOrphans`): at every moment a process that was started and runs is held by
exactly one of them, and by the table only under the id of its tool, unless it is abandoned. So once
no job is under way, all other processes that run are in the table, at most one for each tool. What
a job launched has ended once it gives any answer but that it started a service. Once a shutdown and
all jobs that were under way before it are done, nothing runs but what is abandoned, provided that
there was no invocation among them and none came after it.

Nobody holds what is abandoned, so no process is orphaned exactly if nothing that is abandoned runs.
A service is abandoned only when the clock cannot show how long it is to be waited for
(`Course.CanWait`), and then it is an orphan (`abandoned_not_noOrphans`).

The invariant is `Custody`; that no step loses a process (`exists_moved`) keeps it.
-/

namespace Turnstile

variable {σ : Type}

/-! ### Jobs -/

namespace Stage

/-- True of a call that still goes on: it has neither given its answer nor broken off. -/
def isUnderWay : Stage → Bool
  | .checked _ | .told _ | .going (.finished _) | .going (.brokenOff ..) => false
  | .going _ => true

/-- True of an invocation that still goes on. -/
def isInvoking : Stage → Bool
  | .going (.invoking ..) => true
  | _ => false

end Stage

/-- The processes that were launched in a step, with their tools and invocations. -/
def Turn.launched (t : Turn σ) : List (ProcessId × String × String) :=
  added t.before.streams t.after.streams

/-- The processes that a job launched. -/
def Job.launched (job : Job σ) : List (ProcessId × String × String) :=
  job.turns.flatMap (·.launched)

/-- The tool of an invocation that goes on is found under its id. -/
theorem Account.find?_tool {registry : Registry} {job : Job σ} {inv : Invocation} {phase : Phase}
    (h : Account registry job) (hstage : job.stage = .going (.invoking inv phase)) :
    registry.find? inv.tool.id = some inv.tool := by
  cases h with
  | aside hstop => exact (hstop _ hstage).elim
  | refused hrefused =>
      rw [hstage] at hrefused
      cases hrefused
  | passed _ hprepares _ _ hpassed =>
      obtain ⟨_, hphase⟩ | ⟨_, hbroken⟩ | ⟨_, ha, -⟩ := hpassed
      · rw [hstage] at hphase
        cases hphase
        rw [Runner.id_of_find? hprepares.tool]
        exact hprepares.tool
      · rw [hstage] at hbroken
        cases hbroken
      · rw [hstage] at ha
        cases ha

/-- Nothing is taken out of a journal. -/
theorem Runner.Did.journal_subset {r r' : Runner (Recorded σ)} {deeds : List Deed}
    {events : List Event} (h : r.Did deeds events r') :
    r.system.journal ⊆ r'.system.journal := by
  rw [h.journal]
  exact List.subset_append_right _ _

namespace Course

/-! ### What an occurrence changes -/

section Changes

variable [Platform σ]

/-- What an occurrence can change. -/
inductive Change (c : Course σ) : Occurrence σ → Course σ → Prop
  | begun {call : RunnerCall} {r : Runner (Recorded σ)} {stage : Stage} :
      Runner.Beginning c.runner call (r, stage) → c.runner.system.journal ⊆ r.system.journal →
      Change c (.call call)
        { runner := r, jobs := c.jobs ++ [{ call, stage, turns := [⟨c.runner, r⟩] }] }
  | stepped {i : Nat} {job : Job σ} {op op' : Operation} {r : Runner (Recorded σ)} :
      c.jobs[i]? = some job → job.stage = .going op → Runner.Transition c.runner op (r, op') →
      c.runner.system.journal ⊆ r.system.journal →
      Change c (.turn i)
        { runner := r
          jobs := c.jobs.set i
            { job with stage := .going op', turns := ⟨c.runner, r⟩ :: job.turns } }
  /-- No call begins or takes a step. -/
  | aside {o : Occurrence σ} {c' : Course σ} : (∀ call, o ≠ .call call) →
      Runner.Alike c.runner c'.runner → c'.jobs = c.jobs →
      c'.runner.system.journal = c.runner.system.journal → Change c o c'

/-- No step takes a deed back. -/
theorem journal_subset_step {r : Runner (Recorded σ)} {op : Operation}
    {s : Runner (Recorded σ) × Operation} (h : r.step op = some s) :
    r.system.journal ⊆ s.1.system.journal := by
  cases op with
  | invoking inv phase =>
      obtain ⟨_, _, -, hdid, -⟩ := r.invoking_steps inv h
      exact hdid.journal_subset
  | stopping e =>
      have hstop : (Operation.stopping e).IsStop := trivial
      obtain ⟨_, -, hdid, -⟩ := r.stop_stops hstop h
      exact hdid.journal_subset
  | stoppingAll e rest done =>
      have hstop : (Operation.stoppingAll e rest done).IsStop := trivial
      obtain ⟨_, -, hdid, -⟩ := r.stop_stops hstop h
      exact hdid.journal_subset
  | brokenOff _ _ | finished _ => cases h

/-- **The step lemma**: each occurrence is a change of one of these kinds. -/
theorem next_change (c : Course σ) (o : Occurrence σ) : Change c o (c.next o) := by
  have hsame : Runner.Alike c.runner c.runner := ⟨rfl, rfl, rfl⟩
  cases o with
  | call call =>
      obtain ⟨⟨_, _, hdid⟩, -⟩ := begin_sound c.runner call
      exact .begun (Runner.begin_beginning c.runner call) hdid.journal_subset
  | turn i =>
      obtain hnext | ⟨job, op, r, op', hjob, hstage, hstep, hnext⟩ := c.next_turn_cases i
      · rw [hnext]
        exact .aside (fun _ h => by cases h) hsame rfl rfl
      · rw [hnext]
        exact .stepped hjob hstage (Runner.step_transition hstep) (journal_subset_step hstep)
  | world s => exact .aside (fun _ h => by cases h) ⟨rfl, rfl, rfl⟩ rfl rfl
  | collect =>
      obtain ⟨⟨_, -, hdid⟩, -⟩ := c.runner.did_reportOutput
      have halike := Runner.reportOutput_alike c.runner
      exact .aside (fun _ h => by cases h) ⟨halike.registry, halike.services, halike.streams⟩ rfl
        hdid.journal

end Changes

/-! ### Who holds a process -/

/-- A job that still goes on. -/
def UnderWay (c : Course σ) (i : Nat) : Prop := ∃ job ∈ c.jobs[i]?, job.stage.isUnderWay = true

instance (c : Course σ) (i : Nat) : Decidable (c.UnderWay i) :=
  inferInstanceAs (Decidable (∃ job ∈ c.jobs[i]?, job.stage.isUnderWay = true))

/-- Where a process can be. -/
inductive Holder where
  /-- In the table, under the id of a tool. -/
  | table (id : String)
  /-- In the hands of a job. -/
  | job (i : Nat)

/-- Who holds a process. -/
def Holds (c : Course σ) (p : ProcessId) : Holder → Prop
  | .table id => ∃ e, (id, e) ∈ c.runner.services ∧ e.process = p
  | .job i => ∃ job, c.jobs[i]? = some job ∧ ∃ id, (p, id) ∈ job.stage.hands

/-- The processes that were started for invocations which broke off, with their tools. -/
def strays (c : Course σ) : List (ProcessId × String) := c.jobs.flatMap (·.stage.strays)

/-- True of a process that was started for an invocation which broke off. -/
def Abandoned (c : Course σ) (p : ProcessId) : Prop := ∃ id, (p, id) ∈ c.strays

/-- All that is held or abandoned, with the tools that it belongs to. -/
def places (c : Course σ) : List (ProcessId × String) :=
  c.runner.services.held ++ c.jobs.flatMap (·.stage.charges)

/-- All that was started, with the tools that it belongs to. -/
def started (c : Course σ) : List (ProcessId × String) := c.runner.streams.map Runner.owned

variable [Platform σ]

/-- True of a process that has not ended. -/
def Runs (c : Course σ) (p : ProcessId) : Prop := Platform.isRunning c.runner.system p = true

instance (c : Course σ) (p : ProcessId) : Decidable (c.Runs p) :=
  inferInstanceAs (Decidable (Platform.isRunning c.runner.system p = true))

/-- The clock can show how long a service that starts now is to be waited for. -/
def CanWait (id : String) (c : Course σ) : Prop :=
  ∀ criteria ∈ (c.runner.registry.find? id).bind (·.readiness),
    (Platform.now c.runner.system).CanShow criteria.deadline

instance (id : String) (c : Course σ) : Decidable (c.CanWait id) :=
  inferInstanceAs (Decidable (∀ criteria ∈ (c.runner.registry.find? id).bind (·.readiness),
    (Platform.now c.runner.system).CanShow criteria.deadline))

/-- What the platform sees to: processes have numbers of their own, and one that ended stays so. -/
structure Lawful (c c' : Course σ) : Prop where
  numbers : (c'.runner.streams.map (·.1)).Nodup
  ended : ∀ s ∈ c.runner.streams, c'.Runs s.1 → c.Runs s.1

instance (c c' : Course σ) : Decidable (c.Lawful c') :=
  decidable_of_iff ((c'.runner.streams.map (·.1)).Nodup ∧
    ∀ s ∈ c.runner.streams, c'.Runs s.1 → c.Runs s.1)
    ⟨fun h => ⟨h.1, h.2⟩, fun h => ⟨h.numbers, h.ended⟩⟩

/-- The platform is lawful in all that happens. -/
def Orderly (c : Course σ) : List (Occurrence σ) → Prop
  | [] => True
  | o :: os => c.Lawful (c.next o) ∧ (c.next o).Orderly os

instance decidableOrderly : (os : List (Occurrence σ)) → (c : Course σ) → Decidable (c.Orderly os)
  | [], _ => inferInstanceAs (Decidable True)
  | o :: os, c =>
    have := decidableOrderly os (c.next o)
    inferInstanceAs (Decidable (c.Lawful (c.next o) ∧ (c.next o).Orderly os))

/-! ### No step loses a process -/

/-- What becomes of processes when something happens. -/
structure Moved (c c' : Course σ) (launched : List (ProcessId × String × String))
    (gone : List (ProcessId × String)) : Prop where
  valid : c'.runner.services.Valid
  streams : c'.runner.streams = launched ++ c.runner.streams
  kept : (launched.map Runner.owned ++ c.places).Perm (gone ++ c'.places)
  gone : ∀ s ∈ gone, s ∈ c.places ∧ ¬ c.Runs s.1

/-- What changes in one place of a list stays what it was elsewhere. -/
theorem exists_set_perm {α : Type} {l : List α} {i : Nat} {a : α} (h : l[i]? = some a) :
    ∃ rest, l.Perm (a :: rest) ∧ ∀ a', (l.set i a').Perm (a' :: rest) := by
  obtain ⟨hi, rfl⟩ := List.getElem?_eq_some_iff.mp h
  refine ⟨l.take i ++ l.drop (i + 1), ?_, fun a' => ?_⟩
  · have hl : l = l.take i ++ l[i] :: l.drop (i + 1) := by simp
    conv => lhs; rw [hl]
    exact List.perm_middle
  · rw [List.set_eq_take_append_cons_drop, if_pos hi]
    exact List.perm_middle

/-- **No occurrence loses a process.** -/
theorem exists_moved {c c' : Course σ} {o : Occurrence σ} (hvalid : c.runner.services.Valid)
    (h : Change c o c') : ∃ launched gone, Moved c c' launched gone := by
  cases h with
  | @begun call r stage hbegins _ =>
      have htransfer := Runner.transfer_of_beginning hvalid hbegins
      refine ⟨[], [], htransfer.valid, htransfer.streams, ?_, fun s hs =>
        (List.not_mem_nil hs).elim⟩
      have hkept := List.perm_iff_count.mp htransfer.kept
      refine List.perm_iff_count.mpr fun s => ?_
      specialize hkept s
      simp only [places, List.flatMap_append, List.flatMap_singleton, List.map_nil,
        List.count_append, List.count_nil] at hkept ⊢
      omega
  | @stepped i job op op' r hjob hstage hstep _ =>
      obtain ⟨launched, gone, htransfer⟩ := Runner.transfer_of_transition hvalid hstep
      obtain ⟨rest, hbefore, hafter⟩ := exists_set_perm hjob
      specialize hafter { job with stage := .going op', turns := ⟨c.runner, r⟩ :: job.turns }
      have hbefore := List.perm_iff_count.mp (hbefore.flatMap_right (·.stage.charges))
      have hafter := List.perm_iff_count.mp (hafter.flatMap_right (·.stage.charges))
      have hkept := List.perm_iff_count.mp htransfer.kept
      refine ⟨launched, gone, htransfer.valid, htransfer.streams,
        List.perm_iff_count.mpr fun s => ?_, fun s hs => ⟨?_, ?_⟩⟩
      · specialize hbefore s
        specialize hafter s
        specialize hkept s
        simp only [hstage, Stage.charges_going, places, List.flatMap_cons, List.count_append]
          at hbefore hafter hkept ⊢
        omega
      · refine List.mem_append_right _ (List.mem_flatMap.mpr ⟨job, List.mem_of_getElem? hjob, ?_⟩)
        rw [hstage]
        exact (htransfer.gone s hs).1
      · rw [Runs, (htransfer.gone s hs).2]
        exact Bool.false_ne_true
  | aside _ halike hjobs _ =>
      refine ⟨[], [], halike.services ▸ hvalid, halike.streams, ?_, fun s hs =>
        (List.not_mem_nil hs).elim⟩
      rw [places, places, halike.services, hjobs]
      exact .refl _

/-! ### The invariant -/

/-- What holds of a course at every moment. -/
structure Custody (c : Course σ) : Prop where
  valid : c.runner.services.Valid
  numbers : (c.runner.streams.map (·.1)).Nodup
  places : c.places.Nodup
  started : ∀ s ∈ c.places, s ∈ c.started
  live : ∀ s ∈ c.started, c.Runs s.1 → s ∈ c.places

/-- A move loses no process, and holds none twice. -/
theorem Moved.custody {c c' : Course σ} {launched : List (ProcessId × String × String)}
    {gone : List (ProcessId × String)} (h : Moved c c' launched gone) (hcustody : c.Custody)
    (hlawful : c.Lawful c') : c'.Custody := by
  have hstarted : c'.started = launched.map Runner.owned ++ c.started := by
    rw [Course.started, h.streams, List.map_append]
    rfl
  have hnumbers : (c'.started.map (·.1)).Nodup := by
    have hnumbers := hlawful.numbers
    rwa [Course.started, List.map_map]
  have hall : (launched.map Runner.owned ++ c.places).Nodup := by
    rw [hstarted, List.map_append, List.nodup_append] at hnumbers
    obtain ⟨hlaunched, -, hdisjoint⟩ := hnumbers
    refine List.nodup_append.mpr ⟨.of_map _ hlaunched, hcustody.places, fun s hs t ht heq => ?_⟩
    exact hdisjoint _ (List.mem_map_of_mem hs) _ (List.mem_map_of_mem (hcustody.started t ht))
      (congrArg Prod.fst heq)
  have hmem (s : ProcessId × String) :
      s ∈ launched.map Runner.owned ++ c.places ↔ s ∈ gone ++ c'.places := h.kept.mem_iff
  have hstill {s : ProcessId × String} (hs : s ∈ c.started) (hruns : c'.Runs s.1) : c.Runs s.1 := by
    obtain ⟨t, ht, rfl⟩ := List.mem_map.mp hs
    exact hlawful.ended t ht hruns
  refine ⟨h.valid, hlawful.numbers, ?_, fun s hs => ?_, fun s hs hruns => ?_⟩
  · rw [h.kept.nodup_iff] at hall
    exact (List.nodup_append.mp hall).2.1
  · rw [hstarted]
    obtain hs | hs := List.mem_append.mp ((hmem s).mpr (List.mem_append_right _ hs))
    · exact List.mem_append_left _ hs
    · exact List.mem_append_right _ (hcustody.started s hs)
  · have hplace : s ∈ launched.map Runner.owned ++ c.places := by
      rw [hstarted] at hs
      obtain hs | hs := List.mem_append.mp hs
      · exact List.mem_append_left _ hs
      · exact List.mem_append_right _ (hcustody.live s hs (hstill hs hruns))
    obtain hgone | hplace := List.mem_append.mp ((hmem s).mp hplace)
    · obtain ⟨hplace, hended⟩ := h.gone s hgone
      exact (hended (hstill (hcustody.started s hplace) hruns)).elim
    · exact hplace

omit [Platform σ] in
/-- A runner without services has a valid table. -/
theorem valid_start {r : Runner σ} (hservices : r.services = []) :
    (start r).runner.services.Valid := by
  have htable : (start r).runner.services = [] := hservices
  rw [htable]
  exact ⟨List.nodup_nil, fun s hs => (List.not_mem_nil hs).elim⟩

/-- A runner without services and streams has nothing in custody. -/
theorem custody_start {r : Runner σ} (hservices : r.services = []) (hstreams : r.streams = []) :
    (start r).Custody := by
  have htable : (start r).runner.services = [] := hservices
  have hnone : (start r).runner.streams = [] := hstreams
  have hplaces : (start r).places = [] := by
    rw [places, htable]
    rfl
  refine ⟨valid_start hservices, ?_, ?_, ?_, ?_⟩
  · rw [hnone]
    exact List.nodup_nil
  · rw [hplaces]
    exact List.nodup_nil
  · rw [hplaces]
    exact fun s hs => (List.not_mem_nil hs).elim
  · rw [started, hnone]
    exact fun s hs => (List.not_mem_nil hs).elim

/-! ### One holder for each process -/

section Holders

variable {c : Course σ}

omit [Platform σ] in
/-- A process in some place is held there, unless the place is a job that broke off. -/
theorem holds_or_abandoned {s : ProcessId × String} (hs : s ∈ c.places) :
    (∃ holder, c.Holds s.1 holder) ∨ c.Abandoned s.1 := by
  obtain hs | hs := List.mem_append.mp hs
  · obtain ⟨⟨key, e⟩, he, rfl⟩ := List.mem_map.mp hs
    exact .inl ⟨.table key, e, he, rfl⟩
  · obtain ⟨job, hjob, hs⟩ := List.mem_flatMap.mp hs
    obtain hhands | hstrays := List.mem_append.mp hs
    · obtain ⟨i, hi, rfl⟩ := List.mem_iff_getElem.mp hjob
      exact .inl ⟨.job i, _, List.getElem?_eq_getElem hi, s.2, hhands⟩
    · exact .inr ⟨s.2, List.mem_flatMap.mpr ⟨job, hjob, hstrays⟩⟩

/-- A part of all that is held or abandoned. -/
def portion (c : Course σ) : Holder → List (ProcessId × String)
  | .table id => (c.runner.services.filter (·.1 == id)).map (·.2.held)
  | .job i => (c.jobs[i]?.toList).flatMap (·.stage.charges)

omit [Platform σ] in
/-- A holder has the process among its own. -/
theorem Holds.exists_mem {p : ProcessId} {holder : Holder} (h : c.Holds p holder) :
    ∃ id, (p, id) ∈ c.portion holder := by
  cases holder with
  | table id =>
      obtain ⟨e, he, rfl⟩ := h
      have hfiltered : (id, e) ∈ c.runner.services.filter (·.1 == id) := by simp [he]
      exact ⟨e.tool.id, List.mem_map_of_mem (f := (·.2.held)) hfiltered⟩
  | job i =>
      obtain ⟨job, hjob, id, hid⟩ := h
      exact ⟨id, by simp [portion, hjob, Stage.charges, hid]⟩

omit [Platform σ] in
/-- What a holder has is a part of all that is held. -/
theorem portion_sublist (holder : Holder) : (c.portion holder).Sublist c.places := by
  cases holder with
  | table id =>
      exact (List.filter_sublist.map _).trans (List.sublist_append_left _ _)
  | job i =>
      refine .trans ?_ (List.sublist_append_right _ _)
      cases hjob : c.jobs[i]? with
      | none => simp [portion, hjob]
      | some job =>
          have hmem := List.mem_of_getElem? hjob
          simp only [portion, hjob, Option.toList_some, List.flatMap_singleton]
          exact List.sublist_flatten_of_mem (List.mem_map_of_mem hmem)

omit [Platform σ] in
/-- What is there once is in one portion only. -/
theorem holder_eq_of_mem (h : c.places.Nodup) {s : ProcessId × String} {x y : Holder}
    (hx : s ∈ c.portion x) (hy : s ∈ c.portion y) : x = y := by
  obtain ⟨htable, hjobs, hdisjoint⟩ := List.nodup_append.mp h
  have hentry {id : String} (hs : s ∈ c.portion (.table id)) :
      ∃ e, (id, e) ∈ c.runner.services ∧ e.held = s := by
    obtain ⟨⟨key, e⟩, he, heq⟩ := List.mem_map.mp hs
    obtain ⟨hin, hkey⟩ := List.mem_filter.mp he
    obtain rfl : key = id := eq_of_beq hkey
    exact ⟨e, hin, heq⟩
  have hcharges {i : Nat} (hs : s ∈ c.portion (.job i)) :
      ∃ hi : i < c.jobs.length, s ∈ c.jobs[i].stage.charges := by
    obtain ⟨job, hjob, hs⟩ := List.mem_flatMap.mp hs
    obtain ⟨hi, rfl⟩ := List.getElem?_eq_some_iff.mp (Option.mem_toList.mp hjob)
    exact ⟨hi, hs⟩
  have happart {id : String} {i : Nat} (hs : s ∈ c.portion (.table id))
      (hs' : s ∈ c.portion (.job i)) : False := by
    obtain ⟨e, he, rfl⟩ := hentry hs
    obtain ⟨hi, hs'⟩ := hcharges hs'
    exact hdisjoint _ (List.mem_map_of_mem (f := (·.2.held)) he) _
      (List.mem_flatMap.mpr ⟨_, List.getElem_mem hi, hs'⟩) rfl
  cases x with
  | table id =>
      cases y with
      | table id' =>
          obtain ⟨e, he, rfl⟩ := hentry hx
          obtain ⟨e', he', heq⟩ := hentry hy
          cases List.inj_on_of_nodup_map htable he' he heq
          rfl
      | job i => exact (happart hx hy).elim
  | job i =>
      cases y with
      | table id => exact (happart hy hx).elim
      | job j =>
          obtain ⟨hi, hx⟩ := hcharges hx
          obtain ⟨hj, hy⟩ := hcharges hy
          have hpairwise := List.pairwise_iff_getElem.mp (List.nodup_flatMap.mp hjobs).2
          rcases Nat.lt_trichotomy i j with hlt | rfl | hlt
          · exact (hpairwise i j hi hj hlt hx hy).elim
          · rfl
          · exact (hpairwise j i hj hi hlt hy hx).elim

/-- A process is started once, for one tool. -/
theorem Custody.tool_eq (h : c.Custody) {s t : ProcessId × String} (hs : s ∈ c.started)
    (ht : t ∈ c.started) (heq : s.1 = t.1) : s = t := by
  have hnumbers : (c.started.map (·.1)).Nodup := by
    have hnumbers := h.numbers
    rwa [Course.started, List.map_map]
  exact List.inj_on_of_nodup_map hnumbers hs ht heq

/-- A process is in one portion only. -/
theorem Custody.portion_eq (h : c.Custody) {p : ProcessId} {id id' : String} {x y : Holder}
    (hx : (p, id) ∈ c.portion x) (hy : (p, id') ∈ c.portion y) : x = y := by
  have hstarted {id : String} {z : Holder} (hz : (p, id) ∈ c.portion z) : (p, id) ∈ c.started :=
    h.started _ ((portion_sublist z).subset hz)
  rw [h.tool_eq (hstarted hy) (hstarted hx) rfl] at hy
  exact holder_eq_of_mem h.places hx hy

/-- Nothing is held twice. -/
theorem Custody.holder_eq (h : c.Custody) {p : ProcessId} {x y : Holder} (hx : c.Holds p x)
    (hy : c.Holds p y) : x = y := by
  obtain ⟨_, hx⟩ := hx.exists_mem
  obtain ⟨_, hy⟩ := hy.exists_mem
  exact h.portion_eq hx hy

/-- Nobody holds what is abandoned. -/
theorem Custody.not_holds (h : c.Custody) {p : ProcessId} (hp : c.Abandoned p) (holder : Holder) :
    ¬ c.Holds p holder := by
  intro hholds
  obtain ⟨id, hstray⟩ := hp
  obtain ⟨job, hjob, hstray⟩ := List.mem_flatMap.mp hstray
  obtain ⟨i, hi, rfl⟩ := List.mem_iff_getElem.mp hjob
  have hcharge : (p, id) ∈ c.portion (.job i) := by
    simp [portion, Stage.charges, List.getElem?_eq_getElem hi, hstray]
  obtain ⟨_, hportion⟩ := hholds.exists_mem
  obtain rfl := h.portion_eq hportion hcharge
  obtain ⟨job', hjob', _, hhands⟩ := hholds
  rw [List.getElem?_eq_getElem hi] at hjob'
  cases hjob'
  rw [Stage.hands_eq_nil_of_mem_strays hstray] at hhands
  cases hhands

omit [Platform σ] in
/-- A process that nobody holds is still accounted for. -/
theorem strays_subset_places : c.strays ⊆ c.places := by
  intro s hs
  obtain ⟨job, hjob, hs⟩ := List.mem_flatMap.mp hs
  exact List.mem_append_right _ (List.mem_flatMap.mpr ⟨job, hjob, List.mem_append_right _ hs⟩)

end Holders

/-! ### Abandoned processes -/

/-- **A service is abandoned only at a moment when the clock cannot show its deadline.** -/
theorem strays_next {registry : Registry} {c : Course σ} (h : c.Accounted registry)
    {o : Occurrence σ} {s : ProcessId × String} (hs : s ∈ (c.next o).strays) :
    s ∈ c.strays ∨ ¬ (c.next o).CanWait s.2 := by
  have hchange := next_change c o
  generalize c.next o = c' at hchange hs ⊢
  obtain ⟨job', hjob', hstray⟩ := List.mem_flatMap.mp hs
  have hold (hjob : job' ∈ c.jobs) : s ∈ c.strays := List.mem_flatMap.mpr ⟨job', hjob, hstray⟩
  cases hchange with
  | begun hbegins _ =>
      obtain hjob | hjob := List.mem_append.mp hjob'
      · exact .inl (hold hjob)
      · rw [List.mem_singleton.mp hjob, hbegins.strays_eq_nil] at hstray
        cases hstray
  | aside _ _ hjobs _ => exact .inl (hold (hjobs ▸ hjob'))
  | @stepped i job op op' r hjob hstage hstep _ =>
      obtain hjob' | rfl := List.mem_or_eq_of_mem_set hjob'
      · exact .inl (hold hjob')
      · have hstray : s ∈ op'.strays := hstray
        obtain hnone | ⟨inv, p, criteria, rfl, hone, hregistry, hcriteria, hclock⟩ :=
          hstep.strays_eq
        · rw [hnone] at hstray
          cases hstray
        · rw [hone, List.mem_singleton] at hstray
          subst hstray
          have hfind := (h.jobs job (List.mem_of_getElem? hjob)).find?_tool hstage
          rw [← h.tools, ← hregistry] at hfind
          refine .inr fun hwait => hclock (hwait criteria ?_)
          rw [hfind, Option.bind_some, hcriteria]
          rfl

/-- A process is left by a job only where the tool cannot wait. -/
theorem strays_play {registry : Registry} {c : Course σ} (h : c.Accounted registry)
    {os : List (Occurrence σ)} {s : ProcessId × String} (hs : s ∈ (c.play os).strays) :
    s ∈ c.strays ∨ ∃ os', os' <+: os ∧ ¬ (c.play os').CanWait s.2 := by
  induction os generalizing c with
  | nil => exact .inl hs
  | cons o os ih =>
      obtain hnext | ⟨os', hos', hwait⟩ := ih (accounted_next h o) hs
      · obtain hold | hwait := strays_next h hnext
        · exact .inl hold
        · exact .inr ⟨[o], List.prefix_append [o] os, hwait⟩
      · exact .inr ⟨o :: os', (List.prefix_cons_inj o).mpr hos', hwait⟩

/-! ### What operations ask and leave -/

/-- What a job waits for the end of, it asked to end. -/
def Asked (c : Course σ) : Prop :=
  ∀ job ∈ c.jobs, ∀ op, job.stage = .going op → ∀ p, op.IsEnding p →
    .requestStop p ∈ c.runner.system.journal

/-- What a job launched and what still runs is something that it may leave. -/
def Answerable (c : Course σ) : Prop :=
  ∀ job ∈ c.jobs, ∀ s ∈ job.launched, s ∈ c.runner.streams ∧
    (c.Runs s.1 → ∃ op, job.stage = .going op ∧ op.MayLeave s.1)

/-- A stop that was asked for is in the journal. -/
theorem mem_journal_of_hasAsked {r : Runner (Recorded σ)} {p : ProcessId} (h : r.HasAsked p) :
    .requestStop p ∈ r.system.journal := by
  obtain ⟨s, hs⟩ := h
  rw [hs]
  exact List.mem_cons_self

/-- Whoever stops a process has asked it to end. -/
theorem Change.asked {c c' : Course σ} {o : Occurrence σ} (h : Change c o c') (hasked : c.Asked) :
    c'.Asked := by
  cases h with
  | begun hbegins hjournal =>
      intro job hjob op hstage p hp
      obtain hjob | hjob := List.mem_append.mp hjob
      · exact hjournal (hasked job hjob op hstage p hp)
      · rw [List.mem_singleton.mp hjob] at hstage
        cases hstage
        exact mem_journal_of_hasAsked (hbegins.hasAsked hp)
  | stepped hjob hstage hstep hjournal =>
      intro job' hjob' op' hstage' p hp
      obtain hold | rfl := List.mem_or_eq_of_mem_set hjob'
      · exact hjournal (hasked job' hold op' hstage' p hp)
      · cases hstage'
        obtain hp | hp := hstep.isEnding_or_hasAsked hp
        · exact hjournal (hasked _ (List.mem_of_getElem? hjob) _ hstage p hp)
        · exact mem_journal_of_hasAsked hp
  | aside _ _ hjobs hjournal =>
      intro job hjob op hstage p hp
      rw [hjournal]
      exact hasked job (hjobs ▸ hjob) op hstage p hp

/-- A process that is left alone is in the table, or a job looks after it. -/
theorem Change.answerable {c c' : Course σ} {o : Occurrence σ} (h : Change c o c')
    (hvalid : c.runner.services.Valid) (hlawful : c.Lawful c') (hleft : c.Answerable) :
    c'.Answerable := by
  obtain ⟨launched, gone, hmoved⟩ := exists_moved hvalid h
  have hold {job : Job σ} (hjob : job ∈ c.jobs) {s : ProcessId × String × String}
      (hs : s ∈ job.launched) : s ∈ c'.runner.streams ∧
        (c'.Runs s.1 → c.Runs s.1 ∧ ∃ op, job.stage = .going op ∧ op.MayLeave s.1) := by
    obtain ⟨hstreams, hleaves⟩ := hleft job hjob s hs
    refine ⟨hmoved.streams ▸ List.mem_append_right _ hstreams, fun hruns => ?_⟩
    have hruns := hlawful.ended s hstreams hruns
    exact ⟨hruns, hleaves hruns⟩
  have hsame {job : Job σ} (hjob : job ∈ c.jobs) {s : ProcessId × String × String}
      (hs : s ∈ job.launched) : s ∈ c'.runner.streams ∧
        (c'.Runs s.1 → ∃ op, job.stage = .going op ∧ op.MayLeave s.1) :=
    ⟨(hold hjob hs).1, fun hruns => ((hold hjob hs).2 hruns).2⟩
  cases h with
  | begun hbegins _ =>
      intro job hjob s hs
      obtain hjob | hjob := List.mem_append.mp hjob
      · exact hsame hjob hs
      · have htransfer := Runner.transfer_of_beginning hvalid hbegins
        rw [List.mem_singleton.mp hjob, Job.launched, List.flatMap_singleton] at hs
        exact (not_mem_added htransfer.streams s hs).elim
  | @stepped i job op op' r hjob hstage hstep _ =>
      intro job' hjob' s hs
      obtain hjob' | rfl := List.mem_or_eq_of_mem_set hjob'
      · exact hsame hjob' hs
      · obtain ⟨hnew, hkept⟩ := hstep.mayLeave
        rw [Job.launched, List.flatMap_cons] at hs
        obtain hs | hs := List.mem_append.mp hs
        · refine ⟨?_, fun _ => ⟨op', rfl, hnew s hs⟩⟩
          have hadded : added c.runner.streams r.streams = launched := added_eq _ hmoved.streams
          rw [hmoved.streams]
          exact List.mem_append_left _ (hadded ▸ hs)
        · obtain ⟨hstreams, hleaves⟩ := hold (List.mem_of_getElem? hjob) hs
          refine ⟨hstreams, fun hruns => ?_⟩
          obtain ⟨hruns, op₀, hop₀, hmay⟩ := hleaves hruns
          rw [hstage] at hop₀
          cases hop₀
          exact ⟨op', rfl, hkept s.1 hmay hruns⟩
  | aside _ _ hjobs _ =>
      intro job hjob s hs
      rw [hjobs] at hjob
      exact hsame hjob hs

/-! ### Shutdowns -/

/-- No invocation is under way. -/
def InvokesNothing (c : Course σ) : Prop := ∀ job ∈ c.jobs, job.stage.isInvoking = false

instance (c : Course σ) : Decidable c.InvokesNothing :=
  inferInstanceAs (Decidable (∀ job ∈ c.jobs, job.stage.isInvoking = false))

/-- The table is empty, no invocation is under way, and the jobs that came after a certain one hold
nothing. -/
structure ShutDown (n : Nat) (c : Course σ) : Prop where
  services : c.runner.services = []
  invokesNothing : c.InvokesNothing
  reached : n < c.jobs.length
  hands : ∀ i job, n < i → c.jobs[i]? = some job → job.stage.hands = []

omit [Platform σ] in
/-- A job that is over invokes nothing. -/
theorem isInvoking_of_over {stage : Stage} {P : Answer → Prop}
    (h : ∀ op, stage = .going op → ∃ a, op = .finished a ∧ P a) : stage.isInvoking = false := by
  cases stage with
  | checked _ | told _ => rfl
  | going op =>
      obtain ⟨_, rfl, -⟩ := h op rfl
      rfl

/-- A call that is no invocation is over at once if the table is empty. -/
theorem over_of_beginning {r r' : Runner (Recorded σ)} {call : RunnerCall}
    {stage : Stage} (h : Runner.Beginning r call (r', stage)) (hservices : r.services = [])
    (hcall : ∀ e, call ≠ .run e) :
    r'.services = [] ∧ stage.isInvoking = false ∧ stage.hands = [] := by
  cases h with
  | answered halike _ hover =>
      exact ⟨halike.services.trans hservices, isInvoking_of_over hover,
        (List.append_eq_nil_iff.mp (Stage.charges_of_over hover)).1⟩
  | passed | relaunched => exact (hcall _ rfl).elim
  | stopped _ _ hlookup =>
      rw [hservices] at hlookup
      cases hlookup
  | shutDown _ _ hentries =>
      rw [hservices] at hentries
      cases hentries

/-- An operation that is no invocation holds something until it is over, and adds nothing to the
table. -/
theorem stops_of_transition {r r' : Runner (Recorded σ)} {op op' : Operation}
    (h : Runner.Transition r op (r', op')) (hnot : (Stage.going op).isInvoking = false) :
    r'.services = r.services ∧ (Stage.going op').isInvoking = false ∧ op.hands ≠ [] := by
  cases h with
  | cleared | launched | brokenOff | unstarted | ended | watched | entered | replaced | settled =>
      cases hnot
  | stopped | stoppedAll => exact ⟨rfl, rfl, List.cons_ne_nil _ _⟩
  | stoppedOne _ halike => exact ⟨halike.services, rfl, List.cons_ne_nil _ _⟩

/-- The end of all services begins with the table empty. -/
theorem shutDown_begun {c : Course σ} (hinvokes : c.InvokesNothing) :
    ShutDown c.jobs.length (c.next (.call .shutdown)) := by
  have hbegins := Runner.begin_beginning c.runner .shutdown
  rcases hbegin : c.runner.begin .shutdown with ⟨r, stage⟩
  rw [hbegin] at hbegins
  have hnext : c.next (.call .shutdown) = { runner := r, jobs := c.jobs ++
      [{ call := .shutdown, stage, turns := [⟨c.runner, r⟩] }] } := by
    simp only [next, hbegin]
  have hstage : r.services = [] ∧ stage.isInvoking = false := by
    cases hbegins with
    | answered halike hempty hover =>
        exact ⟨halike.services.trans (hempty rfl), isInvoking_of_over hover⟩
    | shutDown _ _ _ hservices => exact ⟨hservices, rfl⟩
  rw [hnext]
  refine ⟨hstage.1, fun job hjob => ?_, by simp, fun i job hi hjob => ?_⟩
  · obtain hjob | hjob := List.mem_append.mp hjob
    · exact hinvokes job hjob
    · rw [List.mem_singleton.mp hjob]
      exact hstage.2
  · have hlength := (List.getElem?_eq_some_iff.mp hjob).1
    simp only [List.length_append, List.length_singleton] at hlength
    omega

/-- It goes on as long as nothing new is run. -/
theorem Change.shutDown {n : Nat} {c c' : Course σ} {o : Occurrence σ} (h : Change c o c')
    (ho : ∀ e, o ≠ .call (.run e)) (hdown : ShutDown n c) : ShutDown n c' := by
  cases h with
  | @begun call r stage hbegins _ =>
      have hstage := over_of_beginning hbegins hdown.services fun e he => ho e (he ▸ rfl)
      refine ⟨hstage.1, fun job hjob => ?_, ?_, fun i job hi hjob => ?_⟩
      · obtain hjob | hjob := List.mem_append.mp hjob
        · exact hdown.invokesNothing job hjob
        · rw [List.mem_singleton.mp hjob]
          exact hstage.2.1
      · have hreached := hdown.reached
        simp only [List.length_append]
        omega
      · rw [List.getElem?_append] at hjob
        split at hjob
        · exact hdown.hands i job hi hjob
        · rw [List.mem_singleton.mp (List.mem_of_getElem? hjob)]
          exact hstage.2.2
  | @stepped j job op op' r hjob hstage hstep _ =>
      have hnot := hdown.invokesNothing job (List.mem_of_getElem? hjob)
      rw [hstage] at hnot
      have hstop := stops_of_transition hstep hnot
      refine ⟨hstop.1.trans hdown.services, fun job' hjob' => ?_, ?_, fun i job' hi hjob' => ?_⟩
      · obtain hold | rfl := List.mem_or_eq_of_mem_set hjob'
        · exact hdown.invokesNothing job' hold
        · exact hstop.2.1
      · rw [List.length_set]
        exact hdown.reached
      · by_cases hji : j = i
        · -- only an operation that holds something takes a step, and job `i` holds nothing
          subst hji
          have hempty := hdown.hands j job hi hjob
          rw [hstage] at hempty
          exact (hstop.2.2 hempty).elim
        · rw [List.getElem?_set_ne hji] at hjob'
          exact hdown.hands i job' hi hjob'
  | aside _ halike hjobs _ =>
      refine ⟨halike.services.trans hdown.services, ?_, ?_, ?_⟩
      · unfold InvokesNothing
        rw [hjobs]
        exact hdown.invokesNothing
      · rw [hjobs]
        exact hdown.reached
      · rw [hjobs]
        exact hdown.hands

/-- A course in which nothing new is run keeps to it. -/
theorem shutDown_play {n : Nat} {c : Course σ} (h : ShutDown n c) {os : List (Occurrence σ)}
    (hos : ∀ e, .call (.run e) ∉ os) : ShutDown n (c.play os) := by
  induction os generalizing c with
  | nil => exact h
  | cons o os ih =>
      refine ih ((next_change c o).shutDown (fun e he => ?_) h) fun e he => ?_
      · exact hos e (he ▸ List.mem_cons_self)
      · exact hos e (List.mem_cons_of_mem _ he)

/-! ### Whole courses -/

/-- What a runner promises about the processes that it started, but for some that are left aside. -/
structure NoOrphans (c : Course σ) (aside : ProcessId → Prop) : Prop where
  /-- A process that runs is held by the table or by a job, and by one of them only. -/
  held : ∀ s ∈ c.started, c.Runs s.1 → ¬ aside s.1 → ∃! holder, c.Holds s.1 holder
  /-- The table holds it under the id of its tool. -/
  byTable : ∀ s ∈ c.started, ∀ id, c.Holds s.1 (.table id) → id = s.2
  /-- A job that holds it is under way. -/
  byJob : ∀ p i, c.Holds p (.job i) → c.UnderWay i
  asked : c.Asked
  table : c.runner.services.Valid
  /-- Once no job is under way, what runs is in the table, at most one for each tool. -/
  atRest : (∀ i, ¬ c.UnderWay i) → ∀ s ∈ c.started, c.Runs s.1 → ¬ aside s.1 →
    c.Holds s.1 (.table s.2) ∧ ∀ t ∈ c.started, c.Runs t.1 → ¬ aside t.1 → t.2 = s.2 → t = s
  /-- What a job launched has ended once its answer is not that it started a service. -/
  answered : ∀ job ∈ c.jobs, ∀ a, job.stage = .going (.finished (.invocation a)) →
    (∀ result readiness, a = .ok result → result.status ≠ .started readiness) →
    ∀ s ∈ job.launched, ¬ c.Runs s.1

omit [Platform σ] in
/-- A job that holds a process is under way. -/
theorem underWay_of_holds {c : Course σ} {p : ProcessId} {i : Nat} (h : c.Holds p (.job i)) :
    c.UnderWay i := by
  obtain ⟨job, hjob, id, hid⟩ := h
  refine ⟨job, hjob, ?_⟩
  cases hstage : job.stage with
  | checked _ | told _ =>
      rw [hstage] at hid
      cases hid
  | going op =>
      cases op with
      | brokenOff _ _ | finished _ =>
          rw [hstage] at hid
          cases hid
      | invoking _ _ | stopping _ | stoppingAll _ _ _ => rfl

/-- The table holds a process under the id of its tool. -/
theorem Custody.id_eq {c : Course σ} (h : c.Custody) {s : ProcessId × String} (hs : s ∈ c.started)
    {id : String} (hholds : c.Holds s.1 (.table id)) : id = s.2 := by
  obtain ⟨e, he, hp⟩ := hholds
  have hplace : e.held ∈ c.places :=
    List.mem_append_left _ (List.mem_map_of_mem (f := (·.2.held)) he)
  rw [← h.tool_eq (h.started _ hplace) hs hp]
  exact (h.valid.tools _ he).symm

/-- Where custody is kept, every process that runs is held, or was abandoned. -/
theorem Custody.noOrphans {c : Course σ} (h : c.Custody) (hasked : c.Asked)
    (hanswerable : c.Answerable) : c.NoOrphans c.Abandoned := by
  have hholder {s : ProcessId × String} (hs : s ∈ c.started) (hruns : c.Runs s.1)
      (hkept : ¬ c.Abandoned s.1) : ∃ holder, c.Holds s.1 holder :=
    (holds_or_abandoned (h.live s hs hruns)).resolve_right hkept
  have hrest (hidle : ∀ i, ¬ c.UnderWay i) {s : ProcessId × String} (hs : s ∈ c.started)
      (hruns : c.Runs s.1) (hkept : ¬ c.Abandoned s.1) : c.Holds s.1 (.table s.2) := by
    obtain ⟨holder, hholds⟩ := hholder hs hruns hkept
    cases holder with
    | table id => rwa [← h.id_eq hs hholds]
    | job i => exact (hidle i (underWay_of_holds hholds)).elim
  refine ⟨fun s hs hruns hkept => ?_, fun s hs id => h.id_eq hs, fun p i => underWay_of_holds,
    hasked, h.valid, fun hidle s hs hruns hkept => ⟨hrest hidle hs hruns hkept,
      fun t ht hruns' hkept' htool => ?_⟩, fun job hjob a hstage hanswer s hs hruns => ?_⟩
  · obtain ⟨holder, hholds⟩ := hholder hs hruns hkept
    exact ⟨holder, hholds, fun other hother => h.holder_eq hother hholds⟩
  · -- both are in the table, and it has one entry for an id
    obtain ⟨e, he, hp⟩ := hrest hidle hs hruns hkept
    obtain ⟨e', he', hp'⟩ := hrest hidle ht hruns' hkept'
    rw [htool] at he'
    cases List.inj_on_of_nodup_map h.valid.keys he' he rfl
    exact h.tool_eq ht hs (hp'.symm.trans hp)
  · obtain ⟨op, hop, hmay⟩ := (hanswerable job hjob s hs).2 hruns
    rw [hstage] at hop
    cases hop
    cases a with
    | error e => exact hmay
    | ok result =>
        obtain ⟨readiness, hstarted⟩ := hmay
        exact hanswer result readiness rfl hstarted

/-- **The run lemma**: an orderly course keeps custody. -/
theorem custody_play {c : Course σ} {os : List (Occurrence σ)} (horderly : c.Orderly os)
    (hcustody : c.Custody) (hasked : c.Asked) (hanswerable : c.Answerable) :
    (c.play os).Custody ∧ (c.play os).Asked ∧ (c.play os).Answerable := by
  induction os generalizing c with
  | nil => exact ⟨hcustody, hasked, hanswerable⟩
  | cons o os ih =>
      obtain ⟨hlawful, horderly⟩ := horderly
      have hchange := next_change c o
      obtain ⟨launched, gone, hmoved⟩ := exists_moved hcustody.valid hchange
      exact ih horderly (hmoved.custody hcustody hlawful) (hchange.asked hasked)
        (hchange.answerable hcustody.valid hlawful hanswerable)

/-- Nothing has to be left aside of which nothing runs. -/
theorem NoOrphans.of_not_runs {c : Course σ} {aside : ProcessId → Prop} (h : c.NoOrphans aside)
    (hended : ∀ p, aside p → ¬ c.Runs p) : c.NoOrphans fun _ => False := by
  have hkept {p : ProcessId} (hruns : c.Runs p) : ¬ aside p := fun hp => hended p hp hruns
  refine { h with held := ?_, atRest := ?_ }
  · exact fun s hs hruns _ => h.held s hs hruns (hkept hruns)
  · intro hidle s hs hruns _
    obtain ⟨htable, hsame⟩ := h.atRest hidle s hs hruns (hkept hruns)
    exact ⟨htable, fun t ht hruns' _ htool => hsame t ht hruns' (hkept hruns') htool⟩

/-- Once a shutdown is done, nothing runs but what is abandoned. -/
theorem Custody.abandoned_of_shutDown {n : Nat} {c : Course σ} (h : c.Custody)
    (hdown : ShutDown n c) (hidle : ∀ i ≤ n, ¬ c.UnderWay i) {s : ProcessId × String}
    (hs : s ∈ c.started) (hruns : c.Runs s.1) : c.Abandoned s.1 := by
  refine (holds_or_abandoned (h.live s hs hruns)).resolve_left ?_
  rintro ⟨holder, hholds⟩
  cases holder with
  | table id =>
      obtain ⟨e, he, -⟩ := hholds
      rw [hdown.services] at he
      cases he
  | job i =>
      by_cases hi : i ≤ n
      · exact hidle i hi (underWay_of_holds hholds)
      · obtain ⟨job, hjob, id, hid⟩ := hholds
        rw [hdown.hands i job (by omega) hjob] at hid
        cases hid

/-- **No process is orphaned but those that are abandoned**, in whatever order the calls to a new
runner take their steps: exactly if none of these runs, none is orphaned at all. Each of them was
started for an invocation that broke off, at a moment when the clock could not show how long its
service was to be waited for. A shutdown leaves nothing else to run, once it and what was under way
before it are done. -/
theorem play_noOrphans {r : Runner σ} (hservices : r.services = []) (hstreams : r.streams = [])
    {os : List (Occurrence σ)} (horderly : (start r).Orderly os) :
    ((start r).play os).NoOrphans ((start r).play os).Abandoned ∧
      (((start r).play os).NoOrphans (fun _ => False) ↔
        ∀ p, ((start r).play os).Abandoned p → ¬ ((start r).play os).Runs p) ∧
      (∀ p, ((start r).play os).Abandoned p →
        (∀ holder, ¬ ((start r).play os).Holds p holder) ∧
        ∃ id, (p, id) ∈ ((start r).play os).started ∧
          ∃ os', os' <+: os ∧ ¬ ((start r).play os').CanWait id) ∧
      ∀ os₁ os₂, os = os₁ ++ .call .shutdown :: os₂ → ((start r).play os₁).InvokesNothing →
        (∀ e, .call (.run e) ∉ os₂) →
        (∀ i ≤ ((start r).play os₁).jobs.length, ¬ ((start r).play os).UnderWay i) →
        ∀ s ∈ ((start r).play os).started, ((start r).play os).Runs s.1 →
          ((start r).play os).Abandoned s.1 := by
  have hnone : ∀ job ∈ (start r).jobs, False := fun job hjob => (List.not_mem_nil hjob).elim
  obtain ⟨hcustody, hasked, hanswerable⟩ := custody_play horderly
    (custody_start hservices hstreams) (fun job hjob => (hnone job hjob).elim)
    (fun job hjob => (hnone job hjob).elim)
  have hstarted {p : ProcessId} {id : String} (hp : (p, id) ∈ ((start r).play os).strays) :
      (p, id) ∈ ((start r).play os).started :=
    hcustody.started _ (strays_subset_places hp)
  have horphans := hcustody.noOrphans hasked hanswerable
  refine ⟨horphans, ⟨fun hall p hp hruns => ?_, horphans.of_not_runs⟩,
    fun p hp => ⟨hcustody.not_holds hp, ?_⟩, ?_⟩
  · obtain ⟨id, hid⟩ := hp
    obtain ⟨holder, hholds, -⟩ := hall.held (p, id) (hstarted hid) hruns not_false
    exact hcustody.not_holds ⟨id, hid⟩ holder hholds
  · obtain ⟨id, hid⟩ := hp
    obtain hold | hwait := strays_play (accounted_start r) hid
    · cases hold
    · exact ⟨id, hstarted hid, hwait⟩
  · rintro os₁ os₂ rfl hinvokes hos₂ hidle s hs hruns
    have hdown := shutDown_play (shutDown_begun hinvokes) hos₂
    have hplay : (start r).play (os₁ ++ .call .shutdown :: os₂) =
        (((start r).play os₁).next (.call .shutdown)).play os₂ := play_append _ _ _
    rw [← hplay] at hdown
    exact hcustody.abandoned_of_shutDown hdown hidle hs hruns

/-- A service that sleeps, and that counts as ready at once. -/
def napTool : Tool where
  id := "nap"
  description := ""
  command := "sleep 60"
  workdir := some "/"
  readiness := some { deadline := ⟨0⟩ }
  timeout := .ofWholeSeconds 120
  gate := .ofPolicy {}

/-- A runner of this service. -/
def napRunner : Runner Machine where
  registry := { tools := [napTool] }
  killGrace := .ofWholeSeconds 1
  pollInterval := .ofWholeSeconds 1
  system := .idle

/-- The end of a command. -/
def endOf (p : ProcessId) (c : Course Machine) : Occurrence Machine :=
  .world { c.runner.system.inner with
    tasks := c.runner.system.inner.tasks.map fun t =>
      if t.leader = p then { t with state := .finished .cancelled } else t }

/-- Two launches that overlap: the second service replaces the first in the table. -/
def napOverlap : List (Occurrence Machine) :=
  [.call (.run (.invoke "nap" [])), .call (.run (.invoke "nap" [])), .turn 0, .turn 1, .turn 0,
    .turn 1]

/-- The overlap, to its end. -/
def napSettled : List (Occurrence Machine) :=
  napOverlap ++ [endOf 100 ((start napRunner).play napOverlap), .turn 1]

/-- The end of a shutdown. -/
def napShutdown : List (Occurrence Machine) :=
  [endOf 101 ((start napRunner).play (napSettled ++ [.call .shutdown])), .turn 2]

/-- After a shutdown nothing is left of two launches that overlapped. -/
theorem play_napOverlap_shutdown :
    napRunner.services = [] ∧ napRunner.streams = [] ∧
      (start napRunner).Orderly (napSettled ++ .call .shutdown :: napShutdown) ∧
      ((start napRunner).play (napSettled ++ .call .shutdown :: napShutdown)).NoOrphans
        (fun _ => False) ∧
      ((start napRunner).play (napSettled ++ .call .shutdown :: napShutdown)).started =
        [(101, "nap"), (100, "nap")] ∧
      ∀ s ∈ ((start napRunner).play (napSettled ++ .call .shutdown :: napShutdown)).started,
        ¬ ((start napRunner).play (napSettled ++ .call .shutdown :: napShutdown)).Runs s.1 := by
  have horderly : (start napRunner).Orderly (napSettled ++ .call .shutdown :: napShutdown) := by
    decide +kernel
  have hkept (p : ProcessId) :
      ¬ ((start napRunner).play (napSettled ++ .call .shutdown :: napShutdown)).Abandoned p := by
    have hstrays : ((start napRunner).play
        (napSettled ++ .call .shutdown :: napShutdown)).strays = [] := by decide +kernel
    rintro ⟨id, hid⟩
    rw [hstrays] at hid
    cases hid
  obtain ⟨-, horphans, -, hshutdown⟩ := play_noOrphans rfl rfl horderly
  refine ⟨rfl, rfl, horderly, horphans.mpr fun p hp => (hkept p hp).elim, rfl,
    fun s hs hruns => hkept s.1 (hshutdown napSettled napShutdown rfl ?_ ?_ ?_ s hs hruns)⟩
  · decide +kernel
  · intro e he
    simp [napShutdown, endOf] at he
  · decide +kernel

/-- A service that is waited for, and may run, for a number of seconds that fits in 64 bits but not
in the clock. -/
def foreverTool : Tool where
  id := "nap"
  command := "sleep 60"
  workdir := some "/"
  timeout := .ofWholeSeconds 10000000000000000000
  readiness := some { deadline := .ofWholeSeconds 10000000000000000000 }
  gate := .ofPolicy {}

/-- A runner of this service. -/
def foreverRunner : Runner Machine where
  registry := { tools := [foreverTool] }
  killGrace := .ofWholeSeconds 1
  pollInterval := .ofWholeSeconds 1
  system := .idle

/-- The service is launched. -/
def foreverRun : List (Occurrence Machine) := [.call (.run (.invoke "nap" [])), .turn 0]

/-- **A service that the clock cannot show the deadline of is an orphan**: its call is over, it
runs, and nobody holds it, not even after a shutdown. -/
theorem abandoned_not_noOrphans :
    foreverRunner.services = [] ∧ foreverRunner.streams = [] ∧
      ∀ os ∈ [foreverRun, foreverRun ++ [.call .shutdown]],
        (start foreverRunner).Orderly os ∧
          (∀ i, ¬ ((start foreverRunner).play os).UnderWay i) ∧
          (100, "nap") ∈ ((start foreverRunner).play os).started ∧
          ((start foreverRunner).play os).Runs 100 ∧
          (∀ holder, ¬ ((start foreverRunner).play os).Holds 100 holder) ∧
          ¬ ((start foreverRunner).play os).NoOrphans (fun _ => False) := by
  have horphan {c : Course Machine} (htable : c.runner.services = [])
      (hidle : ∀ job ∈ c.jobs, job.stage.isUnderWay = false) (hruns : c.Runs 100)
      (hstarted : (100, "nap") ∈ c.started) :
      (∀ i, ¬ c.UnderWay i) ∧ (100, "nap") ∈ c.started ∧ c.Runs 100 ∧
        (∀ holder, ¬ c.Holds 100 holder) ∧ ¬ c.NoOrphans (fun _ => False) := by
    have hrest (i : Nat) : ¬ c.UnderWay i := by
      rintro ⟨job, hjob, hunderWay⟩
      rw [hidle job (List.mem_of_getElem? hjob)] at hunderWay
      cases hunderWay
    have hnobody (holder : Holder) : ¬ c.Holds 100 holder := by
      cases holder with
      | table id =>
          rintro ⟨e, he, -⟩
          rw [htable] at he
          cases he
      | job i => exact fun hholds => hrest i (underWay_of_holds hholds)
    refine ⟨hrest, hstarted, hruns, hnobody, fun hall => ?_⟩
    obtain ⟨holder, hholds, -⟩ := hall.held (100, "nap") hstarted hruns not_false
    exact hnobody holder hholds
  refine ⟨rfl, rfl, List.forall_mem_cons.mpr ⟨⟨?_, ?_⟩, List.forall_mem_singleton.mpr ⟨?_, ?_⟩⟩⟩
  · decide +kernel
  · exact horphan rfl (by decide +kernel) (by decide +kernel) (by decide +kernel)
  · decide +kernel
  · exact horphan rfl (by decide +kernel) (by decide +kernel) (by decide +kernel)

end Course

end Turnstile
