import Mathlib.Data.List.Infix
import Turnstile.Proofs.Runner.Custody

/-!
# One instance of a service at a time

A launch ends the service that is in the table before it starts its own, which comes into the table
when it is ready. So two launches that overlap can both have one running (`overlap_not_oneRuns`),
and so can a launch while a service that was taken out of the table is still ending.

**Theorem** (`play_oneInstance`): if no two operations that have to do with a tool overlap, from a
moment on at which none is under way, and if the clock can always show how long the service is to be
waited for, then at most one process of the tool runs, and one is launched only when none runs.

The invariant is `SingleInstance`. While the clock can show the deadline of a service, none of its
processes is abandoned (`strays_play`), so all that run are held.
-/

namespace Turnstile

variable {σ : Type}

/-! ### Operations that have to do with a tool -/

namespace Operation

/-- True of an operation under way that launches a tool or ends services of it. -/
def concerns (id : String) : Operation → Bool
  | .invoking inv _ => inv.tool.id == id
  | .stopping e => e.tool.id == id
  | .stoppingAll e rest _ => (e :: rest).any (·.tool.id == id)
  | .brokenOff .. | .finished _ => false

theorem concerns_of_mem_hands {op : Operation} {s : ProcessId × String} (h : s ∈ op.hands) :
    op.concerns s.2 = true := by
  cases op with
  | invoking inv phase =>
      cases phase with
      | starting => cases h
      | clearing _ | running _ | watching _ _ _ | failing _ | replacing _ _ _ =>
          rw [List.mem_singleton.mp h]
          exact beq_self_eq_true _
  | stopping e =>
      rw [List.mem_singleton.mp h]
      exact beq_self_eq_true _
  | stoppingAll e rest done =>
      obtain ⟨e', he', rfl⟩ := List.mem_map.mp h
      exact List.any_eq_true.mpr ⟨e', he', beq_self_eq_true _⟩
  | brokenOff _ _ | finished _ => cases h

end Operation

namespace Stage

/-- True of a call under way that launches a tool or ends services of it. -/
def concerns (id : String) : Stage → Bool
  | .going op => op.concerns id
  | .checked _ | .told _ => false

/-- True of an invocation of a tool that is about to launch it. -/
def isStarting (id : String) : Stage → Bool
  | .going (.invoking inv .starting) => inv.tool.id == id
  | _ => false

theorem concerns_of_mem_hands {stage : Stage} {s : ProcessId × String} (h : s ∈ stage.hands) :
    stage.concerns s.2 = true := by
  cases stage with
  | checked _ | told _ => cases h
  | going op => exact Operation.concerns_of_mem_hands h

theorem concerns_of_isStarting {id : String} {stage : Stage} (h : stage.isStarting id = true) :
    stage.concerns id = true := by
  unfold isStarting at h
  split at h
  · exact h
  · cases h

end Stage

namespace Course

/-- The number of calls under way that launch a tool or end services of it. -/
def concerned (id : String) (c : Course σ) : Nat := c.jobs.countP (·.stage.concerns id)

/-- The processes of a tool that are held or abandoned. -/
def instances (id : String) (c : Course σ) : List (ProcessId × String) :=
  c.places.filter (·.2 == id)

/-- At most one process of a tool is there, and none while one is about to be launched. -/
structure SingleInstance (id : String) (c : Course σ) : Prop where
  atMostOne : (c.instances id).length ≤ 1
  starting : ∀ job ∈ c.jobs, job.stage.isStarting id = true → c.instances id = []

/-- At most one process of a tool runs. -/
def OneRuns [Platform σ] (id : String) (c : Course σ) : Prop :=
  ∀ s ∈ c.started, ∀ t ∈ c.started, s.2 = id → t.2 = id → c.Runs s.1 → c.Runs t.1 → s = t

section Counting

variable {c : Course σ} {id : String}

/-- The instances of a tool are those in the table and those that jobs have. -/
theorem instances_eq (c : Course σ) (id : String) :
    c.instances id = c.runner.services.held.filter (·.2 == id) ++
      (c.jobs.flatMap (·.stage.charges)).filter (·.2 == id) := List.filter_append ..

/-- Calls that have nothing to do with a tool, and that left none of its processes, have none of
them to account for. -/
theorem filter_charges_eq_nil {jobs : List (Job σ)} (h : jobs.countP (·.stage.concerns id) = 0)
    (hkept : ∀ job ∈ jobs, ∀ s ∈ job.stage.strays, s.2 ≠ id) :
    (jobs.flatMap (·.stage.charges)).filter (·.2 == id) = [] := by
  rw [List.filter_eq_nil_iff]
  intro s hs hid
  obtain ⟨job, hjob, hs⟩ := List.mem_flatMap.mp hs
  obtain hhands | hstrays := List.mem_append.mp hs
  · have hconcerns := Stage.concerns_of_mem_hands hhands
    rw [eq_of_beq hid] at hconcerns
    exact List.countP_eq_zero.mp h job hjob hconcerns
  · exact hkept job hjob s hstrays (eq_of_beq hid)

/-- A tool without an entry has no process in the table. -/
theorem filter_held_eq_nil (hvalid : c.runner.services.Valid)
    (h : c.runner.services.lookup id = none) :
    c.runner.services.held.filter (·.2 == id) = [] := by
  rw [List.filter_eq_nil_iff]
  intro s hs hid
  obtain ⟨⟨key, e⟩, he, rfl⟩ := List.mem_map.mp hs
  have hkey : e.tool.id = key := hvalid.tools _ he
  have hne := List.lookup_eq_none_iff.mp h _ he
  rw [← eq_of_beq hid] at hne
  simp [ServiceEntry.held, hkey] at hne

/-- None of the processes of a tool is abandoned. -/
def Keeps (id : String) (c : Course σ) : Prop := ∀ s ∈ c.strays, s.2 ≠ id

/-- No job of such a course has left a process of the tool. -/
theorem Keeps.job (h : c.Keeps id) : ∀ job ∈ c.jobs, ∀ s ∈ job.stage.strays, s.2 ≠ id :=
  fun job hjob s hs => h s (List.mem_flatMap.mpr ⟨job, hjob, hs⟩)

/-- Once nothing that has to do with a tool is under way, at most one process of it is held. -/
theorem singleInstance_of_idle (hvalid : c.runner.services.Valid) (hidle : c.concerned id = 0)
    (hkept : c.Keeps id) : SingleInstance id c := by
  have hnone : ∀ job ∈ c.jobs, job.stage.concerns id ≠ true := List.countP_eq_zero.mp hidle
  refine ⟨?_, fun job hjob hstarting =>
    (hnone job hjob (Stage.concerns_of_isStarting hstarting)).elim⟩
  have hkeys : c.runner.services.held.map (·.2) = c.runner.services.map (·.1) := by
    rw [ServiceTable.held, List.map_map]
    exact List.map_congr_left fun s hs => hvalid.tools s hs
  have hcount := List.nodup_iff_count_le_one.mp (hkeys ▸ hvalid.keys) id
  rw [List.count, List.countP_map, List.countP_eq_length_filter] at hcount
  rw [instances_eq, filter_charges_eq_nil hidle hkept.job, List.append_nil]
  exact hcount

end Counting

variable [Platform σ]

/-- Instances come only from starts, and go only where a process is let go. -/
theorem Moved.length_instances {c c' : Course σ} {launched : List (ProcessId × String × String)}
    {gone : List (ProcessId × String)} (h : Moved c c' launched gone) (id : String) :
    ((launched.map Runner.owned).filter (·.2 == id)).length + (c.instances id).length =
      (gone.filter (·.2 == id)).length + (c'.instances id).length := by
  have hlength := (h.kept.filter (·.2 == id)).length_eq
  simpa only [List.filter_append, List.length_append, instances] using hlength

/-- What is launched is one process, for a call that was about to launch it. -/
theorem Change.exists_isStarting {c c' : Course σ} {o : Occurrence σ} (h : Change c o c')
    (hvalid : c.runner.services.Valid) {s : ProcessId × String × String}
    (hs : s ∈ added c.runner.streams c'.runner.streams) :
    added c.runner.streams c'.runner.streams = [s] ∧
      ∃ job ∈ c.jobs, job.stage.isStarting s.2.1 = true := by
  cases h with
  | begun hbegins _ =>
      exact (not_mem_added (Runner.transfer_of_beginning hvalid hbegins).streams s hs).elim
  | aside _ halike _ _ => exact (not_mem_added halike.streams s hs).elim
  | @stepped i job op op' r hjob hstage hstep _ =>
      obtain hnone | ⟨inv, p, rfl, hone⟩ := hstep.launched_eq
      · rw [hnone] at hs
        cases hs
      · rw [hone, List.mem_singleton] at hs
        subst hs
        refine ⟨hone, job, List.mem_of_getElem? hjob, ?_⟩
        rw [hstage]
        exact beq_self_eq_true _

/-- What is held of a tool does not get more, or it is one process that was launched when there was
none. -/
theorem SingleInstance.instances_le {id : String} {c c' : Course σ} (h : SingleInstance id c)
    {o : Occurrence σ} (hchange : Change c o c') (hvalid : c.runner.services.Valid) :
    (c'.instances id).length ≤ 1 ∧
      ((∀ s ∈ added c.runner.streams c'.runner.streams, s.2.1 ≠ id) → c.instances id = [] →
        c'.instances id = []) := by
  obtain ⟨launched, gone, hmoved⟩ := exists_moved hvalid hchange
  have hlength := hmoved.length_instances id
  have hadded : added c.runner.streams c'.runner.streams = launched := added_eq _ hmoved.streams
  rw [hadded]
  have hnone (hother : ∀ s ∈ launched, s.2.1 ≠ id) :
      (launched.map Runner.owned).filter (·.2 == id) = [] := by
    rw [List.filter_eq_nil_iff]
    intro s hs hid
    obtain ⟨t, ht, rfl⟩ := List.mem_map.mp hs
    exact hother t ht (eq_of_beq hid)
  refine ⟨?_, fun hother hempty => ?_⟩
  · by_cases hother : ∀ s ∈ launched, s.2.1 ≠ id
    · have hbefore := h.atMostOne
      rw [hnone hother, List.length_nil] at hlength
      omega
    · obtain ⟨s, hs, hid⟩ : ∃ s ∈ launched, s.2.1 = id := by
        simpa only [not_forall, not_not, exists_prop] using hother
      obtain ⟨hone, job, hjob, hstarting⟩ := hchange.exists_isStarting hvalid (hadded ▸ hs)
      have hempty := h.starting job hjob (hid ▸ hstarting)
      obtain rfl : launched = [s] := hadded.symm.trans hone
      have hle : (([s].map Runner.owned).filter (·.2 == id)).length ≤ 1 :=
        List.length_filter_le ..
      rw [hempty, List.length_nil] at hlength
      omega
  · rw [hnone hother, hempty, List.length_nil] at hlength
    exact List.eq_nil_of_length_eq_zero (by omega)

/-- An invocation becomes ready to launch a service only when none of its tool is there. -/
theorem instances_eq_nil_of_begun {id : String} {c : Course σ} {call : RunnerCall}
    {r : Runner (Recorded σ)} {stage : Stage} (hvalid : c.runner.services.Valid)
    (hservice : ∀ tool, c.runner.registry.find? id = some tool → tool.isService = true)
    (hbegins : Runner.Beginning c.runner call (r, stage)) (hidle : c.concerned id = 0)
    (hkept : c.Keeps id) (hstarting : stage.isStarting id = true) : c.instances id = [] := by
  rw [instances_eq, filter_charges_eq_nil hidle hkept.job, List.append_nil]
  cases hbegins with
  | answered _ _ hover =>
      cases stage with
      | checked _ | told _ => cases hstarting
      | going op =>
          obtain ⟨_, rfl, -⟩ := hover op rfl
          cases hstarting
  | passed _ hfind hlookup =>
      obtain rfl := eq_of_beq hstarting
      exact filter_held_eq_nil hvalid (hlookup (hservice _ hfind))
  | relaunched | stopped | shutDown => cases hstarting

/-- A step gets an invocation ready to launch a service when the one that ran before has ended. -/
theorem cleared_of_isStarting {id : String} {r r' : Runner (Recorded σ)} {op op' : Operation}
    (h : Runner.Transition r op (r', op')) (hstarting : (Stage.going op').isStarting id = true) :
    r' = r ∧ op'.charges = [] ∧ ∃ p, op.hands = [(p, id)] ∧ op.charges = [(p, id)] := by
  cases h with
  | @cleared inv previous _ =>
      obtain rfl := eq_of_beq hstarting
      exact ⟨rfl, rfl, previous, rfl, rfl⟩
  | launched _ _ _ hphase => obtain rfl | rfl | ⟨_, _, rfl⟩ := hphase <;> cases hstarting
  | watched hphase => obtain rfl | ⟨_, rfl⟩ := hphase <;> cases hstarting
  | brokenOff | unstarted | ended | entered | replaced | settled | stopped | stoppedOne
  | stoppedAll => cases hstarting

/-- If the only call that has to do with a tool gets ready to launch it, none of it is there. -/
theorem instances_eq_nil_of_stepped {id : String} {c : Course σ} (h : SingleInstance id c)
    {i : Nat} {job : Job σ} {op op' : Operation} {r : Runner (Recorded σ)}
    (hjob : c.jobs[i]? = some job) (hstage : job.stage = .going op)
    (hstep : Runner.Transition c.runner op (r, op')) (hconcerns : op.concerns id = true)
    (hone : c.concerned id ≤ 1) (hkept : c.Keeps id) {turns : List (Turn σ)} {job' : Job σ}
    (hjob' : job' ∈ c.jobs.set i { job with stage := .going op', turns })
    (hstarting : job'.stage.isStarting id = true) :
    instances id ({ runner := r, jobs := c.jobs.set i { job with stage := .going op', turns } } :
      Course σ) = [] := by
  obtain ⟨rest, hbefore, hafter⟩ := exists_set_perm hjob
  specialize hafter { job with stage := .going op', turns }
  have hconcerned : job.stage.concerns id = true := by rwa [hstage]
  have hrest : rest.countP (·.stage.concerns id) = 0 := by
    rw [concerned, hbefore.countP_eq, List.countP_cons, if_pos hconcerned] at hone
    omega
  have hkept : ∀ job ∈ rest, ∀ s ∈ job.stage.strays, s.2 ≠ id :=
    fun job hjob => hkept.job job (hbefore.mem_iff.mpr (List.mem_cons_of_mem _ hjob))
  have hstart : (Stage.going op').isStarting id = true := by
    obtain rfl | hold := List.mem_cons.mp (hafter.mem_iff.mp hjob')
    · exact hstarting
    · exact (List.countP_eq_zero.mp hrest _ hold (Stage.concerns_of_isStarting hstarting)).elim
  obtain ⟨rfl, hcharges', p, -, hcharges⟩ := cleared_of_isStarting hstep hstart
  -- The process that ended was the one that was held.
  have hheld : (c.jobs.flatMap (·.stage.charges)).Perm
      ((p, id) :: rest.flatMap (·.stage.charges)) := by
    have hperm := hbefore.flatMap_right (·.stage.charges)
    rwa [List.flatMap_cons, hstage, Stage.charges_going, hcharges] at hperm
  have hheld' : ((c.jobs.set i { job with stage := .going op', turns }).flatMap
      (·.stage.charges)).Perm (rest.flatMap (·.stage.charges)) := by
    have hperm := hafter.flatMap_right (·.stage.charges)
    rwa [List.flatMap_cons, Stage.charges_going, hcharges'] at hperm
  have hlength := h.atMostOne
  rw [instances_eq, List.length_append, (hheld.filter _).length_eq, List.filter_cons,
    if_pos (beq_self_eq_true id), List.length_cons] at hlength
  have hfree : (c.runner.services.held.filter (·.2 == id)).length = 0 := by omega
  refine List.eq_nil_of_length_eq_zero ?_
  rw [instances_eq, List.length_append, (hheld'.filter _).length_eq,
    filter_charges_eq_nil hrest hkept]
  exact hfree

/-- **The step lemma**: a change lets the tool have one instance at most. -/
theorem SingleInstance.change {id : String} {c c' : Course σ} (h : SingleInstance id c)
    {o : Occurrence σ} (hchange : Change c o c') (hvalid : c.runner.services.Valid)
    (hservice : ∀ tool, c.runner.registry.find? id = some tool → tool.isService = true)
    (hbefore : c.concerned id ≤ 1) (hafter : c'.concerned id ≤ 1) (hkept : c.Keeps id) :
    SingleInstance id c' := by
  obtain ⟨hone, hempty⟩ := h.instances_le hchange hvalid
  refine ⟨hone, fun job' hjob' hstarting => ?_⟩
  cases hchange with
  | @begun call r stage hbegins _ =>
      have hstreams := (Runner.transfer_of_beginning hvalid hbegins).streams
      refine hempty (fun s hs => (not_mem_added hstreams s hs).elim) ?_
      obtain hjob' | hjob' := List.mem_append.mp hjob'
      · exact h.starting job' hjob' hstarting
      · rw [List.mem_singleton.mp hjob'] at hstarting
        refine instances_eq_nil_of_begun hvalid hservice hbegins ?_ hkept hstarting
        have hconcerns := Stage.concerns_of_isStarting hstarting
        simp only [concerned, List.countP_append, List.countP_singleton, hconcerns, if_true]
          at hafter
        unfold concerned
        omega
  | aside _ halike hjobs _ =>
      exact hempty (fun s hs => (not_mem_added halike.streams s hs).elim)
        (h.starting job' (hjobs ▸ hjob') hstarting)
  | @stepped i job op op' r hjob hstage hstep _ =>
      -- an operation on another tool neither launches this one nor lets go of it
      by_cases hconcerns : op.concerns id = true
      · exact instances_eq_nil_of_stepped h hjob hstage hstep hconcerns hbefore hkept hjob'
          hstarting
      have hnone : ∀ s ∈ added c.runner.streams r.streams, s.2.1 ≠ id := by
        obtain hnone | ⟨inv, p, rfl, hadded⟩ := hstep.launched_eq
        · rw [hnone]
          exact fun s hs => (List.not_mem_nil hs).elim
        · rw [hadded]
          intro s hs hid
          rw [List.mem_singleton.mp hs] at hid
          exact hconcerns (beq_iff_eq.mpr hid)
      obtain hold | rfl := List.mem_or_eq_of_mem_set hjob'
      · exact hempty hnone (h.starting job' hold hstarting)
      · obtain ⟨-, -, p, hhands, -⟩ := cleared_of_isStarting hstep hstarting
        have hmem : (p, id) ∈ op.hands := hhands ▸ List.mem_cons_self
        exact (hconcerns (Operation.concerns_of_mem_hands hmem)).elim

/-! ### Whole courses -/

/-- An orderly course is orderly up to any point, and from there on. -/
theorem orderly_append {c : Course σ} {os os' : List (Occurrence σ)} (h : c.Orderly (os ++ os')) :
    c.Orderly os ∧ (c.play os).Orderly os' := by
  induction os generalizing c with
  | nil => exact ⟨trivial, h⟩
  | cons o os ih =>
      obtain ⟨hlawful, hrest⟩ := h
      obtain ⟨hos, hos'⟩ := ih hrest
      exact ⟨⟨hlawful, hos⟩, hos'⟩

/-- **The run lemma**: the tool has one instance at most throughout. -/
theorem singleInstance_play {id : String} {registry : Registry} {c : Course σ}
    {os : List (Occurrence σ)} (horderly : c.Orderly os) (hcustody : c.Custody)
    (haccounted : c.Accounted registry)
    (hservice : ∀ tool, registry.find? id = some tool → tool.isService = true)
    (halone : ∀ os', os' <+: os → (c.play os').concerned id ≤ 1)
    (hkept : ∀ os', os' <+: os → (c.play os').Keeps id) (h : SingleInstance id c) :
    SingleInstance id (c.play os) ∧ (c.play os).Custody := by
  induction os generalizing c with
  | nil => exact ⟨h, hcustody⟩
  | cons o os ih =>
      obtain ⟨hlawful, horderly⟩ := horderly
      have hchange := next_change c o
      obtain ⟨launched, gone, hmoved⟩ := exists_moved hcustody.valid hchange
      have hbefore := halone [] (List.nil_prefix)
      have hafter := halone [o] (List.prefix_append [o] os)
      refine ih horderly (hmoved.custody hcustody hlawful) (accounted_next haccounted o) ?_ ?_ ?_
      · intro os' hos'
        exact halone (o :: os') (List.prefix_cons_inj o |>.mpr hos')
      · intro os' hos'
        exact hkept (o :: os') (List.prefix_cons_inj o |>.mpr hos')
      · exact h.change hchange hcustody.valid (haccounted.tools ▸ hservice) hbefore hafter
          (hkept [] List.nil_prefix)

/-- Where custody is kept, one instance means that one process runs. -/
theorem SingleInstance.oneRuns {id : String} {c : Course σ} (h : SingleInstance id c)
    (hcustody : c.Custody) : c.OneRuns id := by
  intro s hs t ht hsid htid hsruns htruns
  have hmem {s : ProcessId × String} (hs : s ∈ c.started) (hid : s.2 = id) (hruns : c.Runs s.1) :
      s ∈ c.instances id :=
    List.mem_filter.mpr ⟨hcustody.live s hs hruns, beq_iff_eq.mpr hid⟩
  have hs := hmem hs hsid hsruns
  have ht := hmem ht htid htruns
  have hone := h.atMostOne
  generalize c.instances id = held at hs ht hone
  match held, hone with
  | [], _ => cases hs
  | [x], _ => rw [List.mem_singleton.mp hs, List.mem_singleton.mp ht]

/-- While the clock can show the deadline of a service, none of its processes is abandoned. -/
theorem keeps_play {r : Runner σ} {id : String} {os : List (Occurrence σ)}
    (hclock : ∀ os', os' <+: os → ((start r).play os').CanWait id) :
    ((start r).play os).Keeps id := by
  rintro s hs rfl
  obtain hold | ⟨os', hos', hwait⟩ := strays_play (accounted_start r) hs
  · cases hold
  · exact hwait (hclock os' hos')

/-- **At most one process of a service runs**, and one is launched only when none runs, if no two
operations that have to do with it overlap, from a moment on at which none is under way, and if the
clock can always show how long the service is to be waited for. -/
theorem play_oneInstance {r : Runner σ} (hservices : r.services = []) (hstreams : r.streams = [])
    {id : String} (hservice : ∀ tool, r.registry.find? id = some tool → tool.isService = true)
    {os₁ os₂ : List (Occurrence σ)} (horderly : (start r).Orderly (os₁ ++ os₂))
    (hidle : ((start r).play os₁).concerned id = 0)
    (halone : ∀ os, os <+: os₂ → ((start r).play (os₁ ++ os)).concerned id ≤ 1)
    (hclock : ∀ os, os <+: os₁ ++ os₂ → ((start r).play os).CanWait id) :
    ((start r).play (os₁ ++ os₂)).OneRuns id ∧
      ∀ o, ∀ s ∈ added ((start r).play (os₁ ++ os₂)).runner.streams
          (((start r).play (os₁ ++ os₂)).next o).runner.streams, s.2.1 = id →
        ∀ t ∈ ((start r).play (os₁ ++ os₂)).started, t.2 = id →
          ¬ ((start r).play (os₁ ++ os₂)).Runs t.1 := by
  obtain ⟨hbefore, hafter⟩ := orderly_append horderly
  have hnone : ∀ job ∈ (start r).jobs, False := fun job hjob => (List.not_mem_nil hjob).elim
  obtain ⟨hcustody, -, -⟩ := custody_play hbefore (custody_start hservices hstreams)
    (fun job hjob => (hnone job hjob).elim) (fun job hjob => (hnone job hjob).elim)
  have haccounted := accounted_play (accounted_start r) os₁
  have hkept (os : List (Occurrence σ)) (hos : os <+: os₂) :
      ((start r).play (os₁ ++ os)).Keeps id :=
    keeps_play fun os' hos' => hclock os' (hos'.trans ((List.prefix_append_right_inj os₁).mpr hos))
  have hsingle := singleInstance_of_idle hcustody.valid hidle
    (by simpa using hkept [] List.nil_prefix)
  simp only [play_append] at halone hkept ⊢
  obtain ⟨hsingle, hcustody⟩ :=
    singleInstance_play hafter hcustody haccounted hservice halone hkept hsingle
  refine ⟨hsingle.oneRuns hcustody, ?_⟩
  rintro o s hs rfl t ht hid hruns
  obtain ⟨-, job, hjob, hstarting⟩ :=
    (next_change (((start r).play os₁).play os₂) o).exists_isStarting hcustody.valid hs
  have hmem : t ∈ (((start r).play os₁).play os₂).instances s.2.1 :=
    List.mem_filter.mpr ⟨hcustody.live t ht hruns, beq_iff_eq.mpr hid⟩
  rw [hsingle.starting job hjob hstarting] at hmem
  cases hmem

/-- A launch while nothing else is under way. -/
def napRelaunch : List (Occurrence Machine) :=
  [.call (.run (.invoke "nap" [])),
    endOf 101 ((start napRunner).play (napSettled ++ [.call (.run (.invoke "nap" []))])), .turn 2]

/-- Once launches that overlapped are over, the next one starts its service when no other runs. -/
theorem play_napRelaunch : napRunner.services = [] ∧ napRunner.streams = [] ∧
    (∀ tool, napRunner.registry.find? "nap" = some tool → tool.isService = true) ∧
    (start napRunner).Orderly (napSettled ++ napRelaunch) ∧
    ((start napRunner).play napSettled).concerned "nap" = 0 ∧
    (∀ os, os <+: napRelaunch →
      ((start napRunner).play (napSettled ++ os)).concerned "nap" ≤ 1) ∧
    (∀ os, os <+: napSettled ++ napRelaunch → ((start napRunner).play os).CanWait "nap") ∧
    (((start napRunner).play (napSettled ++ napRelaunch)).next (.turn 2)).started =
      [(102, "nap"), (101, "nap"), (100, "nap")] ∧
    ((start napRunner).play (napSettled ++ napRelaunch)).OneRuns "nap" ∧
    ∀ t ∈ ((start napRunner).play (napSettled ++ napRelaunch)).started, t.2 = "nap" →
      ¬ ((start napRunner).play (napSettled ++ napRelaunch)).Runs t.1 := by
  have hservice : ∀ tool, napRunner.registry.find? "nap" = some tool → tool.isService = true := by
    rintro tool ⟨⟩
    rfl
  have horderly : (start napRunner).Orderly (napSettled ++ napRelaunch) := by decide +kernel
  have hidle : ((start napRunner).play napSettled).concerned "nap" = 0 := by decide +kernel
  have halone : ∀ os, os <+: napRelaunch →
      ((start napRunner).play (napSettled ++ os)).concerned "nap" ≤ 1 := by
    intro os hos
    have hinits : ∀ os ∈ napRelaunch.inits,
        ((start napRunner).play (napSettled ++ os)).concerned "nap" ≤ 1 := by decide +kernel
    exact hinits os ((List.mem_inits os napRelaunch).mpr hos)
  have hclock : ∀ os, os <+: napSettled ++ napRelaunch →
      ((start napRunner).play os).CanWait "nap" := by
    intro os hos
    have hinits : ∀ os ∈ (napSettled ++ napRelaunch).inits,
        ((start napRunner).play os).CanWait "nap" := by decide +kernel
    exact hinits os ((List.mem_inits os (napSettled ++ napRelaunch)).mpr hos)
  obtain ⟨hone, hlaunched⟩ := play_oneInstance rfl rfl hservice horderly hidle halone hclock
  exact ⟨rfl, rfl, hservice, horderly, hidle, halone, hclock, rfl, hone,
    hlaunched (.turn 2) (102, "nap", "invocation-3") (List.mem_singleton.mpr rfl) rfl⟩

/-- Two launches that overlap: both find the table empty. -/
def napTwice : List (Occurrence Machine) :=
  [.call (.run (.invoke "nap" [])), .call (.run (.invoke "nap" [])), .turn 0, .turn 1]

/-- A launch while the service that was stopped is ending. -/
def napStopped : List (Occurrence Machine) :=
  [.call (.run (.invoke "nap" [])), .turn 0, .turn 0, .call (.stopService "nap"),
    .call (.run (.invoke "nap" [])), .turn 2]

/-- **Operations that overlap can have two processes of a service run at once**: two launches, or a
launch and a stop. -/
theorem overlap_not_oneRuns :
    ((start napRunner).Orderly napTwice ∧ ¬ ((start napRunner).play napTwice).OneRuns "nap") ∧
      (start napRunner).Orderly napStopped ∧
      ¬ ((start napRunner).play napStopped).OneRuns "nap" := by
  have hboth {c : Course Machine} (hstarted : c.started = [(101, "nap"), (100, "nap")])
      (hfirst : c.Runs 100) (hsecond : c.Runs 101) : ¬ c.OneRuns "nap" := by
    intro h
    have heq := h (100, "nap") (by simp [hstarted]) (101, "nap") (by simp [hstarted]) rfl rfl
      hfirst hsecond
    cases heq
  refine ⟨⟨by decide +kernel, hboth rfl ?_ ?_⟩, by decide +kernel, hboth rfl ?_ ?_⟩ <;>
    decide +kernel

end Course

end Turnstile
