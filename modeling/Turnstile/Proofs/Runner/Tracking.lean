import Mathlib.Data.String.Basic
import Turnstile.Proofs.Runner.Custody

/-!
# The list of running services

The list is read off the table of services, and the status of a service also says whether its
process has ended. The table changes when a call begins or takes a step, and processes end at any
moment.

**Theorem** (`play_lists`): in whatever order the calls to a new runner take their steps, the list
is ascending without repetition, and its ids are those that have a status (`Course.Lists`). So a
service that runs is in it. What ends by itself stays in the list: all of it shows as running
exactly while no service in the table has ended (`play_napExited`).

**Theorem** (`play_listed`): a process that was started and runs is that of such a service, in the
hands of a job, or abandoned.

That the table has one entry for each id is kept by each occurrence (`exists_moved`).
-/

namespace Turnstile

variable {σ : Type}

namespace ServiceTable

variable {t : ServiceTable} {id : String} {e : ServiceEntry}

/-- An entry of a valid table is the one that is found under its id. -/
theorem lookup_eq_some_iff (h : t.Valid) : t.lookup id = some e ↔ (id, e) ∈ t := by
  refine ⟨mem_of_lookup, fun hmem => ?_⟩
  cases hlookup : t.lookup id with
  | none => exact absurd (List.lookup_eq_none_iff.mp hlookup _ hmem) (by simp)
  | some e' =>
      have heq := List.inj_on_of_nodup_map h.keys (mem_of_lookup hlookup) hmem rfl
      rw [(Prod.mk.inj heq).2]

/-- The ids of a table are those of its entries. -/
theorem mem_ids_iff : id ∈ t.ids ↔ ∃ e, (id, e) ∈ t := by
  rw [ids, List.mem_mergeSort, List.mem_map]
  constructor
  · rintro ⟨⟨_, e⟩, hmem, rfl⟩
    exact ⟨e, hmem⟩
  · rintro ⟨e, hmem⟩
    exact ⟨(id, e), hmem, rfl⟩

/-- One entry for each id makes the sorted ids strictly ascending. -/
theorem pairwise_ids (h : t.Valid) : t.ids.Pairwise (· < ·) := by
  have hsorted : t.ids.Pairwise (· ≤ ·) := by
    unfold ids
    refine List.Pairwise.imp (fun h => by simpa using h)
      (List.pairwise_mergeSort ?_ ?_ (t.map (·.1)))
    · simpa using fun a b c => le_trans
    · simpa using le_total
  have hnodup : t.ids.Nodup := (List.mergeSort_perm _ _).nodup_iff.mpr h.keys
  exact (hsorted.and hnodup).imp fun hboth => lt_of_le_of_ne hboth.1 hboth.2

end ServiceTable

/-- True of what happens outside: no call begins or takes a step. -/
def Occurrence.isOutside : Occurrence σ → Bool
  | .world _ | .collect => true
  | .call _ | .turn _ => false

namespace Course

variable [Platform σ]

/-! ### The list and the statuses -/

/-- True of a service that shows as running. -/
def ShowsRunning (c : Course σ) (id : String) : Prop :=
  ∃ status, c.runner.serviceStatus id = some status ∧ status.isRunning = true

/-- What the list of the running services says. -/
structure Lists (c : Course σ) : Prop where
  ascending : c.runner.runningServices.Pairwise (· < ·)
  tracked : ∀ id, id ∈ c.runner.runningServices ↔ (c.runner.serviceStatus id).isSome = true
  /-- A service shows as running exactly while its process runs. -/
  shows : ∀ id e, (id, e) ∈ c.runner.services → (c.ShowsRunning id ↔ c.Runs e.process)
  /-- What shows as running is in the list. -/
  listed : ∀ id, c.ShowsRunning id → id ∈ c.runner.runningServices

variable {c : Course σ}

/-- A valid table is listed in order, each id once. -/
theorem lists_of_valid (h : c.runner.services.Valid) : c.Lists where
  ascending := ServiceTable.pairwise_ids h
  tracked id := by
    rw [Runner.runningServices, ServiceTable.mem_ids_iff, Runner.serviceStatus, Option.isSome_map,
      Option.isSome_iff_exists]
    exact exists_congr fun e => (ServiceTable.lookup_eq_some_iff h).symm
  shows id e he := by
    have hlookup := (ServiceTable.lookup_eq_some_iff h).mpr he
    unfold ShowsRunning Runner.serviceStatus
    rw [hlookup]
    constructor
    · rintro ⟨status, hstatus, hrunning⟩
      cases hstatus
      exact hrunning
    · intro hruns
      exact ⟨_, rfl, hruns⟩
  listed id := by
    rintro ⟨status, hstatus, -⟩
    obtain ⟨e, hlookup, -⟩ := Option.map_eq_some_iff.mp hstatus
    exact ServiceTable.mem_ids_iff.mpr ⟨e, ServiceTable.mem_of_lookup hlookup⟩

/-- All that is listed shows as running exactly while no service in the table has ended. -/
theorem Lists.forall_showsRunning_iff (h : c.Lists) :
    (∀ id ∈ c.runner.runningServices, c.ShowsRunning id) ↔
      ∀ s ∈ c.runner.services, c.Runs s.2.process := by
  constructor
  · rintro hall ⟨id, e⟩ he
    exact (h.shows id e he).mp (hall id (ServiceTable.mem_ids_iff.mpr ⟨e, he⟩))
  · intro hruns id hid
    obtain ⟨e, he⟩ := ServiceTable.mem_ids_iff.mp hid
    exact (h.shows id e he).mpr (hruns _ he)

/-! ### Whole courses -/

/-- The table has one entry for each id at every moment. -/
theorem valid_play (h : c.runner.services.Valid) (os : List (Occurrence σ)) :
    (c.play os).runner.services.Valid := by
  induction os generalizing c with
  | nil => exact h
  | cons o os ih =>
      obtain ⟨_, _, hmoved⟩ := exists_moved h (next_change c o)
      exact ih hmoved.valid

/-- What happens outside leaves the table alone. -/
theorem services_next_of_isOutside {o : Occurrence σ} (h : o.isOutside = true) :
    (c.next o).runner.services = c.runner.services := by
  cases o with
  | call call => cases h
  | turn i => cases h
  | world s => rfl
  | collect => exact (Runner.reportOutput_alike c.runner).services

/-- **No service leaves or enters the table from outside**, whatever its process does. -/
theorem services_play_of_isOutside {os : List (Occurrence σ)}
    (h : ∀ o ∈ os, o.isOutside = true) : (c.play os).runner.services = c.runner.services := by
  induction os generalizing c with
  | nil => rfl
  | cons o os ih =>
      have hrest : ∀ o ∈ os, o.isOutside = true := fun o ho => h o (List.mem_cons_of_mem _ ho)
      exact (ih hrest).trans (services_next_of_isOutside (h o List.mem_cons_self))

/-- A process that runs is in the hands of a job, or its service is listed and shows as running, or
it is abandoned. -/
theorem Custody.listed (h : c.Custody) {s : ProcessId × String} (hs : s ∈ c.started)
    (hruns : c.Runs s.1) :
    (∃ i, c.UnderWay i ∧ c.Holds s.1 (.job i)) ∨
      (s.2 ∈ c.runner.runningServices ∧ c.ShowsRunning s.2) ∨ c.Abandoned s.1 := by
  have hlists := lists_of_valid h.valid
  obtain ⟨holder, hholds⟩ | habandoned := holds_or_abandoned (h.live s hs hruns)
  · cases holder with
    | job i => exact .inl ⟨i, underWay_of_holds hholds, hholds⟩
    | table id =>
        rw [← h.id_eq hs hholds]
        obtain ⟨e, he, hp⟩ := hholds
        have hshows : c.ShowsRunning id := (hlists.shows id e he).mpr (hp ▸ hruns)
        exact .inr (.inl ⟨hlists.listed id hshows, hshows⟩)
  · exact .inr (.inr habandoned)

/-- **Where a process that runs shows**, after whatever happened to a new runner. -/
theorem play_listed {r : Runner σ} (hservices : r.services = []) (hstreams : r.streams = [])
    {os : List (Occurrence σ)} (horderly : (start r).Orderly os) {s : ProcessId × String}
    (hs : s ∈ ((start r).play os).started) (hruns : ((start r).play os).Runs s.1) :
    (∃ i, ((start r).play os).UnderWay i ∧ ((start r).play os).Holds s.1 (.job i)) ∨
      (s.2 ∈ ((start r).play os).runner.runningServices ∧
        ((start r).play os).ShowsRunning s.2) ∨
      ((start r).play os).Abandoned s.1 := by
  obtain ⟨hcustody, -, -⟩ := custody_play horderly (custody_start hservices hstreams)
    (fun job hjob => (List.not_mem_nil hjob).elim) (fun job hjob => (List.not_mem_nil hjob).elim)
  exact hcustody.listed hs hruns

/-- **What the list of running services says**, after whatever happened to a new runner. -/
theorem play_lists {r : Runner σ} (hservices : r.services = []) (os : List (Occurrence σ)) :
    ((start r).play os).Lists ∧
      ((∀ id ∈ ((start r).play os).runner.runningServices, ((start r).play os).ShowsRunning id) ↔
        ∀ s ∈ ((start r).play os).runner.services, ((start r).play os).Runs s.2.process) ∧
      (∀ os', (∀ o ∈ os', o.isOutside = true) →
        ((start r).play (os ++ os')).runner.runningServices =
          ((start r).play os).runner.runningServices) := by
  have hlists := lists_of_valid (valid_play (valid_start hservices) os)
  refine ⟨hlists, hlists.forall_showsRunning_iff, fun os' hos' => ?_⟩
  rw [play_append]
  exact congrArg ServiceTable.ids (services_play_of_isOutside hos')

/-- A service that is launched. -/
def napStarted : List (Occurrence Machine) :=
  [.call (.run (.invoke "nap" [])), .turn 0, .turn 0]

/-- While it runs, it is listed and shows as running. -/
theorem play_napStarted : napRunner.services = [] ∧
    ((start napRunner).play napStarted).runner.runningServices = ["nap"] ∧
    ((start napRunner).play napStarted).Lists ∧
    ((start napRunner).play napStarted).ShowsRunning "nap" ∧
    ((start napRunner).play (napStarted ++ [.collect])).runner.runningServices = ["nap"] := by
  have hlist : ((start napRunner).play napStarted).runner.runningServices = ["nap"] := by
    have hkeys : ((start napRunner).play napStarted).runner.services.map (·.1) = ["nap"] := rfl
    rw [Runner.runningServices, ServiceTable.ids, hkeys, List.mergeSort_singleton]
  have hrunning : ∀ s ∈ ((start napRunner).play napStarted).runner.services,
      ((start napRunner).play napStarted).Runs s.2.process :=
    List.forall_mem_singleton.mpr (by decide +kernel)
  obtain ⟨hlists, hshows, hsame⟩ := play_lists (r := napRunner) rfl napStarted
  have hcollected := (hsame [.collect] (by simp [Occurrence.isOutside])).trans hlist
  refine ⟨rfl, hlist, hlists, hshows.mpr hrunning "nap" ?_, hcollected⟩
  rw [hlist]
  exact List.mem_singleton.mpr rfl

/-- The service ends by itself. -/
def napExited : List (Occurrence Machine) :=
  napStarted ++ [.world {
    ((start napRunner).play napStarted).runner.system.inner with
    tasks := ((start napRunner).play napStarted).runner.system.inner.tasks.map fun t =>
      { t with state := .finished (.exited (some 0)) } }]

/-- **A service that ended by itself stays in the list** of running services. -/
theorem play_napExited : napRunner.services = [] ∧ (start napRunner).Orderly napExited ∧
    "nap" ∈ ((start napRunner).play napExited).runner.runningServices ∧
    ¬ ((start napRunner).play napExited).ShowsRunning "nap" := by
  refine ⟨rfl, by decide +kernel, ?_, ?_⟩
  · have hkeys : ((start napRunner).play napExited).runner.services.map (·.1) = ["nap"] := rfl
    rw [Runner.runningServices, ServiceTable.ids, hkeys, List.mergeSort_singleton]
    exact List.mem_singleton.mpr rfl
  · rintro ⟨status, hstatus, hrunning⟩
    have hended : (((start napRunner).play napExited).runner.serviceStatus "nap").map
        (·.isRunning) = some false := rfl
    rw [hstatus] at hended
    cases hrunning.symm.trans (Option.some.inj hended)

end Course

end Turnstile
