import Mathlib.Data.List.Nodup
import Turnstile.Proofs.Runner.Transition

/-!
# Who answers for a process

A process that was started is in the table of services or in the hands of an operation, which has to
stop it, to wait for its end, or to put it into the table (`Operation.hands`). An invocation that
breaks off has nothing in its hands any more; the process that it leaves is a stray
(`Operation.strays`).

**Theorem** (`transfer_of_beginning`, `transfer_of_transition`): no step loses a process from sight.
What was in the table, in the charge of the operation or just launched is in the one or the other
after the step, but for what was in the hands of the operation and has ended.
-/

namespace Turnstile

variable {σ : Type}

/-! ### Places -/

/-- The process of a service, with the tool that it belongs to. -/
def ServiceEntry.held (e : ServiceEntry) : ProcessId × String := (e.process, e.tool.id)

namespace Operation

/-- The processes that are in the hands of an operation, with the tools that they belong to. -/
def hands : Operation → List (ProcessId × String)
  | .invoking inv (.clearing p) | .invoking inv (.running p) | .invoking inv (.watching p ..)
  | .invoking inv (.failing p) | .invoking inv (.replacing _ _ p) => [(p, inv.tool.id)]
  | .invoking _ .starting => []
  | .stopping e => [e.held]
  | .stoppingAll e rest _ => (e :: rest).map (·.held)
  | .brokenOff .. | .finished _ => []

/-- The process that was started for an invocation which broke off, with the tool that it belongs
to. -/
def strays : Operation → List (ProcessId × String)
  | .brokenOff inv p => [(p, inv.tool.id)]
  | _ => []

/-- The processes that an operation has to account for. -/
def charges (op : Operation) : List (ProcessId × String) := op.hands ++ op.strays

/-- True of a process that an operation asked to end and now waits for. -/
def IsEnding : Operation → ProcessId → Prop
  | .invoking _ (.clearing q), p | .invoking _ (.replacing _ _ q), p => p = q
  | .stopping e, p | .stoppingAll e _ _, p => p = e.process
  | _, _ => False

/-- True of a process that an operation may have launched and that may still run: it is still in
its hands or was left as a stray, or the operation tells that it started it. -/
def MayLeave : Operation → ProcessId → Prop
  | .invoking _ (.running q), p | .invoking _ (.watching q ..), p | .invoking _ (.failing q), p
  | .brokenOff _ q, p => p = q
  | .invoking _ (.replacing ..), _ => True
  | .finished (.invocation (.ok result)), _ => ∃ readiness, result.status = .started readiness
  | _, _ => False

end Operation

namespace Stage

/-- The processes in the hands of a call. -/
def hands : Stage → List (ProcessId × String)
  | .going op => op.hands
  | .checked _ | .told _ => []

/-- The process that was started for a call which broke off. -/
def strays : Stage → List (ProcessId × String)
  | .going op => op.strays
  | .checked _ | .told _ => []

/-- The processes that a call has to account for. -/
def charges (stage : Stage) : List (ProcessId × String) := stage.hands ++ stage.strays

/-- An operation under way has its charges. -/
@[simp] theorem charges_going (op : Operation) : (Stage.going op).charges = op.charges := rfl

/-- A call that has something in its hands leaves no stray. -/
theorem hands_eq_nil_of_mem_strays {stage : Stage} {s : ProcessId × String}
    (h : s ∈ stage.strays) : stage.hands = [] := by
  cases stage with
  | checked _ | told _ => rfl
  | going op =>
      cases op with
      | brokenOff _ _ | finished _ => rfl
      | invoking _ _ | stopping _ | stoppingAll _ _ _ => cases h

/-- A job that is over has none. -/
theorem charges_of_over {stage : Stage} {P : Answer → Prop}
    (h : ∀ op, stage = .going op → ∃ a, op = .finished a ∧ P a) : stage.charges = [] := by
  cases stage with
  | checked _ | told _ => rfl
  | going op =>
      obtain ⟨_, rfl, -⟩ := h op rfl
      rfl

end Stage

namespace ServiceTable

/-- Each service is in the table under the id of its tool, and there is no other under it. -/
structure Valid (t : ServiceTable) : Prop where
  keys : (t.map (·.1)).Nodup
  tools : ∀ s ∈ t, s.2.tool.id = s.1

/-- The processes in a table, with the tools that they belong to. -/
def held (t : ServiceTable) : List (ProcessId × String) := t.map (·.2.held)

variable {t : ServiceTable} {id : String} {e : ServiceEntry}

/-- A table without an entry is valid. -/
theorem Valid.filter (h : t.Valid) (id : String) : Valid (t.filter (·.1 != id)) where
  keys := h.keys.sublist (List.filter_sublist.map _)
  tools s hs := h.tools s (List.mem_filter.mp hs).1

/-- A table with one more entry is valid if the entry has its tool's id. -/
theorem Valid.insert (h : t.Valid) (hid : e.tool.id = id) : Valid (t.insert id e).2 where
  keys := by
    have hnew : id ∉ (t.filter (·.1 != id)).map (·.1) := by simp
    exact List.nodup_cons.mpr ⟨hnew, (h.filter id).keys⟩
  tools s hs := by
    obtain rfl | hs := List.mem_cons.mp hs
    · exact hid
    · exact (h.filter id).tools s hs

/-- What is found is in the table. -/
theorem mem_of_lookup (h : t.lookup id = some e) : (id, e) ∈ t := by
  induction t with
  | nil => cases h
  | cons s t ih =>
      obtain ⟨k, e'⟩ := s
      rw [List.lookup_cons] at h
      cases hk : id == k with
      | true =>
          rw [hk] at h
          cases h
          rw [eq_of_beq hk]
          exact List.mem_cons_self
      | false =>
          rw [hk] at h
          exact List.mem_cons_of_mem _ (ih h)

/-- Nothing is taken away under an id that is missing. -/
theorem filter_of_lookup_none (h : t.lookup id = none) : t.filter (·.1 != id) = t := by
  rw [List.filter_eq_self]
  intro s hs
  have hne := List.lookup_eq_none_iff.mp h s hs
  simpa [bne_comm] using hne

/-- What is taken out of a table is the entry that is found in it. -/
theorem held_perm (h : t.Valid) (hlookup : t.lookup id = some e) :
    t.held.Perm (e.held :: held (t.filter (·.1 != id))) := by
  have hkeys := h.keys
  clear h
  induction t with
  | nil => cases hlookup
  | cons s t ih =>
      obtain ⟨k, e'⟩ := s
      obtain ⟨hk, hkeys⟩ := List.nodup_cons.mp hkeys
      rw [List.lookup_cons] at hlookup
      cases hid : id == k with
      | true =>
          rw [hid] at hlookup
          cases hlookup
          cases eq_of_beq hid
          have hkept : t.filter (·.1 != id) = t := by
            rw [List.filter_eq_self]
            intro s hs
            have hmem : s.1 ∈ t.map (·.1) := List.mem_map_of_mem hs
            have hne : s.1 ≠ id := fun heq => hk (heq ▸ hmem)
            simpa using hne
          simp [held, hkept]
      | false =>
          rw [hid] at hlookup
          have hne : k ≠ id := fun heq => by simp [heq] at hid
          have hrest := ih hlookup hkeys
          simp only [held, List.map_cons, List.filter_cons, bne_iff_ne, ne_eq, hne,
            not_false_eq_true, if_true] at hrest ⊢
          exact (hrest.cons _).trans (.swap ..)

end ServiceTable

/-! ### Steps -/

namespace Runner

/-- A process that was started, with the tool that it belongs to. -/
def owned (s : ProcessId × String × String) : ProcessId × String := (s.1, s.2.1)

/-- What becomes of processes in a step of an operation: some are launched, and some have ended and
are in nobody's hands any more. -/
structure Transfer [Platform σ] (r : Runner σ) (before : List (ProcessId × String)) (r' : Runner σ)
    (after : List (ProcessId × String)) (launched : List (ProcessId × String × String))
    (gone : List (ProcessId × String)) : Prop where
  valid : r'.services.Valid
  streams : r'.streams = launched ++ r.streams
  kept : (launched.map owned ++ (r.services.held ++ before)).Perm
    (gone ++ (r'.services.held ++ after))
  gone : ∀ s ∈ gone, s ∈ before ∧ Platform.isRunning r.system s.1 = false

section Steps

variable [Platform σ] {r r' : Runner σ}

/-- Where the tables are the same, processes only leave the hands, and have ended. -/
theorem Alike.transfer (h : Alike r r') (hvalid : r.services.Valid)
    {hands hands' gone : List (ProcessId × String)} (hhands : hands = gone ++ hands')
    (hgone : ∀ s ∈ gone, Platform.isRunning r.system s.1 = false) :
    Transfer r hands r' hands' [] gone where
  valid := h.services ▸ hvalid
  streams := h.streams
  kept := by
    rw [h.services, hhands, List.map_nil, List.nil_append]
    exact List.perm_append_comm_assoc _ _ _
  gone s hs := ⟨hhands ▸ List.mem_append_left _ hs, hgone s hs⟩

/-- A service that is taken out of the table comes into the hands of an operation. -/
theorem transfer_of_taken (hvalid : r.services.Valid) {id : String} {e : ServiceEntry}
    (hstreams : r'.streams = r.streams) (hlookup : r.services.lookup id = some e)
    (hservices : r'.services = r.services.filter (·.1 != id)) :
    Transfer r [] r' [(e.process, id)] [] [] where
  valid := hservices ▸ hvalid.filter id
  streams := hstreams
  kept := by
    have hheld : e.held = (e.process, id) :=
      congrArg (e.process, ·) (hvalid.tools _ (ServiceTable.mem_of_lookup hlookup))
    have hperm := ServiceTable.held_perm hvalid hlookup
    rw [hheld, ← hservices] at hperm
    simpa using hperm.trans (List.perm_append_singleton _ _).symm
  gone s hs := (List.not_mem_nil hs).elim

/-- A service that is put into the table leaves the hands of the operation, which gets the one that
it replaces. -/
theorem transfer_of_inserted (hvalid : r.services.Valid) {id : String} {e : ServiceEntry}
    (hid : e.tool.id = id) (hstreams : r'.streams = r.streams)
    (hservices : r'.services = (r.services.insert id e).2) :
    Transfer r [(e.process, id)] r' ((r.services.lookup id).toList.map fun old => (old.process, id))
      [] [] where
  valid := hservices ▸ hvalid.insert hid
  streams := hstreams
  kept := by
    have hnew : r'.services.held = (e.process, id) ::
        ServiceTable.held (r.services.filter (·.1 != id)) := by
      rw [hservices, ← hid]
      rfl
    rw [hnew]
    obtain hlookup | ⟨old, hlookup⟩ := Option.eq_none_or_eq_some (r.services.lookup id)
    · rw [ServiceTable.filter_of_lookup_none hlookup, hlookup]
      simp
    · have hheld : old.held = (old.process, id) :=
        congrArg (old.process, ·) (hvalid.tools _ (ServiceTable.mem_of_lookup hlookup))
      have hperm := ServiceTable.held_perm hvalid hlookup
      rw [hheld] at hperm
      rw [hlookup]
      refine (List.perm_append_singleton _ _).trans ?_
      exact (hperm.trans (List.perm_append_singleton _ _).symm).cons _
  gone s hs := (List.not_mem_nil hs).elim

/-- **The beginning of a call loses no process**: it can take services out of the table. -/
theorem transfer_of_beginning (hvalid : r.services.Valid) {call : RunnerCall} {stage : Stage}
    (h : Beginning r call (r', stage)) : Transfer r [] r' stage.charges [] [] := by
  cases h with
  | answered halike _ hover =>
      rw [Stage.charges_of_over hover]
      exact halike.transfer hvalid rfl fun s hs => (List.not_mem_nil hs).elim
  | passed halike => exact halike.transfer hvalid rfl fun s hs => (List.not_mem_nil hs).elim
  | relaunched _ hstreams hlookup hservices =>
      exact transfer_of_taken hvalid hstreams hlookup hservices
  | @stopped id e _ _ hstreams hlookup hservices =>
      have hid : e.tool.id = id := hvalid.tools _ (ServiceTable.mem_of_lookup hlookup)
      have htaken := transfer_of_taken hvalid hstreams hlookup hservices
      rwa [← hid] at htaken
  | @shutDown e rest _ _ hstreams hentries hservices =>
      refine ⟨?_, hstreams, ?_, fun s hs => (List.not_mem_nil hs).elim⟩
      · rw [hservices]
        exact ⟨List.nodup_nil, fun s hs => (List.not_mem_nil hs).elim⟩
      · have hheld : r.services.held = (e :: rest).map (·.held) := by
          rw [← hentries, List.map_map]
          rfl
        rw [hheld, hservices]
        simp [ServiceTable.held, Stage.charges, Stage.hands, Stage.strays, Operation.hands,
          Operation.strays]

/-- **A step of an operation loses no process**: what it gives up has ended. -/
theorem transfer_of_transition (hvalid : r.services.Valid) {op op' : Operation}
    (h : Transition r op (r', op')) :
    ∃ launched gone, Transfer r op.charges r' op'.charges launched gone := by
  have hsame : Alike r r := ⟨rfl, rfl, rfl⟩
  have hnone : ∀ s ∈ ([] : List (ProcessId × String)), Platform.isRunning r.system s.1 = false :=
    fun s hs => (List.not_mem_nil hs).elim
  have hone {s : ProcessId × String} (h : Platform.isRunning r.system s.1 = false) :
      ∀ s' ∈ [s], Platform.isRunning r.system s'.1 = false :=
    List.forall_mem_singleton.mpr h
  have hlaunched {inv : Invocation} {p : ProcessId} {op' : Operation} {r' : Runner σ}
      (hservices : r'.services = r.services)
      (hstreams : r'.streams = (p, inv.tool.id, inv.id) :: r.streams)
      (hcharges : op'.charges = [(p, inv.tool.id)]) :
      Transfer r [] r' op'.charges [(p, inv.tool.id, inv.id)] [] := by
    refine ⟨hservices ▸ hvalid, hstreams, ?_, fun s hs => (List.not_mem_nil hs).elim⟩
    rw [hcharges, hservices]
    simpa [owned] using (List.perm_append_singleton _ _).symm
  cases h with
  | cleared hended => exact ⟨[], _, hsame.transfer hvalid rfl (hone hended)⟩
  | launched _ hservices hstreams hphase =>
      refine ⟨_, _, hlaunched hservices hstreams ?_⟩
      obtain rfl | rfl | ⟨_, _, rfl⟩ := hphase <;> rfl
  | brokenOff _ hservices hstreams => exact ⟨_, _, hlaunched hservices hstreams rfl⟩
  | unstarted halike => exact ⟨[], [], halike.transfer hvalid rfl hnone⟩
  | @ended inv phase p o _ result hphase houtcome halike =>
      have hended : Platform.isRunning r.system p = false := by
        rw [Platform.isRunning, houtcome]
        rfl
      have hcharges : (Operation.invoking inv phase).charges = [(p, inv.tool.id)] := by
        obtain rfl | rfl := hphase <;> rfl
      exact ⟨[], _, halike.transfer hvalid hcharges (hone hended)⟩
  | @watched inv p _ _ phase hphase =>
      have hcharges : (Operation.invoking inv phase).charges = [(p, inv.tool.id)] := by
        obtain rfl | ⟨_, rfl⟩ := hphase <;> rfl
      exact ⟨[], [], hsame.transfer hvalid hcharges.symm hnone⟩
  | entered hprocess htool hlookup _ hstreams hservices
  | replaced hprocess htool hlookup _ hstreams hservices =>
      -- what the table held under the id comes into the hands
      have hinserted := transfer_of_inserted hvalid (congrArg Tool.id htool) hstreams hservices
      rw [hlookup, hprocess] at hinserted
      exact ⟨[], [], hinserted⟩
  | settled hended halike => exact ⟨[], _, halike.transfer hvalid rfl (hone hended)⟩
  | @stopped e _ hended => exact ⟨[], [e.held], hsame.transfer hvalid rfl (hone hended)⟩
  | @stoppedOne e _ _ _ _ _ hended halike =>
      exact ⟨[], [e.held], halike.transfer hvalid rfl (hone hended)⟩
  | @stoppedAll e _ _ hended => exact ⟨[], [e.held], hsame.transfer hvalid rfl (hone hended)⟩

/-- A call that begins leaves no stray. -/
theorem Beginning.strays_eq_nil {call : RunnerCall} {stage : Stage}
    (h : Beginning r call (r', stage)) : stage.strays = [] := by
  cases h with
  | answered _ _ hover => exact (List.append_eq_nil_iff.mp (Stage.charges_of_over hover)).2
  | passed | relaunched | stopped | shutDown => rfl

/-- A step leaves a stray only if it starts a service that the clock cannot show the deadline of. -/
theorem Transition.strays_eq {op op' : Operation} (h : Transition r op (r', op')) :
    op'.strays = [] ∨ ∃ inv p criteria, op = .invoking inv .starting ∧
      op'.strays = [(p, inv.tool.id)] ∧ r'.registry = r.registry ∧
      inv.tool.readiness = some criteria ∧
      ¬ (Platform.now r'.system).CanShow criteria.deadline := by
  cases h with
  | brokenOff hregistry _ _ hcriteria hclock =>
      exact .inr ⟨_, _, _, rfl, rfl, hregistry, hcriteria, hclock⟩
  | _ => exact .inl rfl

/-- What an operation waits for the end of, it asked to end when it began to wait. -/
theorem Beginning.hasAsked {call : RunnerCall} {op : Operation}
    (h : Beginning r call (r', .going op)) {p : ProcessId} (hp : op.IsEnding p) :
    HasAsked r' p := by
  cases h with
  | answered _ _ hover =>
      obtain ⟨a, rfl, -⟩ := hover op rfl
      exact hp.elim
  | passed => exact hp.elim
  | relaunched _ _ _ _ hasked =>
      cases hp
      exact hasked
  | stopped _ _ _ _ hasked =>
      cases hp
      exact hasked
  | shutDown _ _ _ _ hasked =>
      cases hp
      exact hasked

/-- An operation ends a process only after it has asked it to. -/
theorem Transition.isEnding_or_hasAsked {op op' : Operation} (h : Transition r op (r', op'))
    {p : ProcessId} (hp : op'.IsEnding p) : op.IsEnding p ∨ HasAsked r' p := by
  cases h with
  | cleared | brokenOff | unstarted | ended | entered | settled | stopped | stoppedAll =>
      exact hp.elim
  | launched _ _ _ hphase => obtain rfl | rfl | ⟨_, _, rfl⟩ := hphase <;> exact hp.elim
  | watched hphase =>
      obtain rfl | ⟨_, rfl⟩ := hphase <;> exact hp.elim
  | replaced _ _ _ _ _ _ hasked =>
      cases hp
      exact .inr hasked
  | stoppedOne _ _ hasked =>
      cases hp
      exact .inr hasked

/-- What is launched in a step is launched for an invocation that was about to. -/
theorem Transition.launched_eq {op op' : Operation} (h : Transition r op (r', op')) :
    added r.streams r'.streams = [] ∨ ∃ inv p, op = .invoking inv .starting ∧
      added r.streams r'.streams = [(p, inv.tool.id, inv.id)] := by
  cases h with
  | cleared | watched | stopped | stoppedAll => exact .inl (added_eq [] rfl)
  | unstarted halike | ended _ _ halike | settled _ halike | stoppedOne _ halike =>
      exact .inl (added_eq [] halike.streams)
  | entered _ _ _ _ hstreams | replaced _ _ _ _ hstreams => exact .inl (added_eq [] hstreams)
  | launched _ _ hstreams | brokenOff _ _ hstreams =>
      exact .inr ⟨_, _, rfl, added_eq [_] hstreams⟩

/-- What an operation launched has ended, unless it may leave it. -/
theorem Transition.mayLeave {op op' : Operation} (h : Transition r op (r', op')) :
    (∀ s ∈ added r.streams r'.streams, op'.MayLeave s.1) ∧
      ∀ p, op.MayLeave p → Platform.isRunning r.system p = true → op'.MayLeave p := by
  have hnone (h : r'.streams = r.streams) :
      ∀ s ∈ added r.streams r'.streams, op'.MayLeave s.1 :=
    fun s hs => (not_mem_added h s hs).elim
  cases h with
  | cleared | stopped | stoppedAll => exact ⟨hnone rfl, fun p hp => hp.elim⟩
  | unstarted halike | stoppedOne _ halike => exact ⟨hnone halike.streams, fun p hp => hp.elim⟩
  | launched _ _ hstreams hphase =>
      refine ⟨fun s hs => ?_, fun p hp => hp.elim⟩
      rw [added_eq [_] hstreams, List.mem_singleton] at hs
      subst hs
      obtain rfl | rfl | ⟨_, _, rfl⟩ := hphase <;> rfl
  | brokenOff _ _ hstreams =>
      refine ⟨fun s hs => ?_, fun p hp => hp.elim⟩
      rw [added_eq [_] hstreams, List.mem_singleton] at hs
      exact congrArg Prod.fst hs
  | ended hphase houtcome halike =>
      refine ⟨hnone halike.streams, fun p hp hrunning => ?_⟩
      have hended : ¬ Platform.isRunning r.system p = true := by
        obtain rfl | rfl := hphase <;> cases hp <;> simp [Platform.isRunning, houtcome]
      exact (hended hrunning).elim
  | watched hphase =>
      refine ⟨hnone rfl, fun p hp _ => ?_⟩
      obtain rfl | ⟨_, rfl⟩ := hphase <;> exact hp
  | entered _ _ _ _ hstreams _ hstatus => exact ⟨hnone hstreams, fun p _ _ => ⟨_, hstatus⟩⟩
  | replaced _ _ _ _ hstreams => exact ⟨hnone hstreams, fun p _ _ => trivial⟩
  | settled _ halike hstatus => exact ⟨hnone halike.streams, fun p _ _ => ⟨_, hstatus⟩⟩

end Steps

end Runner

end Turnstile
