import Turnstile.Proofs.Process.Supervision
import Turnstile.Proofs.Shell.Quiet

/-!
# What a machine does to its commands

A command under supervision is played with (`Task.Plays`) by everything that a machine does: its
processes take their turns, the supervisors of all commands react, time passes, other commands are
started or asked to stop, and chunks are handed on.

* One step of a process is quiet, but for one thing that may be read (`World.Reads`).
* A supervisor leaves the output of the other commands alone
  (`Machine.sameOutput_foldl_settleNext`). Here it counts that each command has a leader of its own
  (`Machine.Numbered`), which holds since a number that was given is not given again
  (`Machine.numbered_uses`).

**Theorem** (`Machine.exists_plays`): whatever is done with a machine after it has started a
command, it still has the task of this command, and what happened to it is a play.
-/

namespace Turnstile

namespace World

/-! ### Turns of processes -/

variable {w w' w'' : World}

/-- At most one thing was read, and all else is quiet. -/
def Reads (w w' : World) : Prop := Quiet w w' ∨ ∃ q data, Quiet (w.captureData q data) w'

/-- A quiet change may follow what was read. -/
theorem Reads.trans_quiet (h : Reads w w') (h' : Quiet w' w'') : Reads w w'' := by
  obtain hquiet | ⟨q, data, hquiet⟩ := h
  · exact .inl (hquiet.trans h')
  · exact .inr ⟨q, data, hquiet.trans h'⟩

/-- Data that is captured uses up no number. -/
theorem next_captureData (w : World) (q : ProcessId) (data : Bytes) :
    (w.captureData q data).next = w.next := by
  unfold captureData
  split
  · rfl
  · split_ifs <;> rfl

/-- Numbers are not given again where something is read. -/
theorem Reads.next_le (h : Reads w w') : w.next ≤ w'.next := by
  obtain hquiet | ⟨q, data, hquiet⟩ := h
  · exact hquiet.next_le
  · exact next_captureData w q data ▸ hquiet.next_le

/-- Only what is written to a capture is read. -/
theorem reads_of_write {c : Channel} {data : Bytes} {n : Nat} (h : w.write c data = .taken n w') :
    Reads w w' := by
  unfold write at h
  split at h
  · cases h
    exact .inl (.refl w)
  · cases h
    exact .inl (.refl w)
  · cases h
    exact .inr ⟨_, data, .refl _⟩
  · split at h
    · cases h
    · split at h
      · cases h
        exact .inl ⟨rfl, rfl, Nat.le_refl _⟩
      · cases h
        exact .inl (.refl w)
  · split_ifs at h
    split at h
    · cases h
    · cases h
      exact .inl ⟨rfl, rfl, Nat.le_refl _⟩

/-- What a process writes into a capture is read; what it writes elsewhere is not. -/
theorem reads_of_flush {p : Process} {c : Channel} {data : Bytes} {rest : List (Channel × Bytes)}
    (h : w.flush p c data rest = some w') : Reads w w' := by
  unfold flush at h
  split at h
  · cases h
    exact .inl ((quiet_change w _ _).trans (quiet_signal _ _ _))
  · next hwrite =>
    have hreads := reads_of_write hwrite
    split_ifs at h <;> cases h <;> exact hreads.trans_quiet (quiet_change _ _ _)

/-- A program that is started opens files, and writes later. -/
theorem quiet_start (w : World) (p : Process) (arguments : List String)
    (env : List (String × String)) : Quiet w (w.start p arguments env) := by
  have hopen (opened : List (Nat × Handle)) (ds : Descriptors) (w : World) :
      Quiet w (opened.foldl (fun r e =>
        (Descriptors.set r.1 e.1 (some (.file (r.2.openHandle e.2).1)),
          (r.2.openHandle e.2).2)) (ds, w)).2 := by
    induction opened generalizing ds w with
    | nil => exact .refl w
    | cons e opened ih => exact (quiet_openHandle w e.2).trans (ih _ _)
  unfold start
  dsimp only
  split
  · exact quiet_finish w _ _
  · refine .trans ?_ (quiet_change _ _ _)
    exact (quiet_files w _).trans (hopen _ _ _)

/-- A program prepares what it writes, and writes it later. -/
theorem quiet_of_stepProgram {p : Process} {program : Program}
    (h : w.stepProgram p program = some w') : Quiet w w' := by
  cases program with
  | finish | pause | flood | detach | interpret =>
      cases h
      exact ⟨rfl, rfl, Nat.le_refl _⟩
  | become arguments env =>
      unfold stepProgram at h
      dsimp only at h
      split_ifs at h <;> cases h <;> exact quiet_change w _ _
  | copy | readScript =>
      unfold stepProgram at h
      dsimp only at h
      split at h
      · cases h
      · cases h
        exact quiet_change w _ _
      · next hread =>
        cases h
        exact (quiet_of_read hread).trans (quiet_change _ _ _)
  | gather =>
      unfold stepProgram at h
      dsimp only at h
      split at h
      · cases h
      · cases h
        exact quiet_change w _ _
      · next hread =>
        have hquiet := quiet_of_read hread
        split_ifs at h <;> cases h <;> exact hquiet.trans (quiet_change _ _ _)

/-- **The step lemma**: one turn of a process has at most one thing read. -/
theorem reads_of_stepProcess {p : Process} (h : w.stepProcess p = some w') : Reads w w' := by
  unfold stepProcess at h
  split_ifs at h
  split at h
  · exact reads_of_flush h
  · left
    split at h
    · cases h
      exact quiet_start w p _ _
    · exact quiet_of_stepProgram h
    · exact Shell.Turn.quiet_of_step h

/-- **In one turn at most one thing is read.** -/
theorem reads_of_advance (h : w.advance = some w') : Reads w w' := by
  unfold advance at h
  obtain ⟨p, -, hturn⟩ := List.exists_of_findSome?_eq_some h
  obtain ⟨w₁, hstep, rfl⟩ := Option.map_eq_some_iff.mp hturn
  have hreads : Reads w w₁ := reads_of_stepProcess hstep
  exact hreads.trans_quiet ⟨rfl, rfl, Nat.le_refl _⟩

/-! ### What one supervisor does -/

/-- What is the same after two steps is the same after both. -/
theorem SameOutput.trans {p : ProcessId} (h : SameOutput p w w') (h' : SameOutput p w' w'') :
    SameOutput p w w'' :=
  ⟨h'.1.trans h.1, h'.2.trans h.2⟩

/-- A quiet change leaves the output of every command alone. -/
theorem Quiet.sameOutput (h : Quiet w w') (p : ProcessId) : SameOutput p w w' :=
  .of_eq h.captures h.chunks

/-- The output of one command is all that may have changed. -/
structure Confined (q : ProcessId) (w w' : World) : Prop where
  sameOutput : ∀ p, p ≠ q → SameOutput p w w'
  next_le : w.next ≤ w'.next

variable {q : ProcessId}

/-- Two changes to the output of one command are confined to it. -/
theorem Confined.trans (h : Confined q w w') (h' : Confined q w' w'') : Confined q w w'' where
  sameOutput p hp := (h.sameOutput p hp).trans (h'.sameOutput p hp)
  next_le := Nat.le_trans h.next_le h'.next_le

/-- A quiet change is confined to any command. -/
theorem Quiet.confined (h : Quiet w w') (q : ProcessId) : Confined q w w' where
  sameOutput p _ := h.sameOutput p
  next_le := h.next_le

/-- A changed capture is that of its command. -/
theorem confined_changeCapture (w : World) (q : ProcessId) (f : Capture → Capture) :
    Confined q w (w.changeCapture q f) where
  sameOutput _ hp := ⟨lookup_changeEntry_ne w.captures hp f, rfl⟩
  next_le := Nat.le_refl _

end World

namespace Task

open World (Confined)

/-- A supervisor reacts on the output of its own command only. -/
theorem confined_react (w : World) (t : Task) (e : Supervisor.Event) :
    Confined t.leader w (t.react w e).1 := by
  have hperform (effects : List Supervisor.Effect) (w : World) :
      Confined t.leader w (effects.foldl (perform · t) w) := by
    induction effects generalizing w with
    | nil => exact (World.Quiet.refl w).confined _
    | cons effect effects ih =>
        refine .trans ?_ (ih _)
        cases effect with
        | closeCapture => exact World.confined_changeCapture w t.leader Capture.close
        | terminateGroup => exact (World.quiet_signalGroup w t.leader .terminate).confined _
  unfold react
  dsimp only
  split
  · exact (hperform _ w).trans ((World.quiet_reap _ _).confined _)
  · exact hperform _ w

/-- A look is confined to the command that is looked at. -/
theorem confined_look (w : World) (t : Task) : Confined t.leader w (t.look w).1 := by
  have hkill := World.quiet_signalGroup w t.leader .kill
  unfold look
  split
  · split_ifs
    · exact hkill.confined _
    · exact (World.Quiet.refl w).confined _
    · exact (World.Quiet.refl w).confined _
  · split_ifs <;> exact (World.Quiet.refl w).confined _
  · exact (World.Quiet.refl w).confined _

/-- A supervisor keeps its command when it looks. -/
theorem leader_look (w : World) (t : Task) : (t.look w).2.leader = t.leader :=
  look_eq.2.1

/-- A play is one command's. -/
theorem Plays.leader_eq {s s' : World × Task} {hs : List Happening} (h : Plays s hs s') :
    s'.2.leader = s.2.leader := by
  induction h with
  | start => rfl
  | read _ _ ih | collect _ ih | elsewhere _ _ _ _ ih => exact ih
  | event _ e ih => exact ih
  | look _ ih => exact (leader_look _ _).trans ih

/-- A supervisor that reacts to all that it sees minds the output of its own command. -/
theorem confined_settle (fuel : Nat) (w : World) (t : Task) :
    Confined t.leader w (t.settle fuel w).1 := by
  induction fuel generalizing w t with
  | zero => exact (World.Quiet.refl w).confined _
  | succ fuel ih =>
      have hreact (w : World) (t : Task) (e : Supervisor.Event) :
          Confined t.leader w (settle fuel (t.react w e).1 (t.react w e).2).1 := by
        refine (confined_react w t e).trans ?_
        exact ih (t.react w e).1 (t.react w e).2
      unfold settle
      split
      · exact hreact w t _
      · have hlook := confined_look w t
        dsimp only
        split
        · refine hlook.trans ?_
          have hsettle := hreact (t.look w).1 (t.look w).2
          rw [leader_look] at hsettle
          exact hsettle _
        · exact hlook

/-- It keeps its command until all is settled. -/
theorem leader_settle (fuel : Nat) (w : World) (t : Task) :
    (t.settle fuel w).2.leader = t.leader := by
  obtain ⟨hs, hplays⟩ := exists_plays_settle fuel w t
  exact hplays.leader_eq

variable {w w' : World} {t : Task}

/-- What happens to other commands happens elsewhere. -/
theorem Plays.of_sameOutput (h : World.SameOutput t.leader w w') : Plays (w, t) [] (w', t) :=
  Plays.start.elsewhere w' t.stopAt h

/-- Whatever is read, a command is played with: it is its own output or that of another. -/
theorem exists_plays_of_reads (h : World.Reads w w') (t : Task) :
    ∃ hs, Plays (w, t) hs (w', t) := by
  obtain hquiet | ⟨q, data, hquiet⟩ := h
  · exact ⟨_, .of_sameOutput (hquiet.sameOutput _)⟩
  · by_cases hq : q = t.leader
    · subst hq
      have hread : Plays (w, t) [.read data] (w.captureData t.leader data, t) :=
        Plays.start.read data
      exact ⟨_, hread.trans (.of_sameOutput (hquiet.sameOutput _))⟩
    · have hother := World.captureData_sameOutput (Ne.symm hq) w data
      exact ⟨_, .of_sameOutput (hother.trans (hquiet.sameOutput _))⟩

end Task

namespace Machine

open Turnstile.Task

/-! ### Commands and their numbers -/

/-- Each command has a leader of its own, and for numbers that are still to be given there is no
output. -/
structure Numbered (m : Machine) : Prop where
  lt_next : ∀ t ∈ m.tasks, t.leader < m.world.next
  apart : (m.tasks.map (·.leader)).Nodup
  fresh : ∀ p, m.world.next ≤ p → m.world.captures.lookup p = none ∧ m.world.waiting p = []

/-- On a machine on which nothing was started. -/
theorem numbered_of_nil {m : Machine} (htasks : m.tasks = []) (hcaptures : m.world.captures = [])
    (hchunks : m.world.chunks = []) : m.Numbered where
  lt_next := by simp [htasks]
  apart := by simp [htasks]
  fresh p _ := by simp [hcaptures, World.waiting, hchunks]

/-- What happened to the commands of a machine are plays, and it can go on. -/
structure Follows (m m' : Machine) : Prop where
  numbered : m'.Numbered
  plays : ∀ t ∈ m.tasks, ∃ hs, ∃ t' ∈ m'.tasks, Plays (m.world, t) hs (m'.world, t')

variable {m m' m'' : Machine}

/-- One machine follows from another over any in between. -/
theorem Follows.trans (h : Follows m m') (h' : Follows m' m'') : Follows m m'' where
  numbered := h'.numbered
  plays t ht := by
    obtain ⟨hs, t', ht', hplays⟩ := h.plays t ht
    obtain ⟨hs', t'', ht'', hplays'⟩ := h'.plays t' ht'
    exact ⟨_, t'', ht'', hplays.trans hplays'⟩

/-- Output that is not given a number yet stays so. -/
theorem fresh_of_reads {w w' : World} (hreads : World.Reads w w')
    (hfresh : ∀ p, w.next ≤ p → w.captures.lookup p = none ∧ w.waiting p = []) :
    ∀ p, w'.next ≤ p → w'.captures.lookup p = none ∧ w'.waiting p = [] := by
  intro p hp
  have hnone := hfresh p (Nat.le_trans hreads.next_le hp)
  have hsame : World.SameOutput p w w' := by
    obtain hquiet | ⟨q, data, hquiet⟩ := hreads
    · exact hquiet.sameOutput p
    · by_cases hq : q = p
      · -- a number still to be given has no capture, so what is read for it is lost
        subst hq
        have hsame : w.captureData q data = w := by simp [World.captureData, hnone.1]
        rw [hsame] at hquiet
        exact hquiet.sameOutput q
      · exact (World.captureData_sameOutput (Ne.symm hq) w data).trans (hquiet.sameOutput p)
  exact ⟨hsame.1.trans hnone.1, hsame.2.trans hnone.2⟩

/-- The world goes on by itself. -/
theorem Numbered.follows_of_reads (h : m.Numbered) {w : World} (hreads : World.Reads m.world w) :
    Follows m { m with world := w } where
  numbered := {
    lt_next := fun t ht => Nat.lt_of_lt_of_le (h.lt_next t ht) hreads.next_le
    apart := h.apart
    fresh := fresh_of_reads hreads h.fresh }
  plays t ht := by
    obtain ⟨hs, hplays⟩ := exists_plays_of_reads hreads t
    exact ⟨hs, t, ht, hplays⟩

/-- A quiet change of the world is followed by every command. -/
theorem Numbered.follows_of_quiet (h : m.Numbered) {w : World} (hquiet : World.Quiet m.world w) :
    Follows m { m with world := w } :=
  h.follows_of_reads (.inl hquiet)

/-! ### What a machine does -/

/-- Lets the next supervisor react. -/
def settleNext (s : World × List Task) (t : Task) : World × List Task :=
  ((t.settle 8 s.1).1, (t.settle 8 s.1).2 :: s.2)

/-- The supervisors settle one after another. -/
theorem settle_eq (m : Machine) :
    m.settle = { m with
      world := (m.tasks.foldl settleNext (m.world, [])).1
      tasks := (m.tasks.foldl settleNext (m.world, [])).2.reverse } := rfl

section settle

variable (ts : List Task) (s : World × List Task)

/-- The commands are the same ones, in reverse. -/
theorem leaders_foldl_settleNext :
    (ts.foldl settleNext s).2.map (·.leader) =
      (ts.map (·.leader)).reverse ++ s.2.map (·.leader) := by
  induction ts generalizing s with
  | nil => rfl
  | cons t ts ih =>
      rw [List.foldl_cons, ih]
      simp [settleNext, leader_settle]

/-- A command that has settled is not touched again. -/
theorem mem_foldl_settleNext {t : Task} (ht : t ∈ s.2) : t ∈ (ts.foldl settleNext s).2 := by
  induction ts generalizing s with
  | nil => exact ht
  | cons u ts ih => exact ih _ (List.mem_cons_of_mem _ ht)

/-- No number is given again while supervisors settle. -/
theorem next_le_foldl_settleNext : s.1.next ≤ (ts.foldl settleNext s).1.next := by
  induction ts generalizing s with
  | nil => exact Nat.le_refl _
  | cons t ts ih => exact Nat.le_trans (confined_settle 8 s.1 t).next_le (ih (settleNext s t))

/-- The supervisors leave the output of other commands alone. -/
theorem sameOutput_foldl_settleNext {p : ProcessId} (hp : p ∉ ts.map (·.leader)) :
    World.SameOutput p s.1 (ts.foldl settleNext s).1 := by
  induction ts generalizing s with
  | nil => exact ⟨rfl, rfl⟩
  | cons t ts ih =>
      rw [List.map_cons, List.mem_cons, not_or] at hp
      exact ((confined_settle 8 s.1 t).sameOutput p hp.1).trans (ih _ hp.2)

/-- Before and after its own turn nothing happens to the output of a command. -/
theorem exists_plays_foldl_settleNext (hapart : (ts.map (·.leader)).Nodup) {t : Task}
    (ht : t ∈ ts) : ∃ hs, ∃ t' ∈ (ts.foldl settleNext s).2,
      Plays (s.1, t) hs ((ts.foldl settleNext s).1, t') := by
  induction ts generalizing s with
  | nil => cases ht
  | cons u ts ih =>
      rw [List.map_cons, List.nodup_cons] at hapart
      rcases List.mem_cons.mp ht with rfl | ht
      · -- its own turn; the others come later and leave its output alone
        obtain ⟨hs, hplays⟩ := exists_plays_settle 8 s.1 t
        have hrest := sameOutput_foldl_settleNext ts (settleNext s t) hapart.1
        rw [← leader_settle 8 s.1 t] at hrest
        exact ⟨_, _, mem_foldl_settleNext ts _ List.mem_cons_self,
          hplays.trans (.of_sameOutput hrest)⟩
      · -- another one's turn comes first
        have hne : t.leader ≠ u.leader := fun heq =>
          hapart.1 (heq ▸ List.mem_map_of_mem ht)
        have hbefore := (confined_settle 8 s.1 u).sameOutput t.leader hne
        obtain ⟨hs, t', ht', hplays⟩ := ih (settleNext s u) hapart.2 ht
        exact ⟨_, t', ht', (Plays.of_sameOutput hbefore).trans hplays⟩

end settle

/-- All supervisors react. -/
theorem Numbered.follows_settle (h : m.Numbered) : Follows m m.settle := by
  have hleaders := leaders_foldl_settleNext m.tasks (m.world, [])
  have hnext := next_le_foldl_settleNext m.tasks (m.world, [])
  rw [settle_eq]
  refine ⟨⟨fun t ht => ?_, ?_, fun p hp => ?_⟩, fun t ht => ?_⟩
  · have hmem : t.leader ∈ m.tasks.map (·.leader) := by
      have hmem := List.mem_map_of_mem (f := (·.leader)) (List.mem_reverse.mp ht)
      rw [hleaders] at hmem
      simpa using hmem
    obtain ⟨u, hu, heq⟩ := List.mem_map.mp hmem
    exact heq ▸ Nat.lt_of_lt_of_le (h.lt_next u hu) hnext
  · rw [List.map_reverse, hleaders]
    simpa using h.apart
  · have hnone := h.fresh p (Nat.le_trans hnext hp)
    have hother : p ∉ m.tasks.map (·.leader) := by
      intro hmem
      obtain ⟨u, hu, rfl⟩ := List.mem_map.mp hmem
      exact Nat.not_lt.mpr (Nat.le_trans hnext hp) (h.lt_next u hu)
    have hsame := sameOutput_foldl_settleNext m.tasks (m.world, []) hother
    exact ⟨hsame.1.trans hnone.1, hsame.2.trans hnone.2⟩
  · obtain ⟨hs, t', ht', hplays⟩ := exists_plays_foldl_settleNext m.tasks (m.world, []) h.apart ht
    exact ⟨hs, t', List.mem_reverse.mpr ht', hplays⟩

/-- A process takes its turn, or the clock goes on. -/
theorem Numbered.follows_tick (h : m.Numbered) (limit : Nat) : Follows m (m.tick limit) := by
  unfold tick
  split
  · next hadvance => exact h.follows_of_reads (World.reads_of_advance hadvance)
  · exact h.follows_of_quiet ⟨rfl, rfl, Nat.le_refl _⟩

/-- **Time passes.** -/
theorem Numbered.follows_advance (h : m.Numbered) (limit : Nat) : Follows m (m.advance limit) := by
  fun_induction advance limit m with
  | case1 m settled _ =>
      have hsettled := h.follows_settle
      exact hsettled.trans (hsettled.numbered.follows_of_quiet ⟨rfl, rfl, Nat.le_refl _⟩)
  | case2 m settled _ _ => exact h.follows_settle
  | case3 m settled _ _ next _ ih =>
      have hsettled := h.follows_settle
      have hnext := hsettled.trans (hsettled.numbered.follows_tick limit)
      exact hnext.trans (ih hnext.numbered)
  | case4 m settled _ _ next _ =>
      have hsettled := h.follows_settle
      exact hsettled.trans (hsettled.numbered.follows_tick limit)

/-- A command is started, and gets the next number. -/
theorem spawn_eq_next {r : SpawnRequest} {p : ProcessId} (hspawn : spawn r m = (.ok p, m')) :
    p = m.world.next ∧ m'.world.captures = (p, {}) :: m.world.captures ∧
      m'.world.next = m.world.next + 1 := by
  obtain ⟨cwd, hlaunch⟩ := exists_launch_of_spawn hspawn
  cases hlaunch
  exact ⟨rfl, rfl, by simp [World.add]⟩

/-- A start that is refused changes nothing. -/
theorem spawn_eq_error {r : SpawnRequest} {e : SpawnError} (hspawn : spawn r m = (.error e, m')) :
    m' = m := by
  unfold spawn at hspawn
  split at hspawn
  · dsimp only at hspawn
    split at hspawn <;> cases hspawn
    rfl
  · cases hspawn
    rfl

/-- A command that is started leaves the output of the others alone. -/
theorem sameOutput_spawn {r : SpawnRequest} {p q : ProcessId}
    (hspawn : spawn r m = (.ok p, m')) (hne : q ≠ p) : World.SameOutput q m.world m'.world := by
  obtain ⟨-, hcaptures, -⟩ := spawn_eq_next hspawn
  obtain ⟨-, -, -, -, -, hchunks⟩ := spawn_eq_ok hspawn
  constructor
  · rw [hcaptures, List.lookup_cons, beq_eq_false_iff_ne.mpr hne]
  · rw [World.waiting, hchunks, World.waiting]

/-- A new command has a number of its own, so those that run do not notice it. -/
theorem Numbered.follows_spawn_ok (h : m.Numbered) {r : SpawnRequest} {p : ProcessId}
    (hspawn : spawn r m = (.ok p, m')) : Follows m m' := by
  obtain ⟨rfl, -, hsucc⟩ := spawn_eq_next hspawn
  obtain ⟨t₀, htasks, hleader, -⟩ := spawn_eq_ok hspawn
  refine ⟨⟨fun t ht => ?_, ?_, fun q hq => ?_⟩, fun t ht => ?_⟩
  · rw [htasks, List.mem_append, List.mem_singleton] at ht
    rw [hsucc]
    rcases ht with ht | rfl
    · exact Nat.lt_succ_of_lt (h.lt_next t ht)
    · exact hleader ▸ Nat.lt_succ_self _
  · rw [htasks, List.map_append, List.map_singleton, hleader, List.nodup_append]
    refine ⟨h.apart, by simp, fun q hq q' hq' => ?_⟩
    obtain ⟨t, ht, rfl⟩ := List.mem_map.mp hq
    rw [List.mem_singleton.mp hq']
    exact Nat.ne_of_lt (h.lt_next t ht)
  · have hnone := h.fresh q (by omega)
    have hsame := sameOutput_spawn hspawn (show q ≠ m.world.next by omega)
    exact ⟨hsame.1.trans hnone.1, hsame.2.trans hnone.2⟩
  · have hsame := sameOutput_spawn hspawn (Nat.ne_of_lt (h.lt_next t ht))
    exact ⟨_, t, htasks ▸ List.mem_append_left _ ht, .of_sameOutput hsame⟩

/-- A start is followed by the commands that run, whether or not it is refused. -/
theorem Numbered.follows_spawn (h : m.Numbered) (r : SpawnRequest) : Follows m (m.spawn r).2 := by
  rcases hspawn : spawn r m with ⟨e | p, m'⟩
  · rw [spawn_eq_error hspawn]
    exact h.follows_of_quiet (.refl m.world)
  · exact h.follows_spawn_ok hspawn

/-- The instant at which a command is asked to stop may be set from outside. -/
theorem Numbered.follows_requestStop (h : m.Numbered) (p : ProcessId) :
    Follows m (m.requestStop p) := by
  have hleader (t : Task) : (if t.leader == p then
      { t with stopAt := some (min m.world.now (t.stopAt.getD m.world.now)) } else t).leader =
        t.leader := by
    split_ifs <;> rfl
  have hleaders : (m.requestStop p).tasks.map (·.leader) = m.tasks.map (·.leader) := by
    unfold requestStop
    rw [List.map_map]
    exact List.map_congr_left fun t _ => hleader t
  refine ⟨⟨fun t ht => ?_, hleaders ▸ h.apart, h.fresh⟩, fun t ht => ?_⟩
  · obtain ⟨u, hu, rfl⟩ := List.mem_map.mp ht
    rw [hleader]
    exact h.lt_next u hu
  · refine ⟨[], _, List.mem_map_of_mem ht, ?_⟩
    split_ifs
    · exact Plays.start.elsewhere m.world _ ⟨rfl, rfl⟩
    · exact .start

/-- Chunks are handed on. -/
theorem Numbered.follows_takeChunks (h : m.Numbered) : Follows m (Platform.takeChunks m).2 where
  numbered := ⟨h.lt_next, h.apart, fun p hp => ⟨(h.fresh p hp).1, rfl⟩⟩
  plays t ht := ⟨_, t, ht, Plays.start.collect⟩

/-- What can be done with a machine. -/
inductive Use where
  | advance (limit : Instant)
  | spawn (r : SpawnRequest)
  | requestStop (p : ProcessId)
  | takeChunks
  | appendFile (place : Place) (data : Bytes)
  | trace (record : String)

/-- A machine after something was done with it. -/
def use (m : Machine) : Use → Machine
  | .advance limit => Platform.advance limit m
  | .spawn r => (Platform.spawn r m).2
  | .requestStop p => Platform.requestStop p m
  | .takeChunks => (Platform.takeChunks m).2
  | .appendFile place data => Platform.appendFile place data m
  | .trace record => Platform.trace record m

/-- Every use of a machine is followed by its commands. -/
theorem Numbered.follows_use (h : m.Numbered) (u : Use) : Follows m (m.use u) := by
  cases u with
  | advance limit => exact h.follows_advance limit.nanos
  | spawn r => exact h.follows_spawn r
  | requestStop p => exact h.follows_requestStop p
  | takeChunks => exact h.follows_takeChunks
  | appendFile place data => exact h.follows_of_quiet (World.quiet_files _ _)
  | trace record => exact ⟨⟨h.lt_next, h.apart, h.fresh⟩, fun t ht => ⟨[], t, ht, .start⟩⟩

/-- **Whatever is done with a machine**, its commands are played with. -/
theorem Numbered.follows_uses (h : m.Numbered) (us : List Use) : Follows m (us.foldl use m) := by
  induction us generalizing m with
  | nil => exact h.follows_of_quiet (.refl m.world)
  | cons u us ih =>
      have hfirst := h.follows_use u
      exact hfirst.trans (ih hfirst.numbered)

/-- A machine on which nothing was started first is always numbered. -/
theorem numbered_uses (htasks : m.tasks = []) (hcaptures : m.world.captures = [])
    (hchunks : m.world.chunks = []) (us : List Use) : (us.foldl use m).Numbered :=
  ((numbered_of_nil htasks hcaptures hchunks).follows_uses us).numbered

/-- The task of a leader is the only one. -/
theorem find?_eq_some_of_apart {ts : List Task} (hapart : (ts.map (·.leader)).Nodup) {t : Task}
    (ht : t ∈ ts) : ts.find? (·.leader == t.leader) = some t := by
  induction ts with
  | nil => cases ht
  | cons u ts ih =>
      rw [List.map_cons, List.nodup_cons] at hapart
      rcases List.mem_cons.mp ht with rfl | ht
      · simp
      · have hne : u.leader ≠ t.leader := fun heq =>
          hapart.1 (heq ▸ List.mem_map_of_mem ht)
        rw [List.find?_cons_of_neg (by simpa using hne)]
        exact ih hapart.2 ht

/-- **What happens to a command that a machine has started is a play**, whatever is done with the
machine afterwards. The task of the command stays, and nothing was captured for it before. -/
theorem exists_plays {r : SpawnRequest} {p : ProcessId} (h : m.Numbered)
    (hspawn : spawn r m = (.ok p, m')) (us : List Use) :
    m.world.waiting p = [] ∧ (us.foldl use m').Numbered ∧
      ∃ t₀ t hs, m'.tasks = m.tasks ++ [t₀] ∧ t₀.leader = p ∧
        (us.foldl use m').task? p = some t ∧
        Plays (m'.world, t₀) hs ((us.foldl use m').world, t) := by
  obtain ⟨hnext, -, -⟩ := spawn_eq_next hspawn
  obtain ⟨t₀, htasks, hleader, -⟩ := spawn_eq_ok hspawn
  have hstarted := h.follows_spawn_ok hspawn
  have hgone := hstarted.numbered.follows_uses us
  obtain ⟨hs, t, ht, hplays⟩ := hgone.plays t₀ (by simp [htasks])
  have htask := find?_eq_some_of_apart hgone.numbered.apart ht
  rw [hplays.leader_eq, hleader] at htask
  exact ⟨(h.fresh p (Nat.le_of_eq hnext.symm)).2, hgone.numbered, t₀, t, hs, htasks, hleader, htask,
    hplays⟩

end Machine

end Turnstile
