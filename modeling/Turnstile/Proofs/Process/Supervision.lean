import Mathlib.Data.List.Induction
import Mathlib.Tactic.ByContra
import Mathlib.Tactic.SplitIfs
import Turnstile.Process.Execution
import Turnstile.Process.Machine
import Turnstile.Proofs.Process.Verdict

/-!
# What a supervised command reports

A command that was started is read from, its supervisor is told of events and looks at the group,
and what was captured is handed on, in any order and whatever else happens in the world meanwhile
(`Task.Plays`).

**Theorem** (`Machine.spawn_reports`): at every moment the published outcome is the one that the
events tell of, and it stays; the capture is closed exactly if the outcome is a cutoff, and then it
holds what was read before the cutoff and nothing else; without a cutoff it holds all that was read;
and what was handed on are the first of the captured chunks.
-/

namespace Turnstile

/-! ### Captures in a world -/

namespace World

/-- The chunks of a command that were captured and not handed on yet, in the order of their
arrival. -/
def waiting (p : ProcessId) (w : World) : List Bytes :=
  (w.chunks.reverse.filter (·.1 == p)).map (·.2)

/-- The chunks in which what is read is captured. -/
def pieces (data : Bytes) : List Bytes := chunksOf chunkSize (data.length + 1) data

/-- Data in chunks of one size is the same data. -/
theorem flatten_chunksOf {size : Nat} (hsize : 0 < size) {fuel : Nat} {data : Bytes}
    (hfuel : data.length < fuel) : (chunksOf size fuel data).flatten = data := by
  induction fuel generalizing data with
  | zero => omega
  | succ fuel ih =>
      cases data with
      | nil => rfl
      | cons b data =>
          have hrest : ((b :: data).drop size).length < fuel := by
            simp only [List.length_drop, List.length_cons] at hfuel ⊢
            omega
          simp [chunksOf, ih hrest]

/-- What is handed on in pieces is what was read. -/
theorem flatten_pieces (data : Bytes) : (pieces data).flatten = data :=
  flatten_chunksOf (by decide) (Nat.lt_succ_self _)

/-- A changed entry is found changed. -/
theorem lookup_changeEntry {α : Type} (entries : List (Nat × α)) (id : Nat) (f : α → α) :
    (changeEntry entries id f).lookup id = (entries.lookup id).map f := by
  induction entries with
  | nil => rfl
  | cons e entries ih =>
      obtain ⟨i, a⟩ := e
      by_cases h : i = id
      · simp [changeEntry, h]
      · have hne : (id == i) = false := by simpa using Ne.symm h
        simpa [changeEntry, h, hne, List.lookup_cons] using ih

/-- Other entries are found as they were. -/
theorem lookup_changeEntry_ne {α : Type} (entries : List (Nat × α)) {id other : Nat}
    (hne : other ≠ id) (f : α → α) :
    (changeEntry entries id f).lookup other = entries.lookup other := by
  induction entries with
  | nil => rfl
  | cons e entries ih =>
      obtain ⟨i, a⟩ := e
      unfold changeEntry at ih ⊢
      by_cases hi : i = id
      · have hother : (other == i) = false := by simpa [hi] using hne
        have hother' : (other == id) = false := by simpa using hne
        simpa [hi, List.lookup_cons, hother'] using ih
      · simp only [List.map_cons, List.lookup_cons, beq_eq_false_iff_ne.mpr hi,
          Bool.false_eq_true, if_false, ih]

/-- An open capture takes all pieces, in order. -/
theorem foldl_append_of_open (pieces : List Bytes) {c : Capture} (h : c.isClosed = false) :
    pieces.foldl Capture.append c = { c with chunks := pieces.reverse ++ c.chunks } := by
  induction pieces generalizing c with
  | nil => rfl
  | cons piece pieces ih =>
      have hopen : (c.append piece).isClosed = false := by simp [Capture.append, h]
      rw [List.foldl_cons, ih hopen]
      simp [Capture.append, h]

/-- Pieces wait in front of the chunks that waited before. -/
theorem foldl_report (p : ProcessId) (pieces : List Bytes) (chunks : List (Nat × Bytes)) :
    pieces.foldl (fun acc piece => (p, piece) :: acc) chunks =
      pieces.reverse.map (p, ·) ++ chunks := by
  induction pieces generalizing chunks with
  | nil => rfl
  | cons piece pieces ih => simp [ih]

variable {w : World} {p : ProcessId} {c : Capture}

/-- A closed capture takes nothing, and nothing is handed on. -/
theorem captureData_closed (hc : w.captures.lookup p = some c) (h : c.isClosed = true)
    (data : Bytes) : w.captureData p data = w := by
  simp [captureData, hc, h]

/-- An open capture takes the pieces of what is read. -/
theorem lookup_captureData_open (hc : w.captures.lookup p = some c) (h : c.isClosed = false)
    (data : Bytes) :
    (w.captureData p data).captures.lookup p =
      some { c with chunks := (pieces data).reverse ++ c.chunks } := by
  have hgrown := foldl_append_of_open (pieces data) h
  simp only [pieces] at hgrown ⊢
  simp [captureData, hc, h, lookup_changeEntry, hgrown]

/-- The same pieces wait to be handed on. -/
theorem waiting_captureData_open (hc : w.captures.lookup p = some c) (h : c.isClosed = false)
    (data : Bytes) : (w.captureData p data).waiting p = w.waiting p ++ pieces data := by
  have hreported := foldl_report p (pieces data) w.chunks
  simp only [pieces] at hreported ⊢
  simp [captureData, hc, h, waiting, hreported, List.filter_map, Function.comp_def]

/-! ### What leaves output alone -/

/-- Two worlds hold the same output of a command. -/
def SameOutput (p : ProcessId) (w w' : World) : Prop :=
  w'.captures.lookup p = w.captures.lookup p ∧ w'.waiting p = w.waiting p

/-- Where captures and chunks are the same, so is the output of every command. -/
theorem SameOutput.of_eq {w' : World} (hcaptures : w'.captures = w.captures)
    (hchunks : w'.chunks = w.chunks) : SameOutput p w w' :=
  ⟨by rw [hcaptures], by rw [waiting, waiting, hchunks]⟩

/-- What is read from one process leaves the output of another alone. -/
theorem captureData_sameOutput {p q : ProcessId} (hne : p ≠ q) (w : World) (data : Bytes) :
    SameOutput p w (w.captureData q data) := by
  cases hcapture : w.captures.lookup q with
  | none => exact .of_eq (by simp [captureData, hcapture]) (by simp [captureData, hcapture])
  | some c =>
      by_cases hclosed : c.isClosed = true
      · rw [captureData_closed hcapture hclosed]
        exact .of_eq rfl rfl
      · have hchunks := foldl_report q (pieces data) w.chunks
        unfold pieces at hchunks
        have hother : (q == p) = false := by simpa using hne.symm
        constructor
        · simp [captureData, hcapture, hclosed, lookup_changeEntry_ne _ hne]
        · simp [waiting, captureData, hcapture, hclosed, hchunks, List.filter_map,
            Function.comp_def, hother]

/-- A signal leaves all output alone. -/
theorem signal_output (w : World) (pid : Nat) (s : Signal) :
    (w.signal pid s).captures = w.captures ∧ (w.signal pid s).chunks = w.chunks := by
  unfold signal
  split
  · exact ⟨rfl, rfl⟩
  · dsimp only
    split_ifs <;> exact ⟨rfl, rfl⟩

/-- So do signals to any number of processes. -/
theorem foldl_signal_output (s : Signal) (ps : List Process) (w : World) :
    (ps.foldl (fun w p => w.signal p.pid s) w).captures = w.captures ∧
      (ps.foldl (fun w p => w.signal p.pid s) w).chunks = w.chunks := by
  induction ps generalizing w with
  | nil => exact ⟨rfl, rfl⟩
  | cons q ps ih =>
      obtain ⟨hcaptures, hchunks⟩ := signal_output w q.pid s
      rw [List.foldl_cons, (ih _).1, (ih _).2]
      exact ⟨hcaptures, hchunks⟩

/-- So does a signal to a group. -/
theorem signalGroup_output (w : World) (group : Nat) (s : Signal) :
    (w.signalGroup group s).captures = w.captures ∧
      (w.signalGroup group s).chunks = w.chunks :=
  foldl_signal_output s (w.groupMembers group) w

end World

/-! ### Supervisors that cut a group off -/

/-- True of the outcomes of a group that was ended before its time. -/
def Outcome.isCutoff : Outcome → Bool
  | .exited _ => false
  | .timedOut | .cancelled => true

/-- A command was cut off if it took too long or was cancelled. -/
theorem Outcome.isCutoff_iff {o : Outcome} :
    o.isCutoff = true ↔ o = .timedOut ∨ o = .cancelled := by
  cases o <;> simp [isCutoff]

/-- A cutoff has an outcome that says so. -/
theorem Cutoff.isCutoff_outcome (c : Cutoff) : c.outcome.isCutoff = true := by
  cases c <;> rfl

/-- A cutoff comes with an event that says so. -/
theorem Cutoff.isCutoff_event (c : Cutoff) : c.event.isCutoff = true := by
  cases c <;> rfl

namespace Supervisor

/-- True while a cutoff would still be acted upon. -/
def isOpen : Supervisor → Bool
  | .watching | .outliving _ => true
  | _ => false

/-- True once the group was cut off. -/
def isCut : Supervisor → Bool
  | .terminating _ => true
  | .draining o | .finished o => o.isCutoff
  | _ => false

/-- A supervisor that has not decided has not cut its command off. -/
theorem isCut_of_isOpen {s : Supervisor} (h : s.isOpen = true) : s.isCut = false := by
  cases s with
  | watching | outliving _ => rfl
  | terminating _ | draining _ | finished _ => cases h

/-- A supervisor that has decided cut its command off if its outcome says so. -/
theorem isCut_of_outcome? {s : Supervisor} {o : Outcome} (h : s.outcome? = some o) :
    s.isCut = o.isCutoff := by
  cases s <;> simp_all [outcome?, isCut]

/-- **What a supervisor can do**: cut the group off, if it has not ended and it is told to; or move
on, without any effect. -/
theorem step_cases (s : Supervisor) (e : Event) :
    (∃ c : Cutoff, e = c.event ∧ s.isOpen = true ∧ s.step e = cut c) ∨
      ((s.step e).2 = [] ∧ (s.step e).1.isCut = s.isCut ∧
        ((s.step e).1.isOpen = true → s.isOpen = true ∧ e.isCutoff = false)) := by
  cases s with
  | watching =>
      cases e with
      | deadlinePassed => exact .inl ⟨.deadline, rfl, rfl, rfl⟩
      | stopRequested => exact .inl ⟨.stop, rfl, rfl, rfl⟩
      | leaderExited _ | groupGone | drained => exact .inr ⟨rfl, rfl, fun _ => ⟨rfl, rfl⟩⟩
  | outliving code =>
      cases e with
      | deadlinePassed => exact .inl ⟨.deadline, rfl, rfl, rfl⟩
      | stopRequested => exact .inl ⟨.stop, rfl, rfl, rfl⟩
      | leaderExited _ | groupGone | drained => exact .inr ⟨rfl, rfl, fun _ => ⟨rfl, rfl⟩⟩
  | terminating c =>
      cases e with
      | groupGone => exact .inr ⟨rfl, c.isCutoff_outcome, fun h => nomatch h⟩
      | _ => exact .inr ⟨rfl, rfl, fun h => nomatch h⟩
  | draining o =>
      cases e <;> exact .inr ⟨rfl, rfl, fun h => nomatch h⟩
  | finished o =>
      rw [step_finished]
      exact .inr ⟨rfl, rfl, fun h => nomatch h⟩

/-- One event more is one step more. -/
theorem run_concat (s : Supervisor) (es : List Event) (e : Event) :
    s.run (es ++ [e]) = ((s.run es).step e).1 := by
  simp [run]

/-- While a cutoff would be acted upon, none has come. -/
theorem forall_isCutoff_of_isOpen {es : List Event} (h : (watching.run es).isOpen = true) :
    ∀ e ∈ es, e.isCutoff = false := by
  induction es using List.reverseRecOn with
  | nil => exact fun e he => (List.not_mem_nil he).elim
  | append_singleton es e ih =>
      rw [run_concat] at h
      obtain ⟨c, -, -, hcut⟩ | ⟨-, -, hopen⟩ := step_cases (watching.run es) e
      · rw [hcut] at h
        cases h
      · obtain ⟨hbefore, he⟩ := hopen h
        intro f hf
        rcases List.mem_append.mp hf with hf | hf
        · exact ih hbefore f hf
        · rwa [List.mem_singleton.mp hf]

/-- A group is cut off by an event only. -/
theorem exists_isCutoff_of_isCut {es : List Event} (h : (watching.run es).isCut = true) :
    ∃ e ∈ es, e.isCutoff = true := by
  induction es using List.reverseRecOn with
  | nil => cases h
  | append_singleton es e ih =>
      rw [run_concat] at h
      obtain ⟨c, rfl, -, -⟩ | ⟨-, hsame, -⟩ := step_cases (watching.run es) e
      · exact ⟨_, List.mem_append_right _ List.mem_cons_self, c.isCutoff_event⟩
      · rw [hsame] at h
        obtain ⟨f, hf, hcutoff⟩ := ih h
        exact ⟨f, List.mem_append_left _ hf, hcutoff⟩

end Supervisor

/-! ### What happens to a command -/

namespace Task

/-- What happens to a supervised command. -/
inductive Happening where
  /-- A reader takes output of the command and appends it. -/
  | read (data : Bytes)
  /-- The supervisor reacts to an event. -/
  | event (e : Supervisor.Event)
  /-- The supervisor looks at the group. -/
  | look
  /-- Chunks of the command are handed on. -/
  | collect (chunks : List Bytes)

namespace Happening

/-- True of an event that ends the group before its time. -/
def isCutoff : Happening → Bool
  | .event e => e.isCutoff
  | .read _ | .look | .collect _ => false

/-- What the supervisor is told, if anything. -/
def event? : Happening → Option Supervisor.Event
  | .event e => some e
  | .read _ | .look | .collect _ => none

/-- The data that is read. -/
def data : Happening → Bytes
  | .read data => data
  | .event _ | .look | .collect _ => []

/-- The chunks that are handed on. -/
def collected : Happening → List Bytes
  | .collect chunks => chunks
  | .read _ | .event _ | .look => []

/-- What the supervisor is told, in order. -/
def events (hs : List Happening) : List Supervisor.Event := hs.filterMap event?

/-- All that was read, in order. -/
def readAll (hs : List Happening) : Bytes := hs.flatMap data

/-- All chunks that were handed on, in order. -/
def sent (hs : List Happening) : List Bytes := hs.flatMap collected

/-- What happened before the first cutoff. -/
def beforeCutoff (hs : List Happening) : List Happening := hs.takeWhile (!·.isCutoff)

/-- One happening more may be one event more. -/
theorem events_concat (hs : List Happening) (h : Happening) :
    events (hs ++ [h]) = events hs ++ h.event?.toList := by
  cases hevent : h.event? <;> simp [events, hevent]

/-- One happening more may be some data more. -/
theorem readAll_concat (hs : List Happening) (h : Happening) :
    readAll (hs ++ [h]) = readAll hs ++ h.data := by
  simp [readAll]

/-- One happening more may hand chunks on. -/
theorem sent_concat (hs : List Happening) (h : Happening) :
    sent (hs ++ [h]) = sent hs ++ h.collected := by
  simp [sent]

/-- An event hands nothing on. -/
theorem sent_event (hs : List Happening) (e : Supervisor.Event) :
    sent (hs ++ [.event e]) = sent hs := by
  rw [sent_concat, collected, List.append_nil]

/-- A cutoff is among the happenings exactly if it is among the events. -/
theorem exists_isCutoff_iff {hs : List Happening} :
    (∃ h ∈ hs, h.isCutoff = true) ↔ ∃ e ∈ events hs, e.isCutoff = true := by
  simp only [events, List.mem_filterMap]
  constructor
  · rintro ⟨h, hmem, hcutoff⟩
    cases h with
    | event e => exact ⟨e, ⟨_, hmem, rfl⟩, hcutoff⟩
    | read _ | look | collect _ => cases hcutoff
  · rintro ⟨e, ⟨h, hmem, he⟩, hcutoff⟩
    cases h with
    | event f =>
        cases he
        exact ⟨_, hmem, hcutoff⟩
    | read _ | look | collect _ => cases he

/-- What comes behind a cutoff does not count. -/
theorem beforeCutoff_append {hs : List Happening} (h : ∃ h ∈ hs, h.isCutoff = true)
    (hs' : List Happening) : beforeCutoff (hs ++ hs') = beforeCutoff hs := by
  induction hs with
  | nil =>
      obtain ⟨_, hmem, -⟩ := h
      cases hmem
  | cons g hs ih =>
      unfold beforeCutoff at ih ⊢
      rw [List.cons_append, List.takeWhile_cons, List.takeWhile_cons]
      by_cases hg : g.isCutoff = true
      · simp only [hg, Bool.not_true, Bool.false_eq_true, if_false]
      · have hrest : ∃ h ∈ hs, h.isCutoff = true := by
          obtain ⟨f, hf, hcutoff⟩ := h
          rcases List.mem_cons.mp hf with rfl | hf
          · exact absurd hcutoff hg
          · exact ⟨f, hf, hcutoff⟩
        rw [ih hrest]

end Happening

open Happening

/-- What can happen to a command from a moment on, and to what it leads. What happens elsewhere
leaves the output of the command and its supervisor alone, but can ask it to stop. -/
inductive Plays (s : World × Task) : List Happening → World × Task → Prop where
  | start : Plays s [] s
  | read {hs w t} : Plays s hs (w, t) → ∀ data : Bytes,
      Plays s (hs ++ [.read data]) (w.captureData t.leader data, t)
  | event {hs w t} : Plays s hs (w, t) → ∀ e : Supervisor.Event,
      Plays s (hs ++ [.event e]) (t.react w e)
  | look {hs w t} : Plays s hs (w, t) → Plays s (hs ++ [.look]) (t.look w)
  | collect {hs w t} : Plays s hs (w, t) →
      Plays s (hs ++ [.collect (w.waiting t.leader)]) ({ w with chunks := [] }, t)
  | elsewhere {hs w t} : Plays s hs (w, t) → ∀ (w' : World) (stopAt : Option Nat),
      World.SameOutput t.leader w w' → Plays s hs (w', { t with stopAt })

/-! ### What a step does to the output -/

variable {w : World} {t : Task}

/-- A supervisor that cuts its command off closes the capture. -/
theorem react_cut {c : Cutoff} {e : Supervisor.Event} (he : e = c.event)
    (h : t.state.step e = Supervisor.cut c) :
    (t.react w e).1.captures.lookup t.leader = (w.captures.lookup t.leader).map Capture.close ∧
      (t.react w e).1.waiting t.leader = w.waiting t.leader := by
  have hsignal := World.signalGroup_output (w.changeCapture t.leader Capture.close) t.leader
    .terminate
  have hreact : (t.react w e).1 =
      (w.changeCapture t.leader Capture.close).signalGroup t.leader .terminate := by
    unfold react
    rw [h]
    subst he
    cases c <;> rfl
  rw [hreact, World.waiting, hsignal.1, hsignal.2]
  exact ⟨World.lookup_changeEntry _ _ _, rfl⟩

/-- A supervisor that decides nothing leaves the output alone. -/
theorem react_quiet {e : Supervisor.Event} (h : (t.state.step e).2 = []) :
    World.SameOutput t.leader w (t.react w e).1 := by
  cases e <;> exact .of_eq (by simp [react, h, World.reap]) (by simp [react, h, World.reap])

/-- A supervisor goes on as its events say. -/
theorem react_state (e : Supervisor.Event) : (t.react w e).2.state = (t.state.step e).1 := rfl

/-- A look leaves the output and the supervisor alone. -/
theorem look_eq : World.SameOutput t.leader w (t.look w).1 ∧ (t.look w).2.leader = t.leader ∧
    (t.look w).2.state = t.state := by
  have hkill := World.signalGroup_output w t.leader .kill
  unfold look
  split
  · split_ifs
    · exact ⟨.of_eq hkill.1 hkill.2, rfl, rfl⟩
    · exact ⟨⟨rfl, rfl⟩, rfl, rfl⟩
    · exact ⟨⟨rfl, rfl⟩, rfl, rfl⟩
  · split_ifs <;> exact ⟨⟨rfl, rfl⟩, rfl, rfl⟩
  · exact ⟨⟨rfl, rfl⟩, rfl, rfl⟩

/-! ### The tally of a command -/

/-- What counts of the happenings for the capture: those before the cutoff, once there was one. -/
def counted (isCut : Bool) (hs : List Happening) : List Happening :=
  if isCut then beforeCutoff hs else hs

/-- What holds of a command that was started, after any happenings. -/
structure Tally (p : ProcessId) (hs : List Happening) (w : World) (t : Task) (c : Capture) :
    Prop where
  leader : t.leader = p
  state : t.state = Supervisor.watching.run (events hs)
  capture : w.captures.lookup p = some c
  isClosed : c.isClosed = t.state.isCut
  bytes : c.bytes = readAll (counted t.state.isCut hs)
  sent : sent hs ++ w.waiting p = c.chunks.reverse

namespace Tally

variable {p : ProcessId} {hs : List Happening} {c : Capture}

/-- As long as nothing is cut off, all that happens counts. -/
theorem counted_append (h : Tally p hs w t c) (hs' : List Happening) :
    counted t.state.isCut (hs ++ hs') =
      if t.state.isCut then counted t.state.isCut hs else hs ++ hs' := by
  unfold counted
  split_ifs with hcut
  · rw [h.state] at hcut
    exact beforeCutoff_append
      (exists_isCutoff_iff.mpr (Supervisor.exists_isCutoff_of_isCut hcut)) hs'
  · rfl

/-- What is not read does not count for the capture. -/
theorem readAll_counted (h : Tally p hs w t c) {g : Happening} (hdata : g.data = []) :
    readAll (counted t.state.isCut (hs ++ [g])) = readAll (counted t.state.isCut hs) := by
  rw [h.counted_append]
  split_ifs with hcut
  · rfl
  · rw [counted, if_neg hcut, readAll_concat, hdata, List.append_nil]

/-- While a cutoff would be acted upon, none has come. -/
theorem forall_isCutoff (h : Tally p hs w t c) (hopen : t.state.isOpen = true) :
    ∀ g ∈ hs, g.isCutoff = false := by
  intro g hg
  rw [h.state] at hopen
  by_contra hcutoff
  obtain ⟨f, hf, hfcutoff⟩ := exists_isCutoff_iff.mp ⟨g, hg, by simpa using hcutoff⟩
  rw [Supervisor.forall_isCutoff_of_isOpen hopen f hf] at hfcutoff
  cases hfcutoff

/-- A happening that leaves the output and the supervisor alone keeps the tally. -/
theorem quiet (h : Tally p hs w t c) {w' : World} {t' : Task} {g : Happening}
    (hevent : g.event? = none) (hdata : g.data = []) (hcollected : g.collected = [])
    (hsame : World.SameOutput p w w') (hleader : t'.leader = t.leader)
    (hstate : t'.state = t.state) : Tally p (hs ++ [g]) w' t' c where
  leader := hleader.trans h.leader
  state := by
    rw [hstate, h.state, events_concat, hevent, Option.toList_none, List.append_nil]
  capture := hsame.1.trans h.capture
  isClosed := by rw [hstate, h.isClosed]
  bytes := by
    rw [hstate, h.bytes, h.readAll_counted hdata]
  sent := by
    rw [hsame.2, sent_concat, hcollected, List.append_nil, h.sent]

/-- Data that is read is counted until the cutoff. -/
theorem read (h : Tally p hs w t c) (data : Bytes) :
    ∃ c', Tally p (hs ++ [.read data]) (w.captureData p data) t c' := by
  have hstate : t.state = Supervisor.watching.run (events (hs ++ [.read data])) := by
    rw [h.state, events_concat]
    simp [Happening.event?]
  cases hcut : t.state.isCut with
  | true =>
      have hclosed := h.isClosed.trans hcut
      refine ⟨c, h.leader, hstate, ?_, h.isClosed, ?_, ?_⟩
      · rw [World.captureData_closed h.capture hclosed]
        exact h.capture
      · rw [h.bytes, h.counted_append, if_pos hcut]
      · rw [World.captureData_closed h.capture hclosed, sent_concat, collected, List.append_nil,
          h.sent]
  | false =>
      have hopen := h.isClosed.trans hcut
      have hbytes : c.bytes = readAll hs := by simpa [counted, hcut] using h.bytes
      refine ⟨{ c with chunks := (World.pieces data).reverse ++ c.chunks }, h.leader, hstate,
        World.lookup_captureData_open h.capture hopen data, h.isClosed, ?_, ?_⟩
      · have hgrown : Capture.bytes { c with chunks := (World.pieces data).reverse ++ c.chunks } =
            c.bytes ++ data := by
          simp [Capture.bytes, World.flatten_pieces]
        rw [hgrown, hbytes, hcut, counted, if_neg Bool.false_ne_true, readAll_concat,
          Happening.data]
      · rw [World.waiting_captureData_open h.capture hopen, List.reverse_append,
          List.reverse_reverse, sent_concat, collected, List.append_nil, ← List.append_assoc,
          h.sent]

/-- The supervisor is where its events lead. -/
theorem state_event (h : Tally p hs w t c) (e : Supervisor.Event) :
    (t.react w e).2.state = Supervisor.watching.run (events (hs ++ [.event e])) := by
  rw [react_state, h.state, events_concat, Happening.event?, Option.toList_some,
    Supervisor.run_concat]

/-- A cutoff that is acted upon closes the capture, with what was read before. -/
theorem event_cut (h : Tally p hs w t c) {e : Supervisor.Event} {cutoff : Cutoff}
    (he : e = cutoff.event) (hopen : t.state.isOpen = true)
    (hcut : t.state.step e = Supervisor.cut cutoff) :
    Tally p (hs ++ [.event e]) (t.react w e).1 (t.react w e).2 c.close := by
  have hleader := h.leader
  subst hleader
  obtain ⟨hcapture, hwaiting⟩ := react_cut (w := w) he hcut
  have hnone := h.forall_isCutoff hopen
  have hbefore : beforeCutoff (hs ++ [.event e]) = hs := by
    rw [beforeCutoff, List.takeWhile_append_of_pos (by simpa using hnone)]
    simp [he, isCutoff, cutoff.isCutoff_event]
  have hterminating : (t.react w e).2.state = .terminating cutoff := by
    rw [react_state, hcut]
    rfl
  refine ⟨rfl, h.state_event e, ?_, ?_, ?_, ?_⟩
  · rw [hcapture, h.capture]
    rfl
  · rw [hterminating]
    rfl
  · rw [Capture.bytes_close, h.bytes, Supervisor.isCut_of_isOpen hopen, hterminating]
    simp [counted, Supervisor.isCut, hbefore]
  · rw [sent_event, hwaiting]
    exact h.sent

/-- Any other event leaves the capture as it is. -/
theorem event_quiet (h : Tally p hs w t c) {e : Supervisor.Event}
    (hquiet : (t.state.step e).2 = []) (hsame : (t.state.step e).1.isCut = t.state.isCut) :
    Tally p (hs ++ [.event e]) (t.react w e).1 (t.react w e).2 c := by
  have hleader := h.leader
  subst hleader
  obtain ⟨hcapture, hwaiting⟩ := react_quiet (w := w) hquiet
  refine ⟨rfl, h.state_event e, hcapture.trans h.capture, ?_, ?_, ?_⟩
  · rw [react_state, hsame, h.isClosed]
  · rw [react_state, hsame, h.bytes, h.readAll_counted rfl]
  · rw [sent_event, hwaiting]
    exact h.sent

/-- An event keeps the tally. -/
theorem event (h : Tally p hs w t c) (e : Supervisor.Event) :
    ∃ c', Tally p (hs ++ [.event e]) (t.react w e).1 (t.react w e).2 c' := by
  obtain ⟨cutoff, he, hopen, hcut⟩ | ⟨hquiet, hsame, -⟩ := Supervisor.step_cases t.state e
  · exact ⟨c.close, h.event_cut he hopen hcut⟩
  · exact ⟨c, h.event_quiet hquiet hsame⟩

/-- Chunks that are handed on keep the tally. -/
theorem collect (h : Tally p hs w t c) :
    Tally p (hs ++ [.collect (w.waiting p)]) { w with chunks := [] } t c where
  leader := h.leader
  state := by
    rw [h.state, events_concat]
    simp [Happening.event?]
  capture := h.capture
  isClosed := h.isClosed
  bytes := by
    rw [h.bytes, h.readAll_counted rfl]
  sent := by
    rw [sent_concat, collected, h.sent]
    simp [World.waiting]

/-- What leaves the output alone keeps the tally. -/
theorem elsewhere (h : Tally p hs w t c) {w' : World} {stopAt : Option Nat}
    (hsame : World.SameOutput p w w') : Tally p hs w' { t with stopAt } c :=
  ⟨h.leader, h.state, hsame.1.trans h.capture, h.isClosed, h.bytes, by rw [hsame.2, h.sent]⟩

end Tally

/-- **The run lemma**: a tally is kept by all that happens. -/
theorem Plays.tally {p : ProcessId} {s : World × Task} {hs : List Happening} {s' : World × Task}
    (h : Plays s hs s') {c : Capture} (hs₀ : Tally p [] s.1 s.2 c) :
    ∃ c', Tally p hs s'.1 s'.2 c' := by
  induction h with
  | start => exact ⟨c, hs₀⟩
  | read h data ih =>
      obtain ⟨c', ih⟩ := ih
      have hleader := ih.leader
      subst hleader
      exact ih.read data
  | event h e ih =>
      obtain ⟨c', ih⟩ := ih
      exact ih.event e
  | look h ih =>
      obtain ⟨c', ih⟩ := ih
      obtain ⟨hsame, hleader, hstate⟩ := look_eq
      have hp := ih.leader
      subst hp
      exact ⟨c', ih.quiet rfl rfl rfl hsame hleader hstate⟩
  | collect h ih =>
      obtain ⟨c', ih⟩ := ih
      have hleader := ih.leader
      subst hleader
      exact ⟨c', ih.collect⟩
  | elsewhere h w' stopAt hsame ih =>
      obtain ⟨c', ih⟩ := ih
      have hleader := ih.leader
      subst hleader
      exact ⟨c', ih.elsewhere hsame⟩

/-- An outcome is final. -/
theorem Plays.outcome?_mono {s s' : World × Task} {hs : List Happening} {o : Outcome}
    (h : Plays s hs s') (ho : s.2.state.outcome? = some o) : s'.2.state.outcome? = some o := by
  induction h with
  | start => exact ho
  | read _ _ ih | collect _ ih | elsewhere _ _ _ _ ih => exact ih
  | event _ e ih => exact Supervisor.outcome?_mono ih e
  | look _ ih =>
      obtain ⟨-, -, hstate⟩ := look_eq
      rw [hstate]
      exact ih

/-- What happens first and what happens then are one course. -/
theorem Plays.trans {s s' s'' : World × Task} {hs hs' : List Happening} (h : Plays s hs s')
    (h' : Plays s' hs' s'') : Plays s (hs ++ hs') s'' := by
  induction h' with
  | start => rwa [List.append_nil]
  | read _ data ih => exact List.append_assoc hs _ _ ▸ ih.read data
  | event _ e ih => exact List.append_assoc hs _ _ ▸ ih.event e
  | look _ ih => exact List.append_assoc hs _ _ ▸ ih.look
  | collect _ ih => exact List.append_assoc hs _ _ ▸ ih.collect
  | elsewhere _ w' stopAt hsame ih => exact ih.elsewhere w' stopAt hsame

/-- A supervisor that reacts to all that it sees plays events and looks. -/
theorem exists_plays_settle (fuel : Nat) (w : World) (t : Task) :
    ∃ hs, Plays (w, t) hs (t.settle fuel w) := by
  induction fuel generalizing w t with
  | zero => exact ⟨[], .start⟩
  | succ fuel ih =>
      have hreact : ∀ (w : World) (t : Task) (e : Supervisor.Event),
          ∃ hs, Plays (w, t) hs (settle fuel (t.react w e).1 (t.react w e).2) := by
        intro w t e
        obtain ⟨hs, h⟩ := ih (t.react w e).1 (t.react w e).2
        exact ⟨_, (Plays.start.event e).trans h⟩
      unfold settle
      split
      · exact hreact w t _
      · have hlook : Plays (w, t) [.look] (t.look w) := Plays.start.look
        dsimp only
        split
        · obtain ⟨hs, h⟩ := hreact (t.look w).1 (t.look w).2 _
          exact ⟨_, hlook.trans h⟩
        · exact ⟨_, hlook⟩

end Task

/-! ### Commands of a machine -/

namespace Machine

open Turnstile.Task Turnstile.Task.Happening

/-- A command that is started is launched in its directory. -/
theorem exists_launch_of_spawn {r : SpawnRequest} {m m' : Machine} {p : ProcessId}
    (h : spawn r m = (.ok p, m')) : ∃ cwd, m.launch r cwd = (p, m') := by
  unfold spawn at h
  split at h
  · dsimp only at h
    split at h
    · cases h
    · cases h
      exact ⟨_, rfl⟩
  · cases h

/-- A command that is started has a supervisor that watches, and an empty capture. -/
theorem spawn_eq_ok {r : SpawnRequest} {m m' : Machine} {p : ProcessId}
    (h : spawn r m = (.ok p, m')) :
    ∃ t : Task, m'.tasks = m.tasks ++ [t] ∧ t.leader = p ∧ t.state = .watching ∧
      m'.world.captures.lookup p = some {} ∧ m'.world.chunks = m.world.chunks := by
  obtain ⟨cwd, hlaunch⟩ := exists_launch_of_spawn h
  cases hlaunch
  exact ⟨_, rfl, rfl, rfl, List.lookup_cons_self, rfl⟩

/-- To ask for a stop decides nothing. -/
theorem outcome?_requestStop (n : Machine) (p : ProcessId) :
    Platform.outcome? (Platform.requestStop p n) p = Platform.outcome? n p := by
  change ((n.requestStop p).task? p).bind _ = (n.task? p).bind _
  unfold requestStop task?
  rw [List.find?_map]
  have hpred : ((fun t : Task => t.leader == p) ∘ fun t : Task =>
      if t.leader == p then { t with stopAt := some (min n.world.now (t.stopAt.getD n.world.now)) }
      else t) = fun t : Task => t.leader == p := by
    funext t
    dsimp only [Function.comp_apply]
    split_ifs <;> rfl
  rw [hpred]
  cases n.tasks.find? (·.leader == p) with
  | none => rfl
  | some t =>
      dsimp only [Option.map_some, Option.bind_some]
      split_ifs <;> rfl

/-- Who asks a command that ended to stop, and waits for it, learns its outcome. -/
theorem awaitOutcome_requestStop {n : Machine} {p : ProcessId} {o : Outcome}
    (h : Platform.outcome? n p = some o) :
    (Platform.awaitOutcome p (Platform.requestStop p n)).1 = o := by
  have hstopped : Platform.outcome? (Platform.requestStop p n) p = some o :=
    (outcome?_requestStop n p).trans h
  have hwait : Platform.waitUntil ⟨Platform.horizon.nanos⟩ (fun s => !Platform.isRunning s p)
      (Platform.requestStop p n) = Platform.requestStop p n := by
    unfold Platform.waitUntil
    simp [Platform.isRunning, hstopped]
  unfold Platform.awaitOutcome
  simp only [hwait, hstopped, Option.getD_some]

/-- **What a started command reports**, whatever happens to it and elsewhere, in any order. -/
theorem spawn_reports {r : SpawnRequest} {m m' : Machine} {p : ProcessId}
    (hspawn : Machine.spawn r m = (.ok p, m')) (hfresh : m.world.waiting p = []) :
    ∃ t₀ : Task, m'.tasks = m.tasks ++ [t₀] ∧ t₀.leader = p ∧
      ∀ (hs : List Happening) (n : Machine) (t : Task),
        Plays (m'.world, t₀) hs (n.world, t) → n.task? p = some t →
        (∀ o, Platform.outcome? n p = some o ↔ Supervisor.Ends (events hs) o) ∧
        (∀ o, Platform.outcome? n p = some o →
          (Platform.awaitOutcome p (Platform.requestStop p n)).1 = o ∧
          (∀ (hs' : List Happening) (n' : Machine) (t' : Task),
            Plays (n.world, t) hs' (n'.world, t') → n'.task? p = some t' →
            Platform.outcome? n' p = some o) ∧
          ((Platform.capture n p).isClosed = true ↔ o = .timedOut ∨ o = .cancelled)) ∧
        ((Platform.capture n p).isClosed = true →
          (∃ h ∈ hs, h.isCutoff = true) ∧
            (Platform.capture n p).bytes = readAll (beforeCutoff hs)) ∧
        ((Platform.capture n p).isClosed = false → (Platform.capture n p).bytes = readAll hs) ∧
        sent hs ++ n.world.waiting p = (Platform.capture n p).chunks.reverse := by
  obtain ⟨t₀, htasks, hleader, hwatching, hcapture, hchunks⟩ := spawn_eq_ok hspawn
  refine ⟨t₀, htasks, hleader, fun hs n t hplays htask => ?_⟩
  have hstart : Tally p [] m'.world t₀ {} := by
    refine ⟨hleader, hwatching, hcapture, by rw [hwatching]; rfl, by rw [hwatching]; rfl, ?_⟩
    rw [World.waiting, hchunks, ← World.waiting, hfresh]
    rfl
  obtain ⟨c, htally⟩ := hplays.tally hstart
  have houtcome : Platform.outcome? n p = t.state.outcome? := by
    change (n.task? p).bind _ = _
    rw [htask]
    rfl
  have hc : Platform.capture n p = c := by
    change (n.world.captures.lookup p).getD {} = c
    rw [htally.capture, Option.getD_some]
  rw [hc]
  have hstate := htally.state
  have hbytes := htally.bytes
  have hclosed := htally.isClosed
  refine ⟨fun o => ?_, fun o ho => ⟨awaitOutcome_requestStop ho, ?_, ?_⟩, fun h => ?_, fun h => ?_,
    htally.sent⟩
  · rw [houtcome, hstate]
    exact Supervisor.outcome?_run_iff
  · intro hs' n' t' hplays' htask'
    rw [houtcome] at ho
    have ho' := hplays'.outcome?_mono ho
    change (n'.task? p).bind _ = _
    rw [htask']
    exact ho'
  · rw [houtcome] at ho
    rw [hclosed, Supervisor.isCut_of_outcome? ho, Outcome.isCutoff_iff]
  · rw [hclosed] at h
    rw [h, counted, if_pos rfl] at hbytes
    rw [hstate] at h
    exact ⟨exists_isCutoff_iff.mpr (Supervisor.exists_isCutoff_of_isCut h), hbytes⟩
  · rw [hclosed] at h
    rwa [h, counted, if_neg Bool.false_ne_true] at hbytes

/-- A machine on which nothing was started. -/
def idle : Machine where
  world := { files := {} }
  cwd := []

/-- A request to print without end, for a second at most. -/
def yesRequest : SpawnRequest where
  command := "yes"
  workdir := "/"
  env := []
  timeout := .ofWholeSeconds 1
  grace := .ofWholeSeconds 1

/-- What is read after the deadline is not reported. -/
theorem spawn_reports_until_deadline : ∃ (m' n : Machine) (t₀ t : Task),
    spawn yesRequest idle = (.ok 100, m') ∧ idle.world.waiting 100 = [] ∧
      Plays (m'.world, t₀) [.read [121, 10], .event .deadlinePassed, .read [121],
        .event .groupGone, .event .drained] (n.world, t) ∧
      Platform.outcome? n 100 = some .timedOut ∧ (Platform.capture n 100).bytes = [121, 10] := by
  obtain ⟨m', hspawn⟩ : ∃ m', spawn yesRequest idle = (.ok 100, m') := ⟨_, rfl⟩
  obtain ⟨t₀, -, hleader, hreports⟩ := spawn_reports hspawn rfl
  obtain ⟨w, t, hplays, hleading⟩ : ∃ w t, Plays (m'.world, t₀) [.read [121, 10],
      .event .deadlinePassed, .read [121], .event .groupGone, .event .drained] (w, t) ∧
      t.leader = 100 :=
    ⟨_, _, .event (.event (.read (.event (.read .start _) _) _) _) _, hleader⟩
  obtain ⟨houtcome, hended, hcut, -⟩ := hreports _ { m' with world := w, tasks := [t] } t hplays
    (by simp [task?, hleading])
  have htimedOut := (houtcome .timedOut).mpr (Supervisor.outcome?_run_iff.mp rfl)
  have hclosed := (hended .timedOut htimedOut).2.2.mpr (.inl rfl)
  exact ⟨m', _, t₀, t, hspawn, rfl, hplays, htimedOut, (hcut hclosed).2⟩

end Machine

end Turnstile
