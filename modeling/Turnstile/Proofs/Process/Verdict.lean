import Turnstile.Process.Supervisor

/-!
# Which outcome a supervisor publishes

A supervisor sees events in any order (`Supervisor.run`) and acts on some of them only. `Ends es o`
says of a list of events what its outcome is: the leader exited and its group was found gone before
the deadline or a stop was acted upon (`Exits`), or one of these came first (`IsCut`).

**Theorem** (`outcome?_run_iff`): these are exactly the lists after which an outcome is published.
-/

namespace Turnstile

/-- The event that tells a supervisor to end a group before its time. -/
def Cutoff.event : Cutoff → Supervisor.Event
  | .deadline => .deadlinePassed
  | .stop => .stopRequested

namespace Supervisor

/-! ### Lists of events -/

/-- True of the events that end a group before its time. -/
def Event.isCutoff : Event → Bool
  | .deadlinePassed | .stopRequested => true
  | _ => false

/-- True of the end of a leader. -/
def Event.isLeaderExit : Event → Bool
  | .leaderExited _ => true
  | _ => false

/-- An event comes, before it nothing but events of a kind, and after it what is wanted. -/
def Reaches (P : Event → Prop) (e : Event) (Q : List Event → Prop) (es : List Event) : Prop :=
  ∃ before after, es = before ++ e :: after ∧ (∀ f ∈ before, P f) ∧ Q after

/-- While the leader runs, neither its end nor a cutoff. -/
def Event.IsEarly (e : Event) : Prop := e.isCutoff = false ∧ e.isLeaderExit = false

/-- While others outlive the leader, neither their end nor a cutoff. -/
def Event.IsLate (e : Event) : Prop := e.isCutoff = false ∧ e ≠ .groupGone

/-- The group is found gone, and then the readers are done. -/
def Closes (es : List Event) : Prop := [Event.groupGone, .drained].Sublist es

/-- The leader exits, and then its group is found gone, before anything cuts it off. -/
def Exits (code : Option Int) : List Event → Prop :=
  Reaches Event.IsEarly (.leaderExited code) (Reaches Event.IsLate .groupGone (.drained ∈ ·))

/-- The group is cut off while the leader runs, or after it exited but before the group is found
gone. -/
def IsCut (c : Cutoff) (es : List Event) : Prop :=
  Reaches Event.IsEarly c.event Closes es ∨
    ∃ code, Reaches Event.IsEarly (.leaderExited code) (Reaches Event.IsLate c.event Closes) es

/-- What a list of events says of the outcome. -/
def Ends (es : List Event) (o : Outcome) : Prop :=
  (∃ code, o = .exited code ∧ Exits code es) ∨ ∃ c : Cutoff, o = c.outcome ∧ IsCut c es

/-- Without events nothing is reached. -/
theorem not_reaches_nil {P : Event → Prop} {e : Event} {Q : List Event → Prop} :
    ¬ Reaches P e Q [] := by
  rintro ⟨before, after, h, -⟩
  cases before <;> cases h

/-- The first event is the one that is waited for, or the wait goes on. -/
theorem reaches_cons {P : Event → Prop} {e f : Event} {Q : List Event → Prop}
    {es : List Event} : Reaches P e Q (f :: es) ↔ (f = e ∧ Q es) ∨ (P f ∧ Reaches P e Q es) := by
  constructor
  · rintro ⟨before, after, heq, hbefore, hafter⟩
    cases before with
    | nil =>
        cases heq
        exact .inl ⟨rfl, hafter⟩
    | cons g before =>
        cases heq
        exact .inr ⟨hbefore _ List.mem_cons_self, before, after, rfl,
          fun g hg => hbefore g (List.mem_cons_of_mem _ hg), hafter⟩
  · rintro (⟨rfl, hafter⟩ | ⟨hf, before, after, rfl, hbefore, hafter⟩)
    · exact ⟨[], es, rfl, fun g hg => (List.not_mem_nil hg).elim, hafter⟩
    · exact ⟨f :: before, after, rfl, List.forall_mem_cons.mpr ⟨hf, hbefore⟩, hafter⟩

/-! ### Runs from each state -/

/-- The state after a list of events. -/
def run (s : Supervisor) (es : List Event) : Supervisor := es.foldl (fun s e => (s.step e).1) s

/-- The first event is the first step. -/
theorem run_cons (s : Supervisor) (e : Event) (es : List Event) :
    s.run (e :: es) = (s.step e).1.run es := rfl

/-- An outcome is final. -/
theorem outcome?_run_finished (o : Outcome) (es : List Event) :
    ((finished o).run es).outcome? = some o := by
  induction es with
  | nil => rfl
  | cons e es ih => rwa [run_cons, step_finished]

/-- A command that only drains keeps its outcome until nothing is left. -/
theorem outcome?_run_draining_iff {o o' : Outcome} {es : List Event} :
    ((draining o).run es).outcome? = some o' ↔ o' = o ∧ .drained ∈ es := by
  induction es with
  | nil => simp [run, outcome?]
  | cons e es ih =>
      rw [run_cons]
      cases e with
      | drained => simp [step, outcome?_run_finished, eq_comm]
      | leaderExited _ | groupGone | deadlinePassed | stopRequested => simpa [step] using ih

/-- A command that was cut off has the outcome of the cutoff when it closes. -/
theorem outcome?_run_terminating_iff {c : Cutoff} {o : Outcome} {es : List Event} :
    ((terminating c).run es).outcome? = some o ↔ o = c.outcome ∧ Closes es := by
  unfold Closes
  induction es with
  | nil => simp [run, outcome?]
  | cons e es ih =>
      rw [run_cons]
      cases e with
      | groupGone =>
          rw [List.cons_sublist_cons, List.singleton_sublist]
          exact outcome?_run_draining_iff
      | leaderExited _ | drained | deadlinePassed | stopRequested =>
          simpa [step, List.sublist_cons_iff] using ih

/-- There are two cutoffs. -/
theorem exists_cutoff_iff {P : Cutoff → Prop} : (∃ c, P c) ↔ P .deadline ∨ P .stop := by
  constructor
  · rintro ⟨c, h⟩
    cases c with
    | deadline => exact .inl h
    | stop => exact .inr h
  · rintro (h | h) <;> exact ⟨_, h⟩

/-- A command whose group outlives it waits for the group, or is cut off. -/
theorem outcome?_run_outliving_iff {code : Option Int} {o : Outcome} {es : List Event} :
    ((outliving code).run es).outcome? = some o ↔
      (o = .exited code ∧ Reaches Event.IsLate .groupGone (.drained ∈ ·) es) ∨
        ∃ c : Cutoff, o = c.outcome ∧ Reaches Event.IsLate c.event Closes es := by
  simp only [exists_cutoff_iff, Cutoff.event]
  induction es with
  | nil => simp [run, outcome?, not_reaches_nil]
  | cons e es ih =>
      rw [run_cons]
      simp only [reaches_cons, Event.IsLate, Event.isCutoff]
      cases e with
      | groupGone => simpa [step] using outcome?_run_draining_iff
      | deadlinePassed => simpa [step, cut] using outcome?_run_terminating_iff
      | stopRequested => simpa [step, cut] using outcome?_run_terminating_iff
      | leaderExited _ => simpa [step] using ih
      | drained => simpa [step] using ih

/-- **The outcome that is published is the one that the events tell of**, and it is published once
they tell of one. -/
theorem outcome?_run_iff {o : Outcome} {es : List Event} :
    (watching.run es).outcome? = some o ↔ Ends es o := by
  simp only [Ends, Exits, IsCut, exists_cutoff_iff, Cutoff.event]
  induction es with
  | nil => simp [run, outcome?, not_reaches_nil]
  | cons e es ih =>
      rw [run_cons]
      simp only [reaches_cons, Event.IsEarly, Event.isCutoff, Event.isLeaderExit]
      cases e with
      | leaderExited code =>
          have houtliving := @outcome?_run_outliving_iff code o es
          simp only [exists_cutoff_iff, Cutoff.event] at houtliving
          simpa [step, and_left_comm] using houtliving
      | deadlinePassed => simpa [step, cut] using outcome?_run_terminating_iff
      | stopRequested => simpa [step, cut] using outcome?_run_terminating_iff
      | groupGone => simpa [step] using ih
      | drained => simpa [step] using ih

end Supervisor

end Turnstile
