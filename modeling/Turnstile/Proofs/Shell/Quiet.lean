import Mathlib.Tactic.SplitIfs
import Turnstile.Shell.Step

/-!
# A step of a shell captures nothing

What a shell writes is noted in its process (`Process.pending`), and it is written when the process
has its next turn. So a step leaves alone what was captured, and it gives no number again that was
given to a process, a pipe or a file (`World.Quiet`).

* Most of what a step is made of leaves the whole world alone, the builtins included
  (`Builtin.world_run`).
* The rest starts and forgets children, opens pipes and files, and reads (`Turn.quiet_of_runFrame`).

**Theorem** (`Turn.quiet_of_step`): each step of a shell is quiet, whatever the shell runs.
-/

namespace Turnstile

namespace World

/-- What was captured is left alone, and no number that was given is given again. -/
structure Quiet (w w' : World) : Prop where
  captures : w'.captures = w.captures
  chunks : w'.chunks = w.chunks
  next_le : w.next ≤ w'.next

variable {w w' w'' : World}

/-- Nothing is quiet. -/
theorem Quiet.refl (w : World) : Quiet w w := ⟨rfl, rfl, Nat.le_refl _⟩

/-- One quiet change after the other is quiet. -/
theorem Quiet.trans (h : Quiet w w') (h' : Quiet w' w'') : Quiet w w'' where
  captures := h'.captures.trans h.captures
  chunks := h'.chunks.trans h.chunks
  next_le := Nat.le_trans h.next_le h'.next_le

/-- A world that is the same is a quiet one. -/
theorem Quiet.of_eq (h : w' = w) : Quiet w w' := h ▸ .refl w

/-- A process may be changed in any way. -/
theorem quiet_change (w : World) (pid : Nat) (f : Process → Process) : Quiet w (w.change pid f) :=
  ⟨rfl, rfl, Nat.le_refl _⟩

/-- A process that ends leaves what it captured. -/
theorem quiet_finish (w : World) (pid : Nat) (status : ExitStatus) :
    Quiet w (w.finish pid status) := ⟨rfl, rfl, Nat.le_refl _⟩

/-- So does one that is forgotten. -/
theorem quiet_reap (w : World) (pid : Nat) : Quiet w (w.reap pid) := ⟨rfl, rfl, Nat.le_refl _⟩

/-- A new process takes the next number. -/
theorem quiet_add (w : World) (p : Process) : Quiet w (w.add p) := ⟨rfl, rfl, Nat.le_max_left _ _⟩

/-- So does a new pipe. -/
theorem quiet_makePipe (w : World) : Quiet w w.makePipe.2 := ⟨rfl, rfl, Nat.le_succ _⟩

/-- What a pipe holds from the start is not captured. -/
theorem quiet_makeFilledPipe (w : World) (data : Bytes) : Quiet w (w.makeFilledPipe data).2 :=
  ⟨rfl, rfl, Nat.le_succ _⟩

/-- A file that is opened takes the next number. -/
theorem quiet_openHandle (w : World) (h : Handle) : Quiet w (w.openHandle h).2 :=
  ⟨rfl, rfl, Nat.le_succ _⟩

/-- Files hold nothing that was captured. -/
theorem quiet_files (w : World) (files : FileTree) : Quiet w { w with files } :=
  ⟨rfl, rfl, Nat.le_refl _⟩

/-- A signal ends or stops a process, and captures nothing. -/
theorem quiet_signal (w : World) (pid : Nat) (s : Signal) : Quiet w (w.signal pid s) := by
  unfold signal
  split
  · exact .refl w
  · dsimp only
    split_ifs
    · exact .refl w
    · exact quiet_finish w pid _
    · exact .refl w
    · exact quiet_change w pid _
    · exact quiet_finish w pid _
    · exact .refl w

/-- Any number of processes may be forgotten. -/
theorem quiet_foldl_reap (pids : List Nat) (w : World) : Quiet w (pids.foldl reap w) := by
  induction pids generalizing w with
  | nil => exact .refl w
  | cons pid pids ih => exact (quiet_reap w pid).trans (ih _)

/-- Any number of processes may get a signal. -/
theorem quiet_foldl_signal (s : Signal) (pids : List Nat) (w : World) :
    Quiet w (pids.foldl (fun w pid => w.signal pid s) w) := by
  induction pids generalizing w with
  | nil => exact .refl w
  | cons pid pids ih => exact (quiet_signal w pid s).trans (ih _)

/-- A group may get a signal. -/
theorem quiet_signalGroup (w : World) (group : Nat) (s : Signal) :
    Quiet w (w.signalGroup group s) := by
  have hfold := quiet_foldl_signal s ((w.groupMembers group).map (·.pid)) w
  rwa [List.foldl_map] at hfold

/-- What is read is taken from a pipe or a file. -/
theorem quiet_of_read {c : Channel} {most : Nat} {bs : Bytes} (h : w.read c most = .data bs w') :
    Quiet w w' := by
  unfold read at h
  split at h
  · cases h
  · cases h
  · cases h
    exact .refl w
  · split at h
    · cases h
    · split at h
      · dsimp only at h
        split_ifs at h
        cases h
        exact ⟨rfl, rfl, Nat.le_refl _⟩
      · cases h
  · split at h
    · cases h
    · split_ifs at h
      cases h
      exact ⟨rfl, rfl, Nat.le_refl _⟩

end World

namespace Shell

open World (Quiet)

/-! ### What leaves the world alone -/

namespace Turn

/-- What leaves the world alone does so however often it is done. -/
theorem world_foldl {α : Type} {f : Turn → α → Turn} (hf : ∀ t a, (f t a).world = t.world)
    (as : List α) (t : Turn) : (as.foldl f t).world = t.world := by
  induction as generalizing t with
  | nil => rfl
  | cons a as ih => rw [List.foldl_cons, ih, hf]

variable (t : Turn)

/-- What is written is noted in the process, and the world stays the same. -/
@[simp] theorem world_write (d : Nat) (data : Bytes) : (t.write d data).world = t.world := by
  unfold write
  split
  · split_ifs <;> rfl
  · rfl

/-- A text is written like any octets. -/
@[simp] theorem world_say (d : Nat) (s : String) : (t.say d s).world = t.world :=
  t.world_write d _

/-- A complaint is a text on the channel of errors. -/
@[simp] theorem world_complain (s : String) : (t.complain s).world = t.world := t.world_say 2 _

/-- So is the report of a failed command. -/
@[simp] theorem world_report (s : String) : (t.report s).world = t.world := t.world_complain _

/-- A status belongs to the shell. -/
@[simp] theorem world_setStatus (n : Nat) : (t.setStatus n).world = t.world := rfl

/-- So do frames. -/
@[simp] theorem world_push (f : Frame) : (t.push f).world = t.world := rfl

/-- So do variables. -/
@[simp] theorem world_setVars (vars : Variables) : (t.setVars vars).world = t.world := rfl

/-- So do positional parameters. -/
@[simp] theorem world_setParams (params : List String) : (t.setParams params).world = t.world := rfl

/-- A shell that is to exit still has to be finished. -/
@[simp] theorem world_exit (n : Nat) : (t.exit n).world = t.world := rfl

/-- An end of a command changes its status and its frames. -/
@[simp] theorem world_settle (n : Nat) : (t.settle n).world = t.world := by
  unfold settle
  split_ifs <;> rfl

/-- A failure complains and settles. -/
@[simp] theorem world_fail (s : String) (n : Nat) : (t.fail s n).world = t.world := by
  simp [fail]

/-- A failure that ends the shell complains and exits. -/
@[simp] theorem world_abort (s : String) : (t.abort s).world = t.world := by simp [abort]

/-- A shell gives up in one of these ways. -/
@[simp] theorem world_giveUp (s : String) : (t.giveUp s).world = t.world := by simp [giveUp]

/-- The shell tells of the signal that ended a child. -/
@[simp] theorem world_mourn (status : ExitStatus) : (t.mourn status).world = t.world := by
  unfold mourn
  split
  · split
    · exact t.world_say 2 _
    · rfl
  · rfl

/-- Descriptors belong to the process. -/
@[simp] theorem world_setDescriptor (d : Nat) (c : Option Channel) :
    (t.setDescriptor d c).world = t.world := rfl

/-- They are put back there too. -/
@[simp] theorem world_restore (saved : List (Nat × Option Channel)) :
    (t.restore saved).world = t.world := by
  refine world_foldl ?_ saved t
  intro _ _
  rfl

/-- Variables are put back in the shell. -/
@[simp] theorem world_restoreVars (saved : List (String × Option Variable)) :
    (t.restoreVars saved).world = t.world := rfl

/-- What a frame has to undo is in the shell or in its process. -/
@[simp] theorem world_undo (f : Frame) : (t.undo f).world = t.world := by
  cases f <;> simp [undo]

/-- Frames are left one after another. -/
@[simp] theorem world_leaveUntil (p : Frame → Bool) (frames : List Frame) (t : Turn) :
    (leaveUntil p frames t).world = t.world := by
  induction frames generalizing t with
  | nil => rfl
  | cons f frames ih =>
      unfold leaveUntil
      split_ifs
      · rfl
      · rw [ih, world_undo]

/-- The last of them may be left as well. -/
@[simp] theorem world_leaveThrough (p : Frame → Bool) : (leaveThrough p t).world = t.world := by
  unfold leaveThrough
  dsimp only
  split <;> simp

end Turn

namespace Builtin

open Turn

variable (t : Turn) (args : List String)

/-- The builtin `printf` writes. -/
@[simp] theorem world_printf : (printf t args).world = t.world := by
  unfold printf
  split
  · exact t.world_fail _ _
  · rw [world_settle, world_say]
    exact world_foldl (fun t _ => t.world_complain _) _ t

/-- The builtin `test` sets a status. -/
@[simp] theorem world_test (name : String) : (test name t args).world = t.world := by
  unfold test
  split <;> simp

/-- So does `[`, which wants a closing bracket. -/
@[simp] theorem world_bracket : (bracket t args).world = t.world := by
  unfold bracket
  split_ifs <;> simp

/-- The builtin `pwd` writes. -/
@[simp] theorem world_pwd : (pwd t).world = t.world := by simp [pwd]

/-- The builtin `cd` changes the process and two variables. -/
@[simp] theorem world_cd : (cd t args).world = t.world := by
  unfold cd
  dsimp only
  split
  · exact t.world_settle 0
  · split
    · split_ifs <;> simp
    · exact t.world_fail _ _

/-- Declarations change variables, or write them. -/
@[simp] theorem world_declare (command : String) (f : Variable → Variable) (t : Turn)
    (args : List String) : (declare command f t args).world = t.world := by
  induction args generalizing t with
  | nil => rfl
  | cons a args ih =>
      unfold declare
      dsimp only
      split_ifs
      · exact t.world_abort _
      · exact t.world_abort _
      · rw [ih, world_setVars]

/-- The builtin `export` is a declaration. -/
@[simp] theorem world_exportVars : (exportVars t args).world = t.world := by
  unfold exportVars
  split <;> simp

/-- So is `readonly`. -/
@[simp] theorem world_readOnly : (readOnly t args).world = t.world := by
  unfold readOnly
  split <;> simp

/-- The builtin `unset` takes variables or functions away. -/
@[simp] theorem world_unset : (unset t args).world = t.world := by
  unfold unset
  split
  · rfl
  · dsimp only
    split <;> simp

/-- The builtin `local` notes what variables were. -/
@[simp] theorem world_makeLocal : (makeLocal t args).world = t.world := by
  unfold makeLocal
  dsimp only
  split_ifs <;> simp

/-- The builtin `shift` takes positional parameters away. -/
@[simp] theorem world_shift : (shift t args).world = t.world := by
  unfold shift
  dsimp only
  split
  · exact t.world_abort _
  · split_ifs <;> simp

/-- Options and parameters are kept in the shell. -/
theorem world_setArguments (args : List String) (t : Turn) :
    (setArguments args t).world = t.world := by
  -- options take one or two arguments each, so the induction is on how many are left
  induction hlength : args.length using Nat.strongRecOn generalizing args t with
  | ind n ih =>
      subst hlength
      have hlong (isOn : Bool) (name : String) (rest : List String)
          (hrest : rest.length < args.length) :
          (setArguments.setLong isOn name rest t).world = t.world := by
        unfold setArguments.setLong
        split
        · exact ih _ hrest rest _ rfl
        · exact t.world_abort _
      unfold setArguments
      split
      · rfl
      · rfl
      · exact hlong true _ _ (Nat.lt_succ_of_le (Nat.le_succ _))
      · exact hlong false _ _ (Nat.lt_succ_of_le (Nat.le_succ _))
      · split
        · exact ih _ (by simp) _ _ rfl
        · exact ih _ (by simp) _ _ rfl
        · rfl

/-- The builtin `set` changes options and positional parameters. -/
@[simp] theorem world_set : (set t args).world = t.world := by
  unfold set
  split
  · simp
  · exact world_setArguments _ t

/-- The builtin `exit` ends the shell's program, with its frames. -/
@[simp] theorem world_exit : (exit t args).world = t.world := by
  unfold exit
  split <;> simp

/-- The builtin `return` leaves frames up to the function. -/
@[simp] theorem world_leaveFunction : (leaveFunction t args).world = t.world := by
  unfold leaveFunction
  split <;> simp

/-- A loop is left as often as was asked. -/
@[simp] theorem world_leaveLoops (n : Nat) (t : Turn) : (leaveLoops n t).world = t.world := by
  induction n generalizing t with
  | zero => rfl
  | succ n ih => rw [leaveLoops, ih, world_leaveThrough]

/-- The builtins `break` and `continue` leave loops. -/
@[simp] theorem world_jump (name : String) (goesOn : Bool) :
    (jump name goesOn t args).world = t.world := by
  unfold jump
  split
  · exact t.world_abort _
  · dsimp only
    split_ifs <;> simp

/-- The builtin `.` reads a script and goes on with it. -/
@[simp] theorem world_source : (source t args).world = t.world := by
  unfold source
  split
  · rfl
  · split_ifs
    · exact t.world_abort _
    · split <;> simp

/-- The builtin `trap` notes what a signal does. -/
@[simp] theorem world_trap : (trap t args).world = t.world := by
  have hall (action : Option String) (cs : List (Option Signal)) :
      (cs.foldl (fun t c => setTrap t action c) t).world = t.world := by
    refine world_foldl ?_ cs t
    intro _ _
    rfl
  unfold trap
  dsimp only
  split
  · simp
  · split <;> simp [hall]
  · split_ifs <;> split <;> simp [hall]

/-- The builtin `wait` waits for children in a frame. -/
@[simp] theorem world_wait : (wait t args).world = t.world := by
  unfold wait
  dsimp only
  split <;> simp

/-- The builtin `read` waits for a line in a frame. -/
@[simp] theorem world_read : (read t args).world = t.world := by
  unfold read
  dsimp only
  split
  · exact t.world_fail _ _
  · split <;> simp

/-- The builtin `type` writes. -/
@[simp] theorem world_typeOf (isBuiltin : String → Bool) :
    (typeOf isBuiltin t args).world = t.world := by
  unfold typeOf
  rw [world_settle]
  refine world_foldl (fun t name => ?_) args t
  split <;> simp

/-- So does `command`, when it is asked where a command is. -/
@[simp] theorem world_locate (isBuiltin : String → Bool) (name : String) :
    (locate isBuiltin t name).world = t.world := by
  unfold locate
  split <;> simp

/-- A builtin leaves the world alone: what it writes is left to its process. -/
theorem world_run {name : String} {b : Builtin} (h : find? name = some b) (t : Turn)
    (args : List String) : (b.run t args).world = t.world := by
  have hplain : ∀ e ∈ plain, ∀ (t : Turn) (args : List String),
      (e.2.run t args).world = t.world := by
    simp [plain, eval, apply_ite Turn.world]
  unfold find? at h
  split_ifs at h
  · cases h
    exact world_typeOf t args isBuiltin
  · obtain ⟨before, behind, hsplit, -⟩ := List.lookup_eq_some_iff.mp h
    exact hplain (name, b) (by simp [hsplit]) t args

end Builtin

/-! ### What starts children, opens and reads -/

namespace Turn

/-- Puts the shell back. -/
theorem quiet_commit (t : Turn) : Quiet t.world t.commit := World.quiet_change _ _ _

/-- A child takes the next number. -/
theorem quiet_fork (t : Turn) (descriptors : Descriptors) (activity : Activity) :
    Quiet t.world (t.fork descriptors activity).2.world := World.quiet_add _ _

/-- A child that has ended is forgotten. -/
theorem quiet_of_reap? {t t' : Turn} {child : Nat} {status : ExitStatus}
    (h : t.reap? child = some (status, t')) : Quiet t.world t'.world := by
  unfold reap? at h
  split at h
  · obtain ⟨e, -, heq⟩ := Option.map_eq_some_iff.mp h
    cases heq
    exact World.quiet_reap _ child
  · cases h
    exact .refl _

/-- A file that is opened for writing is emptied or kept, and takes the next number. -/
theorem quiet_of_openOutput {t t' : Turn} {path : String} {isAppending isKept : Bool} {c : Channel}
    (h : t.openOutput path isAppending isKept = .ok (c, t')) : Quiet t.world t'.world := by
  unfold openOutput at h
  split at h
  · cases h
  · cases h
    exact (World.quiet_files _ _).trans (World.quiet_openHandle _ _)

/-- A redirection opens a file, fills a pipe, or copies a channel. -/
theorem quiet_of_channelFor {t t' : Turn} {kind : RedirectKind} {text : String} {c : Option Channel}
    (h : t.channelFor kind text = .ok (c, t')) : Quiet t.world t'.world := by
  have houtput (isAppending isKept : Bool)
      (h : (t.openOutput text isAppending isKept >>= fun r => pure (some r.1, r.2)) =
        Except.ok (c, t')) : Quiet t.world t'.world := by
    cases hopen : t.openOutput text isAppending isKept with
    | error message =>
        rw [hopen] at h
        cases h
    | ok opened =>
        rw [hopen] at h
        cases h
        exact quiet_of_openOutput hopen
  unfold channelFor at h
  dsimp only at h
  split at h
  · cases h
    exact .refl _
  · split at h
    · cases h
      exact .refl _
    · split at h
      · cases h
        exact .refl _
      · split at h
        · split at h
          · cases h
          · cases h
            exact World.quiet_openHandle _ _
        · exact houtput false false h
        · exact houtput true true h
        · exact houtput false true h
        · split at h
          · cases h
            exact .refl _
          · split at h
            · cases h
            · split at h
              · cases h
                exact .refl _
              · cases h
        · cases h
          exact World.quiet_makeFilledPipe _ _

/-- The world after redirections, of which one may have failed. -/
def afterRedirect :
    Except (String × Turn) (List (Nat × Option Channel) × Turn) → World
  | .ok (_, t) => t.world
  | .error (_, t) => t.world

/-- Redirections are quiet, also if one of them fails. -/
theorem quiet_redirect (saved : List (Nat × Option Channel))
    (rs : List (Nat × RedirectKind × String)) (t : Turn) :
    Quiet t.world (afterRedirect (t.redirect saved rs)) := by
  induction rs generalizing saved t with
  | nil => exact .refl _
  | cons r rs ih =>
      obtain ⟨d, kind, text⟩ := r
      unfold redirect
      split
      · exact .of_eq (t.world_restore saved)
      · next hchannel =>
        exact (quiet_of_channelFor hchannel).trans (ih _ (Turn.setDescriptor _ d _))

section redirect

variable {t t' : Turn} {saved : List (Nat × Option Channel)}
  {rs : List (Nat × RedirectKind × String)}

/-- Redirections that all succeed are quiet. -/
theorem quiet_of_redirect_ok {saved' : List (Nat × Option Channel)}
    (h : t.redirect saved rs = .ok (saved', t')) : Quiet t.world t'.world := by
  have hafter := quiet_redirect saved rs t
  rwa [h] at hafter

/-- The way back after a failure is quiet too. -/
theorem quiet_of_redirect_error {message : String}
    (h : t.redirect saved rs = .error (message, t')) : Quiet t.world t'.world := by
  have hafter := quiet_redirect saved rs t
  rwa [h] at hafter

end redirect

/-- The world that a part of a step leads to. -/
def worldOf : Turn ⊕ World → World
  | .inl t => t.world
  | .inr w => w

/-- An expansion that needs a command starts it with a pipe, and any other goes on at once. -/
theorem quiet_expanding {α : Type} (t : Turn) (c : Command) (answers : List String)
    (e : Expand α) {f : Turn → α → Turn} (hf : ∀ t a, Quiet t.world (f t a).world) :
    Quiet t.world (t.expanding c answers e f).world := by
  unfold expanding
  split
  · next a p _ => exact hf (t.setVars p.vars) a
  · exact .of_eq (t.world_giveUp _)
  · exact (World.quiet_makePipe _).trans (World.quiet_add _ _)

/-- A program is started in a child, or in the place of the shell. -/
theorem quiet_runProgram (t : Turn) (vars : Variables) (words : List String) (inPlace : Bool) :
    Quiet t.world (worldOf (t.runProgram vars words inPlace)) := by
  unfold runProgram
  dsimp only
  split
  · exact .of_eq (by simp [worldOf])
  · exact .of_eq (by simp [worldOf])
  · split_ifs
    · exact World.quiet_change _ _ _
    · exact quiet_fork _ _ _

/-- The same, where the program has been looked up. -/
theorem quiet_of_runProgram {t : Turn} {vars : Variables} {words : List String} {inPlace : Bool}
    {r : Turn ⊕ World} (h : t.runProgram vars words inPlace = r) : Quiet t.world (worldOf r) :=
  h ▸ t.quiet_runProgram vars words inPlace

/-- The builtin `kill` sends signals. -/
theorem quiet_kill (t : Turn) (args : List String) : Quiet t.world (Builtin.kill t args) := by
  have hcommit (t' : Turn) (h : t'.world = t.world) : Quiet t.world t'.commit :=
    (World.Quiet.of_eq h).trans t'.quiet_commit
  unfold Builtin.kill
  split
  · exact hcommit _ (t.world_fail _ _)
  · dsimp only
    generalize hw : Turn.commit _ = w
    have hquiet : Quiet t.world w := by
      rw [← hw]
      refine hcommit _ ?_
      rw [world_settle]
      exact world_foldl (fun t _ => t.world_complain _) _ t
    split
    · exact hquiet.trans (World.quiet_foldl_signal _ _ _)
    · exact hquiet

/-- A command is a function, a builtin or a program. -/
theorem quiet_dispatch (t : Turn) (plan : Plan) (inPlace skipsFunctions : Bool)
    (words : List String) :
    Quiet t.world (worldOf (t.dispatch plan inPlace skipsFunctions words)) := by
  unfold dispatch
  split
  · exact .of_eq (t.world_settle 0)
  · split
    · exact .refl _
    · split_ifs
      · exact t.quiet_kill _
      · split
        · next hfind => exact .of_eq (Builtin.world_run hfind t _)
        · exact t.quiet_runProgram _ _ inPlace

/-- The builtin `command` passes functions over. -/
theorem quiet_dispatchCommand (t : Turn) (plan : Plan) (inPlace : Bool) (words : List String) :
    Quiet t.world (worldOf (t.dispatchCommand plan inPlace words)) := by
  unfold dispatchCommand
  split
  · exact .of_eq (Builtin.world_locate t _ _)
  · exact .of_eq (Builtin.world_typeOf t _ _)
  · exact t.quiet_dispatch plan inPlace true _
  · exact t.quiet_dispatch plan inPlace true _

/-- A command with words is dispatched, and one without only assigns. -/
theorem quiet_runPlan (t : Turn) (isAnswered : Bool) (plan : Plan) :
    Quiet t.world (worldOf (t.runPlan isAnswered plan)) := by
  unfold runPlan
  dsimp only
  generalize hshown : (if t.shell.settings.flags.contains 'x' = true then _ else t) = shown
  have hworld : shown.world = t.world := by
    rw [← hshown]
    split_ifs <;> simp
  rw [← hworld]
  split
  · split
    · next hfault => exact (quiet_of_redirect_error hfault).trans (.of_eq (by simp [worldOf]))
    · next hdone => exact (quiet_of_redirect_ok hdone).trans (.of_eq (by simp [worldOf]))
  · split
    · next hfault =>
        refine (quiet_of_redirect_error hfault).trans (.of_eq ?_)
        simp only [worldOf]
        split_ifs <;> simp
    · next name args _ _ saved t' hdone =>
        refine (quiet_of_redirect_ok hdone).trans ?_
        split
        · split
          · exact .refl _
          · split
            all_goals
              next hprogram =>
                have hquiet := quiet_of_runProgram hprogram
                exact hquiet
        · -- the frames that put things back are pushed first
          generalize hpushed :
            (if (plan.assigns.isEmpty || isSpecial name) = true then _ else _) = pushed
          have hsame : pushed.world = t'.world := by
            rw [← hpushed]
            split_ifs <;> rfl
          rw [← hsame]
          split
          · exact pushed.quiet_dispatchCommand plan _ args
          · exact pushed.quiet_dispatch plan _ false _

/-- The children of a pipeline, and the pipes between them. -/
theorem quiet_startPipeline (input : Channel) (cs : List Command) (t : Turn) :
    Quiet t.world (startPipeline input cs t).2.world := by
  induction cs generalizing input t with
  | nil => exact .refl _
  | cons c cs ih =>
      cases cs with
      | nil => exact t.quiet_fork _ _
      | cons c' cs =>
          refine (World.quiet_makePipe t.world).trans (.trans ?_ (ih _ _))
          exact World.quiet_add _ _

/-- A command whose words were expanded runs. -/
theorem quiet_runExpanded (t : Turn) (c : Command) (answers : List String) :
    Quiet t.world (worldOf (t.runExpanded c answers)) := by
  unfold runExpanded
  dsimp only
  split
  · split
    · refine .trans ?_ (quiet_runPlan _ _ _)
      exact .refl _
    · refine .trans ?_ (quiet_expanding _ _ _ _ fun _ _ => .refl _)
      exact .refl _
  · refine t.quiet_expanding _ _ _ fun t rs => ?_
    split
    · next hfault => exact (quiet_of_redirect_error hfault).trans (.of_eq (by simp))
    · next hdone => exact (quiet_of_redirect_ok hdone).trans (.of_eq (by simp))
  · exact t.quiet_expanding _ _ _ fun _ _ => .refl _
  · exact t.quiet_expanding _ _ _ fun _ _ => .refl _
  · exact .refl _

/-- Every kind of command starts quietly. -/
theorem quiet_run (t : Turn) (c : Command) : Quiet t.world (worldOf (t.run c)) := by
  cases c with
  | simple | redirected | forEach | select =>
      unfold run
      exact t.quiet_runExpanded _ _
  | subshell c =>
      unfold run
      dsimp only
      split_ifs
      · exact .refl _
      · exact t.quiet_fork _ _
  | background c => exact t.quiet_fork _ _
  | pipeline cs => exact quiet_startPipeline _ cs t
  | _ => exact .refl _

/-- Children that were waited for are forgotten. -/
theorem quiet_reapAll (t : Turn) (children : List Nat) :
    Quiet t.world (t.reapAll children).world :=
  World.quiet_foldl_reap children t.world

/-- A line is taken off a pipe or a file, octet by octet. -/
theorem quiet_takeLine (input : Channel) (isRaw : Bool) (fuel : Nat) (taken : List (Char × Mark))
    (w : World) : Quiet w (takeLine input isRaw fuel taken w).2.2 := by
  induction fuel generalizing taken w with
  | zero => exact .refl w
  | succ fuel ih =>
      unfold takeLine
      split
      · exact .refl w
      · exact .refl w
      · next hread =>
        have hquiet := World.quiet_of_read hread
        dsimp only
        split
        · exact hquiet.trans (ih _ _)
        · split_ifs
          · exact hquiet
          · exact hquiet.trans (ih _ _)
          · exact hquiet.trans (ih _ _)

/-- What was read goes to variables. -/
theorem quiet_of_readLine {t t' : Turn} {names : List String} {isRaw : Bool}
    {taken : List (Char × Mark)} (h : t.readLine names isRaw taken = some t') :
    Quiet t.world t'.world := by
  have hquiet := quiet_takeLine ((t.process.channel? 0).getD .null) isRaw 65536 taken t.world
  unfold readLine at h
  dsimp only at h
  split at h
  · split_ifs at h
    cases h
    exact hquiet
  · cases h
    exact hquiet.trans (.of_eq (by simp))

/-- A frame that waits for a child goes on when the child is forgotten. -/
theorem quiet_of_map_reap? {t : Turn} {child : Nat} {f : ExitStatus × Turn → Turn ⊕ World}
    {r : Turn ⊕ World} (hf : ∀ status t', Quiet t'.world (worldOf (f (status, t'))))
    (h : (t.reap? child).map f = some r) : Quiet t.world (worldOf r) := by
  obtain ⟨⟨status, t'⟩, hreap, rfl⟩ := Option.map_eq_some_iff.mp h
  exact (quiet_of_reap? hreap).trans (hf status t')

/-- What a frame says is done quietly. -/
theorem quiet_of_runFrame {t : Turn} {f : Frame} {r : Turn ⊕ World} (h : t.runFrame f = some r) :
    Quiet t.world (worldOf r) := by
  cases f with
  | run c =>
      cases h
      exact t.quiet_run c
  | expand c answers =>
      cases h
      exact t.quiet_runExpanded c answers
  | collect c answers pipe child taken =>
      unfold runFrame at h
      dsimp only at h
      split at h
      · next hread =>
        cases h
        exact World.quiet_of_read hread
      · cases h
      · exact quiet_of_map_reap? (fun status t' => .of_eq (by simp [worldOf])) h
  | await child => exact quiet_of_map_reap? (fun status t' => .of_eq (by simp [worldOf])) h
  | awaitAll children last =>
      unfold runFrame at h
      dsimp only at h
      split_ifs at h
      refine quiet_of_map_reap? (fun status t' => ?_) h
      exact (t'.quiet_reapAll children).trans (.of_eq (by simp [worldOf]))
  | awaitJobs children =>
      unfold runFrame at h
      dsimp only at h
      split_ifs at h
      cases h
      exact t.quiet_reapAll children
  | awaitEach jobs =>
      cases jobs with
      | nil =>
          cases h
          exact .refl _
      | cons job more =>
          refine quiet_of_map_reap? (fun status t' => .of_eq ?_) h
          simp only [worldOf]
          split_ifs <;> simp
  | readLine names isRaw taken =>
      obtain ⟨t', hread, rfl⟩ := Option.map_eq_some_iff.mp h
      exact quiet_of_readLine hread
  | script lines fault =>
      cases lines with
      | nil =>
          cases fault with
          | none =>
              cases h
              exact .refl _
          | some fault =>
              cases h
              refine .trans ?_ (.of_eq (world_giveUp _ _))
              exact .refl _
      | cons line lines =>
          cases lines <;> cases fault <;> cases h <;> exact .refl _
  | andThen c | orElse c =>
      cases h
      exact .of_eq (by simp only [worldOf]; split_ifs <;> rfl)
  | loopTest onSuccess test body status =>
      unfold runFrame at h
      dsimp only at h
      split_ifs at h <;> cases h <;> exact .refl _
  | each name values body =>
      cases values with
      | nil =>
          cases h
          exact .refl _
      | cons value values =>
          unfold runFrame at h
          dsimp only at h
          split_ifs at h
          · cases h
            exact .of_eq (t.world_giveUp _)
          · cases h
            exact .refl _
  | restore saved =>
      cases h
      exact .of_eq (t.world_restore saved)
  | negate | choose | loopBody | restoreVars | leave | leaveScript | answer =>
      cases h
      exact .refl _

/-- A shell that is done runs its last trap or ends. -/
theorem quiet_finish (t : Turn) : Quiet t.world (worldOf t.finish) := by
  unfold finish
  split
  · exact .refl _
  · exact World.quiet_finish _ _ _

/-- The command of a trap is run in the shell. -/
@[simp] theorem world_handle (t : Turn) (s : Signal) (rest : List Signal) :
    (t.handle s rest).world = t.world := by
  unfold handle
  dsimp only
  split
  all_goals
    split <;> rfl

/-- **A step of a shell captures nothing.** -/
theorem quiet_of_step {t : Turn} {w : World} (h : t.step = some w) : Quiet t.world w := by
  have hdone (r : Turn ⊕ World) : Quiet t.world (worldOf r) →
      Quiet t.world (match r with
        | .inl t => t.commit
        | .inr w => w) := by
    intro hr
    cases r with
    | inl t' => exact hr.trans t'.quiet_commit
    | inr w => exact hr
  have hadvance (h : step.advance t = some w) : Quiet t.world w := by
    unfold step.advance at h
    dsimp only at h
    split at h
    · cases h
      exact hdone _ (quiet_finish t)
    · obtain ⟨r, hrun, rfl⟩ := Option.map_eq_some_iff.mp h
      have hquiet := quiet_of_runFrame hrun
      exact hdone r hquiet
  unfold step at h
  dsimp only at h
  split at h
  · split_ifs at h
    · exact hadvance h
    · cases h
      refine .trans (.of_eq ?_) (quiet_commit _)
      exact world_handle t _ _
  · exact hadvance h

end Turn

end Shell

end Turnstile
