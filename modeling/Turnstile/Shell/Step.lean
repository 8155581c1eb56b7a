import Turnstile.Shell.Builtin

/-!
# Steps of a shell

`Turn.step` takes the topmost frame of a shell and does what it says; it gives nothing if the shell
has to wait. A step runs at most one command, and what a command needs first (the output of another
one, the end of a child) becomes a frame of its own. So shells that run side by side advance in
turn.
-/

namespace Turnstile.Shell

/-- What a simple command comes to once its words are expanded. -/
structure Plan where
  words : List String
  assigns : List (String × String)
  redirects : List (Nat × RedirectKind × String)
  /-- The variables before the assignments. -/
  before : Variables

namespace Plan

/-- The redirections of a command with their words expanded. -/
def redirectsOf (s : Settings) (rs : List Redirect) :
    Expand (List (Nat × RedirectKind × String)) :=
  rs.mapM fun (.mk d kind word) => return (d, kind, ← Expansion.text s word)

/-- Expands the words, the redirections and then the assignments of a command. -/
def ofSimple (s : Settings) (files : FileTree) (cwd : Place) (assigns : List (String × Word))
    (words : List Word) (redirects : List Redirect) : Expand Plan := do
  let words ← Expansion.words s files cwd words
  let redirects ← redirectsOf s redirects
  let before := (← get).vars
  let assigns ← assigns.mapM fun (name, w) => do
    let value ← Expansion.text s w
    if (← get).vars.isReadOnly name then throw (.fault (name ++ ": is read only"))
    modify fun p => { p with vars := p.vars.set name value }
    return (name, value)
  return { words, assigns, redirects, before }

end Plan

namespace Turn

/-! ## Expansion -/

/-- Expands what a command needs and goes on with the result. If the output of another command is
needed, that one is started. -/
def expanding {α : Type} (t : Turn) (c : Command) (answers : List String) (e : Expand α)
    (f : Turn → α → Turn) : Turn :=
  match e.run { vars := t.shell.vars, answers } with
  | .ok (a, p) => f (t.setVars p.vars) a
  | .error (.fault message) => t.giveUp message
  | .error (.needs body vars) =>
    let (pipe, world) := t.world.makePipe
    let t := { t with world }
    let inner := { t with shell := { t.shell with vars } }
    let (child, t) := t.fork (t.process.descriptors.set 1 (some (.pipeEnd pipe false)))
      (inner.subshell body)
    t.push (.collect c answers pipe child [])

/-! ## Simple commands -/

/-- How a command is found that is no builtin and no function. -/
inductive Lookup where
  | found
  | missing
  | notExecutable

/-- True if programs are looked for where they are. -/
def searchesPrograms (vars : Variables) : Bool :=
  match vars.value? "PATH" with
  | none => true
  | some path =>
    let places := (path.toList.splitOn ':').map String.ofList
    places.contains "/bin" || places.contains "/usr/bin"

/-- Finds the program of a command. -/
def lookUp (t : Turn) (vars : Variables) (name : String) : Lookup :=
  if Catalog.isPath name then
    if (Catalog.program? name).isSome then .found
    else if (t.world.files.find t.process.cwd (Call.path name)).isOk then .notExecutable
    else .missing
  else if searchesPrograms vars && (Catalog.program? name).isSome then .found
  else .missing

/-- Runs a program: in the place of the shell if nothing is left to do, else as a child. -/
def runProgram (t : Turn) (vars : Variables) (words : List String) (inPlace : Bool) : Turn ⊕ World :=
  let name := words.headD ""
  match t.lookUp vars name with
  | .missing =>
    .inl ((t.report (name ++ (if name.isEmpty then ": Permission denied" else ": not found"))).settle
      127)
  | .notExecutable => .inl ((t.report (name ++ ": Permission denied")).settle 126)
  | .found =>
    let activity := Activity.launch words vars.environment
    if inPlace then
      .inr (t.world.change t.process.pid fun _ => { t.process with activity })
    else
      let (child, t) := t.fork t.process.descriptors activity
      .inl (t.push (.await child))

/-- Marks the assigned variables for the environment of one command. -/
def exported (vars : Variables) (assigns : List (String × String)) : Variables :=
  assigns.foldl (fun vs (name, _) => vs.markExported name) vars

/-- Runs a function. -/
def callFunction (t : Turn) (body : Command) (args : List String) : Turn :=
  let params := t.shell.settings.params
  ((t.push (.leave params)).setParams args).push (.run body)

/-- Runs a command by its name. The variables hold the assignments in front of it. -/
def dispatch (t : Turn) (plan : Plan) (inPlace skipsFunctions : Bool) :
    List String → Turn ⊕ World
  | [] => .inl (t.settle 0)
  | name :: args =>
    match if skipsFunctions then none else t.shell.functions.lookup name with
    | some body => .inl (t.callFunction body args)
    | none =>
      if name == "kill" then .inr (Builtin.kill t args)
      else match Builtin.find? name with
        | some b => .inl (b.run t args)
        | none => t.runProgram (exported t.shell.vars plan.assigns) (name :: args) inPlace

/-- Runs a command with `command` in front. -/
def dispatchCommand (t : Turn) (plan : Plan) (inPlace : Bool) : List String → Turn ⊕ World
  | "-v" :: name :: _ => .inl (Builtin.locate Builtin.isBuiltin t name)
  | "-V" :: name :: _ => .inl (Builtin.typeOf Builtin.isBuiltin t [name])
  | "-p" :: words | words => t.dispatch plan inPlace true words

/-- True of names whose failure ends the shell. -/
def isSpecial (name : String) : Bool :=
  name == "exec" || ((Builtin.find? name).map (·.isSpecial)).getD false

/-- Carries out a simple command. -/
def runPlan (t : Turn) (isAnswered : Bool) (plan : Plan) : Turn ⊕ World :=
  let shown := plan.assigns.map (fun (n, v) => n ++ "=" ++ v) ++ plan.words
  let t := if t.shell.settings.flags.contains 'x' then
      t.say 2 ("+ " ++ String.intercalate " " shown ++ "\n")
    else t
  match plan.words with
  | [] =>
    match t.redirect [] plan.redirects with
    | .error (message, t) => .inl ((t.report message).settle 2)
    | .ok (saved, t) =>
      let t := t.restore saved
      .inl (t.settle (if isAnswered then t.shell.status else 0))
  | name :: args =>
    let inPlace := t.shell.isLast
    match t.redirect [] plan.redirects with
    | .error (message, t) =>
      let t := t.report message
      .inl (if isSpecial name then t.exit 2 else t.settle 2)
    | .ok (saved, t) =>
      if name == "exec" then
        if args.isEmpty then .inl (t.setStatus 0)
        else
          let t := { t with shell := { t.shell with heading := some "exec" } }
          match t.runProgram (exported t.shell.vars plan.assigns) args true with
          | .inl t => .inl (t.exit t.shell.status)
          | .inr w => .inr w
      else
        let t := if saved.isEmpty then t else t.push (.restore saved)
        let t := if plan.assigns.isEmpty || isSpecial name then t
          else t.push (.restoreVars (plan.assigns.map fun a => (a.1, plan.before.lookup a.1)))
        if name == "command" then t.dispatchCommand plan inPlace args
        else t.dispatch plan inPlace false (name :: args)

/-! ## Compound commands -/

/-- Starts the commands of a pipeline from the first on, given what the next one reads. -/
def startPipeline (input : Channel) : List Command → Turn → List Nat × Turn
  | [], t => ([], t)
  | [last], t =>
    let (child, t) := t.fork (t.process.descriptors.set 0 (some input)) (t.subshell last)
    ([child], t)
  | c :: rest, t =>
    let (pipe, world) := t.world.makePipe
    let t := { t with world }
    let descriptors := (t.process.descriptors.set 0 (some input)).set 1 (some (.pipeEnd pipe false))
    let (child, t) := t.fork descriptors (t.subshell c)
    let (children, t) := startPipeline (.pipeEnd pipe true) rest t
    (child :: children, t)

/-- The body of the first arm of which a pattern stands for a text. -/
def selectArm (s : Settings) (text : List Char) : List (List Word × Command) → Expand Command
  | [] => return .nothing
  | (patterns, body) :: rest => do
    let matched ← patterns.anyM fun w => do
      let p := Pattern.ofMarked (Expansion.markedOf (← Expansion.ofWord s w))
      return Pattern.isMatch p text
    if matched then return body else selectArm s text rest

/-- Runs a command whose words are to be expanded first. -/
def runExpanded (t : Turn) (c : Command) (answers : List String) : Turn ⊕ World :=
  let s := t.shell.settings
  match c with
  | .simple line assigns words redirects =>
    let t := { t with shell := { t.shell with line } }
    let e := Plan.ofSimple s t.world.files t.process.cwd assigns words redirects
    -- what is expanded is carried out at once, so the plan passes through
    match e.run { vars := t.shell.vars, answers } with
    | .ok (plan, p) => (t.setVars p.vars).runPlan (!answers.isEmpty) plan
    | .error _ => .inl (t.expanding c answers e fun t _ => t)
  | .redirected body redirects =>
    .inl <| t.expanding c answers (Plan.redirectsOf s redirects) fun t rs =>
      match t.redirect [] rs with
      | .error (message, t) => (t.report message).settle 2
      | .ok (saved, t) => (t.push (.restore saved)).push (.run body)
  | .forEach name words body =>
    let e := match words with
      | some ws => Expansion.words s t.world.files t.process.cwd ws
      | none => return s.params
    .inl <| t.expanding c answers e fun t values =>
      (t.setStatus 0).push (.each name values body)
  | .select word arms =>
    let e := do
      let text ← Expansion.text s word
      selectArm s text.toList arms
    .inl <| t.expanding c answers e fun t body => (t.setStatus 0).push (.run body)
  | _ => .inl t

/-- Runs a command. -/
def run (t : Turn) (c : Command) : Turn ⊕ World :=
  match c with
  | .simple .. | .redirected .. | .forEach .. | .select .. => t.runExpanded c []
  | .nothing => .inl (t.setStatus 0)
  | .negated c => .inl ((t.push .negate).push (.run c))
  | .both a b => .inl ((t.push (.andThen b)).push (.run a))
  | .either a b => .inl ((t.push (.orElse b)).push (.run a))
  | .sequence a b => .inl ((t.push (.run b)).push (.run a))
  | .conditional test yes no => .inl ((t.push (.choose yes no)).push (.run test))
  | .loop onSuccess test body =>
    .inl ((t.push (.loopTest onSuccess test body 0)).push (.run test))
  | .define name body =>
    let functions := (name, body) :: t.shell.functions.filter (·.1 != name)
    .inl ({ t with shell := { t.shell with functions } }.setStatus 0)
  | .subshell c =>
    if t.shell.isLast then .inl (t.push (.run c))
    else
      let (child, t) := t.fork t.process.descriptors (t.subshell c)
      .inl (t.push (.await child))
  | .background c =>
    let (child, t) := t.fork (t.process.descriptors.set 0 (some .null)) (t.subshell c)
    let settings := { t.shell.settings with lastJob := some child }
    .inl ({ t with shell := { t.shell with settings } }.setStatus 0)
  | .pipeline cs =>
    let (children, t) := startPipeline ((t.process.channel? 0).getD .null) cs t
    .inl (t.push (.awaitAll children (children.getLastD 0)))

/-! ## Frames -/

/-- The output of a command without the newlines at its end. -/
def answerOf (taken : List Bytes) : String :=
  let bytes := taken.reverse.flatten
  ofBytes ((bytes.reverse.dropWhile (· = 10)).reverse.filter (· ≠ 0))

/-- Forgets children that ended. -/
def reapAll (t : Turn) (children : List Nat) : Turn :=
  { t with world := children.foldl World.reap t.world }

/-- Takes octets of a line up to its newline: whether it is complete, and what was taken, the latest
first. A backslash takes the meaning from the next character, or joins two lines. The fuel bounds
the number of octets that are taken at once. -/
def takeLine (input : Channel) (isRaw : Bool) :
    Nat → List (Char × Mark) → World → Option Bool × List (Char × Mark) × World
  | 0, taken, w => (none, taken, w)
  | fuel + 1, taken, w =>
    match w.read input 1 with
    | .nothing => (none, taken, w)
    | .finish => (some false, taken, w)
    | .data bs w =>
      let c := Char.ofNat ((bs.headD 0).toNat)
      match taken with
      | ('\\', .literal) :: before =>
        takeLine input isRaw fuel (if c = '\n' then before else (c, .quoted) :: before) w
      | _ =>
        if c = '\n' then (some true, taken, w)
        else if c = '\\' && !isRaw then takeLine input isRaw fuel ((c, .literal) :: taken) w
        else takeLine input isRaw fuel ((c, .expanded) :: taken) w

/-- Goes on reading a line into variables. -/
def readLine (t : Turn) (names : List String) (isRaw : Bool) (taken : List (Char × Mark)) :
    Option Turn :=
  let input := (t.process.channel? 0).getD .null
  let (result, taken', world) := takeLine input isRaw 65536 taken t.world
  match result with
  | none =>
    if taken'.length = taken.length then none
    else some ({ t with world }.push (.readLine names isRaw taken'))
  | some isComplete =>
    let ifs := ((t.shell.vars.value? "IFS").getD " \t\n").toList
    let values := Builtin.fieldsOf ifs names taken'.reverse
    let vars := values.foldl (fun vs (name, v) => vs.set name v) t.shell.vars
    some (({ t with world }.setVars vars).settle (if isComplete then 0 else 1))

/-- Does what a frame says, which is taken off already. -/
def runFrame (t : Turn) (f : Frame) : Option (Turn ⊕ World) :=
  match f with
  | .run c => some (t.run c)
  | .script [] none => some (.inl t)
  | .script [] (some (line, fault)) =>
    some (.inl ({ t with shell := { t.shell with line } }.giveUp fault.message))
  | .script [c] none => some (.inl (t.push (.run c)))
  | .script (c :: rest) fault => some (.inl ((t.push (.script rest fault)).push (.run c)))
  | .expand c answers => some (t.runExpanded c answers)
  | .collect c answers pipe child taken =>
    match t.world.read (.pipeEnd pipe true) Pipe.capacity with
    | .data bs world =>
      some (.inl ({ t with world }.push (.collect c answers pipe child (bs :: taken))))
    | .nothing => none
    | .finish =>
      (t.reap? child).map fun (status, t) =>
        .inl (((t.mourn status).setStatus status.shown).push
          (.expand c (answers ++ [answerOf taken])))
  | .await child =>
    (t.reap? child).map fun (status, t) => .inl ((t.mourn status).settle status.shown)
  | .awaitAll children last =>
    let isDone := fun (pid : Nat) => ((t.world.process? pid).map (·.isAlive)) != some true
    if !children.all isDone then none
    else (t.reap? last).map fun (status, t) =>
      .inl (((t.reapAll children).mourn status).settle status.shown)
  | .awaitJobs children =>
    let isDone := fun (pid : Nat) => ((t.world.process? pid).map (·.isAlive)) != some true
    if !children.all isDone then none else some (.inl ((t.reapAll children).setStatus 0))
  | .awaitEach [] => some (.inl t)
  | .awaitEach (job :: more) =>
    (t.reap? job).map fun (status, t') =>
      let t' := if t.shell.seen.contains job then t' else t'.mourn status
      .inl (if more.isEmpty then t'.settle status.shown else t'.push (.awaitEach more))
  | .negate => some (.inl (t.setStatus (if t.shell.status = 0 then 1 else 0)))
  | .andThen c => some (.inl (if t.shell.status = 0 then t.push (.run c) else t))
  | .orElse c => some (.inl (if t.shell.status = 0 then t else t.push (.run c)))
  | .choose yes no => some (.inl (t.push (.run (if t.shell.status = 0 then yes else no))))
  | .loopTest onSuccess test body status =>
    if (t.shell.status == 0) == onSuccess then
      some (.inl ((t.push (.loopBody onSuccess test body)).push (.run body)))
    else some (.inl (t.setStatus status))
  | .loopBody onSuccess test body =>
    some (.inl ((t.push (.loopTest onSuccess test body t.shell.status)).push (.run test)))
  | .each _ [] _ => some (.inl t)
  | .each name (v :: rest) body =>
    if t.shell.vars.isReadOnly name then some (.inl (t.giveUp (name ++ ": is read only")))
    else some (.inl (((t.setVars (t.shell.vars.set name v)).push (.each name rest body)).push
      (.run body)))
  | .restore saved => some (.inl (t.restore saved))
  | .restoreVars saved => some (.inl (t.restoreVars saved))
  | .leave _ | .leaveScript .. => some (.inl (t.undo f))
  | .readLine names isRaw taken => (t.readLine names isRaw taken).map .inl
  | .answer n => some (.inl (t.setStatus n))

/-- What a shell does that has no frames left: what is to be done at the end, and then it ends. -/
def finish (t : Turn) : Turn ⊕ World :=
  match t.shell.traps.lookup none with
  | some action =>
    let traps := t.shell.traps.filter (·.1 != none)
    .inl { t with shell :=
      { t.shell with traps, finalStatus := some t.shell.status }.pushScript action }
  | none =>
    let status := t.shell.finalStatus.getD t.shell.status
    .inr (t.world.finish t.process.pid (.exited (status % 256)))

/-- True of frames that a signal does not interrupt. -/
def isPatient : Frame → Bool
  | .await _ | .awaitAll .. | .collect .. => true
  | _ => false

/-- Starts what is to be done on a signal that came. -/
def handle (t : Turn) (s : Signal) (rest : List Signal) : Turn :=
  let t := { t with process := { t.process with raised := rest } }
  let t := match t.shell.frames with
    | .awaitJobs _ :: frames | .awaitEach _ :: frames =>
      -- the wait is over
      { t with shell := { t.shell with frames } }.setStatus (128 + s.number)
    | _ => t
  match t.shell.traps.lookup (some s) with
  | some action =>
    let t := t.push (.answer t.shell.status)
    { t with shell := t.shell.pushScript action }
  | none => t

/-- One step of a shell; none if it has to wait. -/
def step (t : Turn) : Option World :=
  let isPatientNow := (t.shell.frames.head?.map isPatient).getD false
  match t.process.raised with
  | s :: rest =>
    if isPatientNow then advance t else some (t.handle s rest).commit
  | [] => advance t
where
  advance (t : Turn) : Option World :=
    let done := fun (r : Turn ⊕ World) => match r with
      | .inl t => t.commit
      | .inr w => w
    match t.shell.frames with
    | [] => some (done t.finish)
    | f :: frames =>
      ({ t with shell := { t.shell with frames } }.runFrame f).map done

end Turn

end Turnstile.Shell
