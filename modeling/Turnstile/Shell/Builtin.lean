import Turnstile.Shell.Turn

/-!
# Builtin commands

The commands that the shell carries out itself. `Builtin.find?` finds one by its name; the special
ones end the shell when they fail, and assignments in front of them last.

A builtin turns a `Turn` into another. What takes time is left to frames that it pushes: reading a
line, waiting for children, and running commands.
-/

namespace Turnstile.Shell

/-- A builtin command. -/
structure Builtin where
  isSpecial : Bool
  run : Turn → List String → Turn

namespace Builtin

/-! ## Output and conditions -/

def printf (t : Turn) (args : List String) : Turn :=
  match if args.head? = some "--" then args.drop 1 else args with
  | [] => t.fail "printf: usage: printf format [arg ...]" 2
  | format :: args =>
    let r := Format.printf format args
    let t := r.messages.foldl (fun t m => t.complain ("printf: " ++ m)) t
    (t.say 1 r.out).settle r.status

def test (name : String) (t : Turn) (args : List String) : Turn :=
  match Condition.evaluate t.scene args with
  | .ok holds => t.settle (if holds then 0 else 1)
  | .error f => t.fail (name ++ ": " ++ f.message) 2

def bracket (t : Turn) (args : List String) : Turn :=
  if args.getLast? = some "]" then test "[" t args.dropLast else t.fail "[: missing ]" 2

/-! ## Directories -/

def pwd (t : Turn) : Turn :=
  (t.say 1 (((t.shell.vars.value? "PWD").getD "/") ++ "\n")).settle 0

/-- Changes the working directory. -/
def cd (t : Turn) (args : List String) : Turn :=
  let args := args.filter fun a => a != "-L" && a != "-P" && a != "--"
  let vars := t.shell.vars
  let (target, isShown) := match args with
    | [] => (vars.value? "HOME", false)
    | "-" :: _ => (vars.value? "OLDPWD", true)
    | d :: _ => (some d, false)
  match target with
  | none => t.settle 0
  | some path =>
    match t.world.files.find t.process.cwd (Call.path (if path.isEmpty then "." else path)) with
    | .ok (place, .directory) =>
      let shown := octets (FileTree.pathOf place)
      let vars := (vars.set "OLDPWD" ((vars.value? "PWD").getD "")).set "PWD" shown
      let t := { t.setVars vars with process := { t.process with cwd := place } }
      (if isShown then t.say 1 (shown ++ "\n") else t).settle 0
    | _ => t.fail ("cd: can't cd to " ++ path) 2

/-! ## Variables -/

/-- A name and the value behind an equals sign, if there is one. -/
def splitBinding (s : String) : String × Option String :=
  let name := s.toList.takeWhile (· ≠ '=')
  (String.ofList name,
    if name.length < s.length then some (String.ofList (s.toList.drop (name.length + 1))) else none)

/-- Goes through arguments that are names or bindings, and changes their variables. -/
def declare (command : String) (f : Variable → Variable) : Turn → List String → Turn
  | t, [] => t.setStatus 0
  | t, a :: rest =>
    let (name, value) := splitBinding a
    if !isName name then t.abort (command ++ ": " ++ name ++ ": bad variable name")
    else if value.isSome && t.shell.vars.isReadOnly name then
      t.abort (command ++ ": " ++ name ++ ": is read only")
    else
      let vars := t.shell.vars.change name fun v =>
        f (match value with
          | some s => { v with value := some s }
          | none => v)
      declare command f (t.setVars vars) rest

/-- A text in single quotes. -/
def singleQuoted (s : String) : String :=
  "'" ++ String.intercalate "'\"'\"'" ((s.toList.splitOn '\'').map String.ofList) ++ "'"

/-- The lines that show variables. -/
def showVars (start : String) (vars : Variables) : String :=
  let sorted := vars.mergeSort fun a b => a.1 ≤ b.1
  String.join (sorted.map fun (name, v) =>
    start ++ name ++ (match v.value with
      | some s => "=" ++ singleQuoted s
      | none => "") ++ "\n")

def exportVars (t : Turn) (args : List String) : Turn :=
  match args.filter (· != "-p") with
  | [] => (t.say 1 (showVars "export " (t.shell.vars.filter (·.2.isExported)))).setStatus 0
  | args => declare "export" (fun v => { v with isExported := true }) t args

def readOnly (t : Turn) (args : List String) : Turn :=
  match args.filter (· != "-p") with
  | [] => (t.say 1 (showVars "readonly " (t.shell.vars.filter (·.2.isReadOnly)))).setStatus 0
  | args => declare "readonly" (fun v => { v with isReadOnly := true }) t args

def unset (t : Turn) (args : List String) : Turn :=
  match args with
  | "-f" :: names =>
    { t with shell := { t.shell with
        functions := t.shell.functions.filter fun f => !names.contains f.1 } }.setStatus 0
  | args =>
    let names := args.filter (· != "-v")
    match names.find? (t.shell.vars.isReadOnly ·) with
    | some name => t.abort ("unset: " ++ name ++ ": is read only")
    | none => (t.setVars (names.foldl Variables.unset t.shell.vars)).setStatus 0

/-- Makes variables local to the function that runs. -/
def makeLocal (t : Turn) (args : List String) : Turn :=
  let isLeave := fun (f : Frame) => match f with
    | .leave _ => true
    | _ => false
  let before := t.shell.frames.takeWhile (!isLeave ·)
  if before.length = t.shell.frames.length then t.abort "local: not in a function"
  else
    let saved := args.map fun a =>
      let name := (splitBinding a).1
      (name, t.shell.vars.lookup name)
    let frames := before ++ .restoreVars saved :: t.shell.frames.drop before.length
    declare "local" id { t with shell := { t.shell with frames } } args

/-! ## Parameters and options -/

def shift (t : Turn) (args : List String) : Turn :=
  let params := t.shell.settings.params
  match args.head?.map (·.toNat?) with
  | some none => t.abort ("shift: Illegal number: " ++ args.headD "")
  | n =>
    let n := (n.join).getD 1
    if params.length < n then t.abort "shift: can't shift that many"
    else (t.setParams (params.drop n)).setStatus 0

/-- Options by their long names. -/
def longOptions : List (String × Char) :=
  [("errexit", 'e'), ("noglob", 'f'), ("nounset", 'u'), ("xtrace", 'x'), ("allexport", 'a'),
    ("noclobber", 'C'), ("noexec", 'n'), ("verbose", 'v'), ("monitor", 'm')]

/-- Sets options and positional parameters. -/
def setArguments : List String → Turn → Turn
  | [], t => t.setStatus 0
  | "--" :: params, t => (t.setParams params).setStatus 0
  | "-o" :: name :: rest, t => setLong true name rest t
  | "+o" :: name :: rest, t => setLong false name rest t
  | a :: rest, t =>
    match a.toList with
    | '-' :: letters => setArguments rest (change true letters t)
    | '+' :: letters => setArguments rest (change false letters t)
    | _ => (t.setParams (a :: rest)).setStatus 0
where
  change (isOn : Bool) (letters : List Char) (t : Turn) : Turn :=
    { t with shell := letters.foldl (fun s l => s.setOption l isOn) t.shell }
  setLong (isOn : Bool) (name : String) (rest : List String) (t : Turn) : Turn :=
    match longOptions.lookup name with
    | some letter => setArguments rest (change isOn [letter] t)
    | none => t.abort ("set: Illegal option " ++ (if isOn then "-" else "+") ++ "o " ++ name)

def set (t : Turn) : List String → Turn
  | [] => (t.say 1 (showVars "" (t.shell.vars.filter (·.2.value.isSome)))).setStatus 0
  | args => setArguments args t

/-! ## The flow of control -/

/-- The number that an argument writes, if it is one. -/
def count? (args : List String) (default : Nat) : Except String Nat :=
  match args with
  | [] => .ok default
  | a :: _ =>
    match a.toNat? with
    | some n => .ok n
    | none => .error a

def exit (t : Turn) (args : List String) : Turn :=
  match count? args (t.shell.finalStatus.getD t.shell.status) with
  | .ok n => t.exit (n % 256)
  | .error a => t.abort ("exit: Illegal number: " ++ a)

/-- Ends the function or the script from a file that runs, or, without one, the shell. -/
def leaveFunction (t : Turn) (args : List String) : Turn :=
  match count? args t.shell.status with
  | .ok n =>
    (Turn.leaveThrough (·.isReturn) t).setStatus (n % 256)
  | .error a => t.abort ("return: Illegal number: " ++ a)

/-- The number of loops that the shell is in, not counting those outside of a function. -/
def loopDepth : List Frame → Nat
  | [] => 0
  | .leave _ :: _ => 0
  | f :: rest => (if f.isLoop then 1 else 0) + loopDepth rest

/-- Leaves a number of loops. -/
def leaveLoops : Nat → Turn → Turn
  | 0, t => t
  | n + 1, t => leaveLoops n (Turn.leaveThrough (·.isLoop) t)

/-- Leaves loops, or goes on with the next round of the last of them. -/
def jump (name : String) (goesOn : Bool) (t : Turn) (args : List String) : Turn :=
  match count? args 1 with
  | .error a => t.abort (name ++ ": Illegal number: " ++ a)
  | .ok n =>
    let depth := min n (loopDepth t.shell.frames)
    let t := t.setStatus 0
    if depth = 0 then t
    else if goesOn then
      let t := leaveLoops (depth - 1) t
      Turn.leaveUntil (·.isLoop) t.shell.frames t
    else leaveLoops depth t

/-- Runs its arguments as a script. -/
def eval (t : Turn) (args : List String) : Turn :=
  { t with shell := t.shell.pushInner false "eval" (String.intercalate " " args) }

/-- Runs a file as a script. -/
def source (t : Turn) : List String → Turn
  | [] => t.setStatus 0
  | path :: _ =>
    if !Catalog.isPath path then t.abort (".: " ++ path ++ ": not found")
    else match t.world.files.read t.process.cwd (Call.path path) with
      | .ok data => { t with shell := t.shell.pushInner true path (ofBytes data) }
      | .error e => t.abort (".: cannot open " ++ path ++ ": " ++ Turn.reasonFor false e)

/-! ## Signals and children -/

/-- The signal of a name or a number; zero stands for the end of the shell. -/
def condition? (s : String) : Option (Option Signal) :=
  match s.toNat? with
  | some 0 => some none
  | some n => (Signal.ofNumber? n).map some
  | none => if s.toUpper == "EXIT" then some none else (Signal.ofName? s.toUpper).map some

/-- Says what is done on a signal or at the end: a command, nothing, or what is usual. -/
def setTrap (t : Turn) (action : Option String) (c : Option Signal) : Turn :=
  let others := t.shell.traps.filter (·.1 != c)
  let ignored := t.process.ignored.filter (some · != c)
  let traps := match action with
    | some a => if a.isEmpty then others else others ++ [(c, a)]
    | none => others
  { t with
    shell := { t.shell with traps }
    process := { t.process with
      ignored := if action = some "" then c.toList ++ ignored else ignored } }

def trap (t : Turn) (args : List String) : Turn :=
  let args := if args.head? = some "--" then args.drop 1 else args
  let go := fun (action : Option String) (conditions : List String) =>
    match conditions.mapM condition? with
    | some cs => (cs.foldl (fun t c => setTrap t action c) t).settle 0
    | none =>
      let bad := (conditions.find? fun c => (condition? c).isNone).getD ""
      (t.say 2 ("trap: " ++ bad ++ ": bad trap\n")).settle 1
  match args with
  | [] =>
    let conditions := (none, "EXIT") :: Signal.all.map fun (s, _, name) => (some s, name)
    let line := fun (c : Option Signal) (name : String) =>
      let action := (t.shell.traps.lookup c).or
        (if c.any t.process.ignored.contains then some "" else none)
      action.map fun a => "trap -- " ++ singleQuoted a ++ " " ++ name ++ "\n"
    (t.say 1 (String.join (conditions.filterMap fun (c, name) => line c name))).settle 0
  | [c] => go none [c]
  | a :: cs =>
    if (condition? a).isSome && a.toNat?.isSome then go none (a :: cs)
    else go (if a == "-" then none else some a) cs

/-- Waits for children in the background. -/
def wait (t : Turn) (args : List String) : Turn :=
  let mine := (t.world.processes.filter (·.parent == t.process.pid)).map (·.pid)
  match args with
  | [] => t.push (.awaitJobs mine)
  | args => t.push (.awaitEach (args.map fun a => (a.toNat?.filter mine.contains).getD 0))

/-- A process or, with a minus sign, a group. -/
def target? (s : String) : Option Int :=
  match s.toList with
  | '-' :: digits => (String.ofList digits).toNat?.map fun n => -n
  | _ => s.toNat?.map fun n => n

/-- The signal and the targets of `kill`; without signal the targets are only looked for. -/
def killArguments (args : List String) : Except String (Option Signal × List String) :=
  let decode := fun (s : String) => match condition? s with
    | some c => .ok c
    | none => .error ("invalid signal number or name: " ++ s)
  match args with
  | "-s" :: name :: rest => return (← decode name, rest)
  | "--" :: rest => .ok (some .terminate, rest)
  | a :: rest =>
    match a.toList with
    | '-' :: name =>
      match condition? (String.ofList name) with
      | some c => .ok (c, if rest.head? = some "--" then rest.drop 1 else rest)
      | none => .error ("Illegal option -" ++ String.ofList (name.take 1))
    | _ => .ok (some .terminate, args)
  | [] => .error "Usage: kill [-s sigspec | -signum | -sigspec] [pid | job]... or\nkill -l [exitstatus]"

/-- The numbers of the processes that a target of `kill` means. -/
def targetsOf (t : Turn) (target : String) : List Nat :=
  match target? target with
  | some n =>
    if 0 < n then (t.world.process? n.natAbs).toList.map (·.pid)
    else
      let group := if n = 0 then t.process.group else n.natAbs
      (t.world.groupMembers group).map (·.pid)
  | none => []

/-- Sends signals. The shell is put back first, since it can be one of the targets. -/
def kill (t : Turn) (args : List String) : World :=
  match killArguments args with
  | .error message => (t.fail ("kill: " ++ message) 2).commit
  | .ok (signal, targets) =>
    let missing := targets.filter fun g => (targetsOf t g).isEmpty
    let found := targets.flatMap (targetsOf t)
    let t := missing.foldl (fun (t : Turn) g =>
      t.complain ("kill: " ++ (if (target? g).isSome then "No such process\n" else "Illegal number: " ++ g)))
      t
    let w := (t.settle (if missing.isEmpty then 0 else 1)).commit
    match signal with
    | some s => found.foldl (fun w pid => w.signal pid s) w
    | none => w

/-! ## Input -/

/-- Starts to read a line. -/
def read (t : Turn) (args : List String) : Turn :=
  let isRaw := args.contains "-r"
  match args.filter (· != "-r") with
  | [] => t.fail "read: arg count" 2
  | names =>
    match names.find? (!isName ·) with
    | some name => t.fail ("read: " ++ name ++ ": bad variable name") 2
    | none => t.push (.readLine names isRaw [])

/-- True of a character that separates fields. -/
def isSeparator (ifs : List Char) (c : Char × Mark) : Bool :=
  c.2 == Mark.expanded && ifs.contains c.1

/-- True of a separator of which several count as one. -/
def isGap (ifs : List Char) (c : Char × Mark) : Bool :=
  isSeparator ifs c && (c.1 = ' ' || c.1 = '\t' || c.1 = '\n')

/-- The values of the variables that a line is read into: fields, the last with all that is left. -/
def fieldsOf (ifs : List Char) : List String → Marked → List (String × String)
  | [], _ => []
  | [name], line =>
    let text : Marked := ((line.dropWhile (isGap ifs)).reverse.dropWhile (isGap ifs)).reverse
    -- a separator behind the only field belongs to it no more
    let text : Marked := match text.getLast? with
      | some c =>
        if isSeparator ifs c && !text.dropLast.any (isSeparator ifs) then text.dropLast else text
      | none => text
    [(name, Marked.text text)]
  | name :: more, line =>
    let line := line.dropWhile (isGap ifs)
    let field : Marked := line.takeWhile (!isSeparator ifs ·)
    let rest := (line.drop field.length).dropWhile (isGap ifs)
    let rest := match rest with
      | c :: after => if isSeparator ifs c then after else rest
      | [] => []
    (name, Marked.text field) :: fieldsOf ifs more rest

/-! ## Names of commands -/

/-- What a name stands for: a function, a builtin or a program. -/
def describe? (t : Turn) (isBuiltin : String → Bool) (name : String) : Option (String × String) :=
  if keywords.contains name then some (name, " is a shell keyword")
  else if (t.shell.functions.lookup name).isSome then some (name, " is a shell function")
  else if isBuiltin name then some (name, " is a shell builtin")
  else (Catalog.program? name).map fun _ =>
    let path := if Catalog.isPath name then name else "/usr/bin/" ++ name
    (path, " is " ++ path)

/-- Says what names stand for. -/
def typeOf (isBuiltin : String → Bool) (t : Turn) (names : List String) : Turn :=
  let t := names.foldl (fun (t : Turn) name => match describe? t isBuiltin name with
    | some (_, text) => t.say 1 (name ++ text ++ "\n")
    | none => t.say 1 (name ++ ": not found\n")) t
  t.settle (if names.all fun n => (describe? t isBuiltin n).isSome then 0 else 127)

/-- Shows where the command of a name is. -/
def locate (isBuiltin : String → Bool) (t : Turn) (name : String) : Turn :=
  match describe? t isBuiltin name with
  | some (path, _) => (t.say 1 (path ++ "\n")).settle 0
  | none => t.settle 127

/-! ## The list -/

/-- The builtins by name. Those that run other commands, and `kill`, are left to the steps of the
shell. -/
def plain : List (String × Builtin) :=
  let regular := fun (f : Turn → List String → Turn) => ({ isSpecial := false, run := f } : Builtin)
  let special := fun (f : Turn → List String → Turn) => ({ isSpecial := true, run := f } : Builtin)
  [(":", special fun t _ => t.settle 0), ("true", regular fun t _ => t.settle 0),
    ("false", regular fun t _ => t.settle 1),
    ("echo", regular fun t args => (t.say 1 (Format.echo args)).settle 0),
    ("printf", regular printf), ("test", regular (test "test")), ("[", regular bracket),
    ("pwd", regular fun t _ => pwd t), ("cd", regular cd), ("chdir", regular cd),
    ("export", special exportVars), ("readonly", special readOnly), ("unset", special unset),
    ("local", special makeLocal), ("shift", special shift), ("set", special set),
    ("exit", special exit), ("return", special leaveFunction),
    ("break", special (jump "break" false)), ("continue", special (jump "continue" true)),
    ("eval", special eval), (".", special source), ("trap", special trap),
    ("wait", regular wait), ("read", regular read),
    ("umask", regular fun t args => (if args.isEmpty then t.say 1 "0022\n" else t).settle 0),
    ("hash", regular fun t _ => t.settle 0), ("jobs", regular fun t _ => t.settle 0),
    ("alias", regular fun t _ => t.settle 0), ("unalias", regular fun t _ => t.settle 0),
    ("times", special fun t _ => (t.say 1 "0m0.000000s 0m0.000000s\n0m0.000000s 0m0.000000s\n").settle 0)]

/-- The names of builtins that run other commands or send signals. -/
def others : List String := ["exec", "command", "kill", "type"]

def isBuiltin (name : String) : Bool := (plain.lookup name).isSome || others.contains name

/-- The builtin of a name. -/
def find? (name : String) : Option Builtin :=
  if name == "type" then some { isSpecial := false, run := typeOf isBuiltin } else plain.lookup name

end Builtin

end Turnstile.Shell
