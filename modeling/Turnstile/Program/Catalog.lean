import Turnstile.Program.Files
import Turnstile.Program.Text
import Turnstile.Shell.Condition
import Turnstile.Shell.Format

/-!
# The programs of the host

`Catalog.program?` finds a program by its name, or by its path in one of the directories where
programs are. Some programs only start another one: shells, and `env`, which changes the
environment.
-/

namespace Turnstile

namespace Program

open Shell

/-! ## Small programs -/

/-- Formatted output, with messages about arguments that are no numbers. -/
def printf (c : Call) : Launch :=
  match if c.arguments.head? = some "--" then c.arguments.drop 1 else c.arguments with
  | [] => c.misuse "missing operand"
  | format :: args =>
    let r := Format.printf format args
    c.answer r.out (String.join (r.messages.map c.complaint)) (min r.status 1)

/-- Judges a condition. -/
def test (c : Call) (args : List String) : Launch :=
  match Condition.evaluate { files := c.files, cwd := c.cwd } args with
  | .ok holds => c.answer "" "" (if holds then 0 else 1)
  | .error f => c.fail f.message 2

/-- Judges a condition in brackets. -/
def bracket (c : Call) : Launch :=
  if c.arguments.getLast? = some "]" then test c c.arguments.dropLast
  else c.fail "missing ']'" 2

/-- The path of the working directory. -/
def pwd (c : Call) : Launch := c.answer (octets (FileTree.pathOf c.cwd) ++ "\n")

/-! ## Programs that start others -/

/-- A variable of the environment that is written with its value. -/
def binding? (s : String) : Option (String × String) :=
  let name := s.toList.takeWhile (· ≠ '=')
  if name.length < s.length && !name.isEmpty then
    some (String.ofList name, String.ofList (s.toList.drop (name.length + 1)))
  else none

/-- Sets variables of an environment. -/
def extend (env : List (String × String)) (changes : List (String × String)) :
    List (String × String) :=
  changes.foldl (fun env (name, value) => env.filter (·.1 != name) ++ [(name, value)]) env

/-- Starts a program in a changed environment, or shows the environment. -/
def env (c : Call) : Launch :=
  let (start, args) := match c.arguments with
    | "-i" :: rest | "-" :: rest => ([], rest)
    | "-u" :: name :: rest =>
      (c.env.filter fun (v : String × String) => v.1 != name, rest)
    | args => (c.env, args)
  let bindings := args.takeWhile fun a => (binding? a).isSome
  let env := extend start (bindings.filterMap binding?)
  match args.drop bindings.length with
  | [] => c.answer (String.join (env.map fun (n, v) => n ++ "=" ++ v ++ "\n"))
  | command => { files := c.files, next := .become command env }

/-- Starts a program that does not end with the rest of its group. -/
def setsid (c : Call) : Launch :=
  match c.arguments with
  | [] => c.misuse "no command specified"
  | args => { files := c.files, next := .detach args c.env }

/-- Starts a program without further ado. -/
def nohup (c : Call) : Launch :=
  match c.arguments with
  | [] => c.misuse "missing operand" 125
  | args => { files := c.files, next := .become args c.env }

/-- Sets the options of a shell, and finds out whether a script follows as an argument. -/
def shellOptions : List String → State → Bool → State × Bool × List String
  | [], s, takesText => (s, takesText, [])
  | a :: rest, s, takesText =>
    match a.toList with
    | ['-', '-'] => (s, takesText, rest)
    | ['-'] => (s, takesText, rest)
    | '-' :: letters =>
      let s := letters.foldl (fun s l => if l = 'c' then s else s.setOption l true) s
      shellOptions rest s (takesText || letters.contains 'c')
    | _ => (s, takesText, a :: rest)

/-- Starts a shell. -/
def shell (c : Call) : Launch :=
  let named := fun (s : State) (name : String) (params : List String) =>
    { s with settings := { s.settings with name, params } }
  let (s, takesText, operands) := shellOptions c.arguments (.ofEnvironment c.env) false
  let run := fun (s : State) => ({ files := c.files, next := .interpret s } : Launch)
  match takesText, operands with
  | true, [] => c.answer "" (c.name ++ ": 0: -c requires an argument\n") 2
  | true, text :: rest =>
    run (named (s.pushScript text) (rest.headD c.name) (rest.drop 1))
  | false, [] => { files := c.files, next := .readScript [] (named s c.name []) }
  | false, path :: params =>
    match c.content path with
    | .ok data => run (named (s.pushScript (ofBytes data)) path params)
    | .error _ => c.answer "" (c.name ++ ": 0: cannot open " ++ path ++ ": No such file\n") 2

end Program

/-! ## The catalog -/

namespace Catalog

/-- The programs by name. -/
def programs : List (String × (Call → Launch)) :=
  [("cat", Program.cat), ("tee", Program.tee), ("ls", Program.ls), ("touch", Program.touch),
    ("rm", Program.rm), ("mkdir", Program.mkdir), ("rmdir", Program.rmdir), ("cp", Program.cp),
    ("mv", Program.mv), ("head", Program.head), ("tail", Program.tail), ("wc", Program.wc),
    ("sort", Program.sort), ("uniq", Program.uniq), ("grep", Program.grep), ("tr", Program.tr),
    ("cut", Program.cut), ("tac", Program.tac), ("rev", Program.rev), ("seq", Program.seq),
    ("yes", Program.yes), ("sleep", Program.sleep), ("basename", Program.basename),
    ("dirname", Program.dirname), ("printenv", Program.printenv), ("printf", Program.printf),
    ("test", fun c => Program.test c c.arguments), ("[", Program.bracket), ("pwd", Program.pwd),
    ("env", Program.env), ("setsid", Program.setsid), ("nohup", Program.nohup),
    ("sh", Program.shell), ("dash", Program.shell), ("bash", Program.shell),
    ("echo", fun c => c.answer (Shell.Format.plainEcho c.arguments)),
    ("true", fun c => c.answer ""), ("false", fun c => c.answer "" "" 1)]

/-- The directories where programs are. -/
def directories : List String := ["/bin/", "/usr/bin/"]

/-- The program that a command names. -/
def program? (command : String) : Option (Call → Launch) :=
  let name := match directories.find? fun d => d.toList.isPrefixOf command.toList with
    | some d => String.ofList (command.toList.drop d.length)
    | none => command
  programs.lookup name

/-- True of the path of a program. -/
def isPath (command : String) : Bool := command.toList.contains '/'

end Catalog

end Turnstile
