import Turnstile.CommandLine.Binding

/-!
# The grammar of the command line

`Request.ofArguments` reads the arguments from the left to the right. Options can stand before and
behind operands; two hyphens end them. The first fault counts, unless help or the version is asked
for before it.
-/

namespace Turnstile.CommandLine

/-- What is to be done. -/
inductive Command where
  | list (isPrompt : Bool)
  | check (tool : String) (params : List (String × String))
  | run (tool : String) (params : List (String × String)) (isConfirmed isJson : Bool)
  | validate (files : List String)
  deriving DecidableEq, Repr

/-- A command, and the host's file that was named. -/
structure Request where
  config : Option String
  command : Command
  deriving DecidableEq, Repr

/-- The subjects of help. -/
inductive Topic where
  | program
  | list
  | check
  | run
  | validate
  deriving DecidableEq, Repr

/-- What is wrong with the arguments. -/
inductive UsageError where
  | unexpected (argument : String)
  | noValue (option : String)
  | notFlag (option : String)
  | repeated (option : String)
  | badValue (option value message : String)
  | unknownCommand (name : String)
  | noCommand
  | missing (operand : String)
  deriving DecidableEq, Repr

def UsageError.message : UsageError → String
  | .unexpected a => "unexpected argument '" ++ a ++ "' found"
  | .noValue o => "a value is required for '" ++ o ++ "' but none was supplied"
  | .notFlag o => "unexpected value for '" ++ o ++ "' found; no more were expected"
  | .repeated o => "the argument '" ++ o ++ "' cannot be used multiple times"
  | .badValue o v m => "invalid value '" ++ v ++ "' for '" ++ o ++ "': " ++ m
  | .unknownCommand n => "unrecognized subcommand '" ++ n ++ "'"
  | .noCommand => "'cmdgate' requires a subcommand but one was not provided"
  | .missing o => "the following required arguments were not provided:\n  " ++ o

/-- Why reading stops before its end. -/
inductive Stop where
  | help (topic : Topic)
  | version
  /-- Nothing was asked for at all. -/
  | empty
  | misuse (e : UsageError)
  deriving DecidableEq, Repr

/-- An option. -/
structure OptionSpec where
  long : String
  short : Option Char := none
  takesValue : Bool := false
  deriving DecidableEq, Repr

namespace OptionSpec

def config : OptionSpec := { long := "config", takesValue := true }

def help : OptionSpec := { long := "help", short := some 'h' }

def version : OptionSpec := { long := "version", short := some 'V' }

def prompt : OptionSpec := { long := "prompt" }

def param : OptionSpec := { long := "param", short := some 'p', takesValue := true }

def yes : OptionSpec := { long := "yes" }

def json : OptionSpec := { long := "json" }

/-- An option in messages. -/
def shown (o : OptionSpec) : String :=
  "--" ++ o.long ++ (if o.takesValue then " <" ++ o.long.toUpper ++ ">" else "")

end OptionSpec

/-- A piece of the arguments. -/
inductive Item where
  | option (o : OptionSpec) (value : String)
  | operand (s : String)

/-- True of an argument that is read as an option. -/
def looksLikeOption (a : String) : Bool := a.length > 1 && a.toList.head? = some '-'

/-- The value of an option that stands in the next argument. -/
def nextValue (o : OptionSpec) : List String → Except UsageError (String × List String)
  | v :: rest => if looksLikeOption v then .error (.noValue o.shown) else .ok (v, rest)
  | [] => .error (.noValue o.shown)

/-- An option with its long name, and what is behind an equals sign. -/
def readLong (options : List OptionSpec) (argument : String) (rest : List String) :
    Except UsageError (List Item × List String) := do
  let body := argument.toList.drop 2
  let name := body.takeWhile (· ≠ '=')
  match options.find? (·.long == String.ofList name) with
  | none => throw (.unexpected argument)
  | some o =>
    match o.takesValue, body.drop name.length with
    | true, _ :: value => return ([.option o (String.ofList value)], rest)
    | true, [] =>
      let (v, rest) ← nextValue o rest
      return ([.option o v], rest)
    | false, [] => return ([.option o ""], rest)
    | false, _ => throw (.notFlag o.shown)

/-- Options with their letters, which may be joined. -/
def readShort (options : List OptionSpec) (argument : String) (rest : List String) :
    List Char → Except UsageError (List Item × List String)
  | [] => .ok ([], rest)
  | c :: more => do
    match options.find? (·.short == some c) with
    | none => throw (.unexpected ("-" ++ String.ofList [c]))
    | some o =>
      if o.takesValue then
        match more with
        | [] =>
          let (v, rest) ← nextValue o rest
          return ([.option o v], rest)
        | '=' :: value => return ([.option o (String.ofList value)], rest)
        | value => return ([.option o (String.ofList value)], rest)
      else
        let (items, rest) ← readShort options argument rest more
        return (.option o "" :: items, rest)

/-- The items at the start of the arguments, which are not empty. -/
def readItems (options : List OptionSpec) (argument : String) (rest : List String) :
    Except UsageError (List Item × List String) :=
  match argument.toList with
  | '-' :: '-' :: _ => readLong options argument rest
  | '-' :: c :: letters => readShort options argument rest (c :: letters)
  | _ => .ok ([.operand argument], rest)

/-! ## Commands -/

/-- What was read so far of a command. -/
structure Draft where
  config : Option String := none
  flags : List OptionSpec := []
  params : List (String × String) := []
  operands : List String := []

/-- What a command accepts. -/
structure Shape where
  topic : Topic
  options : List OptionSpec
  /-- The name of its operands, if it has any, and whether there can be several. -/
  operand : Option (String × Bool)
  /-- Whether operands are paths, which are not empty. -/
  takesPaths : Bool := false

namespace Shape

/-- The shapes of commands by name. -/
def all : List (String × Shape) :=
  [("list", { topic := .list, options := [.prompt], operand := none }),
    ("check", { topic := .check, options := [.param], operand := some ("<TOOL>", false) }),
    ("run", { topic := .run, options := [.param, .yes, .json], operand := some ("<TOOL>", false) }),
    ("validate",
      { topic := .validate, options := [], operand := some ("<FILES>...", true), takesPaths := true })]

/-- The options that a command knows, with those that all know. -/
def allOptions (s : Shape) : List OptionSpec := s.options ++ [.config, .help]

end Shape

namespace Draft

/-- Takes one item into account. -/
def take (s : Shape) (d : Draft) : Item → Except Stop Draft
  | .option o value =>
    if o = .help then .error (.help s.topic)
    else if o = .config then
      if value.isEmpty then .error (.misuse (.noValue o.shown))
      else if d.config.isSome then .error (.misuse (.repeated o.shown))
      else .ok { d with config := some value }
    else if o = .param then
      match readBinding value with
      | .ok p => .ok { d with params := d.params ++ [p] }
      | .error e => .error (.misuse (.badValue o.shown value e.message))
    else if d.flags.contains o then .error (.misuse (.repeated o.shown))
    else .ok { d with flags := o :: d.flags }
  | .operand a =>
    match s.operand with
    | some (name, isMany) =>
      if !isMany && !d.operands.isEmpty then .error (.misuse (.unexpected a))
      else if s.takesPaths && a.isEmpty then .error (.misuse (.noValue name))
      else .ok { d with operands := d.operands ++ [a] }
    | none => .error (.misuse (.unexpected a))

/-- Reads the arguments of a command. The fuel bounds their number. -/
def read (s : Shape) : Nat → Draft → List String → Except Stop Draft
  | 0, d, _ => .ok d
  | _, d, [] => .ok d
  | _ + 1, d, "--" :: rest => rest.foldlM (fun d a => d.take s (.operand a)) d
  | fuel + 1, d, a :: rest =>
    match readItems s.allOptions a rest with
    | .error e => .error (.misuse e)
    | .ok (items, rest) => do
      let d ← items.foldlM (fun d i => d.take s i) d
      read s fuel d rest

/-- The command that was read. -/
def command (s : Shape) (d : Draft) : Except Stop Command :=
  match s.topic, d.operands with
  | .check, tool :: _ => .ok (.check tool d.params)
  | .run, tool :: _ =>
    .ok (.run tool d.params (d.flags.contains .yes) (d.flags.contains .json))
  | .validate, _ :: _ => .ok (.validate d.operands)
  | .list, _ => .ok (.list (d.flags.contains .prompt))
  | _, _ => .error (.misuse (.missing ((s.operand.map (·.1)).getD "")))

end Draft

namespace Request

/-- The help that `help` with a subject asks for. -/
def topic : List String → Stop
  | [] => .help .program
  | name :: _ =>
    match Shape.all.lookup name with
    | some s => .help s.topic
    | none => if name == "help" then .help .program else .misuse (.unknownCommand name)

/-- Reads what is before the command, and the command. The fuel bounds the number of arguments. -/
def read : Nat → Option String → List String → Except Stop Request
  | 0, _, _ => .error (.misuse .noCommand)
  | _, _, [] => .error (.misuse .noCommand)
  | fuel + 1, config, a :: rest =>
    if a == "--" then
      .error (.misuse (match rest with
        | [] => .noCommand
        | b :: _ => .unexpected b))
    else match readItems [.config, .help, .version] a rest with
      | .error e => .error (.misuse e)
      | .ok (.operand name :: _, rest) =>
        match Shape.all.lookup name with
        | some s => do
          let d ← Draft.read s (rest.length + 1) {} rest
          return { config := d.config.or config, command := ← d.command s }
        | none => .error (if name == "help" then topic rest else .misuse (.unknownCommand name))
      | .ok (.option o value :: _, rest) =>
        if o = .help then .error (.help .program)
        else if o = .version then .error .version
        else if value.isEmpty then .error (.misuse (.noValue o.shown))
        else if config.isSome then .error (.misuse (.repeated o.shown))
        else read fuel (some value) rest
      | .ok ([], rest) => read fuel config rest

/-- The request that arguments make. -/
def ofArguments (args : List String) : Except Stop Request :=
  if args.isEmpty then .error .empty else read (args.length + 1) none args

end Request

/-! ## Help -/

/-- The text about a subject. -/
def Topic.help : Topic → String
  | .program =>
    "Run declarative shell tools under deny/confirm policy, timeouts and output filtering\n\n" ++
    "Usage: cmdgate [OPTIONS] <COMMAND>\n\n" ++
    "Commands:\n" ++
    "  list      List registered tools\n" ++
    "  check     Render a tool's command and show the gate decision without running it\n" ++
    "  run       Invoke a tool\n" ++
    "  validate  Parse tool definition files and report errors\n" ++
    "  help      Print this message or the help of the given subcommand(s)\n\n" ++
    "Options:\n" ++
    "      --config <CONFIG>  Path to the host config file\n" ++
    "  -h, --help             Print help\n" ++
    "  -V, --version          Print version\n"
  | .list =>
    "List registered tools\n\n" ++
    "Usage: cmdgate list [OPTIONS]\n\n" ++
    "Options:\n" ++
    "      --prompt           Print the agent-facing tool description instead\n" ++
    "      --config <CONFIG>  Path to the host config file\n" ++
    "  -h, --help             Print help\n"
  | .check =>
    "Render a tool's command and show the gate decision without running it\n\n" ++
    "Usage: cmdgate check [OPTIONS] <TOOL>\n\n" ++
    "Arguments:\n  <TOOL>  \n\n" ++
    "Options:\n" ++
    "  -p, --param <PARAMS>   Parameter binding as name=value\n" ++
    "      --config <CONFIG>  Path to the host config file\n" ++
    "  -h, --help             Print help\n"
  | .run =>
    "Invoke a tool\n\n" ++
    "Usage: cmdgate run [OPTIONS] <TOOL>\n\n" ++
    "Arguments:\n  <TOOL>  \n\n" ++
    "Options:\n" ++
    "  -p, --param <PARAMS>   Parameter binding as name=value\n" ++
    "      --yes              Skip the confirmation prompt for ask_user matches\n" ++
    "      --json             Print the result as JSON\n" ++
    "      --config <CONFIG>  Path to the host config file\n" ++
    "  -h, --help             Print help\n"
  | .validate =>
    "Parse tool definition files and report errors\n\n" ++
    "Usage: cmdgate validate [OPTIONS] <FILES>...\n\n" ++
    "Arguments:\n  <FILES>...  \n\n" ++
    "Options:\n" ++
    "      --config <CONFIG>  Path to the host config file\n" ++
    "  -h, --help             Print help\n"

end Turnstile.CommandLine
