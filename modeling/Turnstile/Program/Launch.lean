import Turnstile.Process.World

/-!
# Starting a program

A program is started with a `Call`: its arguments and what it can see of the host. The answer is a
`Launch`: what becomes of the files, what is written at once, and what is left to do.

`Arguments.read` sorts arguments into options and operands in the usual way: options are single
letters, which may be joined, and two hyphens end them.
-/

namespace Turnstile

/-- What a program is started with. Its texts stand for octets. -/
structure Call where
  /-- The name that it was called by. -/
  name : String
  arguments : List String
  env : List (String × String)
  cwd : Place
  now : Nat
  files : FileTree

/-- What becomes of a call. -/
structure Launch where
  files : FileTree
  /-- Files that are opened for the program, by descriptor. -/
  opened : List (Nat × Handle) := []
  /-- What is written first, by descriptor. -/
  written : List (Nat × Bytes) := []
  next : Program

/-- Arguments sorted into options and operands. -/
structure Arguments where
  options : List (Char × String) := []
  operands : List String := []

namespace Arguments

/-- What is wrong with arguments. -/
inductive Fault where
  | unknown (letter : Char)
  | noValue (letter : Char)
  deriving DecidableEq

/-- The options of one argument, given the letters that stand alone and those that take a value. -/
def cluster (alone withValue : List Char) (next : Option String) :
    List Char → Except Fault (List (Char × String) × Bool)
  | [] => .ok ([], false)
  | c :: rest =>
    if withValue.contains c then
      if rest.isEmpty then
        match next with
        | some v => .ok ([(c, v)], true)
        | none => .error (.noValue c)
      else .ok ([(c, String.ofList rest)], false)
    else if alone.contains c then do
      let (more, usesNext) ← cluster alone withValue next rest
      return ((c, "") :: more, usesNext)
    else .error (.unknown c)

/-- Sorts arguments; options may stand behind operands. -/
def read (alone withValue : List Char) : Nat → List String → Except Fault Arguments
  | 0, _ => .ok {}
  | _, [] => .ok {}
  | fuel + 1, a :: rest =>
    match a.toList with
    | ['-', '-'] => .ok { operands := rest }
    | '-' :: c :: more => do
      let (options, usesNext) ← cluster alone withValue rest.head? (c :: more)
      let args ← read alone withValue fuel (if usesNext then rest.drop 1 else rest)
      return { args with options := options ++ args.options }
    | _ => do
      let args ← read alone withValue fuel rest
      return { args with operands := a :: args.operands }

def has (a : Arguments) (letter : Char) : Bool := a.options.any (·.1 == letter)

/-- The last value of an option. -/
def value? (a : Arguments) (letter : Char) : Option String :=
  (a.options.reverse.lookup letter)

end Arguments

namespace Call

/-- The path that an argument stands for. -/
def path (argument : String) : String := Utf8.decodeLossy (Shell.toBytes argument)

/-- A program that writes and ends. -/
def answer (c : Call) (out : String) (err : String := "") (code : Nat := 0) : Launch :=
  { files := c.files
    written := [(1, Shell.toBytes out), (2, Shell.toBytes err)].filter (!·.2.isEmpty)
    next := .finish code }

/-- A line about a failure, with the program's name in front. -/
def complaint (c : Call) (s : String) : String := c.name ++ ": " ++ s ++ "\n"

/-- A program that fails with a message. -/
def fail (c : Call) (s : String) (code : Nat := 1) : Launch := c.answer "" (c.complaint s) code

/-- A program that fails with a message and a hint. -/
def misuse (c : Call) (s : String) (code : Nat := 1) : Launch :=
  c.answer "" (c.complaint s ++ "Try '" ++ c.name ++ " --help' for more information.\n") code

/-- Sorts the arguments of a call, and goes on with them. -/
def withArguments (c : Call) (alone withValue : String) (failure : Nat)
    (f : Arguments → Launch) : Launch :=
  match Arguments.read alone.toList withValue.toList (c.arguments.length + 1) c.arguments with
  | .ok a => f a
  | .error (.unknown letter) =>
    c.misuse ("invalid option -- '" ++ String.ofList [letter] ++ "'") failure
  | .error (.noValue letter) =>
    c.misuse ("option requires an argument -- '" ++ String.ofList [letter] ++ "'") failure

/-- The content of a file. -/
def content (c : Call) (argument : String) : Except FileError Bytes :=
  c.files.read c.cwd (path argument)

/-- A program that makes a report of its input: its operands joined, or what it reads. -/
def digest (c : Call) (operands : List String) (failure : Nat) (isEnough : Bytes → Bool)
    (report : Bytes → Report) : Launch :=
  if operands.isEmpty || operands == ["-"] then
    { files := c.files, next := .gather [] isEnough report }
  else
    let (data, errors) := operands.foldl (fun (data, errors) o =>
      match c.content o with
      | .ok bs => (data ++ bs, errors)
      | .error e => (data, errors ++ c.complaint (o ++ ": " ++ e.reason))) (([] : Bytes), "")
    let r := report data
    { files := c.files
      written := [(2, Shell.toBytes errors), (1, r.out), (2, r.err)].filter (!·.2.isEmpty)
      next := .finish (if errors.isEmpty then r.code else failure) }

end Call

end Turnstile
