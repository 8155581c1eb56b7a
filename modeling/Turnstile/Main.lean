import Turnstile.CommandLine.Session

/-!
# The program

The command line, carried out on a host that standard input describes: an object with `files`, from
paths below the working directory to their contents, and `env`, from variables to their values. An
empty input describes a host without files and variables.
-/

namespace Turnstile

/-- The texts among the members of an object. -/
def textMembers : Option Json → List (String × String)
  | some (.object members) => members.filterMap fun (name, v) => match v with
    | .string s => some (name, s)
    | _ => none
  | _ => []

/-- The host that an object describes. -/
def HostView.ofJson (v : Json) : HostView where
  cwd := ["work"]
  files := (textMembers (v.get? "files")).foldl
    (fun t (path, s) => t.putDeep ("work" :: Path.components path) (.file (Utf8.encode s)))
    ([["tmp"], ["work"]].foldl (fun t p => FileTree.putDeep t p .directory)
      (({} : FileTree).putDeep ["dev", "null"] (.file [])))
  vars := textMembers (v.get? "env")

end Turnstile

open Turnstile in
/-- Carries out the command line, prints what it prints, and ends with its exit code. -/
def main (args : List String) : IO UInt32 := do
  let description ← (← IO.getStdin).readToEnd
  let host := HostView.ofJson ((Json.read? description).getD (.object []))
  let (output, _) := CommandLine.execute host args
  (← IO.getStdout).putStr output.out
  (← IO.getStderr).putStr output.err
  return output.exit.toUInt32
