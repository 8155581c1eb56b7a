import Turnstile.Text.Blank
import Turnstile.Tool.Definition

/-!
# Bindings on the command line

A binding is written as `name=value`. The first equals sign divides it; blanks around the name do
not count, and the value is taken as it stands.
-/

namespace Turnstile.CommandLine

/-- Why an argument is no binding. -/
inductive BindingError where
  | noValue (written : String)
  | noName (written : String)
  deriving DecidableEq, Repr

def BindingError.message : BindingError → String
  | .noValue written => "expected name=value, got `" ++ written ++ "`"
  | .noName written => "empty parameter name in `" ++ written ++ "`"

/-- The name and the value of a binding. -/
def readBinding (written : String) : Except BindingError (String × String) :=
  let cs := written.toList
  match cs.dropWhile (· ≠ '=') with
  | [] => .error (.noValue written)
  | _ :: value =>
    let name := Text.trimChars (cs.takeWhile (· ≠ '='))
    if name.isEmpty then .error (.noName written)
    else .ok (String.ofList name, String.ofList value)

/-- Values from pairs of texts; the last pair of a name counts. -/
def bindings (pairs : List (String × String)) : Bindings :=
  Bindings.ofPairs (pairs.map fun (name, value) => (name, .string value))

end Turnstile.CommandLine
