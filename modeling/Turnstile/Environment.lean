import Turnstile.Text.Blank
import Turnstile.Tool.Source

/-!
# Where the host runs

A tool declares in which of two environments it is offered.
-/

namespace Turnstile

/-- Where the host runs. -/
inductive Environment where
  | laptop
  | isolated
  deriving DecidableEq, Repr, Inhabited

namespace Environment

def name : Environment → String
  | .laptop => "laptop"
  | .isolated => "isolated"

/-- The name in messages to the user. -/
def title : Environment → String
  | .laptop => "Laptop"
  | .isolated => "Isolated"

/-- The environment of an exact name. -/
def ofName? : String → Option Environment
  | "laptop" => some .laptop
  | "isolated" => some .isolated
  | _ => none

/-- The environment that a user names: blanks around the name and the case of A to Z do not count.
The error is what is left of the name. -/
def read (s : String) : Except String Environment :=
  let name := Text.lowerAscii (Text.trim s)
  match ofName? name with
  | some e => .ok e
  | none => .error name

/-- What is said about a name of no environment. -/
def unknownMessage (name : String) : String :=
  "unknown environment `" ++ name ++ "`, expected laptop or isolated"

end Environment

/-- True if a tool is offered in an environment. -/
def Availability.allows (a : Availability) : Environment → Bool
  | .laptop => a.onLaptop
  | .isolated => a.whenIsolated

end Turnstile
