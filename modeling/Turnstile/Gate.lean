import Turnstile.CommandGlob

/-!
# The gate

A policy lists globs of commands that are denied and of commands that need the user's approval.
The gate compares a rendered command with both: a deny glob wins over an ask glob, and within a list
the first match is reported.
-/

namespace Turnstile

/-- A declared policy. -/
structure Policy where
  askUser : List String := []
  deny : List String := []
  ignoreCase : Bool := false
  deriving DecidableEq, Repr

/-- The answer of the gate for one command. -/
inductive Decision where
  | allow
  | requireConfirmation (pattern : String)
  | deny (pattern : String)
  deriving DecidableEq, Repr

def Decision.isAllowed : Decision → Bool
  | .allow => true
  | _ => false

/-- A policy with its globs compiled. -/
structure Gate where
  deny : List CommandGlob
  askUser : List CommandGlob
  deriving DecidableEq, Repr

namespace Gate

def ofPolicy (p : Policy) : Gate where
  deny := p.deny.map (CommandGlob.ofSource · p.ignoreCase)
  askUser := p.askUser.map (CommandGlob.ofSource · p.ignoreCase)

/-- The decision on a command. -/
def evaluate (g : Gate) (command : String) : Decision :=
  match g.deny.find? (·.isMatch command) with
  | some glob => .deny glob.source
  | none =>
    match g.askUser.find? (·.isMatch command) with
    | some glob => .requireConfirmation glob.source
    | none => .allow

/-- True if one deny glob stands for every command. -/
def isFullyDenied (g : Gate) : Bool := g.deny.any (·.matchesEverything)

end Gate

end Turnstile
