/-!
# Variables of the shell

A `Variables` holds values by name, and which of them are handed on to other programs or must not
change.
-/

namespace Turnstile.Shell

/-- A variable. One that is only marked has no value. -/
structure Variable where
  value : Option String := none
  isExported : Bool := false
  isReadOnly : Bool := false
  deriving DecidableEq, Repr

/-- Variables by name. -/
abbrev Variables := List (String × Variable)

namespace Variables

/-- The value of a variable, if it has one. -/
def value? (vs : Variables) (name : String) : Option String :=
  (vs.lookup name).bind (·.value)

def isReadOnly (vs : Variables) (name : String) : Bool :=
  ((vs.lookup name).map (·.isReadOnly)).getD false

/-- Changes a variable, which is made if it is missing. -/
def change (vs : Variables) (name : String) (f : Variable → Variable) : Variables :=
  let v := f ((vs.lookup name).getD {})
  (name, v) :: vs.filter (·.1 != name)

/-- Gives a variable a value. -/
def set (vs : Variables) (name value : String) : Variables :=
  vs.change name fun v => { v with value := some value }

/-- Hands a variable on to other programs. -/
def markExported (vs : Variables) (name : String) : Variables :=
  vs.change name fun v => { v with isExported := true }

def unset (vs : Variables) (name : String) : Variables := vs.filter (·.1 != name)

/-- The values that other programs get, in ascending order of their names. -/
def environment (vs : Variables) : List (String × String) :=
  (vs.filterMap fun (name, v) =>
    if v.isExported then v.value.map (name, ·) else none).mergeSort fun a b => a.1 ≤ b.1

/-- The variables that a program starts with. -/
def ofEnvironment (env : List (String × String)) : Variables :=
  env.foldl (fun vs (name, value) =>
    vs.change name fun _ => { value := some value, isExported := true }) []

end Variables

end Turnstile.Shell
