import Turnstile.Number.Binary64

/-!
# TOML values

What a TOML document denotes: a table of named values. Dates and times are kept as their text in
the standard's own layout, since nothing here computes with them.
-/

namespace Turnstile

/-- A value of a TOML document. -/
inductive Toml where
  | string (s : String)
  | integer (n : Int)
  | float (x : Binary64)
  | boolean (b : Bool)
  | datetime (text : String)
  | array (items : List Toml)
  | table (entries : List (String × Toml))
  deriving Repr, Inhabited

namespace Toml

/-- The value of an entry of a list of entries. -/
def lookup? (name : String) (entries : List (String × Toml)) : Option Toml :=
  (entries.find? fun e => e.1 == name).map (·.2)

/-- The value of an entry of a table. -/
def get? (name : String) : Toml → Option Toml
  | .table entries => lookup? name entries
  | _ => none

end Toml

end Turnstile
