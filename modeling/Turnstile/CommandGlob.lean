import Turnstile.Wildcard

/-!
# Globs for commands

The patterns of a confirmation policy. `*` stands for any run of characters, slashes and newlines
included, and `?` for one character; a backslash takes the next character literally, and brackets
have no meaning. A glob is translated to a wildcard pattern, which does the comparing.
-/

namespace Turnstile

/-- A glob that is compared with whole commands. -/
structure CommandGlob where
  /-- The glob as it was declared. -/
  source : String
  /-- The pattern it is translated to; a text that is no pattern stands for itself. -/
  compiled : Option Wildcard
  ignoreCase : Bool
  deriving DecidableEq, Repr

namespace CommandGlob

/-- Writes a glob as a wildcard pattern. `out` and `literal` hold, in reverse, the pattern so far
and the literal characters not yet written to it. Runs of stars become one. -/
def translateLoop (out literal : List Char) : List Char → List Char
  | [] => ((Wildcard.escape literal.reverse).reverse ++ out).reverse
  | '*' :: rest =>
    let out := (Wildcard.escape literal.reverse).reverse ++ out
    translateLoop (if out.head? = some '*' then out else '*' :: out) [] rest
  | '?' :: rest =>
    translateLoop ('?' :: ((Wildcard.escape literal.reverse).reverse ++ out)) [] rest
  | ['\\'] => translateLoop out ('\\' :: literal) []
  | '\\' :: c :: rest => translateLoop out (c :: literal) rest
  | c :: rest => translateLoop out (c :: literal) rest

/-- A glob as a wildcard pattern. -/
def translate (source : String) : String :=
  String.ofList (translateLoop [] [] source.toList)

def ofSource (source : String) (ignoreCase : Bool) : CommandGlob :=
  { source, compiled := Wildcard.parse? (translate source), ignoreCase }

/-- True of a glob that stands for every command. -/
def matchesEverything (g : CommandGlob) : Bool :=
  match g.compiled with
  | some w => w.text == "*"
  | none => false

/-- True if a glob stands for a whole command. -/
def isMatch (g : CommandGlob) (command : String) : Bool :=
  match g.compiled with
  | some w => w.isMatch g.ignoreCase command
  | none => g.source == command

end CommandGlob

end Turnstile
