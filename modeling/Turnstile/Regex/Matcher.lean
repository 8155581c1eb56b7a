import Turnstile.Regex.Search

/-!
# Matchers

A `Matcher` is an expression together with the text that it was written as.
-/

namespace Turnstile

/-- An expression ready for searching. -/
structure Matcher where
  /-- The expression as it was written. -/
  source : String
  program : Regex.Program
  deriving Inhabited

namespace Matcher

/-- The matcher of an expression; `none` if the text is no expression. -/
def ofSource? (source : String) : Option Matcher :=
  (Regex.parse? source).map fun r => { source, program := Regex.compile r }

/-- True if the expression matches anywhere in a text. -/
def isMatch (m : Matcher) (text : List Char) : Bool := m.program.isMatch text

/-- A text without what one pass over it matches. -/
def deleteMatches (m : Matcher) (text : List Char) : List Char := m.program.deleteMatches text

end Matcher

end Turnstile
