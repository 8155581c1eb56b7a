import Turnstile.Filter.Cut
import Turnstile.Filter.Grep
import Turnstile.Filter.Stats
import Turnstile.Regex.Matcher

/-!
# The output filter

A filter removes what an expression matches, selects lines, and cuts to a number of characters and
of lines, in this order. Each stage is optional. The expressions are those of any `Engine`; unless
another one is named, they are `Matcher`s.
-/

namespace Turnstile

/-- What output filters ask of expressions. -/
class Filter.Engine (ε : Type) where
  /-- True of a line in which an expression has a match. -/
  isMatch : ε → List Char → Bool
  /-- What one pass leaves of a text that takes the matches of an expression out of it. -/
  deleteMatches : ε → List Char → List Char

instance : Filter.Engine Matcher where
  isMatch := Matcher.isMatch
  deleteMatches := Matcher.deleteMatches

/-- The settings of an output filter. -/
structure OutputFilter (ε : Type := Matcher) where
  limitLines : Option Nat := none
  limitChars : Option Nat := none
  keep : Side := .top
  grep : Option ε := none
  /-- How many lines around a selected line are kept. -/
  context : Nat := 0
  remove : Option ε := none

namespace Filter

/-- Lets passes remove matches until one removes nothing: a removal can join characters into a new
match. -/
def removeAll (pass : List Char → List Char) (text : List Char) : List Char :=
  let next := pass text
  if next.length < text.length then removeAll pass next else text
termination_by text.length

section Stages

variable {ε : Type}

/-- The text after the stage that removes. -/
def removed [Engine ε] (f : OutputFilter ε) (text : List Char) : List Char :=
  match f.remove with
  | some e => removeAll (Engine.deleteMatches e) text
  | none => text

/-- The text after the stage that selects lines. -/
def selected [Engine ε] (f : OutputFilter ε) (text : List Char) : List Char :=
  match f.grep with
  | some e => grep (Engine.isMatch e) f.context text
  | none => text

/-- The text after the cut by characters, which keeps whole lines if lines were selected. -/
def withinChars (f : OutputFilter ε) (text : List Char) : List Char :=
  match f.limitChars with
  | some limit =>
    if f.grep.isSome then cutCharsByLine limit f.keep text else cutChars limit f.keep text
  | none => text

/-- The text after the cut by lines. -/
def withinLines (f : OutputFilter ε) (text : List Char) : List Char :=
  match f.limitLines with
  | some limit => cutLines limit f.keep text
  | none => text

end Stages

end Filter

namespace OutputFilter

/-- A filtered output, with the sizes before and after. -/
structure Filtered where
  output : String
  stats : FilterStats
  deriving DecidableEq, Repr

variable {ε : Type} [Filter.Engine ε]

/-- What a filter leaves of a text. -/
def apply (f : OutputFilter ε) (text : List Char) : List Char :=
  Filter.withinLines f (Filter.withinChars f (Filter.selected f (Filter.removed f text)))

/-- Filters a text that was read from a number of octets. -/
def run (f : OutputFilter ε) (rawBytes : Nat) (raw : List Char) : Filtered :=
  let output := f.apply raw
  { output := String.ofList output
    stats := {
      rawBytes
      rawChars := raw.length
      rawLines := Text.lineCount raw
      filteredChars := output.length
      filteredLines := Text.lineCount output } }

end OutputFilter

end Turnstile
