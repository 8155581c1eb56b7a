import Turnstile.Text.Lines

/-!
# Cutting text to a limit

Three cuts, each of which keeps a piece at one end of the text and leaves a text within its limit
alone: `cutChars` by characters, `cutLines` by lines, and `cutCharsByLine` by characters but in
whole lines.
-/

namespace Turnstile

/-- The end of a text that is worth keeping. -/
inductive Side where
  | top
  | bottom
  deriving DecidableEq, Repr

namespace Filter

open Text

/-- The first, or the last, `limit` characters. -/
def cutChars (limit : Nat) (keep : Side) (text : List Char) : List Char :=
  if text.length ≤ limit then text
  else match keep with
    | .top => text.take limit
    | .bottom => text.drop (text.length - limit)

/-- The first, or the last, `limit` lines. -/
def cutLines (limit : Nat) (keep : Side) (text : List Char) : List Char :=
  let ls := lines text
  if ls.length ≤ limit then text
  else match keep with
    | .top => (ls.take limit).flatten
    | .bottom => (ls.drop (ls.length - limit)).flatten

/-- The lines from the first on that have at most `budget` characters together. -/
def fittingLines : Nat → List (List Char) → List (List Char)
  | _, [] => []
  | budget, line :: rest =>
    if line.length ≤ budget then line :: fittingLines (budget - line.length) rest else []

/-- The first, or the last, whole lines that have at most `limit` characters together. If not even
one line fits, that line is cut. -/
def cutCharsByLine (limit : Nat) (keep : Side) (text : List Char) : List Char :=
  if text.length ≤ limit then text
  else
    let kept := match keep with
      | .top => fittingLines limit (lines text)
      | .bottom => (fittingLines limit (lines text).reverse).reverse
    if kept.isEmpty then cutChars limit keep text else kept.flatten

end Filter

end Turnstile
