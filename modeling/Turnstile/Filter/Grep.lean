import Turnstile.Text.Lines

/-!
# Selecting lines

`grep` keeps the lines that satisfy a condition and those within a distance of one. A line is
tested without its newline.
-/

namespace Turnstile.Filter

open Text

/-- Marks the lines that are at most `context` lines behind a marked one. -/
def coverBehind (context : Nat) (marks : List Bool) : List Bool :=
  (marks.foldl (fun (left, acc) mark =>
    if mark then (context, true :: acc) else (left - 1, decide (0 < left) :: acc))
    ((0, []) : Nat × List Bool)).2.reverse

/-- Marks the lines that are at most `context` lines away from a marked one. -/
def cover (context : Nat) (marks : List Bool) : List Bool :=
  List.zipWith (· || ·) (coverBehind context marks)
    (coverBehind context marks.reverse).reverse

/-- The lines of a text that are at most `context` lines away from a line that satisfies the
condition. -/
def grep (isMatch : List Char → Bool) (context : Nat) (text : List Char) : List Char :=
  let ls := lines text
  let kept := cover context (ls.map fun line => isMatch (lineBody line))
  ((ls.zip kept).filter (·.2)).flatMap (·.1)

end Turnstile.Filter
