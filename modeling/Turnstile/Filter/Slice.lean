import Turnstile.Filter.Cut
import Turnstile.Text.Offset

/-!
# Cuts of octets

The cuts of a text, made on its octets: a cut counts characters or lines, works out an offset, and
keeps the octets on one side of it. Two of these steps can fail, and then the cut has no result:
there is no difference below zero (`minus?`), and no piece that begins or ends inside a character or
beyond the octets (`Side.slice?`).
-/

namespace Turnstile

open Text Utf8

/-- The octets before an offset, or those from it on. -/
def Side.slice? (keep : Side) (offset : Nat) (bs : Bytes) : Option Bytes :=
  if isBoundary bs offset then
    some (match keep with
      | .top => bs.take offset
      | .bottom => bs.drop offset)
  else none

namespace Filter

/-- The difference of two numbers. -/
def minus? (n m : Nat) : Option Nat := if m ≤ n then some (n - m) else none

/-- Where the cut by characters slices. -/
def charsOffset? (limit : Nat) (keep : Side) (text : List Char) : Option Nat :=
  match keep with
  | .top => some (charOffset text limit)
  | .bottom => (minus? text.length limit).map (charOffset text)

/-- The offset behind the lines from the first on that have at most `limit` characters together with
those that are used already. -/
def stopOfLines (limit : Nat) : (used stop : Nat) → List (List Char) → Nat
  | _, stop, [] => stop
  | used, stop, line :: rest =>
    if limit < used + line.length then stop
    else stopOfLines limit (used + line.length) (stop + size line) rest

/-- The offset in front of such lines, where the last line comes first. -/
def startOfLines? (limit : Nat) : (used start : Nat) → List (List Char) → Option Nat
  | _, start, [] => some start
  | used, start, line :: rest =>
    if limit < used + line.length then some start
    else do
      let start ← minus? start (size line)
      startOfLines? limit (used + line.length) start rest

/-- Where the cut by characters in whole lines slices. If not even one line fits, that is where the
cut by characters does. -/
def wholeLinesOffset? (limit : Nat) (keep : Side) (text : List Char) : Option Nat :=
  match keep with
  | .top =>
    let stop := stopOfLines limit 0 0 (lines text)
    if stop = 0 then charsOffset? limit .top text else some stop
  | .bottom => do
    let start ← startOfLines? limit 0 (size text) (lines text).reverse
    if start = size text then charsOffset? limit .bottom text else some start

/-- Where the cut by lines slices. -/
def linesOffset? (limit : Nat) (keep : Side) (text : List Char) : Option Nat :=
  match keep with
  | .top => some (totalSize ((lines text).take limit))
  | .bottom => minus? (size text) (totalSize ((lines text).reverse.take limit))

/-- The three cuts. -/
inductive Cut where
  | byChars
  | byWholeLines
  | byLines
  deriving DecidableEq, Repr

namespace Cut

/-- What the limit of a cut counts. -/
def count : Cut → List Char → Nat
  | .byChars, text => text.length
  | .byWholeLines, text => text.length
  | .byLines, text => lineCount text

/-- What a cut leaves of a text. -/
def apply : Cut → (limit : Nat) → (keep : Side) → List Char → List Char
  | .byChars => cutChars
  | .byWholeLines => cutCharsByLine
  | .byLines => cutLines

/-- Where a cut slices a text that is beyond its limit. -/
def offset? : Cut → (limit : Nat) → (keep : Side) → List Char → Option Nat
  | .byChars => charsOffset?
  | .byWholeLines => wholeLinesOffset?
  | .byLines => linesOffset?

/-- What a cut leaves of the octets of a text. -/
def slice? (cut : Cut) (limit : Nat) (keep : Side) (bs : Bytes) : Option Bytes := do
  let text ← decode? bs
  if cut.count text.toList ≤ limit then some bs
  else
    let offset ← cut.offset? limit keep text.toList
    keep.slice? offset bs

end Cut

end Filter

end Turnstile
