import Turnstile.CharSet.Basic

/-!
# Regular expressions

The tree of a regular expression after its flags have been applied: which characters a position
admits is already a `CharSet`, and groups are gone, since matching asks only where a match starts
and ends.
-/

namespace Turnstile

/-- A condition on a position between two characters. -/
inductive Assertion where
  /-- The start of the text. -/
  | textStart
  /-- The end of the text. -/
  | textEnd
  /-- The start of a line; with the flag, carriage returns end lines too. -/
  | lineStart (crlf : Bool)
  /-- The end of a line; with the flag, carriage returns end lines too. -/
  | lineEnd (crlf : Bool)
  /-- Between a word character and another; words are of ASCII only unless the flag is set. -/
  | wordBoundary (unicode : Bool)
  | notWordBoundary (unicode : Bool)
  /-- A word starts here. -/
  | wordStart (unicode : Bool)
  /-- A word ends here. -/
  | wordEnd (unicode : Bool)
  /-- No word character stands before. -/
  | wordStartHalf (unicode : Bool)
  /-- No word character stands after. -/
  | wordEndHalf (unicode : Bool)
  deriving DecidableEq, Repr

/-- A regular expression. -/
inductive Regex where
  | empty
  | set (s : CharSet)
  | look (a : Assertion)
  | concat (parts : List Regex)
  /-- The earlier alternative is preferred. -/
  | alternate (branches : List Regex)
  /-- At least `least` and at most `most` copies; a greedy repetition prefers more. -/
  | repetition (least : Nat) (most : Option Nat) (greedy : Bool) (body : Regex)
  deriving Repr, Inhabited

namespace Regex

mutual

/-- True if the empty text may match. -/
def canBeEmpty : Regex → Bool
  | .empty => true
  | .set _ => false
  | .look _ => true
  | .concat parts => allCanBeEmpty parts
  | .alternate branches => someCanBeEmpty branches
  | .repetition least _ _ body => least == 0 || body.canBeEmpty

def allCanBeEmpty : List Regex → Bool
  | [] => true
  | r :: rest => r.canBeEmpty && allCanBeEmpty rest

def someCanBeEmpty : List Regex → Bool
  | [] => false
  | r :: rest => r.canBeEmpty || someCanBeEmpty rest

end

mutual

/-- True if no text but the empty one may match. -/
def isEmptyOnly : Regex → Bool
  | .empty => true
  | .set _ => false
  | .look _ => true
  | .concat parts => allEmptyOnly parts
  | .alternate branches => allEmptyOnly branches
  | .repetition _ most _ body => most == some 0 || body.isEmptyOnly

def allEmptyOnly : List Regex → Bool
  | [] => true
  | r :: rest => r.isEmptyOnly && allEmptyOnly rest

end

/-- A repetition. One of an expression that matches the empty text only is never repeated more than
once. -/
def mkRepetition (least : Nat) (most : Option Nat) (greedy : Bool) (body : Regex) : Regex :=
  let (least, most) :=
    if body.isEmptyOnly then (min least 1, some ((most.map (min · 1)).getD 1)) else (least, most)
  if most = some 0 then .empty
  else if least = 1 ∧ most = some 1 then body
  else .repetition least most greedy body

mutual

/-- An estimate of the octets that a compiled automaton over UTF-8 would take. -/
def weight : Regex → Nat
  | .empty => 0
  | .set s => if s.isAscii then 32 + 8 * s.ranges.length else 64 * (s.ranges.length + 1)
  | .look _ => 32
  | .concat parts => weights parts
  | .alternate branches => 32 + weights branches
  | .repetition least most _ body => (max 1 (most.getD (least + 1))) * (body.weight + 32)

def weights : List Regex → Nat
  | [] => 0
  | r :: rest => r.weight + weights rest

end

/-- The greatest weight of an expression that is accepted. -/
def maxWeight : Nat := 10485760

end Regex

end Turnstile
