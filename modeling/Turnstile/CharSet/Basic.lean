/-!
# Sets of characters

A `CharSet` is a list of ranges of code points in ascending order, no two of which touch. The
operations are those of sets; `contains` decides membership, and stops at the first range that lies
above the character.
-/

namespace Turnstile

/-- A set of characters as ascending, disjoint and non-adjacent ranges of code points. -/
structure CharSet where
  ranges : List (Nat × Nat)
  deriving DecidableEq, Repr, Inhabited

namespace CharSet

/-- The greatest code point. -/
def maxPoint : Nat := 0x10FFFF

/-- The set without members. -/
def empty : CharSet := ⟨[]⟩

/-- The set of all characters. -/
def all : CharSet := ⟨[(0, maxPoint)]⟩

/-- Membership in ascending ranges. -/
def containsIn (n : Nat) : List (Nat × Nat) → Bool
  | [] => false
  | (lo, hi) :: rest => if n < lo then false else if n ≤ hi then true else containsIn n rest

/-- Membership. -/
def contains (s : CharSet) (n : Nat) : Bool := containsIn n s.ranges

/-- Joins ranges that overlap or touch, given in ascending order of their lower ends. -/
def mergeSorted : List (Nat × Nat) → List (Nat × Nat) → List (Nat × Nat)
  | acc, [] => acc.reverse
  | [], r :: rest => mergeSorted [r] rest
  | (lo, hi) :: acc, r :: rest =>
    if r.1 ≤ hi + 1 then mergeSorted ((lo, max hi r.2) :: acc) rest
    else mergeSorted (r :: (lo, hi) :: acc) rest

/-- The set of the points of some ranges, in any order. -/
def ofRanges (rs : List (Nat × Nat)) : CharSet :=
  ⟨mergeSorted [] ((rs.filter fun r => r.1 ≤ r.2).mergeSort fun a b => a.1 ≤ b.1)⟩

/-- The set of some points. -/
def ofPoints (ps : List Nat) : CharSet := ofRanges (ps.map fun p => (p, p))

/-- The set of one character. -/
def singleton (c : Char) : CharSet := ⟨[(c.toNat, c.toNat)]⟩

/-- The characters from one to another. -/
def range (lo hi : Char) : CharSet := ofRanges [(lo.toNat, hi.toNat)]

/-- The points in one of two sets. -/
def union (s t : CharSet) : CharSet := ofRanges (s.ranges ++ t.ranges)

/-- The points from `next` on that lie in none of some ascending ranges. -/
def gaps (next : Nat) : List (Nat × Nat) → List (Nat × Nat)
  | [] => if next ≤ maxPoint then [(next, maxPoint)] else []
  | (lo, hi) :: rest =>
    if next < lo then (next, lo - 1) :: gaps (hi + 1) rest else gaps (hi + 1) rest

/-- The points that are not in a set. -/
def complement (s : CharSet) : CharSet := ⟨gaps 0 s.ranges⟩

/-- The points in both of two sets. -/
def inter (s t : CharSet) : CharSet := (s.complement.union t.complement).complement

/-- The points of one set that are not in another. -/
def diff (s t : CharSet) : CharSet := s.inter t.complement

/-- The points in exactly one of two sets. -/
def symmDiff (s t : CharSet) : CharSet := (s.diff t).union (t.diff s)

/-- True of a set that holds ASCII characters only. -/
def isAscii (s : CharSet) : Bool := s.ranges.all fun r => r.2 < 0x80

/-! ## Tables -/

/-- The value of a hexadecimal digit. -/
def hexValue? (c : Char) : Option Nat :=
  if '0' ≤ c ∧ c ≤ '9' then some (c.toNat - '0'.toNat)
  else if 'a' ≤ c ∧ c ≤ 'f' then some (c.toNat - 'a'.toNat + 10)
  else if 'A' ≤ c ∧ c ≤ 'F' then some (c.toNat - 'A'.toNat + 10)
  else none

/-- Where the reader of a table stands: the ranges read, the lower end before a dash, and the number
under way. -/
structure TableReader where
  done : List (Nat × Nat) := []
  lower : Option Nat := none
  value : Nat := 0

/-- Ends the range under way. -/
def TableReader.close (r : TableReader) : TableReader :=
  { done := (r.lower.getD r.value, r.value) :: r.done }

/-- Reads one character of a table. -/
def TableReader.step (r : TableReader) (c : Char) : TableReader :=
  if c = ' ' then r.close
  else if c = '-' then { r with lower := some r.value, value := 0 }
  else match hexValue? c with
    | some d => { r with value := r.value * 16 + d }
    | none => r

/-- The set that a table of hexadecimal ranges such as `41-5A 61-7A AA` lists, in ascending
order. -/
def ofTable (table : String) : CharSet :=
  ⟨((table.toList.foldl TableReader.step {}).close).done.reverse⟩

end CharSet

end Turnstile
