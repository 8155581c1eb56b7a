import Turnstile.Number.Decimal

/-!
# Sizes before and after filtering
-/

namespace Turnstile

/-- The size of an output before and after filtering. -/
structure FilterStats where
  rawBytes : Nat := 0
  rawChars : Nat := 0
  rawLines : Nat := 0
  filteredChars : Nat := 0
  filteredLines : Nat := 0
  deriving DecidableEq, Repr, Inhabited

namespace FilterStats

/-- The share of characters that filtering removed, in percent; zero for an empty output. -/
def savings (s : FilterStats) : Binary64 :=
  if s.rawChars = 0 then .zero false else .percentMissing s.filteredChars s.rawChars

/-- One line about a tool's output. -/
def summary (s : FilterStats) (tool : String) : String :=
  "[" ++ tool ++ "] " ++ toString s.rawLines ++ " lines → " ++ toString s.filteredLines ++
    " lines, " ++ fixed 1 s.savings ++ "% filtered"

end FilterStats

end Turnstile
