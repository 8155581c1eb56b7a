import Turnstile.Number.Word

/-!
# Binary floating point, exactly

A finite `Binary64` is `± significand · 2 ^ exponent`, with the significand below `2 ^ 53` and the
exponent at least `-1074`. All arithmetic goes through `ofRatio`, which rounds an exact quotient to
the nearest number and a tie to the even significand; nothing is ever rounded twice.
-/

namespace Turnstile

/-- The quotient of two numbers rounded to the nearest integer, a tie to the even one. -/
def roundHalfEven (num den : Nat) : Nat :=
  let q := num / den
  let r := num % den
  if 2 * r < den then q
  else if den < 2 * r then q + 1
  else if q % 2 = 0 then q else q + 1

/-- A number of the binary64 format. -/
inductive Binary64 where
  | finite (negative : Bool) (significand : Nat) (exponent : Int)
  | infinite (negative : Bool)
  | nan
  deriving DecidableEq, Repr, Inhabited

namespace Binary64

/-- The least exponent of a finite number. -/
def minExponent : Int := -1074

/-- The greatest exponent of a finite number. -/
def maxExponent : Int := 971

/-- The least significand whose first bit of 53 is set. -/
def leastFull : Nat := 4503599627370496

/-- Zero with a sign. -/
def zero (negative : Bool) : Binary64 := .finite negative 0 minExponent

/-- `num / den · 2 ^ (-e)` as a quotient of natural numbers. -/
def scaled (num den : Nat) (e : Int) : Nat × Nat :=
  if 0 ≤ e then (num, den <<< e.toNat) else (num <<< (-e).toNat, den)

/-- The number nearest to `± num / den`. Beyond the greatest finite number it is infinite. -/
def ofRatio (negative : Bool) (num den : Nat) : Binary64 :=
  if num = 0 then zero negative
  else
    -- `2 ^ (k - 1) < num / den < 2 ^ (k + 1)`
    let k : Int := (Nat.log2 num : Int) - (Nat.log2 den : Int)
    let (n, d) := scaled num den k
    let top := if d ≤ n then k else k - 1
    let e := max minExponent (top - 52)
    let (n, d) := scaled num den e
    let m := roundHalfEven n d
    let (m, e) := if m = 2 * leastFull then (leastFull, e + 1) else (m, e)
    if maxExponent < e then .infinite negative else .finite negative m e

/-- The number nearest to an integer. -/
def ofInt (n : Int) : Binary64 := ofRatio (n < 0) n.natAbs 1

/-- The number nearest to a natural number. -/
def ofNat (n : Nat) : Binary64 := ofRatio false n 1

/-- The number nearest to `± digits · 10 ^ exponent`. Exponents far outside the format's range are
decided by the number of digits, without computing the power. -/
def ofDecimal (negative : Bool) (digits : Nat) (exponent : Int) : Binary64 :=
  if digits = 0 then zero negative
  else
    let magnitude : Int := exponent + (Nat.log2 digits * 3 / 10 : Nat)
    if 400 < magnitude then .infinite negative
    else if magnitude < -400 - (Nat.log2 digits : Int) then zero negative
    else if 0 ≤ exponent then ofRatio negative (digits * Nat.pow 10 exponent.toNat) 1
    else ofRatio negative digits (Nat.pow 10 (-exponent).toNat)

/-- The magnitude of a finite number as a quotient of natural numbers. -/
def magnitude (m : Nat) (e : Int) : Nat × Nat :=
  if 0 ≤ e then (m <<< e.toNat, 1) else (m, 1 <<< (-e).toNat)

/-- True of numbers below zero; zero itself has a sign but is not below zero. -/
def isNegative : Binary64 → Bool
  | .finite negative m _ => negative && m != 0
  | .infinite negative => negative
  | .nan => false

/-- The natural number that a number is; `none` for all others. -/
def toNat? : Binary64 → Option Nat
  | .finite negative m e =>
    let (n, d) := magnitude m e
    if n % d = 0 ∧ (negative = false ∨ m = 0) then some (n / d) else none
  | _ => none

/-- The bits of a number, with one pattern for all that is not a number. -/
def toBits : Binary64 → Nat
  | .finite negative m e =>
    let sign := if negative then Word.half else 0
    if m < leastFull then sign + m
    else sign + (e + 1075).toNat * leastFull + (m - leastFull)
  | .infinite negative => (if negative then Word.half else 0) + 2047 * leastFull
  | .nan => 2047 * leastFull + leastFull / 2

/-- The product of two finite numbers that are not negative, rounded. -/
def product (m₁ : Nat) (e₁ : Int) (m₂ : Nat) (e₂ : Int) : Binary64 :=
  let (n₁, d₁) := magnitude m₁ e₁
  let (n₂, d₂) := magnitude m₂ e₂
  ofRatio false (n₁ * n₂) (d₁ * d₂)

/-- The quotient of two finite numbers that are not negative, rounded. -/
def quotient (m₁ : Nat) (e₁ : Int) (m₂ : Nat) (e₂ : Int) : Binary64 :=
  let (n₁, d₁) := magnitude m₁ e₁
  let (n₂, d₂) := magnitude m₂ e₂
  ofRatio false (n₁ * d₂) (d₁ * n₂)

/-- A number scaled by a power of ten, in one or a few roundings: the power itself is a rounded
number, no greater than `10 ^ 308`. There is none for a number that gets too big. -/
def scaleByTen? : Nat → Binary64 → Int → Option Binary64
  | fuel + 1, .finite s m e, places =>
    match ofNat (Nat.pow 10 (min places.natAbs 308)) with
    | .finite _ pm pe =>
      if m = 0 then some (.finite s m e)
      else if 308 < places then none
      else if 0 ≤ places then
        match product m e pm pe with
        | .infinite _ => none
        | x => some x
      else if -308 ≤ places then some (quotient m e pm pe)
      else scaleByTen? fuel (quotient m e pm pe) (places + 308)
    | _ => none
  | _, x, _ => some x

/-- The number nearest to `(1 - part / whole) · 100`, where the quotient, the difference and the
product are each rounded. -/
def percentMissing (part whole : Nat) : Binary64 :=
  match ofRatio false part 1, ofRatio false whole 1 with
  | .finite _ pm pe, .finite _ wm we =>
    let (pn, pd) := magnitude pm pe
    let (wn, wd) := magnitude wm we
    match ofRatio false (pn * wd) (pd * wn) with
    | .finite _ qm qe =>
      let (qn, qd) := magnitude qm qe
      let difference := if qn ≤ qd then ofRatio false (qd - qn) qd else ofRatio true (qn - qd) qd
      match difference with
      | .finite s m e =>
        let (n, d) := magnitude m e
        ofRatio s (n * 100) d
      | other => other
    | other => other
  | _, _ => .nan

end Binary64

end Turnstile
