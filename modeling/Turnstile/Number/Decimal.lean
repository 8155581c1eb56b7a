import Turnstile.Number.Binary64

/-!
# Decimal text of binary numbers

* `shortest` finds the fewest decimal digits that read back as the same number, and of those the
  nearest to it.
* A `FloatLayout` says how a format writes such digits: up to which exponents it stays positional,
  and whether a whole number keeps a fraction. `FloatLayout.plain` is always positional,
  `FloatLayout.json` turns to an exponent at both ends.
* `readFloat?` reads a decimal numeral, correctly rounded.
* `fixed` writes a number with a given number of places.
-/

namespace Turnstile

/-- Decimal digits and an exponent: `digits · 10 ^ exponent`. -/
structure Decimal where
  digits : Nat
  exponent : Int
  deriving DecidableEq, Repr

namespace Decimal

/-- The digits of a natural number in base ten. -/
def digitsOf (n : Nat) : List Char := Nat.toDigits 10 n

/-- `d` with trailing zeros moved into the exponent; the fuel bounds the number of zeros. -/
def stripZeros : Nat → Decimal → Decimal
  | 0, d => d
  | fuel + 1, d =>
    if d.digits ≠ 0 ∧ d.digits % 10 = 0 then stripZeros fuel ⟨d.digits / 10, d.exponent + 1⟩ else d

/-- The least `j`, from a given one on, with `n · 10 ^ j` at least `den`, where `n` is already
multiplied; the fuel bounds the search. -/
def placesToReach (den : Nat) : Nat → Nat → Nat → Nat
  | 0, j, _ => j
  | fuel + 1, j, n => if den ≤ n then j else placesToReach den fuel (j + 1) (n * 10)

/-- The exponent of the leading decimal digit of `num / den`, for a positive quotient. -/
def leadingExponent (num den : Nat) : Int :=
  if den ≤ num then ((digitsOf (num / den)).length : Int) - 1
  else -(placesToReach den 400 0 num : Int)

/-- Rounded to a grid: the two neighbours of `num / den` among the multiples of `10 ^ q`. -/
def neighbours (num den : Nat) (q : Int) : Nat × Nat :=
  let d := if 0 ≤ q then num / (den * Nat.pow 10 q.toNat) else num * Nat.pow 10 (-q).toNat / den
  (d, d + 1)

/-- `a / b < c / d` for positive denominators. -/
def ratioLt (a b c d : Nat) : Bool := a * d < c * b

/-- The value of a decimal as a quotient. -/
def ratio (d : Decimal) : Nat × Nat :=
  if 0 ≤ d.exponent then (d.digits * Nat.pow 10 d.exponent.toNat, 1)
  else (d.digits, Nat.pow 10 (-d.exponent).toNat)

/-- The ends of the interval of reals that round to the finite number with significand `m` and
exponent `e`, and whether the ends belong to it. -/
def roundingInterval (m : Nat) (e : Int) : (Nat × Nat) × (Nat × Nat) × Bool :=
  -- in quarters of the unit in the last place
  let low := if m = Binary64.leastFull ∧ Binary64.minExponent < e then 4 * m - 1 else 4 * m - 2
  (Binary64.magnitude low (e - 2), Binary64.magnitude (4 * m + 2) (e - 2), m % 2 = 0)

/-- True of decimals that read back as the number with the given interval. -/
def readsBack (interval : (Nat × Nat) × (Nat × Nat) × Bool) (d : Decimal) : Bool :=
  let ((ln, ld), (hn, hd), closed) := interval
  let (n, k) := d.ratio
  if closed then !ratioLt n k ln ld && !ratioLt hn hd n k
  else ratioLt ln ld n k && ratioLt n k hn hd

/-- The distance of a decimal from `num / den`, as a quotient. -/
def distance (num den : Nat) (d : Decimal) : Nat × Nat :=
  let (n, k) := d.ratio
  let a := n * den
  let b := num * k
  (if a ≤ b then b - a else a - b, k * den)

/-- The first grid, from the coarsest on, that has a point that reads back; of two such points the
nearer, and the even one of a tie. -/
def searchGrids (num den : Nat) (top : Int) (interval : (Nat × Nat) × (Nat × Nat) × Bool) :
    Nat → Nat → Decimal
  | 0, _ => ⟨0, 0⟩
  | fuel + 1, places =>
    let q := top - (places : Int)
    let (lo, hi) := neighbours num den q
    let below : Decimal := ⟨lo, q⟩
    let above : Decimal := ⟨hi, q⟩
    match readsBack interval below, readsBack interval above with
    | true, false => below
    | false, true => above
    | false, false => searchGrids num den top interval fuel (places + 1)
    | true, true =>
      let (an, ad) := distance num den below
      let (bn, bd) := distance num den above
      if ratioLt an ad bn bd then below
      else if ratioLt bn bd an ad then above
      else if lo % 2 = 0 then below else above

/-- The fewest digits that read back as the finite number `m · 2 ^ e`, nearest to it. -/
def shortest (m : Nat) (e : Int) : Decimal :=
  if m = 0 then ⟨0, 0⟩
  else
    let (num, den) := Binary64.magnitude m e
    stripZeros 400 (searchGrids num den (leadingExponent num den) (roundingInterval m e) 18 0)

/-- Positional text of a decimal: zeros fill the places between the digits and the point. -/
def positional (d : Decimal) (keepFraction : Bool) : List Char :=
  let ds := digitsOf d.digits
  if 0 ≤ d.exponent then
    let whole := if d.digits = 0 then ['0'] else ds ++ List.replicate d.exponent.toNat '0'
    if keepFraction then whole ++ ['.', '0'] else whole
  else
    let places := (-d.exponent).toNat
    let ds := List.replicate (places + 1 - ds.length) '0' ++ ds
    ds.take (ds.length - places) ++ '.' :: ds.drop (ds.length - places)

/-- Scientific text of a decimal: one digit before the point, and the exponent with its sign. -/
def scientific (d : Decimal) : List Char :=
  let ds := digitsOf d.digits
  let e := d.exponent + (ds.length : Int) - 1
  let mantissa := match ds with
    | [] => []
    | [c] => [c]
    | c :: rest => c :: '.' :: rest
  mantissa ++ 'e' :: (if e < 0 then '-' else '+') :: digitsOf e.natAbs

end Decimal

/-- How a format writes binary numbers in decimal. -/
structure FloatLayout where
  /-- The exponents of the leading digit that are written positionally, from `low` to below `high`;
  all of them when absent. -/
  positionalRange : Option (Int × Int)
  /-- Whether a whole number keeps a zero after the point. -/
  keepFraction : Bool

namespace FloatLayout

/-- Always positional, whole numbers without a point. -/
def plain : FloatLayout := ⟨none, false⟩

/-- The layout of numbers in JSON: positional from `1e-5` to below `1e16`, with a fraction. -/
def json : FloatLayout := ⟨some (-5, 16), true⟩

/-- The text of a number. -/
def render (layout : FloatLayout) : Binary64 → String
  | .nan => "NaN"
  | .infinite negative => if negative then "-inf" else "inf"
  | .finite negative m e =>
    let d := Decimal.shortest m e
    let top := d.exponent + ((Decimal.digitsOf d.digits).length : Int) - 1
    let isPositional := match layout.positionalRange with
      | none => true
      | some (low, high) => m = 0 || (low ≤ top && top < high)
    let body := if isPositional then d.positional layout.keepFraction else d.scientific
    String.ofList (if negative then '-' :: body else body)

end FloatLayout

/-- The text of a number with a fixed number of places, rounded to the nearest and a tie to the even
last digit. -/
def fixed (places : Nat) : Binary64 → String
  | .nan => "NaN"
  | .infinite negative => if negative then "-inf" else "inf"
  | .finite negative m e =>
    let (n, d) := Binary64.magnitude m e
    let q := roundHalfEven (n * Nat.pow 10 places) d
    let body := if places = 0 then Decimal.digitsOf q
      else Decimal.positional ⟨q, -(places : Int)⟩ false
    String.ofList (if negative then '-' :: body else body)

/-! ## Reading -/

/-- True of the digits of base ten. -/
def isDigit (c : Char) : Bool := '0' ≤ c && c ≤ '9'

/-- The value of a digit of base ten. -/
def digitValue (c : Char) : Nat := c.toNat - '0'.toNat

/-- The number that a list of digits writes in base ten. -/
def natOfDigits (ds : List Char) : Nat := ds.foldl (fun n c => n * 10 + digitValue c) 0

/-- An exponent with an optional sign; the whole rest must be digits, at least one. -/
def readExponent? (cs : List Char) : Option Int :=
  let (negative, ds) := match cs with
    | '-' :: rest => (true, rest)
    | '+' :: rest => (false, rest)
    | _ => (false, cs)
  if ds.isEmpty || !ds.all isDigit then none
  else
    let n : Int := natOfDigits ds
    some (if negative then -n else n)

/-- A number without sign: digits with at most one point, at least one digit, and an optional
exponent; or one of the words for infinity and for what is no number, in any case. -/
def readUnsigned? (negative : Bool) (cs : List Char) : Option Binary64 :=
  let word := String.ofList (cs.map Char.toLower)
  if word == "inf" || word == "infinity" then some (.infinite negative)
  else if word == "nan" then some .nan
  else
    let whole := cs.takeWhile isDigit
    let rest := cs.dropWhile isDigit
    let (fraction, rest) := match rest with
      | '.' :: rest => (rest.takeWhile isDigit, rest.dropWhile isDigit)
      | _ => ([], rest)
    if whole.isEmpty && fraction.isEmpty then none
    else
      let digits := natOfDigits (whole ++ fraction)
      let places : Int := fraction.length
      match rest with
      | [] => some (.ofDecimal negative digits (-places))
      | c :: rest =>
        if c = 'e' || c = 'E' then
          (readExponent? rest).map fun e => .ofDecimal negative digits (e - places)
        else none

/-- The number that a decimal numeral writes, correctly rounded; `none` for other texts. -/
def readFloat? (s : String) : Option Binary64 :=
  match s.toList with
  | '-' :: rest => readUnsigned? true rest
  | '+' :: rest => readUnsigned? false rest
  | cs => readUnsigned? false cs

end Turnstile
