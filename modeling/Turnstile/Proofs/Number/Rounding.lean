import Mathlib.Algebra.Order.Field.Power
import Mathlib.Data.Int.Log
import Mathlib.Data.Rat.Floor
import Mathlib.Tactic.FieldSimp
import Mathlib.Tactic.Linarith
import Mathlib.Tactic.NormNum
import Mathlib.Tactic.Positivity
import Mathlib.Tactic.Ring
import Turnstile.Number.Binary64

/-!
# Rounding is monotone

`ofRatio` puts a quotient on a grid that is as fine as its leading bit allows (`gridExponent`), and
rounds it there to the nearest integer (`onGrid`). A greater quotient has a grid that is not finer.
On the same grid rounding is monotone (`roundHalfEven_mono`). On a coarser grid the greater
quotient has all 53 bits (`leastFull_le_onGrid`), and no more than 53 bits come from the finer one
(`onGrid_le`).

**Theorem** (`AtMost.ofRatio`): a quotient that is not greater is rounded to a number that is not
greater, and so to a finite one. With a bound that is itself a number this is all that is needed of
a chain of roundings: `percentMissing_atMost`.
-/

namespace Turnstile

/-! ### To the nearest integer -/

/-- Rounding gives at most `k` up to the middle between `k` and `k + 1`, and in the middle if `k`
is even. -/
theorem roundHalfEven_le_iff {num den k : Nat} (hden : 0 < den) :
    roundHalfEven num den ≤ k ↔
      2 * num < (2 * k + 1) * den ∨ 2 * num = (2 * k + 1) * den ∧ k % 2 = 0 := by
  have hnum : num = num / den * den + num % den := (Nat.div_add_mod' num den).symm
  have hr : num % den < den := Nat.mod_lt num hden
  have hmiddle : (2 * k + 1) * den = 2 * (k * den) + den := by ring
  rw [hmiddle]
  unfold roundHalfEven
  dsimp only
  generalize num / den = q at hnum ⊢
  generalize num % den = r at hnum hr ⊢
  rcases Nat.lt_trichotomy q k with hlt | heq | hgt
  · have hstep : (q + 1) * den ≤ k * den := Nat.mul_le_mul_right den hlt
    rw [Nat.succ_mul] at hstep
    split_ifs <;> omega
  · subst heq
    split_ifs <;> omega
  · have hstep : (k + 1) * den ≤ q * den := Nat.mul_le_mul_right den hgt
    rw [Nat.succ_mul] at hstep
    split_ifs <;> omega

/-- A quotient that is not greater is rounded to an integer that is not greater. -/
theorem roundHalfEven_mono {num den num' den' : Nat} (hden : 0 < den) (hden' : 0 < den')
    (h : num * den' ≤ num' * den) : roundHalfEven num den ≤ roundHalfEven num' den' := by
  have hself := (@roundHalfEven_le_iff num' den' _ hden').mp (Nat.le_refl _)
  generalize roundHalfEven num' den' = k at hself
  rw [roundHalfEven_le_iff hden]
  have hscaled : 2 * num * den' ≤ 2 * num' * den := by
    rw [Nat.mul_assoc, Nat.mul_assoc]
    exact Nat.mul_le_mul_left 2 h
  rcases hself with hlt | ⟨heq, heven⟩
  · left
    apply Nat.lt_of_mul_lt_mul_right (a := den')
    calc 2 * num * den' ≤ 2 * num' * den := hscaled
      _ < (2 * k + 1) * den' * den := Nat.mul_lt_mul_of_pos_right hlt hden
      _ = (2 * k + 1) * den * den' := by ring
  · have hle : 2 * num ≤ (2 * k + 1) * den := by
      apply Nat.le_of_mul_le_mul_right _ hden'
      calc 2 * num * den' ≤ 2 * num' * den := hscaled
        _ = (2 * k + 1) * den * den' := by rw [heq]; ring
    rcases Nat.lt_or_eq_of_le hle with hlt | heq
    · exact .inl hlt
    · exact .inr ⟨heq, heven⟩

/-- An integer is its own nearest integer. -/
theorem roundHalfEven_one (n : Nat) : roundHalfEven n 1 = n := by
  simp [roundHalfEven, Nat.mod_one]

/-- A ratio up to a whole number is not rounded beyond it. -/
theorem roundHalfEven_le {num den b : Nat} (hden : 0 < den) (h : num ≤ b * den) :
    roundHalfEven num den ≤ b := by
  rw [← roundHalfEven_one b]
  exact roundHalfEven_mono hden Nat.one_pos (by simpa using h)

/-- A ratio from a whole number on is not rounded below it. -/
theorem le_roundHalfEven {num den b : Nat} (hden : 0 < den) (h : b * den ≤ num) :
    b ≤ roundHalfEven num den := by
  rw [← roundHalfEven_one b]
  exact roundHalfEven_mono Nat.one_pos hden (by simpa using h)

namespace Binary64

/-! ### Numbers as quotients -/

/-- No number is written with the denominator zero. -/
theorem magnitude_pos (m : Nat) (e : Int) : 0 < (magnitude m e).2 := by
  unfold magnitude
  split_ifs
  · exact Nat.one_pos
  · rw [Nat.shiftLeft_eq]
    positivity

/-- The ratio of a number is its significand at its exponent. -/
theorem magnitude_div (m : Nat) (e : Int) :
    ((magnitude m e).1 : ℚ) / (magnitude m e).2 = m * 2 ^ e := by
  unfold magnitude
  split_ifs with he
  · obtain ⟨k, rfl⟩ := Int.eq_ofNat_of_zero_le he
    simp [Nat.shiftLeft_eq]
  · obtain ⟨k, hk⟩ := Int.eq_ofNat_of_zero_le (show 0 ≤ -e by omega)
    obtain rfl : e = -k := by omega
    simp [Nat.shiftLeft_eq, div_eq_mul_inv]

section ratio

variable {num den : Nat}

/-- To scale a ratio keeps its denominator positive. -/
theorem scaled_pos (hden : 0 < den) (e : Int) : 0 < (scaled num den e).2 := by
  unfold scaled
  split_ifs
  · rw [Nat.shiftLeft_eq]
    positivity
  · exact hden

/-- A scaled ratio is the ratio, divided by a power of two. -/
theorem scaled_div (e : Int) :
    ((scaled num den e).1 : ℚ) / (scaled num den e).2 = (num / den : ℚ) * 2 ^ (-e) := by
  unfold scaled
  split_ifs with he
  · obtain ⟨k, rfl⟩ := Int.eq_ofNat_of_zero_le he
    simp [Nat.shiftLeft_eq, div_eq_mul_inv, mul_assoc, mul_comm]
  · obtain ⟨k, hk⟩ := Int.eq_ofNat_of_zero_le (show 0 ≤ -e by omega)
    obtain rfl : e = -k := by omega
    simp [Nat.shiftLeft_eq]
    ring

/-! ### The grid of a quotient -/

/-- The exponent of the leading bit of a quotient. -/
def leadingBit (num den : Nat) : Int :=
  let k : Int := (Nat.log2 num : Int) - (Nat.log2 den : Int)
  if (scaled num den k).2 ≤ (scaled num den k).1 then k else k - 1

/-- The exponent of the last bit that is kept of a quotient. -/
def gridExponent (num den : Nat) : Int := max minExponent (leadingBit num den - 52)

/-- The integer that a quotient is rounded to, with the last bit at `e`. -/
def onGrid (num den : Nat) (e : Int) : Nat :=
  roundHalfEven (scaled num den e).1 (scaled num den e).2

/-- The number on a grid; a 54th bit makes the grid coarser. -/
def ofGrid (negative : Bool) (m : Nat) (e : Int) : Binary64 :=
  let (m, e) := if m = 2 * leastFull then (leastFull, e + 1) else (m, e)
  if maxExponent < e then .infinite negative else .finite negative m e

/-- A ratio is rounded on the grid of its own exponent. -/
theorem ofRatio_eq_ofGrid (negative : Bool) (hnum : num ≠ 0) :
    ofRatio negative num den =
      ofGrid negative (onGrid num den (gridExponent num den)) (gridExponent num den) := by
  rw [ofRatio, if_neg hnum]
  rfl

/-- The exponent of the greatest power of two that is not above a rational number. -/
theorem log_eq {x : ℚ} {t : Int} (hlow : 2 ^ t ≤ x) (hhigh : x < 2 ^ (t + 1)) :
    Int.log 2 x = t := by
  have hpow : (0 : ℚ) < 2 ^ t := by positivity
  have hx : 0 < x := lt_of_lt_of_le hpow hlow
  have hge : t ≤ Int.log 2 x :=
    (Int.zpow_le_iff_le_log Nat.one_lt_two hx).mp (by exact_mod_cast hlow)
  have hlt : Int.log 2 x < t + 1 :=
    (Int.lt_zpow_iff_log_lt Nat.one_lt_two hx).mp (by exact_mod_cast hhigh)
  omega

/-- The lengths of a quotient's two parts give its leading bit up to one place. -/
theorem ratio_bounds (hnum : 0 < num) (hden : 0 < den) :
    (2 : ℚ) ^ ((Nat.log2 num : Int) - Nat.log2 den - 1) ≤ num / den ∧
      (num / den : ℚ) < 2 ^ ((Nat.log2 num : Int) - Nat.log2 den + 1) := by
  have hdenQ : (0 : ℚ) < den := by exact_mod_cast hden
  have hnumLow : (2 : ℚ) ^ Nat.log2 num ≤ num := by exact_mod_cast Nat.log2_self_le (by omega)
  have hnumHigh : (num : ℚ) < 2 ^ (Nat.log2 num + 1) := by exact_mod_cast Nat.lt_log2_self
  have hdenLow : (2 : ℚ) ^ Nat.log2 den ≤ den := by exact_mod_cast Nat.log2_self_le (by omega)
  have hdenHigh : (den : ℚ) < 2 ^ (Nat.log2 den + 1) := by exact_mod_cast Nat.lt_log2_self
  have htwo : (2 : ℚ) ≠ 0 := by norm_num
  constructor
  · rw [le_div_iff₀ hdenQ]
    calc (2 : ℚ) ^ ((Nat.log2 num : Int) - Nat.log2 den - 1) * den
        ≤ 2 ^ ((Nat.log2 num : Int) - Nat.log2 den - 1) * 2 ^ (Nat.log2 den + 1) := by gcongr
      _ = 2 ^ Nat.log2 num := by
        rw [← zpow_natCast, ← zpow_natCast, ← zpow_add₀ htwo]
        congr 1
        push_cast
        ring
      _ ≤ num := hnumLow
  · rw [div_lt_iff₀ hdenQ]
    calc (num : ℚ) < 2 ^ (Nat.log2 num + 1) := hnumHigh
      _ = 2 ^ ((Nat.log2 num : Int) - Nat.log2 den + 1) * 2 ^ Nat.log2 den := by
        rw [← zpow_natCast, ← zpow_natCast, ← zpow_add₀ htwo]
        congr 1
        push_cast
        ring
      _ ≤ 2 ^ ((Nat.log2 num : Int) - Nat.log2 den + 1) * den := by gcongr

/-- At the last place `e`, a quotient is rounded from `num / den / 2 ^ e`. -/
theorem scaled_le_iff (hden : 0 < den) (b : Nat) (e : Int) :
    b * (scaled num den e).2 ≤ (scaled num den e).1 ↔ (b * 2 ^ e : ℚ) ≤ num / den := by
  have hpos : (0 : ℚ) < (scaled num den e).2 := by exact_mod_cast scaled_pos hden e
  have hpow : (0 : ℚ) < 2 ^ e := by positivity
  have hcast : b * (scaled num den e).2 ≤ (scaled num den e).1 ↔
      (b : ℚ) * (scaled num den e).2 ≤ (scaled num den e).1 := by exact_mod_cast Iff.rfl
  rw [hcast, ← le_div_iff₀ hpos, scaled_div, zpow_neg, ← div_eq_mul_inv, le_div_iff₀ hpow]

/-- A bound from above may be scaled along. -/
theorem le_scaled_iff (hden : 0 < den) (b : Nat) (e : Int) :
    (scaled num den e).1 ≤ b * (scaled num den e).2 ↔ (num / den : ℚ) ≤ b * 2 ^ e := by
  have hpos : (0 : ℚ) < (scaled num den e).2 := by exact_mod_cast scaled_pos hden e
  have hpow : (0 : ℚ) < 2 ^ e := by positivity
  have hcast : (scaled num den e).1 ≤ b * (scaled num den e).2 ↔
      ((scaled num den e).1 : ℚ) ≤ b * (scaled num den e).2 := by exact_mod_cast Iff.rfl
  rw [hcast, ← div_le_iff₀ hpos, scaled_div, zpow_neg, ← div_eq_mul_inv, div_le_iff₀ hpow]

/-- The leading bit is the binary logarithm. -/
theorem leadingBit_eq (hnum : 0 < num) (hden : 0 < den) :
    leadingBit num den = Int.log 2 (num / den : ℚ) := by
  obtain ⟨hlow, hhigh⟩ := ratio_bounds hnum hden
  unfold leadingBit
  dsimp only
  generalize (Nat.log2 num : Int) - Nat.log2 den = k at hlow hhigh
  have hiff : 1 * (scaled num den k).2 ≤ (scaled num den k).1 ↔
      ((1 : Nat) * 2 ^ k : ℚ) ≤ num / den := scaled_le_iff hden 1 k
  rw [Nat.one_mul, Nat.cast_one, one_mul] at hiff
  symm
  split_ifs with hk
  · exact log_eq (hiff.mp hk) hhigh
  · rw [hiff, not_le] at hk
    exact log_eq hlow (by simpa using hk)

/-- A bound on the grid is not passed from below. -/
theorem onGrid_le (hden : 0 < den) {b : Nat} {e : Int} (h : (num / den : ℚ) ≤ b * 2 ^ e) :
    onGrid num den e ≤ b :=
  roundHalfEven_le (scaled_pos hden e) ((le_scaled_iff hden b e).mpr h)

/-- Nor is it passed from above. -/
theorem le_onGrid (hden : 0 < den) {b : Nat} {e : Int} (h : (b * 2 ^ e : ℚ) ≤ num / den) :
    b ≤ onGrid num den e :=
  le_roundHalfEven (scaled_pos hden e) ((scaled_le_iff hden b e).mpr h)

/-- What is kept of a quotient has at most 53 bits, or rounds up to the first number with 54. -/
theorem onGrid_le_full (hnum : 0 < num) (hden : 0 < den) :
    onGrid num den (gridExponent num den) ≤ 2 * leastFull := by
  apply onGrid_le hden
  have hhigh := (Int.lt_zpow_succ_log_self Nat.one_lt_two (num / den : ℚ)).le
  rw [← leadingBit_eq hnum hden] at hhigh
  have hexponent : leadingBit num den + 1 ≤ 53 + gridExponent num den := by
    unfold gridExponent
    omega
  calc (num / den : ℚ) ≤ 2 ^ (leadingBit num den + 1) := by exact_mod_cast hhigh
    _ ≤ 2 ^ (53 + gridExponent num den) := zpow_le_zpow_right₀ (by norm_num) hexponent
    _ = (2 * leastFull : ℕ) * 2 ^ gridExponent num den := by
      rw [zpow_add₀ (by norm_num)]
      norm_num [leastFull]

/-- Above the least exponent, all 53 bits are kept. -/
theorem leastFull_le_onGrid (hnum : 0 < num) (hden : 0 < den)
    (h : minExponent < gridExponent num den) :
    leastFull ≤ onGrid num den (gridExponent num den) := by
  apply le_onGrid hden
  have hratio : (0 : ℚ) < num / den := by positivity
  have hlow := Int.zpow_log_le_self Nat.one_lt_two hratio
  rw [← leadingBit_eq hnum hden] at hlow
  have hexponent : 52 + gridExponent num den = leadingBit num den := by
    unfold gridExponent at *
    omega
  calc (leastFull * 2 ^ gridExponent num den : ℚ) = 2 ^ (52 + gridExponent num den) := by
        rw [zpow_add₀ (by norm_num)]
        norm_num [leastFull]
    _ = 2 ^ leadingBit num den := by rw [hexponent]
    _ ≤ num / den := by exact_mod_cast hlow

end ratio

/-! ### Two quotients -/

section monotone

variable {num den num' den' : Nat}

/-- Ratios are compared crosswise. -/
theorem ratio_le_iff (hden : 0 < den) (hden' : 0 < den') :
    (num / den : ℚ) ≤ num' / den' ↔ num * den' ≤ num' * den := by
  have hdenQ : (0 : ℚ) < den := by exact_mod_cast hden
  have hdenQ' : (0 : ℚ) < den' := by exact_mod_cast hden'
  rw [div_le_div_iff₀ hdenQ hdenQ']
  exact_mod_cast Iff.rfl

/-- A greater ratio has no finer grid. -/
theorem gridExponent_mono (hnum : 0 < num) (hden : 0 < den) (hnum' : 0 < num') (hden' : 0 < den')
    (h : num * den' ≤ num' * den) : gridExponent num den ≤ gridExponent num' den' := by
  have hratio : (0 : ℚ) < num / den := by positivity
  have hlog := Int.log_mono_right (b := 2) hratio ((ratio_le_iff hden hden').mpr h)
  unfold gridExponent
  rw [leadingBit_eq hnum hden, leadingBit_eq hnum' hden']
  omega

/-- On one grid, rounding keeps the order. -/
theorem onGrid_mono (hden : 0 < den) (hden' : 0 < den') (h : num * den' ≤ num' * den) (e : Int) :
    onGrid num den e ≤ onGrid num' den' e := by
  apply roundHalfEven_mono (scaled_pos hden e) (scaled_pos hden' e)
  rw [← ratio_le_iff (scaled_pos hden e) (scaled_pos hden' e), scaled_div, scaled_div]
  have hratio := (ratio_le_iff hden hden').mpr h
  gcongr

/-- A number that is not negative and at most a rational number. -/
def AtMost (y : ℚ) (x : Binary64) : Prop := ∃ m e, x = .finite false m e ∧ (m * 2 ^ e : ℚ) ≤ y

/-- A finite number is bounded as its value is. -/
theorem atMost_finite_iff {y : ℚ} {m : Nat} {e : Int} :
    AtMost y (.finite false m e) ↔ (m * 2 ^ e : ℚ) ≤ y := by
  constructor
  · rintro ⟨m', e', heq, hle⟩
    cases heq
    exact hle
  · intro hle
    exact ⟨m, e, rfl, hle⟩

/-- What has overflowed has no bound. -/
theorem not_atMost_infinite {y : ℚ} {negative : Bool} : ¬ AtMost y (.infinite negative) := by
  rintro ⟨m, e, heq, -⟩
  cases heq

/-- A quotient beyond the greatest finite number is infinite, and any other has a finite number. -/
theorem ofRatio_eq_infinite_or (num den : Nat) :
    ofRatio false num den = .infinite false ∨ ∃ y, AtMost y (ofRatio false num den) := by
  by_cases hzero : num = 0
  · right
    rw [ofRatio, if_pos hzero]
    exact ⟨_, 0, minExponent, rfl, le_refl _⟩
  · rw [ofRatio_eq_ofGrid false hzero]
    unfold ofGrid
    dsimp only
    split_ifs
    · exact .inl rfl
    · exact .inr ⟨_, atMost_finite_iff.mpr (le_refl _)⟩
    · exact .inl rfl
    · exact .inr ⟨_, atMost_finite_iff.mpr (le_refl _)⟩

/-- Making the grid coarser leaves the value as it is. -/
theorem atMost_ofGrid_iff {y : ℚ} {m : Nat} {e : Int} :
    AtMost y (ofGrid false m e) ↔
      (if m = 2 * leastFull then e + 1 else e) ≤ maxExponent ∧ (m * 2 ^ e : ℚ) ≤ y := by
  unfold ofGrid
  by_cases hm : m = 2 * leastFull
  · have hcarry : (leastFull * 2 ^ (e + 1) : ℚ) = m * 2 ^ e := by
      rw [hm, zpow_add₀ (by norm_num)]
      push_cast
      ring
    simp only [if_pos hm]
    by_cases he : maxExponent < e + 1
    · simp [he, not_le.mpr he, not_atMost_infinite]
    · simp [he, not_lt.mp he, atMost_finite_iff, hcarry]
  · simp only [if_neg hm]
    by_cases he : maxExponent < e
    · simp [he, not_le.mpr he, not_atMost_infinite]
    · simp [he, not_lt.mp he, atMost_finite_iff]

/-- On its grid, a quotient that is not greater is a number that is not greater. -/
theorem onGrid_mul_le (hnum : 0 < num) (hden : 0 < den) (hnum' : 0 < num') (hden' : 0 < den')
    (h : num * den' ≤ num' * den) :
    (onGrid num den (gridExponent num den) * 2 ^ gridExponent num den : ℚ) ≤
      onGrid num' den' (gridExponent num' den') * 2 ^ gridExponent num' den' := by
  rcases Int.lt_or_eq_of_le (gridExponent_mono hnum hden hnum' hden' h) with hlt | heq
  · have hfull : (onGrid num den (gridExponent num den) : ℚ) ≤ (2 * leastFull : ℕ) := by
      exact_mod_cast onGrid_le_full hnum hden
    have hmin : minExponent < gridExponent num' den' :=
      Int.lt_of_le_of_lt (Int.le_max_left _ _) hlt
    have hleast : (leastFull : ℚ) ≤ onGrid num' den' (gridExponent num' den') := by
      exact_mod_cast leastFull_le_onGrid hnum' hden' hmin
    calc (onGrid num den (gridExponent num den) * 2 ^ gridExponent num den : ℚ)
        ≤ (2 * leastFull : ℕ) * 2 ^ gridExponent num den := by gcongr
      _ = leastFull * 2 ^ (gridExponent num den + 1) := by
        rw [zpow_add₀ (by norm_num)]
        push_cast
        ring
      _ ≤ leastFull * 2 ^ gridExponent num' den' := by
        gcongr
        · norm_num
        · omega
      _ ≤ onGrid num' den' (gridExponent num' den') * 2 ^ gridExponent num' den' := by gcongr
  · rw [← heq]
    have hmono : (onGrid num den (gridExponent num den) : ℚ) ≤
        onGrid num' den' (gridExponent num den) := by
      exact_mod_cast onGrid_mono hden hden' h _
    gcongr

/-- A grid that has become coarser is at most as coarse as that of a greater quotient. -/
theorem coarsened_le (hnum : 0 < num) (hden : 0 < den) (hnum' : 0 < num') (hden' : 0 < den')
    (h : num * den' ≤ num' * den) {coarsest : Int}
    (hcoarse : (if onGrid num' den' (gridExponent num' den') = 2 * leastFull
      then gridExponent num' den' + 1 else gridExponent num' den') ≤ coarsest) :
    (if onGrid num den (gridExponent num den) = 2 * leastFull
      then gridExponent num den + 1 else gridExponent num den) ≤ coarsest := by
  have hfull := onGrid_le_full hnum' hden'
  rcases Int.lt_or_eq_of_le (gridExponent_mono hnum hden hnum' hden' h) with hlt | heq
  · split_ifs at hcoarse ⊢ <;> omega
  · have hmono := onGrid_mono hden hden' h (gridExponent num den)
    rw [← heq] at hfull hcoarse
    split_ifs at hcoarse ⊢ <;> omega

/-- **A quotient that is not greater is rounded to a number that is not greater.** -/
theorem AtMost.ofRatio {y : ℚ} (hden : 0 < den) (hden' : 0 < den')
    (hy : AtMost y (ofRatio false num' den')) (h : num * den' ≤ num' * den) :
    AtMost y (ofRatio false num den) := by
  by_cases hzero : num = 0
  · obtain ⟨m, e, -, hle⟩ := hy
    have hpos : (0 : ℚ) ≤ m * 2 ^ e := by positivity
    rw [Binary64.ofRatio, if_pos hzero]
    refine ⟨0, minExponent, rfl, ?_⟩
    simpa using hpos.trans hle
  · have hnum : 0 < num := Nat.pos_of_ne_zero hzero
    have hnum' : 0 < num' := by
      apply Nat.pos_of_ne_zero
      rintro rfl
      have hprod := Nat.mul_pos hnum hden'
      omega
    rw [ofRatio_eq_ofGrid false (by omega), atMost_ofGrid_iff] at hy ⊢
    obtain ⟨hcoarse, hle⟩ := hy
    exact ⟨coarsened_le hnum hden hnum' hden' h hcoarse,
      (onGrid_mul_le hnum hden hnum' hden' h).trans hle⟩

end monotone

/-! ### Percentages -/

/-- A number up to one has no greater numerator than denominator. -/
theorem magnitude_le {m : Nat} {e : Int} (h : (m * 2 ^ e : ℚ) ≤ 1) :
    (magnitude m e).1 ≤ (magnitude m e).2 := by
  have hpos : (0 : ℚ) < (magnitude m e).2 := by exact_mod_cast magnitude_pos m e
  rw [← magnitude_div, div_le_one hpos] at h
  exact_mod_cast h

/-- One is written exactly. -/
theorem ofRatio_one : ofRatio false 1 1 = .finite false leastFull (-52) := by decide

/-- One is at most one. -/
theorem atMost_one : AtMost 1 (ofRatio false 1 1) := by
  rw [ofRatio_one, atMost_finite_iff]
  norm_num [leastFull]

/-- A hundred is at most a hundred. -/
theorem atMost_hundred : AtMost 100 (ofRatio false 100 1) := by
  have hundred : ofRatio false 100 1 = .finite false 7036874417766400 (-46) := by decide
  rw [hundred, atMost_finite_iff]
  norm_num

/-- A count that is a word is rounded to a finite number. -/
theorem exists_atMost_of_word {n : Nat} (h : n < Word.count) :
    ∃ y, AtMost y (ofRatio false n 1) := by
  have hcount : ofRatio false Word.count 1 = .finite false leastFull 12 := by decide
  have hbound : AtMost (leastFull * 2 ^ (12 : Int)) (ofRatio false Word.count 1) := by
    rw [hcount, atMost_finite_iff]
  exact ⟨_, hbound.ofRatio Nat.one_pos Nat.one_pos (by omega)⟩

/-- A number divided by one that is not less is rounded to at most the number 1. -/
theorem quotient_atMost {pm wm : Nat} {pe we : Int} (hpos : (0 : ℚ) < wm * 2 ^ we)
    (hle : (pm * 2 ^ pe : ℚ) ≤ wm * 2 ^ we) :
    AtMost 1 (ofRatio false ((magnitude pm pe).1 * (magnitude wm we).2)
      ((magnitude pm pe).2 * (magnitude wm we).1)) := by
  have hpd := magnitude_pos pm pe
  have hwd := magnitude_pos wm we
  rw [← magnitude_div wm we] at hpos
  have hwn : 0 < (magnitude wm we).1 := by
    apply Nat.pos_of_ne_zero
    intro hzero
    simp [hzero] at hpos
  rw [← magnitude_div pm pe, ← magnitude_div wm we, ratio_le_iff hpd hwd] at hle
  apply atMost_one.ofRatio (Nat.mul_pos hpd hwn) Nat.one_pos
  rw [Nat.mul_one, Nat.one_mul, Nat.mul_comm (magnitude pm pe).2]
  exact hle

/-- The missing share of a count that has a number is between zero and a hundred percent: each of
the roundings on the way is bounded by the number 1, and the last one by the number 100. -/
theorem percentMissing_atMost {part whole : Nat} (hwhole : 0 < whole) (hpart : part ≤ whole)
    {w : ℚ} (hw : AtMost w (ofRatio false whole 1)) : AtMost 100 (percentMissing part whole) := by
  obtain ⟨wm, we, hwhole', -⟩ := hw
  have hself : AtMost (wm * 2 ^ we) (ofRatio false whole 1) := ⟨wm, we, hwhole', le_refl _⟩
  obtain ⟨pm, pe, hpart', hple⟩ : AtMost (wm * 2 ^ we) (ofRatio false part 1) :=
    hself.ofRatio Nat.one_pos Nat.one_pos (by omega)
  have hwpos : (0 : ℚ) < wm * 2 ^ we := by
    have hone : AtMost (wm * 2 ^ we) (ofRatio false 1 1) :=
      hself.ofRatio Nat.one_pos Nat.one_pos (by omega)
    rw [ofRatio_one, atMost_finite_iff] at hone
    exact lt_of_lt_of_le (by norm_num [leastFull]) hone
  obtain ⟨qm, qe, hquotient, hqle⟩ := quotient_atMost hwpos hple
  have hqn := magnitude_le hqle
  obtain ⟨dm, de, hmissing, hdle⟩ : AtMost 1
      (ofRatio false ((magnitude qm qe).2 - (magnitude qm qe).1) (magnitude qm qe).2) :=
    atMost_one.ofRatio (magnitude_pos qm qe) Nat.one_pos (by omega)
  have hdn := magnitude_le hdle
  have hpercent : percentMissing part whole =
      ofRatio false ((magnitude dm de).1 * 100) (magnitude dm de).2 := by
    simp only [percentMissing, hpart', hwhole', hquotient, if_pos hqn, hmissing]
  rw [hpercent]
  exact atMost_hundred.ofRatio (magnitude_pos dm de) Nat.one_pos (by omega)

/-- Without a number for the count there is none for the share. -/
theorem percentMissing_of_infinite {part whole : Nat}
    (h : ofRatio false whole 1 = .infinite false) : percentMissing part whole = .nan := by
  unfold percentMissing
  rw [h]
  cases ofRatio false part 1 <;> rfl

end Binary64

end Turnstile
