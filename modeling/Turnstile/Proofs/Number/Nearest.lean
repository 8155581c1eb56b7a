import Turnstile.Proofs.Number.Rounding

/-!
# Integers in binary floating point

A natural number is *short* if it has at most 53 significant bits (`IsShort`). These are the natural
numbers that the format has, up to its greatest one.

**Theorem** (`isNearest_of_toNat?`): a natural number becomes the short number that is nearest to
it, and of two that are equally near the one whose last bit is not set (`IsNearest`). So a short
number stays what it is (`IsNearest.eq_of_isShort`).

* On the grid of a number, its nearest multiple of the unit is the nearest short number: a short
  number from the leading bit on is a multiple of the unit (`dvd_of_isShort`), and a lesser one is
  further away than the number that has nothing but the leading bit.
* An integer becomes the same number whether it is given as such or by its digits, and a negative
  one becomes no natural number (`Rounds`, `rounds_ofInt`, `rounds_ofDecimal`).
* There is one nearest number (`IsNearest.unique`), so up to the number of words this can be read
  in both directions (`Rounds.toNat?_eq_some_iff`).
-/

namespace Turnstile

/-! ### The nearest multiple -/

/-- The distance of two natural numbers. -/
def gap (a b : Nat) : Nat := ((a : Int) - b).natAbs

/-- Rounding a quotient finds the nearest multiple of the denominator, and of two that are equally
near the even one. -/
theorem gap_roundHalfEven_le {den : Nat} (hden : 0 < den) (num q : Nat) :
    gap num (roundHalfEven num den * den) ≤ gap num (q * den) ∧
      (q ≠ roundHalfEven num den →
        gap num (q * den) = gap num (roundHalfEven num den * den) →
        roundHalfEven num den % 2 = 0) := by
  have hnum : num = num / den * den + num % den := (Nat.div_add_mod' num den).symm
  have hr : num % den < den := Nat.mod_lt num hden
  unfold roundHalfEven gap
  dsimp only
  generalize num / den = a at hnum ⊢
  generalize num % den = r at hnum hr ⊢
  have hnext : (a + 1) * den = a * den + den := Nat.succ_mul a den
  rcases Nat.lt_trichotomy q a with hlt | heq | hgt
  · have hstep : (q + 1) * den ≤ a * den := Nat.mul_le_mul_right den hlt
    rw [Nat.succ_mul] at hstep
    split_ifs <;> omega
  · subst heq
    split_ifs <;> omega
  · obtain rfl | hlt : q = a + 1 ∨ a + 1 < q := by omega
    · split_ifs <;> omega
    · have hstep : (a + 1 + 1) * den ≤ q * den := Nat.mul_le_mul_right den hlt
      rw [Nat.succ_mul] at hstep
      split_ifs <;> omega

namespace Binary64

/-! ### Short numbers -/

/-- True of natural numbers with at most 53 significant bits. -/
def IsShort (k : Nat) : Prop := ∃ m j, m < 2 * leastFull ∧ k = m * 2 ^ j

/-- A short number that is as near as any, and if another is as near, has a significand of 53 bits
that is even. -/
structure IsNearest (n k : Nat) : Prop where
  isShort : IsShort k
  nearest : ∀ k', IsShort k' → gap n k ≤ gap n k'
  even : ∀ k', IsShort k' → k' ≠ k → gap n k' = gap n k →
    ∃ m j, m < 2 * leastFull ∧ m % 2 = 0 ∧ k = m * 2 ^ j

/-- Numbers of few bits are short. -/
theorem isShort_of_le {k : Nat} (h : k ≤ 2 * leastFull) : IsShort k := by
  obtain hk | rfl := Nat.lt_or_eq_of_le h
  · exact ⟨k, 0, hk, by rw [Nat.pow_zero, Nat.mul_one]⟩
  · exact ⟨leastFull, 1, by decide, by rw [Nat.pow_one, Nat.mul_comm]⟩

/-- A short number is the nearest one to itself, and no other is. -/
theorem isNearest_self {k : Nat} (h : IsShort k) : IsNearest k k where
  isShort := h
  nearest k' _ := by
    unfold gap
    omega
  even k' _ hne heq := by
    unfold gap at heq
    omega

/-- Zero is the nearest one to itself only. -/
theorem IsNearest.pos {n k : Nat} (h : IsNearest n k) (hn : 0 < n) : 0 < k := by
  have hle := h.nearest 1 (isShort_of_le (by decide))
  unfold gap at hle
  omega

/-- A short number is its own nearest. -/
theorem IsNearest.eq_of_isShort {n k : Nat} (h : IsNearest n k) (hn : IsShort n) : k = n := by
  have hle := h.nearest n hn
  unfold gap at hle
  omega

/-- A short number that is not less is a bound. -/
theorem IsNearest.le {n k b : Nat} (h : IsNearest n k) (hb : IsShort b) (hn : n ≤ b) : k ≤ b := by
  have hle := h.nearest b hb
  unfold gap at hle
  omega

/-- Of two that were equally near, one would have the lesser unit, and its neighbour in that unit
would lie between them: two even multiples of a unit are not neighbours. -/
theorem IsNearest.not_lt {n k k' : Nat} (h : IsNearest n k) (h' : IsNearest n k') : ¬ k < k' := by
  intro hlt
  have heq : gap n k = gap n k' :=
    Nat.le_antisymm (h.nearest k' h'.isShort) (h'.nearest k h.isShort)
  have hbetween (s : Nat) (hs : IsShort s) (hks : k < s) : k' ≤ s := by
    have hle := h.nearest s hs
    unfold gap at heq hle
    omega
  obtain ⟨m, j, hm, heven, rfl⟩ := h.even k' h'.isShort hlt.ne' heq.symm
  obtain ⟨m', j', hm', heven', rfl⟩ := h'.even _ h.isShort hlt.ne heq
  have hpos : 0 < m' := Nat.pos_of_mul_pos_right (Nat.zero_lt_of_lt hlt)
  have hunit : 0 < 2 ^ j := Nat.two_pow_pos j
  have hunit' : 0 < 2 ^ j' := Nat.two_pow_pos j'
  have habove : m' * 2 ^ j' ≤ (m + 1) * 2 ^ j :=
    hbetween _ ⟨m + 1, j, by omega, rfl⟩ (Nat.mul_lt_mul_of_pos_right (Nat.lt_succ_self m) hunit)
  have hbelow : (m' - 1) * 2 ^ j' ≤ m * 2 ^ j := by
    refine Nat.not_lt.mp fun hgt => ?_
    have hle := hbetween _ ⟨m' - 1, j', by omega, rfl⟩ hgt
    exact Nat.not_lt.mpr hle (Nat.mul_lt_mul_of_pos_right (Nat.sub_one_lt hpos.ne') hunit')
  rcases Nat.le_total j j' with hj | hj
  · obtain ⟨i, rfl⟩ := Nat.exists_eq_add_of_le' hj
    rw [Nat.pow_add, ← Nat.mul_assoc] at hlt habove
    have hless : m < m' * 2 ^ i := Nat.lt_of_mul_lt_mul_right hlt
    have hmore : m' * 2 ^ i ≤ m + 1 := Nat.le_of_mul_le_mul_right habove hunit
    have hparity : m' * 2 ^ i % 2 = 0 := by rw [Nat.mul_mod, heven', Nat.zero_mul, Nat.zero_mod]
    omega
  · obtain ⟨i, rfl⟩ := Nat.exists_eq_add_of_le' hj
    rw [Nat.pow_add, ← Nat.mul_assoc] at hlt hbelow
    have hless : m * 2 ^ i < m' := Nat.lt_of_mul_lt_mul_right hlt
    have hmore : m' - 1 ≤ m * 2 ^ i := Nat.le_of_mul_le_mul_right hbelow hunit'
    have hparity : m * 2 ^ i % 2 = 0 := by rw [Nat.mul_mod, heven, Nat.zero_mul, Nat.zero_mod]
    omega

/-- There is one nearest number. -/
theorem IsNearest.unique {n k k' : Nat} (h : IsNearest n k) (h' : IsNearest n k') : k = k' :=
  Nat.le_antisymm (Nat.not_lt.mp (h'.not_lt h)) (Nat.not_lt.mp (h.not_lt h'))

/-- A short number with a leading bit that is high enough is a multiple of a power of two. -/
theorem dvd_of_isShort {k g : Nat} (h : IsShort k) (hk : leastFull * 2 ^ g ≤ k) : 2 ^ g ∣ k := by
  obtain ⟨m, j, hm, rfl⟩ := h
  refine (Nat.pow_dvd_pow 2 ?_).mul_left m
  by_contra hlt
  have hpow : 2 * 2 ^ j ≤ 2 ^ g := by
    rw [← Nat.pow_succ']
    exact Nat.pow_le_pow_right (by decide) (by omega)
  have hlow : leastFull * (2 * 2 ^ j) ≤ m * 2 ^ j := (Nat.mul_le_mul_left _ hpow).trans hk
  rw [← Nat.mul_assoc, Nat.mul_comm leastFull 2] at hlow
  exact Nat.not_lt.mpr (Nat.le_of_mul_le_mul_right hlow (Nat.two_pow_pos j)) hm

/-- **On the grid of a number, its nearest multiple of the unit is the nearest short number.** -/
theorem isNearest_onUnit {n g : Nat} (hlow : leastFull * 2 ^ g ≤ n)
    (hhigh : n < 2 * leastFull * 2 ^ g) : IsNearest n (roundHalfEven n (2 ^ g) * 2 ^ g) := by
  have hunit : 0 < 2 ^ g := Nat.two_pow_pos g
  have hmultiple (q : Nat) := gap_roundHalfEven_le hunit n q
  have hfull : roundHalfEven n (2 ^ g) ≤ 2 * leastFull := roundHalfEven_le hunit hhigh.le
  have hleast : leastFull ≤ roundHalfEven n (2 ^ g) := le_roundHalfEven hunit hlow
  generalize roundHalfEven n (2 ^ g) = m at hmultiple hfull hleast ⊢
  -- The first number with 54 bits has a significand of 53 bits that is even.
  have hcarry (hm : m = 2 * leastFull) : m * 2 ^ g = leastFull * 2 ^ (g + 1) := by
    rw [hm, Nat.pow_succ']
    ring
  have hother (k' : Nat) (hk' : IsShort k') (hle : gap n k' ≤ gap n (m * 2 ^ g)) :
      ∃ q, k' = q * 2 ^ g := by
    by_contra hnone
    have hbelow : k' < leastFull * 2 ^ g := by
      by_contra hge
      obtain ⟨q, hq⟩ := dvd_of_isShort hk' (Nat.not_lt.mp hge)
      exact hnone ⟨q, by rw [hq, Nat.mul_comm]⟩
    have hlead := (hmultiple leastFull).1
    unfold gap at hle hlead
    omega
  refine ⟨?_, fun k' hk' => ?_, fun k' hk' hne heq => ?_⟩
  · obtain hm | hm := Nat.lt_or_eq_of_le hfull
    · exact ⟨m, g, hm, rfl⟩
    · exact ⟨leastFull, g + 1, by decide, hcarry hm⟩
  · by_contra hlt
    obtain ⟨q, rfl⟩ := hother k' hk' (Nat.le_of_not_le hlt)
    exact hlt (hmultiple q).1
  · obtain ⟨q, rfl⟩ := hother k' hk' heq.le
    have heven := (hmultiple q).2 (fun hq => hne (by rw [hq])) heq
    obtain hm | hm := Nat.lt_or_eq_of_le hfull
    · exact ⟨m, g, hm, heven, rfl⟩
    · exact ⟨leastFull, g + 1, by decide, by decide, hcarry hm⟩

/-! ### The number of a natural number -/

/-- A finite number is whole if its value is. -/
theorem toNat?_finite_iff {m : Nat} {e : Int} {k : Nat} :
    (Binary64.finite false m e).toNat? = some k ↔ (m * 2 ^ e : ℚ) = k := by
  have hpos := magnitude_pos m e
  have hposQ : ((magnitude m e).2 : ℚ) ≠ 0 := by exact_mod_cast hpos.ne'
  rw [← magnitude_div, div_eq_iff hposQ]
  unfold toNat?
  dsimp only
  have hcast : ((magnitude m e).1 : ℚ) = k * (magnitude m e).2 ↔
      (magnitude m e).1 = k * (magnitude m e).2 := by exact_mod_cast Iff.rfl
  rw [hcast]
  constructor
  · intro h
    split_ifs at h with hdvd
    cases h
    exact (Nat.div_mul_cancel (Nat.dvd_of_mod_eq_zero hdvd.1)).symm
  · intro h
    rw [h]
    simp [Nat.mul_div_cancel _ hpos]

/-- Making the grid coarser leaves the value as it is. -/
theorem toNat?_ofGrid_iff {m : Nat} {e : Int} {k : Nat} :
    (ofGrid false m e).toNat? = some k ↔
      (if m = 2 * leastFull then e + 1 else e) ≤ maxExponent ∧ (m * 2 ^ e : ℚ) = k := by
  unfold ofGrid
  by_cases hm : m = 2 * leastFull
  · have hcarry : (leastFull * 2 ^ (e + 1) : ℚ) = m * 2 ^ e := by
      rw [hm, zpow_add₀ (by norm_num)]
      push_cast
      ring
    simp only [if_pos hm]
    by_cases he : maxExponent < e + 1
    · simp [he, not_le.mpr he, toNat?]
    · simp only [he, not_lt.mp he, if_false, true_and, toNat?_finite_iff, hcarry]
  · simp only [if_neg hm]
    by_cases he : maxExponent < e
    · simp [he, not_le.mpr he, toNat?]
    · simp only [he, not_lt.mp he, if_false, true_and, toNat?_finite_iff]

section natural

variable {n : Nat}

/-- The last bit that is kept of a natural number is the 53rd. -/
theorem gridExponent_one (hn : 0 < n) : gridExponent n 1 = (Nat.log2 n : Int) - 52 := by
  have hself : 2 ^ Nat.log2 n ≤ n := Nat.log2_self_le (by omega)
  have hleading : leadingBit n 1 = Nat.log2 n := by
    simp [leadingBit, scaled, Nat.shiftLeft_eq, hself, show Nat.log2 1 = 0 from rfl]
  unfold gridExponent minExponent
  omega

/-- A natural number of at most 53 bits is on its grid. -/
theorem onGrid_one_of_short (hn : 0 < n) (hbits : Nat.log2 n ≤ 52) :
    (onGrid n 1 (gridExponent n 1) * 2 ^ gridExponent n 1 : ℚ) = n := by
  obtain ⟨k, hk⟩ := Nat.exists_eq_add_of_le hbits
  have hexponent : gridExponent n 1 = -(k : Int) := by
    rw [gridExponent_one hn]
    omega
  have hgrid : onGrid n 1 (-(k : Int)) = n * 2 ^ k := by
    unfold onGrid scaled
    split_ifs with h
    · obtain rfl : k = 0 := by omega
      simp [roundHalfEven_one]
    · simp [roundHalfEven_one, Nat.shiftLeft_eq]
  rw [hexponent, hgrid, zpow_neg, zpow_natCast]
  push_cast
  field_simp

/-- One with more bits is rounded to a multiple of its unit. -/
theorem onGrid_one_of_long {g : Nat} (hn : 0 < n) (hbits : Nat.log2 n = 52 + g) :
    (onGrid n 1 (gridExponent n 1) * 2 ^ gridExponent n 1 : ℚ) =
      (roundHalfEven n (2 ^ g) * 2 ^ g : Nat) := by
  have hexponent : gridExponent n 1 = g := by
    rw [gridExponent_one hn]
    omega
  have hgrid : onGrid n 1 g = roundHalfEven n (2 ^ g) := by
    simp [onGrid, scaled, Nat.shiftLeft_eq]
  rw [hexponent, hgrid, zpow_natCast]
  push_cast
  rfl

/-- The value of the number that a natural number becomes, if this is not infinite. -/
theorem exists_isNearest_onGrid (hn : 0 < n) :
    ∃ k, IsNearest n k ∧ (onGrid n 1 (gridExponent n 1) * 2 ^ gridExponent n 1 : ℚ) = k := by
  have hself : 2 ^ Nat.log2 n ≤ n := Nat.log2_self_le (by omega)
  have hnext : n < 2 ^ (Nat.log2 n + 1) := Nat.lt_log2_self
  rcases Nat.le_total (Nat.log2 n) 52 with hshort | hlong
  · refine ⟨n, isNearest_self (isShort_of_le (hnext.le.trans ?_)), onGrid_one_of_short hn hshort⟩
    exact Nat.pow_le_pow_right (by decide) (show Nat.log2 n + 1 ≤ 53 by omega)
  · obtain ⟨g, hg⟩ := Nat.exists_eq_add_of_le hlong
    refine ⟨_, isNearest_onUnit ?_ ?_, onGrid_one_of_long hn hg⟩
    · rwa [hg, Nat.pow_add] at hself
    · rwa [hg, Nat.add_right_comm, Nat.pow_add] at hnext

/-- **A natural number becomes the nearest short number**, unless it is too great for the format. -/
theorem isNearest_of_toNat? {k : Nat} (h : (ofRatio false n 1).toNat? = some k) :
    IsNearest n k := by
  obtain rfl | hn := Nat.eq_zero_or_pos n
  · have hzero : (ofRatio false 0 1).toNat? = some 0 := by decide
    rw [hzero] at h
    cases h
    exact isNearest_self (isShort_of_le (by decide))
  · obtain ⟨k', hnearest, hvalue⟩ := exists_isNearest_onGrid hn
    rw [ofRatio_eq_ofGrid false hn.ne', toNat?_ofGrid_iff, hvalue] at h
    have heq : k' = k := by exact_mod_cast h.2
    rwa [← heq]

/-- A word has a number, and so has what is twice as great. -/
theorem exists_toNat?_of_lt (h : n < 2 * Word.count) :
    ∃ k, (ofRatio false n 1).toNat? = some k := by
  obtain rfl | hn := Nat.eq_zero_or_pos n
  · exact ⟨0, by decide⟩
  · obtain ⟨k, -, hvalue⟩ := exists_isNearest_onGrid hn
    refine ⟨k, ?_⟩
    rw [ofRatio_eq_ofGrid false hn.ne', toNat?_ofGrid_iff]
    refine ⟨?_, hvalue⟩
    have hbits : Nat.log2 n < 65 := (Nat.log2_lt hn.ne').mpr h
    have hexponent := gridExponent_one hn
    unfold maxExponent
    split_ifs <;> omega

/-- Numbers below zero are no natural numbers. -/
theorem toNat?_ofGrid_of_negative {m : Nat} {e : Int} (hm : 0 < m) :
    (ofGrid true m e).toNat? = none := by
  have hleast : 0 < leastFull := by decide
  have hfinite {m : Nat} {e : Int} (hm : 0 < m) : (Binary64.finite true m e).toNat? = none := by
    simp [toNat?, hm.ne']
  unfold ofGrid
  by_cases hfull : m = 2 * leastFull
  · simp only [if_pos hfull]
    split_ifs
    · rfl
    · exact hfinite hleast
  · simp only [if_neg hfull]
    split_ifs
    · rfl
    · exact hfinite hm

/-- Ratios below zero are rounded to none. -/
theorem toNat?_ofRatio_of_negative (hn : 0 < n) : (ofRatio true n 1).toNat? = none := by
  obtain ⟨k, hnearest, hvalue⟩ := exists_isNearest_onGrid hn
  rw [ofRatio_eq_ofGrid true hn.ne']
  refine toNat?_ofGrid_of_negative (Nat.pos_of_ne_zero fun hzero => ?_)
  rw [hzero, Nat.cast_zero, zero_mul] at hvalue
  exact (hnearest.pos hn).ne (by exact_mod_cast hvalue)

end natural

/-! ### At the end of the words -/

/-- The number of words has one significant bit. -/
theorem isShort_wordCount : IsShort Word.count := ⟨1, 64, by decide, by decide⟩

/-- The next short number after the number of words is 2 ^ 12 greater, and halfway to it the number
of words is the even one. -/
theorem exists_isNearest_le_iff {n : Nat} :
    (∃ r, IsNearest n r ∧ r ≤ Word.count) ↔ n ≤ Word.count + 2 ^ 11 := by
  constructor
  · -- beyond halfway the next short number is nearer than any up to the number of words
    rintro ⟨r, hr, hle⟩
    have hnext : IsShort (Word.count + 2 ^ 12) := ⟨leastFull + 1, 12, by decide, by decide⟩
    have hgap := hr.nearest _ hnext
    unfold gap at hgap
    omega
  · intro hn
    obtain hlt | hge := Nat.lt_or_ge n Word.count
    · obtain ⟨r, hr⟩ := exists_toNat?_of_lt (show n < 2 * Word.count by omega)
      have hnearest := isNearest_of_toNat? hr
      exact ⟨r, hnearest, hnearest.le isShort_wordCount hlt.le⟩
    · -- from the number of words on, short numbers are the multiples of 2 ^ 12
      have hcount : leastFull * 2 ^ 12 = Word.count := by decide
      have hround : roundHalfEven n (2 ^ 12) ≤ leastFull := by
        have hhalf : (2 * leastFull + 1) * 2 ^ 12 = 2 * (Word.count + 2 ^ 11) := by decide
        have heven : leastFull % 2 = 0 := by decide
        rw [roundHalfEven_le_iff (by decide), hhalf]
        omega
      have hfar : Word.count + 2 ^ 11 < 2 * leastFull * 2 ^ 12 := by decide
      refine ⟨_, isNearest_onUnit (hcount.trans_le hge) (Nat.lt_of_le_of_lt hn hfar), ?_⟩
      rw [← hcount]
      exact Nat.mul_le_mul_right _ hround

/-! ### The number of an integer -/

/-- What the number that an integer becomes is like: if it is a natural number, then the nearest one
of an integer that is not negative; and up to twice the number of words it is one. -/
structure Rounds (n : Int) (x : Binary64) : Prop where
  nearest : ∀ k, x.toNat? = some k → 0 ≤ n ∧ IsNearest n.toNat k
  ofLt : 0 ≤ n → n < 2 * Word.count → ∃ k, x.toNat? = some k

/-- **An integer becomes its nearest number**, up to the number of words. -/
theorem Rounds.toNat?_eq_some_iff {n : Int} {x : Binary64} (h : Rounds n x) {k : Nat}
    (hk : k ≤ Word.count) : x.toNat? = some k ↔ 0 ≤ n ∧ IsNearest n.toNat k := by
  refine ⟨h.nearest k, fun ⟨hnonneg, hnearest⟩ => ?_⟩
  have hle : n.toNat ≤ Word.count + 2 ^ 11 := exists_isNearest_le_iff.mp ⟨k, hnearest, hk⟩
  have hpos : 2 ^ 11 < Word.count := by decide
  obtain ⟨k', hk'⟩ := h.ofLt hnonneg (by omega)
  rw [hk', (h.nearest k' hk').2.unique hnearest]

/-- The integer of a sign and a natural number. -/
def signed (negative : Bool) (n : Nat) : Int := if negative then -n else n

/-- An integer that is written as a ratio is rounded. -/
theorem rounds_ofRatio (negative : Bool) (n : Nat) :
    Rounds (signed negative n) (ofRatio negative n 1) := by
  cases negative with
  | false =>
      exact ⟨fun _ hk => ⟨Int.natCast_nonneg n, isNearest_of_toNat? hk⟩,
        fun _ hn => exists_toNat?_of_lt (Int.ofNat_lt.mp hn)⟩
  | true =>
      obtain rfl | hn := Nat.eq_zero_or_pos n
      · have hzero : (ofRatio true 0 1).toNat? = some 0 := by decide
        refine ⟨fun k hk => ?_, fun _ _ => ⟨0, hzero⟩⟩
        cases hzero.symm.trans hk
        exact ⟨by decide, isNearest_self (isShort_of_le (by decide))⟩
      · have hneg : signed true n < 0 := by simpa [signed] using hn
        refine ⟨fun k hk => ?_, fun hnonneg _ => absurd hneg (by omega)⟩
        cases (toNat?_ofRatio_of_negative hn).symm.trans hk

/-- An integer is rounded. -/
theorem rounds_ofInt (n : Int) : Rounds n (ofInt n) := by
  have hsigned : signed (n < 0) n.natAbs = n := by
    unfold signed
    split_ifs with h
    · have hneg : n < 0 := of_decide_eq_true h
      omega
    · have hnonneg : ¬ n < 0 := fun hneg => h (decide_eq_true hneg)
      omega
  have hrounds := rounds_ofRatio (n < 0) n.natAbs
  rwa [hsigned] at hrounds

/-- An integer beyond that may become infinite. -/
theorem rounds_infinite {n : Nat} (h : 2 * Word.count ≤ n) (negative : Bool) :
    Rounds (signed negative n) (.infinite negative) where
  nearest _ hk := nomatch hk
  ofLt hnonneg hlt := by
    have hpos : 0 < Word.count := by decide
    unfold signed at hnonneg hlt
    split_ifs at hnonneg hlt <;> omega

/-- Digits without point and exponent. If there are so many that the number is infinite without any
rounding, they write no number near the words. -/
theorem rounds_ofDecimal (negative : Bool) (digits : Nat) :
    Rounds (signed negative digits) (ofDecimal negative digits 0) := by
  have hratio := rounds_ofRatio negative digits
  unfold ofDecimal
  obtain rfl | hdigits := Nat.eq_zero_or_pos digits
  · exact hratio
  · rw [if_neg hdigits.ne']
    dsimp only
    split_ifs with hgreat hsmall
    · have hlog : 65 ≤ Nat.log2 digits := by omega
      have hpow : 2 ^ 65 ≤ digits := (Nat.le_log2 hdigits.ne').mp hlog
      exact rounds_infinite hpow negative
    · omega
    · simpa using hratio
    · contradiction

end Binary64

end Turnstile
