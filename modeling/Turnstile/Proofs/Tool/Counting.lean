import Mathlib.Data.List.TakeWhile
import Turnstile.Proofs.Number.Nearest
import Turnstile.Proofs.Tool.Checking

/-!
# Integers in the fields of a definition

The number in a field passes through binary floating point, whether it is written as an integer or
as a text (`LooseNumber.Writes`).

**Theorem** (`LooseNumber.field_counts`): an integer counts as the number of at most 53 significant
bits that is nearest to it. It is accepted exactly if this is at most the number of words, so each
word is, and a few integers beyond them, which count as the greatest word. A word with no more
significant bits keeps its value, but not every word does
(`LooseNumber.not_field_counts_exactly`). A positive count and a port are counts within their
bounds.

* A text of digits with an optional sign is read as the number of its integer
  (`exists_readFloat?_of_writesInteger`).
* Either way the integer is rounded once (`LooseNumber.Writes.exists_value`), and what is left of
  its value is in `Binary64.Rounds`.
-/

namespace Turnstile

/-! ### Integers as texts -/

/-- The integer that characters write in base ten: at least one digit, with an optional sign. -/
inductive WritesInteger : List Char → Int → Prop
  | digits {ds : List Char} : ds ≠ [] → (∀ c ∈ ds, isDigit c = true) →
      WritesInteger ds (natOfDigits ds)
  | plus {ds : List Char} : ds ≠ [] → (∀ c ∈ ds, isDigit c = true) →
      WritesInteger ('+' :: ds) (natOfDigits ds)
  | minus {ds : List Char} : ds ≠ [] → (∀ c ∈ ds, isDigit c = true) →
      WritesInteger ('-' :: ds) (-natOfDigits ds)

/-- Digits have no case. -/
theorem toLower_of_isDigit {c : Char} (h : isDigit c = true) : c.toLower = c := by
  simp only [isDigit, Bool.and_eq_true, decide_eq_true_eq, Char.le_def] at h
  unfold Char.toLower
  rw [dif_neg]
  intro hupper
  exact absurd (UInt32.le_trans hupper.1 h.2) (by decide)

section digits

variable {ds : List Char}

/-- Digits are none of the words for what is not finite. -/
theorem ofList_map_toLower_ne (hds : ∀ c ∈ ds, isDigit c = true) {c : Char}
    (hc : isDigit c = false) (word : List Char) :
    (String.ofList (ds.map Char.toLower) == String.ofList (c :: word)) = false := by
  rw [List.map_congr_left fun d hd => toLower_of_isDigit (hds d hd), List.map_id',
    beq_eq_false_iff_ne]
  intro heq
  have hmem : c ∈ ds := by
    rw [String.ofList_injective heq]
    exact List.mem_cons_self
  exact Bool.false_ne_true (hc.symm.trans (hds c hmem))

/-- Digits are read as the number that they write. -/
theorem readUnsigned?_digits (hne : ds ≠ []) (hds : ∀ c ∈ ds, isDigit c = true) (negative : Bool) :
    readUnsigned? negative ds = some (.ofDecimal negative (natOfDigits ds) 0) := by
  have hi : isDigit 'i' = false := by decide
  have hn : isDigit 'n' = false := by decide
  have hinf := ofList_map_toLower_ne hds hi ['n', 'f']
  have hinfinity := ofList_map_toLower_ne hds hi ['n', 'f', 'i', 'n', 'i', 't', 'y']
  have hnan := ofList_map_toLower_ne hds hn ['a', 'n']
  have hwhole : ds.takeWhile isDigit = ds := List.takeWhile_eq_self_iff.mpr hds
  have hrest : ds.dropWhile isDigit = [] := List.dropWhile_eq_nil_iff.mpr hds
  unfold readUnsigned?
  dsimp only
  rw [show "inf" = String.ofList ['i', 'n', 'f'] from rfl, hinf,
    show "infinity" = String.ofList ['i', 'n', 'f', 'i', 'n', 'i', 't', 'y'] from rfl, hinfinity,
    show "nan" = String.ofList ['n', 'a', 'n'] from rfl, hnan, hwhole, hrest]
  simp [hne]

/-- A text that writes an integer is read as the number of it. -/
theorem exists_readFloat?_of_writesInteger {s : String} {n : Int} (h : WritesInteger s.toList n) :
    ∃ x, readFloat? s = some x ∧ Binary64.Rounds n x := by
  unfold readFloat?
  generalize s.toList = cs at h ⊢
  cases h with
  | plus hne hds => exact ⟨_, readUnsigned?_digits hne hds false, Binary64.rounds_ofDecimal false _⟩
  | minus hne hds => exact ⟨_, readUnsigned?_digits hne hds true, Binary64.rounds_ofDecimal true _⟩
  | digits hne hds =>
      refine ⟨_, ?_, Binary64.rounds_ofDecimal false _⟩
      split
      · exact absurd (hds '-' List.mem_cons_self) (by decide)
      · exact absurd (hds '+' List.mem_cons_self) (by decide)
      · exact readUnsigned?_digits hne hds false

end digits

/-- Of blanks alone nothing is left. -/
theorem Text.trim_of_isAllBlank {s : String} (h : isAllBlank s = true) : trim s = "" := by
  rw [trim, trimChars, List.dropWhile_eq_nil_iff.mpr (List.all_eq_true.mp h)]
  rfl

namespace LooseNumber

open Binary64

/-- A number that is written as an integer: as one of 64 bits, with or without sign, or as a text
that has nothing but blanks around it. -/
inductive Writes : LooseNumber → Int → Prop
  | integer {v : LooseNumber} {n : Int} :
      ToolSource.looseNumber? (.number (.integer n)) = some v → Writes v n
  | text {s : String} {n : Int} : WritesInteger (Text.trim s).toList n → Writes (.text s) n

/-- What writes an integer is not all blank. -/
theorem isAllBlank_of_writesInteger {s : String} {n : Int}
    (h : WritesInteger (Text.trim s).toList n) : Text.isAllBlank s = false := by
  by_contra hblank
  rw [Text.trim_of_isAllBlank (Bool.not_eq_false _ ▸ hblank), String.toList_empty] at h
  generalize hcs : ([] : List Char) = cs at h
  cases h with
  | digits hne => exact hne hcs.symm
  | plus => cases hcs
  | minus => cases hcs

variable {v : LooseNumber} {n : Int}

/-- **An integer is rounded once**, however it is written. -/
theorem Writes.exists_value (h : v.Writes n) :
    ∃ x, v.value = .ok (some x) ∧ Rounds n x := by
  cases h with
  | integer hread =>
      refine ⟨_, ?_, rounds_ofInt n⟩
      unfold ToolSource.looseNumber? at hread
      dsimp only at hread
      split_ifs at hread <;> cases hread <;> rfl
  | text hwrites =>
      obtain ⟨x, hx, hrounds⟩ := exists_readFloat?_of_writesInteger hwrites
      refine ⟨x, ?_, hrounds⟩
      unfold value
      dsimp only
      rw [isAllBlank_of_writesInteger hwrites, hx]
      rfl

/-- A number is a count exactly if it is whole and within the words, the least beyond included. -/
theorem count_eq_ok_iff {x : Binary64} {k : Nat} :
    count x = .ok k ↔ ∃ m, x.toNat? = some m ∧ m ≤ maxCount + 1 ∧ k = min m maxCount := by
  unfold count
  cases x.toNat? with
  | none => simp
  | some m =>
      dsimp only
      split_ifs with h <;> simp [h, eq_comm]

/-- **An integer counts as the nearest number of at most 53 significant bits**, so as itself if it
is a word that has no more. It is accepted exactly if this number is at most the number of words,
which itself counts as the greatest word; and this is so from zero up to halfway to the next such
number. A count that must be positive, or a port, is a count within its bounds. -/
theorem field_counts (h : v.Writes n) (setting : Setting) :
    ((∃ k, field setting count (some v) = .ok (some k)) ↔ 0 ≤ n ∧ n ≤ Word.count + 2 ^ 11) ∧
    (∀ k, field setting count (some v) = .ok (some k) ↔
      0 ≤ n ∧ ∃ r, IsNearest n.toNat r ∧ r ≤ maxCount + 1 ∧ k = min r maxCount) ∧
    (∀ k, field setting count (some v) = .ok (some k) →
      IsShort n.toNat → n ≤ maxCount → k = n) ∧
    (∀ k, field setting positive (some v) = .ok (some k) ↔
      field setting count (some v) = .ok (some k) ∧ k ≠ 0) ∧
    ∀ k, field setting port (some v) = .ok (some k) ↔
      field setting count (some v) = .ok (some k) ∧ 1 ≤ k ∧ k ≤ 65535 := by
  obtain ⟨x, hvalue, hrounds⟩ := h.exists_value
  simp only [field_eq_ok_iff hvalue]
  have hsucc : maxCount + 1 = Word.count := by decide
  have hcount (k : Nat) : count x = .ok k ↔
      0 ≤ n ∧ ∃ r, IsNearest n.toNat r ∧ r ≤ maxCount + 1 ∧ k = min r maxCount := by
    rw [count_eq_ok_iff]
    constructor
    · rintro ⟨m, hm, hle, hk⟩
      obtain ⟨hnonneg, hnearest⟩ := hrounds.nearest m hm
      exact ⟨hnonneg, m, hnearest, hle, hk⟩
    · rintro ⟨hnonneg, m, hnearest, hle, hk⟩
      exact ⟨m, (hrounds.toNat?_eq_some_iff (hsucc ▸ hle)).mpr ⟨hnonneg, hnearest⟩, hle, hk⟩
  refine ⟨?_, hcount, fun k hk hshort hmax => ?_, fun k => positive_eq_ok_iff,
    fun k => port_eq_ok_iff⟩
  · have hrange := exists_isNearest_le_iff (n := n.toNat)
    constructor
    · rintro ⟨k, hk⟩
      obtain ⟨hnonneg, r, hnearest, hle, -⟩ := (hcount k).mp hk
      have hn := hrange.mp ⟨r, hnearest, hsucc ▸ hle⟩
      omega
    · rintro ⟨hnonneg, hn⟩
      obtain ⟨r, hnearest, hle⟩ := hrange.mpr (by omega)
      exact ⟨_, (hcount _).mpr ⟨hnonneg, r, hnearest, hsucc.symm ▸ hle, rfl⟩⟩
  · obtain ⟨hnonneg, r, hnearest, -, rfl⟩ := (hcount k).mp hk
    have heq : r = n.toNat := hnearest.eq_of_isShort hshort
    omega

/-- More than 53 bits, but the last one is not significant. -/
theorem field_counts_even :
    (LooseNumber.text " +09007199254740994\n").Writes 9007199254740994 ∧
      field .limitLines positive (some (.text " +09007199254740994\n")) =
        .ok (some 9007199254740994) := by
  have hvalue : (natOfDigits "09007199254740994".toList : Int) = 9007199254740994 := by decide
  have hdigits : WritesInteger ('+' :: "09007199254740994".toList)
      (natOfDigits "09007199254740994".toList) := .plus (by decide) (List.all_eq_true.mp rfl)
  rw [hvalue] at hdigits
  have hwrites : (LooseNumber.text " +09007199254740994\n").Writes 9007199254740994 :=
    .text hdigits
  have hshort : IsShort 9007199254740994 := ⟨4503599627370497, 1, by decide, by decide⟩
  obtain ⟨haccepted, -, hexact, hpositive, -⟩ := field_counts hwrites .limitLines
  obtain ⟨k, hk⟩ := haccepted.mpr ⟨by decide, by decide⟩
  have hkept : (k : Int) = 9007199254740994 := hexact k hk hshort (by decide)
  obtain rfl : k = 9007199254740994 := by omega
  exact ⟨hwrites, (hpositive _).mpr ⟨hk, by decide⟩⟩

/-- The first integer that does not keep its value. -/
theorem not_field_counts_exactly :
    (LooseNumber.integer 9007199254740993).Writes 9007199254740993 ∧
      field .limitLines positive (some (.integer 9007199254740993)) =
        .ok (some 9007199254740992) ∧
      ¬ ∀ (v : LooseNumber) (n : Int) (k : Nat), v.Writes n →
        field .limitLines positive (some v) = .ok (some k) → k = n := by
  have hwrites : (LooseNumber.integer 9007199254740993).Writes 9007199254740993 := .integer rfl
  have hfield : field .limitLines positive (some (.integer 9007199254740993)) =
      .ok (some 9007199254740992) := rfl
  refine ⟨hwrites, hfield, fun hexact => ?_⟩
  exact absurd (hexact _ _ _ hwrites hfield) (by decide)

end LooseNumber

end Turnstile
