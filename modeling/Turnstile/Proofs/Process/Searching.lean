import Mathlib.Data.List.Infix
import Mathlib.Data.Nat.Find
import Turnstile.Process.Capture

/-!
# Searching output that grows

A search names the first occurrence at or after an offset (`find_eq_at_iff_isFirst`), or an offset
from which a later search can go on. That offset steps back by one octet less than the sequence has,
so that an occurrence which straddles old and new output is still ahead of it, but never behind the
start of the search (`le_of_find_eq_resume`).

**Theorem** (`Capture.find_resumes`): however the output grows after a search in vain, a search from
the offset that it named finds what a search from its own start would find. Whatever is searched for
and from wherever, no search leaves the output.
-/

namespace Turnstile

/-- The first occurrence of a sequence at or after an offset. -/
structure Bytes.IsFirst (needle bytes : Bytes) (start p : Nat) : Prop where
  start_le : start ≤ p
  occurs : needle <+: bytes.drop p
  least : ∀ i, start ≤ i → needle <+: bytes.drop i → p ≤ i

namespace Bytes

variable {needle bytes : Bytes} {start p : Nat}

/-- An occurrence lies within the octets. -/
theorem add_length_le_of_occurs {i : Nat} (hne : needle ≠ []) (h : needle <+: bytes.drop i) :
    i + needle.length ≤ bytes.length := by
  have hpositive := List.length_pos_of_ne_nil hne
  have hlength := h.length_le
  rw [List.length_drop] at hlength
  omega

/-- What starts with a sequence has its first occurrence there. -/
theorem isFirst_zero_of_isPrefix (h : needle <+: bytes) : IsFirst needle bytes 0 p ↔ p = 0 := by
  constructor
  · intro hfirst
    exact Nat.le_zero.mp (hfirst.least 0 (Nat.le_refl 0) h)
  · rintro rfl
    exact ⟨Nat.le_refl 0, h, fun i _ _ => Nat.zero_le i⟩

/-- Otherwise the first occurrence is that in the rest. -/
theorem isFirst_cons {b : UInt8} (h : ¬ needle <+: b :: bytes) :
    IsFirst needle (b :: bytes) 0 p ↔ ∃ i, IsFirst needle bytes 0 i ∧ p = i + 1 := by
  constructor
  · rintro ⟨-, hoccurs, hleast⟩
    cases p with
    | zero => exact (h hoccurs).elim
    | succ i =>
        refine ⟨i, ⟨Nat.zero_le i, hoccurs, fun j _ hj => ?_⟩, rfl⟩
        exact Nat.le_of_succ_le_succ (hleast (j + 1) (Nat.zero_le _) hj)
  · rintro ⟨i, ⟨-, hoccurs, hleast⟩, rfl⟩
    refine ⟨Nat.zero_le _, hoccurs, fun j _ hj => ?_⟩
    cases j with
    | zero => exact (h hj).elim
    | succ j => exact Nat.succ_le_succ (hleast j (Nat.zero_le j) hj)

theorem indexFrom?_eq_some_iff {offset : Nat} :
    indexFrom? needle offset bytes = some p ↔ ∃ i, IsFirst needle bytes 0 i ∧ p = offset + i := by
  induction bytes generalizing offset with
  | nil =>
      unfold indexFrom?
      cases needle with
      | nil => simp [isFirst_zero_of_isPrefix, eq_comm]
      | cons a needle =>
          refine iff_of_false (by simp) ?_
          rintro ⟨i, hfirst, -⟩
          simpa using hfirst.occurs
  | cons b bytes ih =>
      unfold indexFrom?
      by_cases h : needle <+: b :: bytes
      · rw [if_pos (List.isPrefixOf_iff_prefix.mpr h)]
        simp [isFirst_zero_of_isPrefix h, eq_comm]
      · rw [if_neg (fun hprefix => h (List.isPrefixOf_iff_prefix.mp hprefix)), ih]
        simp only [isFirst_cons h]
        constructor
        · rintro ⟨i, hfirst, rfl⟩
          exact ⟨i + 1, ⟨i, hfirst, rfl⟩, by omega⟩
        · rintro ⟨_, ⟨i, hfirst, rfl⟩, rfl⟩
          exact ⟨i, hfirst, by omega⟩

/-- To search from an offset is to search what follows it. -/
theorem isFirst_drop_iff {i : Nat} :
    IsFirst needle (bytes.drop start) 0 i ↔ IsFirst needle bytes start (start + i) := by
  constructor
  · rintro ⟨-, hoccurs, hleast⟩
    rw [List.drop_drop] at hoccurs
    refine ⟨Nat.le_add_right start i, hoccurs, fun j hj hoccurs => ?_⟩
    have hi := hleast (j - start) (Nat.zero_le _)
      (by rwa [List.drop_drop, Nat.add_sub_cancel' hj])
    omega
  · rintro ⟨-, hoccurs, hleast⟩
    refine ⟨Nat.zero_le i, by rwa [List.drop_drop], fun j _ hj => ?_⟩
    rw [List.drop_drop] at hj
    exact Nat.le_of_add_le_add_left (hleast (start + j) (Nat.le_add_right start j) hj)

/-- If nothing occurs between two offsets, a search can start at either. -/
theorem isFirst_iff_of_skips {later : Nat} (hle : start ≤ later)
    (h : ∀ i, start ≤ i → needle <+: bytes.drop i → later ≤ i) :
    IsFirst needle bytes start p ↔ IsFirst needle bytes later p := by
  constructor
  · rintro ⟨hstart, hoccurs, hleast⟩
    exact ⟨h p hstart hoccurs, hoccurs, fun i hi => hleast i (hle.trans hi)⟩
  · rintro ⟨hlater, hoccurs, hleast⟩
    exact ⟨hle.trans hlater, hoccurs, fun i hi hoccurs => hleast i (h i hi hoccurs) hoccurs⟩

end Bytes

namespace Capture

variable {c : Capture} {needle : Bytes} {start p r : Nat}

/-- **A search finds the first occurrence after its start.** -/
theorem find_eq_at_iff_isFirst :
    c.find needle start = .at p ↔ Bytes.IsFirst needle c.bytes (min start c.bytes.length) p := by
  have hindex : Bytes.indexFrom? needle (min start c.bytes.length)
      (c.bytes.drop (min start c.bytes.length)) = some p ↔
        Bytes.IsFirst needle c.bytes (min start c.bytes.length) p := by
    rw [Bytes.indexFrom?_eq_some_iff]
    simp only [Bytes.isFirst_drop_iff]
    constructor
    · rintro ⟨i, hfirst, rfl⟩
      exact hfirst
    · intro hfirst
      obtain ⟨i, rfl⟩ := Nat.exists_eq_add_of_le hfirst.start_le
      exact ⟨i, hfirst, rfl⟩
  rw [← hindex]
  unfold find
  dsimp only
  cases Bytes.indexFrom? needle (min start c.bytes.length)
      (c.bytes.drop (min start c.bytes.length)) with
  | none => simp
  | some offset => simp

/-- A search in vain names an offset, and nothing occurs after its start. -/
theorem find_eq_resume (h : c.find needle start = .resume r) :
    r = max (c.bytes.length - (needle.length - 1)) (min start c.bytes.length) ∧
      ∀ i, min start c.bytes.length ≤ i → ¬ needle <+: c.bytes.drop i := by
  have hoffset : r = max (c.bytes.length - (needle.length - 1)) (min start c.bytes.length) := by
    unfold find at h
    dsimp only at h
    split at h <;> cases h
    rfl
  refine ⟨hoffset, fun i hi hoccurs => ?_⟩
  classical
  -- Of the occurrences after the start, the search would have found the least.
  have hexists : ∃ i, min start c.bytes.length ≤ i ∧ needle <+: c.bytes.drop i := ⟨i, hi, hoccurs⟩
  have hfound : c.find needle start = .at (Nat.find hexists) :=
    find_eq_at_iff_isFirst.mpr ⟨(Nat.find_spec hexists).1, (Nat.find_spec hexists).2,
      fun j hj hoccurs => Nat.find_min' hexists ⟨hj, hoccurs⟩⟩
  rw [h] at hfound
  cases hfound

/-- The empty sequence is found at once. -/
theorem find_nil (c : Capture) (start : Nat) : c.find [] start = .at (min start c.bytes.length) :=
  find_eq_at_iff_isFirst.mpr ⟨Nat.le_refl _, List.nil_prefix, fun _ hi _ => hi⟩

/-- **No occurrence lies between the start of a search in vain and the offset that it names**,
however the output goes on. -/
theorem le_of_find_eq_resume {grown : Bytes} {i : Nat} (h : c.find needle start = .resume r)
    (hgrown : c.bytes <+: grown) (hi : min start c.bytes.length ≤ i)
    (hoccurs : needle <+: grown.drop i) : r ≤ i := by
  obtain ⟨rfl, hnone⟩ := find_eq_resume h
  by_contra hlt
  -- The occurrence ends in what was there, so the search would have found it.
  have hfits : needle.length ≤ (c.bytes.drop i).length := by
    rw [List.length_drop]
    omega
  exact hnone i hi (List.prefix_of_prefix_length_le hoccurs (hgrown.drop i) hfits)

/-- What is found has room in the output. -/
theorem add_length_le_of_find (h : c.find needle start = .at p) :
    p + needle.length ≤ c.bytes.length := by
  cases needle with
  | nil =>
      rw [find_nil] at h
      cases h
      exact Nat.min_le_right _ _
  | cons a needle =>
      exact Bytes.add_length_le_of_occurs (by simp) (find_eq_at_iff_isFirst.mp h).occurs

/-- The offset of a search in vain lies between its start and the end of the output. -/
theorem resume_within (h : c.find needle start = .resume r) :
    needle ≠ [] ∧ min start c.bytes.length ≤ r ∧ r ≤ c.bytes.length := by
  obtain ⟨rfl, -⟩ := find_eq_resume h
  refine ⟨?_, by omega, by omega⟩
  rintro rfl
  rw [find_nil] at h
  cases h

/-- From the end of the output nothing is found. -/
theorem find_of_length_le (hne : needle ≠ []) (hstart : c.bytes.length ≤ start) :
    c.find needle start = .resume c.bytes.length := by
  cases h : c.find needle start with
  | «at» p =>
      have hpositive := List.length_pos_of_ne_nil hne
      have hp := add_length_le_of_find h
      have hfirst := (find_eq_at_iff_isFirst.mp h).start_le
      omega
  | resume r =>
      obtain ⟨-, hr, hend⟩ := resume_within h
      congr 1
      omega

/-- Nothing that is longer than the output is found, and the search starts where it did. -/
theorem find_of_length_lt (hlong : c.bytes.length < needle.length) :
    c.find needle start = .resume (min start c.bytes.length) := by
  cases h : c.find needle start with
  | «at» p =>
      have hp := add_length_le_of_find h
      omega
  | resume r =>
      obtain ⟨rfl, -⟩ := find_eq_resume h
      congr 1
      omega

/-- A capture after chunks arrived, one after the other. -/
def appendAll (c : Capture) (chunks : List Bytes) : Capture := chunks.foldl append c

theorem bytes_prefix_appendAll (c : Capture) (chunks : List Bytes) :
    c.bytes <+: (c.appendAll chunks).bytes := by
  induction chunks generalizing c with
  | nil => exact List.prefix_refl _
  | cons chunk chunks ih =>
      refine List.IsPrefix.trans ?_ (ih (c.append chunk))
      cases hclosed : c.isClosed with
      | true => rw [append_of_isClosed hclosed]
      | false =>
          rw [bytes_append hclosed]
          exact List.prefix_append _ _

/-- **A search can be resumed.** It finds the first occurrence at or after its start, or names an
offset between its start and the end of the output from which a search finds the same as from the
start, whatever is appended. It stays within the output even if its start does not: what it finds
has room in the output, only a sequence that is not empty is searched for in vain, from beyond the
output no further than to its end, and one that is too long from the start again. -/
theorem find_resumes (c : Capture) (needle : Bytes) (start : Nat) :
    (start ≤ c.size →
      (∀ p, c.find needle start = .at p ↔ Bytes.IsFirst needle c.bytes start p) ∧
      ∀ r, c.find needle start = .resume r → start ≤ r ∧ r ≤ c.size ∧
        ∀ chunks p, Bytes.IsFirst needle (c.appendAll chunks).bytes start p ↔
          Bytes.IsFirst needle (c.appendAll chunks).bytes r p) ∧
    (∀ p, c.find needle start = .at p → p + needle.length ≤ c.size) ∧
    (∀ r, c.find needle start = .resume r → needle ≠ [] ∧ r ≤ c.size) ∧
    c.find [] start = .at (min start c.size) ∧
    (needle ≠ [] → c.size ≤ start → c.find needle start = .resume c.size) ∧
    (c.size < needle.length → c.find needle start = .resume (min start c.size)) := by
  unfold size
  refine ⟨fun hstart => ⟨fun p => ?_, fun r h => ?_⟩, fun p => add_length_le_of_find, fun r h => ?_,
    find_nil c start, find_of_length_le, find_of_length_lt⟩
  · rw [find_eq_at_iff_isFirst, Nat.min_eq_left hstart]
  · obtain ⟨-, hr, hend⟩ := resume_within h
    rw [Nat.min_eq_left hstart] at hr
    refine ⟨hr, hend, fun chunks p => Bytes.isFirst_iff_of_skips hr fun i hi hoccurs => ?_⟩
    exact le_of_find_eq_resume h (c.bytes_prefix_appendAll chunks) (by omega) hoccurs
  · obtain ⟨hne, -, hend⟩ := resume_within h
    exact ⟨hne, hend⟩

/-- Of `aab`, the end of `xxaa` holds a part. Once `ab` follows, the search goes on from the third
octet and finds in `xxaaab` what a search of all of it finds. -/
theorem find_resumes_overlapping :
    let c : Capture := { chunks := [[97], [120, 120, 97]] }
    let grown := c.appendAll [[97], [98]]
    1 ≤ c.size ∧ c.find [97, 97, 98] 1 = .resume 2 ∧ grown.find [97, 97, 98] 2 = .at 3 ∧
      Bytes.IsFirst [97, 97, 98] grown.bytes 1 3 := by
  intro c grown
  have hstart : 1 ≤ c.size := by decide
  have hresume : c.find [97, 97, 98] 1 = .resume 2 := by decide
  have hlater : 2 ≤ grown.size := by decide
  have hfound : grown.find [97, 97, 98] 2 = .at 3 := by decide
  obtain ⟨hsearch, -⟩ := c.find_resumes [97, 97, 98] 1
  obtain ⟨-, -, hsame⟩ := (hsearch hstart).2 2 hresume
  obtain ⟨hagain, -⟩ := grown.find_resumes [97, 97, 98] 2
  exact ⟨hstart, hresume, hfound,
    (hsame [[97], [98]] 3).mpr (((hagain hlater).1 3).mp hfound)⟩

end Capture

end Turnstile
