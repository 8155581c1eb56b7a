import Mathlib.Data.List.Chain
import Mathlib.Tactic.SplitIfs
import Turnstile.Text.Utf8

/-!
# Decoding a stream in parts

Octets that arrive in chunks can be decoded as a whole, or chunk by chunk. A chunk *cuts a
character* if the one before it ends inside a character and the chunk goes on with it (`Cuts`).
There the whole has one piece, and the chunks have one for the part and one for each octet that goes
on, since no octet that goes on with a character starts one (`Decoder.Sound`).

**Theorem** (`flatMap_decodeLossyChars_eq_iff`): chunk by chunk, the same characters are read as
from the whole exactly if no chunk cuts a character.
-/

namespace Turnstile.Utf8

namespace Decoder

/-! ### What is read from a state on -/

/-- The pieces of a sequence that is read from a state to its end. -/
def rest (d : Decoder) (bs : Bytes) : List Piece := (d.feed bs).1 ++ (d.feed bs).2.finish

/-- What is read of one octet more. -/
theorem rest_cons (d : Decoder) (b : UInt8) (bs : Bytes) :
    d.rest (b :: bs) = (d.step b.toNat).1 ++ (d.step b.toNat).2.rest bs := by
  simp [rest, feed]

/-- Octets may be fed in two parts. -/
theorem feed_append (d : Decoder) (as bs : Bytes) :
    d.feed (as ++ bs) =
      ((d.feed as).1 ++ ((d.feed as).2.feed bs).1, ((d.feed as).2.feed bs).2) := by
  induction as generalizing d with
  | nil => simp [feed]
  | cons a as ih => simp [feed, ih]

/-- The end of a text is read from where the decoder stands. -/
theorem rest_append (d : Decoder) (as bs : Bytes) :
    d.rest (as ++ bs) = (d.feed as).1 ++ (d.feed as).2.rest bs := by
  simp [rest, feed_append]

/-! ### Octets that go on with a character -/

/-- The octet completes the character, or leaves the rest of it owed. -/
theorem step_of_mem {bits owed low high b : Nat} (h : low ≤ b ∧ b ≤ high) :
    (inside bits owed low high).step b =
      if owed ≤ 1 then ([.char (Char.ofNat (bits * 64 + (b - 0x80)))], ready)
      else ([], inside (bits * 64 + (b - 0x80)) (owed - 1) 0x80 0xBF) :=
  if_pos h

/-- An octet that does not go on with a character ends it, and is read as if it were the first. -/
theorem step_of_not_mem {bits owed low high b : Nat} (h : ¬ (low ≤ b ∧ b ≤ high)) :
    (inside bits owed low high).step b = (.invalid :: (stepReady b).1, (stepReady b).2) :=
  if_neg h

/-- True if the first octet goes on with the character under way. -/
def goesOn : Decoder → Bytes → Bool
  | .inside _ _ low high, b :: _ => decide (low ≤ b.toNat ∧ b.toNat ≤ high)
  | _, _ => false

/-- What goes on with a character is no first octet of one. -/
def Sound : Decoder → Prop
  | .ready => True
  | .inside _ _ low high => 0x80 ≤ low ∧ high ≤ 0xBF

/-- A first octet that starts a character leaves the decoder sound. -/
theorem sound_of_start {b : Nat} {d : Decoder} (h : start b = some d) : d.Sound := by
  unfold start at h
  split_ifs at h <;> cases h <;> exact ⟨by omega, by omega⟩

/-- A decoder that is ready is sound after any octet. -/
theorem sound_stepReady (b : Nat) : (stepReady b).2.Sound := by
  unfold stepReady
  by_cases hb : b < 0x80
  · rw [if_pos hb]
    trivial
  · rw [if_neg hb]
    cases hstart : start b with
    | none => trivial
    | some d => exact sound_of_start hstart

/-- A step keeps the decoder sound, whatever it was before. -/
theorem sound_step {d : Decoder} (b : Nat) : (d.step b).2.Sound := by
  cases d with
  | ready => exact sound_stepReady b
  | inside bits owed low high =>
      by_cases hb : low ≤ b ∧ b ≤ high
      · rw [step_of_mem hb]
        split_ifs
        · trivial
        · exact ⟨le_refl _, le_refl _⟩
      · rw [step_of_not_mem hb]
        exact sound_stepReady b

/-- Octets keep the decoder sound. -/
theorem sound_feed {d : Decoder} (hd : d.Sound) (bs : Bytes) : (d.feed bs).2.Sound := by
  induction bs generalizing d with
  | nil => exact hd
  | cons b bs ih => exact ih (sound_step b.toNat)

/-- Between characters, an octet that could go on with one is invalid by itself. -/
theorem stepReady_of_tail {b : Nat} (hlow : 0x80 ≤ b) (hhigh : b ≤ 0xBF) :
    stepReady b = ([.invalid], .ready) := by
  have hstart : start b = none := by
    unfold start
    split_ifs <;> first | rfl | omega
  unfold stepReady
  rw [if_neg (by omega), hstart]

/-- If nothing goes on with the character under way, it ends as invalid, and what follows is read
from the start. -/
theorem rest_of_not_goesOn {d : Decoder} {bs : Bytes} (h : d.goesOn bs = false) :
    d.rest bs = d.finish ++ ready.rest bs := by
  cases d with
  | ready => simp [finish]
  | inside bits owed low high =>
      cases bs with
      | nil => simp [rest, feed, finish]
      | cons b bs =>
          have hout : ¬ (low ≤ b.toNat ∧ b.toNat ≤ high) := by simpa [goesOn] using h
          rw [rest_cons, rest_cons, step_of_not_mem hout]
          rfl

/-- If something goes on with it, fewer pieces are read than after a new start. -/
theorem length_rest_le {d : Decoder} (hd : d.Sound) (bs : Bytes) :
    (d.rest bs).length + (d.goesOn bs).toNat ≤ (d.finish ++ ready.rest bs).length := by
  induction bs generalizing d with
  | nil => cases d <;> simp [rest, feed, finish, goesOn]
  | cons b bs ih =>
      cases hgoes : d.goesOn (b :: bs) with
      | false => simp [rest_of_not_goesOn hgoes]
      | true =>
          cases d with
          | ready => cases hgoes
          | inside bits owed low high =>
              obtain ⟨hlow, hhigh⟩ := hd
              have hin : low ≤ b.toNat ∧ b.toNat ≤ high := by simpa [goesOn] using hgoes
              have hfresh : ready.rest (b :: bs) = .invalid :: ready.rest bs := by
                rw [rest_cons, step, stepReady_of_tail (by omega) (by omega)]
                rfl
              have hnext := ih (sound_step (d := .inside bits owed low high) b.toNat)
              rw [rest_cons, hfresh]
              -- The octet completes the character, or leaves another one owed.
              rw [step_of_mem hin] at hnext ⊢
              split_ifs at hnext ⊢
              · simp [finish] at hnext ⊢
              · simp [finish] at hnext ⊢
                omega

end Decoder

/-! ### Two parts -/

open Decoder

/-- A text is read by a decoder that is ready. -/
theorem pieces_eq_rest (bs : Bytes) : pieces bs = ready.rest bs := pieces_eq_feed bs

/-- The first part ends inside a character, and the second goes on with it. -/
def Cuts (first second : Bytes) : Prop := (ready.feed first).2.goesOn second = true

instance (first second : Bytes) : Decidable (Cuts first second) :=
  inferInstanceAs (Decidable ((ready.feed first).2.goesOn second = true))

/-- What comes later does not count for a cut. -/
theorem cuts_append_iff {second : Bytes} (h : second ≠ []) (first third : Bytes) :
    Cuts first (second ++ third) ↔ Cuts first second := by
  cases second with
  | nil => exact absurd rfl h
  | cons b second =>
      unfold Cuts
      cases (ready.feed first).2 <;> simp [goesOn]

/-- Parts that no boundary cuts are read one after the other. -/
theorem pieces_append_of_not_cuts {first second : Bytes} (h : ¬ Cuts first second) :
    pieces (first ++ second) = pieces first ++ pieces second := by
  have hgoes : (ready.feed first).2.goesOn second = false := by simpa [Cuts] using h
  rw [pieces_eq_rest, rest_append, rest_of_not_goesOn hgoes, pieces_eq_rest, pieces_eq_rest]
  simp [rest]

/-- A boundary can only add pieces. -/
theorem length_pieces_append_le (first second : Bytes) :
    (pieces (first ++ second)).length ≤ (pieces first).length + (pieces second).length := by
  have hsound : (ready.feed first).2.Sound := sound_feed (d := .ready) trivial first
  have hle := length_rest_le hsound second
  rw [pieces_eq_rest, rest_append, pieces_eq_rest, pieces_eq_rest]
  simp only [rest, List.length_append] at hle ⊢
  omega

/-- A boundary that cuts a character adds at least one. -/
theorem length_pieces_append_lt {first second : Bytes} (h : Cuts first second) :
    (pieces (first ++ second)).length < (pieces first).length + (pieces second).length := by
  have hsound : (ready.feed first).2.Sound := sound_feed (d := .ready) trivial first
  have hle := length_rest_le hsound second
  unfold Cuts at h
  rw [h] at hle
  rw [pieces_eq_rest, rest_append, pieces_eq_rest, pieces_eq_rest]
  simp only [rest, List.length_append, Bool.toNat_true] at hle ⊢
  omega

/-! ### Any number of parts -/

/-- Any number of boundaries can only add pieces. -/
theorem length_pieces_flatten_le (chunks : List Bytes) :
    (pieces chunks.flatten).length ≤ (chunks.flatMap pieces).length := by
  induction chunks with
  | nil => simp [pieces_eq_rest, rest, feed, finish]
  | cons chunk chunks ih =>
      have hle := length_pieces_append_le chunk chunks.flatten
      simp only [List.flatten_cons, List.flatMap_cons, List.length_append]
      omega

/-- What follows a chunk cuts a character if the next chunk does. -/
theorem cuts_flatten_iff {chunk next : Bytes} {chunks : List Bytes} (h : next ≠ []) :
    Cuts chunk (next :: chunks).flatten ↔ Cuts chunk next := by
  rw [List.flatten_cons]
  exact cuts_append_iff h chunk chunks.flatten

/-- Parts of which no boundary cuts a character are read one after another. -/
theorem flatMap_pieces_of_isChain {chunks : List Bytes} (hne : ∀ chunk ∈ chunks, chunk ≠ [])
    (h : chunks.IsChain (¬ Cuts · ·)) : chunks.flatMap pieces = pieces chunks.flatten := by
  induction h with
  | nil => rfl
  | singleton chunk => simp
  | @cons_cons chunk next chunks hcut _ ih =>
      have hnext : next ≠ [] := hne next (by simp)
      have hrest := ih fun c hc => hne c (List.mem_cons_of_mem _ hc)
      have hjoin : ¬ Cuts chunk (next :: chunks).flatten := by rwa [cuts_flatten_iff hnext]
      rw [List.flatMap_cons, hrest, List.flatten_cons (l := chunk),
        pieces_append_of_not_cuts hjoin]

/-- Every cut costs a piece. -/
theorem isChain_of_length_le {chunks : List Bytes} (hne : ∀ chunk ∈ chunks, chunk ≠ [])
    (h : (chunks.flatMap pieces).length ≤ (pieces chunks.flatten).length) :
    chunks.IsChain (¬ Cuts · ·) := by
  induction chunks with
  | nil => exact .nil
  | cons chunk chunks ih =>
      have hjoin := length_pieces_append_le chunk chunks.flatten
      simp only [List.flatMap_cons, List.flatten_cons, List.length_append] at h
      have hrest := ih (fun c hc => hne c (List.mem_cons_of_mem _ hc)) (by omega)
      cases chunks with
      | nil => exact .singleton chunk
      | cons next chunks =>
          refine .cons_cons (fun hcut => ?_) hrest
          have hnext : next ≠ [] := hne next (by simp)
          have hjoined : Cuts chunk (next :: chunks).flatten := (cuts_flatten_iff hnext).mpr hcut
          have hlost := length_pieces_append_lt hjoined
          have hkept := length_pieces_flatten_le (next :: chunks)
          omega

/-- **Decoding chunk by chunk reads the characters of the whole exactly if no chunk cuts one.** -/
theorem flatMap_decodeLossyChars_eq_iff {chunks : List Bytes}
    (hne : ∀ chunk ∈ chunks, chunk ≠ []) :
    chunks.flatMap decodeLossyChars = decodeLossyChars chunks.flatten ↔
      chunks.IsChain (¬ Cuts · ·) := by
  have hchars : chunks.flatMap decodeLossyChars = (chunks.flatMap pieces).map Piece.shown := by
    rw [List.map_flatMap]
    rfl
  rw [hchars, decodeLossyChars]
  constructor
  · intro h
    have hlength := congrArg List.length h
    rw [List.length_map, List.length_map] at hlength
    exact isChain_of_length_le hne (le_of_eq hlength)
  · intro h
    rw [flatMap_pieces_of_isChain hne h]

end Turnstile.Utf8
