import Turnstile.Proofs.Text.Decoding

/-!
# Text as octets and back

Between characters, a decoder reads the octets of a character as that character, and stands between
characters again (`Decoder.feed_utf8EncodeChar`). For characters of three and four octets the range
of the second octet depends on the first; `Decoder.start_three` and `Decoder.start_four` say that
the octets of a character lie in it.

**Theorem** (`decode?_encode`): text that is written as octets is read back, whatever it is.

**Theorem** (`newline_mem_encode_iff`): the octet of the newline is written for newlines only, so
the lines of a file are found in its octets.
-/

namespace Turnstile.Utf8

/-! ### The octets of one character -/

namespace Decoder

/-- An octet is fed as its number. -/
theorem feed_ofNat {d d' : Decoder} {b : Nat} {now : List Piece} (hb : b < 256)
    (hstep : d.step b = (now, d')) (bs : Bytes) :
    d.feed (UInt8.ofNat b :: bs) = (now ++ (d'.feed bs).1, (d'.feed bs).2) := by
  rw [feed, UInt8.toNat_ofNat_of_lt' hb, hstep]

/-- The first octet of two. -/
theorem start_two {h : Nat} (hlow : 2 ≤ h) (hhigh : h < 32) :
    start (h + 192) = some (.inside h 1 0x80 0xBF) := by
  unfold start
  rw [if_pos (by omega), Nat.add_sub_cancel]

/-- The first octet of three. Its range has what the second octet of a character may be: no shorter
form, and no surrogate. -/
theorem start_three {h m : Nat} (hh : h < 16) (hm : m < 64) (hlong : 0x20 ≤ h * 64 + m)
    (hchar : ¬ (0x360 ≤ h * 64 + m ∧ h * 64 + m < 0x380)) :
    ∃ low high, start (h + 224) = some (.inside h 2 low high) ∧ low ≤ m + 128 ∧ m + 128 ≤ high := by
  unfold start
  rw [if_neg (by omega)]
  by_cases hfirst : h = 0
  · exact ⟨0xA0, 0xBF, by rw [if_pos (by omega), hfirst], by omega, by omega⟩
  rw [if_neg (by omega)]
  by_cases hsurrogate : h = 13
  · exact ⟨0x80, 0x9F, by rw [if_pos (by omega), hsurrogate], by omega, by omega⟩
  · refine ⟨0x80, 0xBF, ?_, by omega, by omega⟩
    rw [if_neg (by omega), if_pos (by omega), Nat.add_sub_cancel]

/-- The first octet of four. Its range has what the second octet of a character may be: no shorter
form, and nothing past the last character. -/
theorem start_four {h m : Nat} (hm : m < 64) (hlong : 0x10 ≤ h * 64 + m)
    (hchar : h * 64 + m < 0x110) :
    ∃ low high, start (h + 240) = some (.inside h 3 low high) ∧ low ≤ m + 128 ∧ m + 128 ≤ high := by
  unfold start
  rw [if_neg (by omega), if_neg (by omega), if_neg (by omega), if_neg (by omega)]
  by_cases hfirst : h = 0
  · exact ⟨0x90, 0xBF, by rw [if_pos (by omega), hfirst], by omega, by omega⟩
  rw [if_neg (by omega)]
  by_cases hlast : h = 4
  · exact ⟨0x80, 0x8F, by rw [if_pos (by omega), hlast], by omega, by omega⟩
  · refine ⟨0x80, 0xBF, ?_, by omega, by omega⟩
    rw [if_neg (by omega), if_pos (by omega), Nat.add_sub_cancel]

/-- A first octet of several is kept until the character is complete. -/
theorem step_ready_of_start {b : Nat} {d : Decoder} (hb : 0x80 ≤ b) (h : start b = some d) :
    ready.step b = ([], d) := by
  rw [step, stepReady, if_neg (by omega), h]

/-- An octet with six bits of a character that owes more of them. -/
theorem step_more {bits owed low high m : Nat} (hlow : low ≤ m + 128) (hhigh : m + 128 ≤ high) :
    (inside bits (owed + 2) low high).step (m + 128) =
      ([], inside (bits * 64 + m) (owed + 1) 0x80 0xBF) := by
  rw [step_of_mem ⟨hlow, hhigh⟩, if_neg (by omega), Nat.add_sub_cancel]
  rfl

/-- The octet with the last six bits of a character. -/
theorem step_last {bits m : Nat} (hm : m < 64) :
    (inside bits 1 0x80 0xBF).step (m + 128) = ([.char (Char.ofNat (bits * 64 + m))], ready) := by
  rw [step_of_mem ⟨by omega, by omega⟩, if_pos (le_refl 1), Nat.add_sub_cancel]

/-- The octets of a character are read as that character. -/
theorem feed_utf8EncodeChar (c : Char) :
    ready.feed (String.utf8EncodeChar c) = ([.char c], ready) := by
  have hvalid : c.val.toNat < 0xD800 ∨ 0xDFFF < c.val.toNat ∧ c.val.toNat < 0x110000 := c.valid
  have hc : Char.ofNat c.val.toNat = c := Char.ofNat_toNat c
  unfold String.utf8EncodeChar
  generalize c.val.toNat = v at hvalid hc
  dsimp only
  split_ifs with hone htwo hthree
  · have hstep : ready.step v = ([.char c], ready) := by
      rw [step, stepReady, if_pos (by omega), hc]
    rw [feed_ofNat (by omega) hstep]
    rfl
  · have hstart := start_two (h := v / 64 % 32) (by omega) (by omega)
    rw [feed_ofNat (by omega) (step_ready_of_start (by omega) hstart),
      feed_ofNat (by omega) (step_last (by omega)),
      show v / 64 % 32 * 64 + v % 64 = v by omega, hc]
    rfl
  · obtain ⟨low, high, hstart, hlow, hhigh⟩ := start_three (h := v / 4096 % 16)
      (m := v / 64 % 64) (by omega) (by omega) (by omega) (by omega)
    rw [feed_ofNat (by omega) (step_ready_of_start (by omega) hstart),
      feed_ofNat (by omega) (step_more hlow hhigh),
      feed_ofNat (by omega) (step_last (by omega)),
      show (v / 4096 % 16 * 64 + v / 64 % 64) * 64 + v % 64 = v by omega, hc]
    rfl
  · obtain ⟨low, high, hstart, hlow, hhigh⟩ := start_four (h := v / 262144 % 8)
      (m := v / 4096 % 64) (by omega) (by omega) (by omega)
    rw [feed_ofNat (by omega) (step_ready_of_start (by omega) hstart),
      feed_ofNat (by omega) (step_more hlow hhigh),
      feed_ofNat (by omega) (step_more (by omega) (by omega)),
      feed_ofNat (by omega) (step_last (by omega)),
      show ((v / 262144 % 8 * 64 + v / 4096 % 64) * 64 + v / 64 % 64) * 64 + v % 64 = v by omega,
      hc]
    rfl

end Decoder

open Decoder

/-! ### Whole texts -/

/-- Texts are encoded one after the other. -/
theorem encode_append (s t : String) : encode (s ++ t) = encode s ++ encode t := by
  simp [encode]

/-- The octets of characters are read as these characters. -/
theorem rest_flatMap_utf8EncodeChar (cs : List Char) :
    ready.rest (cs.flatMap String.utf8EncodeChar) = cs.map .char := by
  induction cs with
  | nil => rfl
  | cons c cs ih => rw [List.flatMap_cons, rest_append, feed_utf8EncodeChar, ih]; rfl

/-- An encoded text is read without a fault. -/
theorem pieces_encode (s : String) : pieces (encode s) = s.toList.map .char := by
  rw [pieces_eq_rest, encode, rest_flatMap_utf8EncodeChar]

/-- **Text that is written as octets is read back.** -/
theorem decode?_encode (s : String) : decode? (encode s) = some s := by
  have hvalid : ((s.toList.map Piece.char).all (· ≠ .invalid)) = true := by simp
  have hshown : (s.toList.map Piece.char).map Piece.shown = s.toList := by
    rw [List.map_map]
    exact List.map_id _
  unfold decode?
  rw [pieces_encode, if_pos hvalid, hshown, String.ofList_toList]

/-! ### Newlines -/

/-- The octet of the newline. -/
def newline : UInt8 := 10

/-- The octet of a line feed is ten. -/
theorem newline_eq_ofNat_iff {n : Nat} (h : n < 256) : newline = UInt8.ofNat n ↔ n = 10 := by
  rw [← UInt8.toNat_inj, UInt8.toNat_ofNat_of_lt' h]
  exact eq_comm

/-- A form of several octets has none of those that stand for a character by themselves. -/
theorem newline_mem_utf8EncodeChar_iff (c : Char) :
    newline ∈ String.utf8EncodeChar c ↔ c = '\n' := by
  have hc : c = '\n' ↔ c.val.toNat = 10 := by
    rw [← Char.toNat_inj]
    rfl
  rw [hc]
  unfold String.utf8EncodeChar
  generalize c.val.toNat = v
  dsimp only
  split_ifs with hone
  · rw [List.mem_singleton, newline_eq_ofNat_iff (by omega)]
  all_goals
    simp (disch := omega) only [List.mem_cons, List.not_mem_nil, or_false, newline_eq_ofNat_iff]
    omega

/-- **The octet of the newline is written for newlines only.** -/
theorem newline_mem_encode_iff (s : String) : newline ∈ encode s ↔ '\n' ∈ s.toList := by
  simp [encode, newline_mem_utf8EncodeChar_iff]

end Turnstile.Utf8
