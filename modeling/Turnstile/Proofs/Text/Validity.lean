import Turnstile.Proofs.Text.Encoding

/-!
# The octets that are a text

`Encoding` shows that the octets of a text are read back. Here is the other direction: a first octet
and the ranges that it sets for the others (`Decoder.start_cases`) leave one character, and its
octets are the ones that were read (`utf8EncodeChar_two` and its siblings join their bits). So
octets of which no piece is invalid begin with a character (`Decoder.exists_append_of_ready`), and
what follows it is again such octets.

**Theorem** (`decode?_eq_some_iff`): the octets that are read as a text are those of the text, and
no others.
-/

namespace Turnstile.Utf8

open Decoder

/-! ### The octets of a code point -/

/-- A number outside the surrogates is the number of a character. -/
theorem val_ofNat {v : Nat} (h : v < 0xD800 ∨ 0xDFFF < v ∧ v < 0x110000) :
    (Char.ofNat v).val.toNat = v := by
  have hvalid : v.isValidChar := h
  rw [Char.ofNat, dif_pos hvalid]
  rfl

/-- Characters of one octet stand for themselves. -/
theorem utf8EncodeChar_one {v : Nat} (h : v < 128) :
    String.utf8EncodeChar (Char.ofNat v) = [UInt8.ofNat v] := by
  unfold String.utf8EncodeChar
  rw [val_ofNat (by omega)]
  exact if_pos (by omega)

/-- Characters of two octets have five bits in the first one. -/
theorem utf8EncodeChar_two {h m : Nat} (hlow : 2 ≤ h) (hhigh : h < 32) (hm : m < 64) :
    String.utf8EncodeChar (Char.ofNat (h * 64 + m)) =
      [UInt8.ofNat (h + 192), UInt8.ofNat (m + 128)] := by
  unfold String.utf8EncodeChar
  rw [val_ofNat (by omega)]
  dsimp only
  rw [if_neg (by omega), if_pos (by omega), show (h * 64 + m) / 64 % 32 = h by omega,
    show (h * 64 + m) % 64 = m by omega]

/-- Three octets are no shorter form and no surrogate. -/
theorem utf8EncodeChar_three {h m l : Nat} (hh : h < 16) (hm : m < 64) (hl : l < 64)
    (hlong : 0x20 ≤ h * 64 + m) (hchar : ¬ (0x360 ≤ h * 64 + m ∧ h * 64 + m < 0x380)) :
    String.utf8EncodeChar (Char.ofNat ((h * 64 + m) * 64 + l)) =
      [UInt8.ofNat (h + 224), UInt8.ofNat (m + 128), UInt8.ofNat (l + 128)] := by
  unfold String.utf8EncodeChar
  rw [val_ofNat (by omega)]
  dsimp only
  rw [if_neg (by omega), if_neg (by omega), if_pos (by omega),
    show ((h * 64 + m) * 64 + l) / 4096 % 16 = h by omega,
    show ((h * 64 + m) * 64 + l) / 64 % 64 = m by omega,
    show ((h * 64 + m) * 64 + l) % 64 = l by omega]

/-- Four octets are no shorter form, and not past the last character. -/
theorem utf8EncodeChar_four {h m l e : Nat} (hm : m < 64) (hl : l < 64) (he : e < 64)
    (hlong : 0x10 ≤ h * 64 + m) (hchar : h * 64 + m < 0x110) :
    String.utf8EncodeChar (Char.ofNat (((h * 64 + m) * 64 + l) * 64 + e)) =
      [UInt8.ofNat (h + 240), UInt8.ofNat (m + 128), UInt8.ofNat (l + 128),
        UInt8.ofNat (e + 128)] := by
  unfold String.utf8EncodeChar
  rw [val_ofNat (by omega)]
  dsimp only
  rw [if_neg (by omega), if_neg (by omega), if_neg (by omega),
    show (((h * 64 + m) * 64 + l) * 64 + e) / 262144 % 8 = h by omega,
    show (((h * 64 + m) * 64 + l) * 64 + e) / 4096 % 64 = m by omega,
    show (((h * 64 + m) * 64 + l) * 64 + e) / 64 % 64 = l by omega,
    show (((h * 64 + m) * 64 + l) * 64 + e) % 64 = e by omega]

/-! ### Octets of which no piece is invalid -/

namespace Decoder

/-- The forms of a first octet, with what the second octet may then be. -/
theorem start_cases {b : Nat} {d : Decoder} (h : start b = some d) :
    (∃ k, b = k + 192 ∧ d = .inside k 1 0x80 0xBF ∧ 2 ≤ k ∧ k < 32) ∨
    (∃ k low high, b = k + 224 ∧ d = .inside k 2 low high ∧ k < 16 ∧
      ∀ m, low ≤ m + 128 → m + 128 ≤ high →
        0x20 ≤ k * 64 + m ∧ ¬ (0x360 ≤ k * 64 + m ∧ k * 64 + m < 0x380)) ∨
    ∃ k low high, b = k + 240 ∧ d = .inside k 3 low high ∧
      ∀ m, low ≤ m + 128 → m + 128 ≤ high → 0x10 ≤ k * 64 + m ∧ k * 64 + m < 0x110 := by
  unfold start at h
  split_ifs at h <;> cases h
  · exact .inl ⟨b - 192, by omega, rfl, by omega, by omega⟩
  · exact .inr (.inl ⟨0, 0xA0, 0xBF, by omega, rfl, by omega, fun m _ _ => by omega⟩)
  · exact .inr (.inl ⟨0xD, 0x80, 0x9F, by omega, rfl, by omega, fun m _ _ => by omega⟩)
  · exact .inr (.inl ⟨b - 224, 0x80, 0xBF, by omega, rfl, by omega, fun m _ _ => by omega⟩)
  · exact .inr (.inr ⟨0, 0x90, 0xBF, by omega, rfl, fun m _ _ => by omega⟩)
  · exact .inr (.inr ⟨4, 0x80, 0x8F, by omega, rfl, fun m _ _ => by omega⟩)
  · exact .inr (.inr ⟨b - 240, 0x80, 0xBF, by omega, rfl, fun m _ _ => by omega⟩)

/-- Inside a character there is an octet more, with six of its bits. -/
theorem exists_of_inside {bits owed low high : Nat} {bs : Bytes}
    (hsound : (inside bits owed low high).Sound)
    (h : .invalid ∉ (inside bits owed low high).rest bs) :
    ∃ m rest, bs = UInt8.ofNat (m + 128) :: rest ∧ low ≤ m + 128 ∧ m + 128 ≤ high ∧ m < 64 := by
  obtain ⟨hlow, hhigh⟩ := hsound
  cases bs with
  | nil => exact absurd List.mem_cons_self h
  | cons b rest =>
      by_cases hb : low ≤ b.toNat ∧ b.toNat ≤ high
      · refine ⟨b.toNat - 128, rest, ?_, by omega, by omega, by omega⟩
        rw [Nat.sub_add_cancel (by omega), UInt8.ofNat_toNat]
      · rw [rest_cons, step_of_not_mem hb] at h
        exact absurd List.mem_cons_self h

/-- An octet in range goes on with the character, and what follows is read as before. -/
theorem not_mem_rest_more {bits owed low high m : Nat} {bs : Bytes} (hlow : low ≤ m + 128)
    (hhigh : m + 128 ≤ high) (hm : m < 64)
    (h : .invalid ∉ (inside bits (owed + 2) low high).rest (UInt8.ofNat (m + 128) :: bs)) :
    .invalid ∉ (inside (bits * 64 + m) (owed + 1) 0x80 0xBF).rest bs := by
  have hoctet : m + 128 < 256 := by omega
  rwa [rest_cons, UInt8.toNat_ofNat_of_lt' hoctet, step_more hlow hhigh] at h

/-- What goes on with a character after its second octet may be any such octet. -/
theorem sound_more (bits owed : Nat) : (inside bits owed 0x80 0xBF).Sound :=
  ⟨Nat.le_refl _, Nat.le_refl _⟩

/-- Octets that are read without a fault begin with those of a character. -/
theorem exists_append_of_ready {b : UInt8} {bs : Bytes} (h : .invalid ∉ ready.rest (b :: bs)) :
    ∃ c rest, b :: bs = String.utf8EncodeChar c ++ rest := by
  have hb : UInt8.ofNat b.toNat = b := UInt8.ofNat_toNat
  by_cases hone : b.toNat < 128
  · exact ⟨Char.ofNat b.toNat, bs, by rw [utf8EncodeChar_one hone, hb]; rfl⟩
  cases hstart : start b.toNat with
  | none =>
      rw [rest_cons, step, stepReady, if_neg hone, hstart] at h
      exact absurd List.mem_cons_self h
  | some d =>
      have hsound := sound_of_start hstart
      rw [rest_cons, step_ready_of_start (by omega) hstart] at h
      obtain ⟨k, hk, rfl, hlow, hhigh⟩ | ⟨k, low, high, hk, rfl, hsize, hform⟩ |
        ⟨k, low, high, hk, rfl, hform⟩ := start_cases hstart
      · obtain ⟨m, rest, rfl, -, -, hm⟩ := exists_of_inside hsound h
        refine ⟨Char.ofNat (k * 64 + m), rest, ?_⟩
        rw [utf8EncodeChar_two hlow hhigh hm, ← hk, hb]
        rfl
      · obtain ⟨m, rest, rfl, hmlow, hmhigh, hm⟩ := exists_of_inside hsound h
        have hlast := not_mem_rest_more hmlow hmhigh hm h
        obtain ⟨l, rest, rfl, -, -, hl⟩ := exists_of_inside (sound_more _ _) hlast
        obtain ⟨hlong, hchar⟩ := hform m hmlow hmhigh
        refine ⟨Char.ofNat ((k * 64 + m) * 64 + l), rest, ?_⟩
        rw [utf8EncodeChar_three hsize hm hl hlong hchar, ← hk, hb]
        rfl
      · obtain ⟨m, rest, rfl, hmlow, hmhigh, hm⟩ := exists_of_inside hsound h
        have hthird := not_mem_rest_more hmlow hmhigh hm h
        obtain ⟨l, rest, rfl, hllow, hlhigh, hl⟩ := exists_of_inside (sound_more _ _) hthird
        have hlast := not_mem_rest_more hllow hlhigh hl hthird
        obtain ⟨e, rest, rfl, -, -, he⟩ := exists_of_inside (sound_more _ _) hlast
        obtain ⟨hlong, hchar⟩ := hform m hmlow hmhigh
        refine ⟨Char.ofNat (((k * 64 + m) * 64 + l) * 64 + e), rest, ?_⟩
        rw [utf8EncodeChar_four hm hl he hlong hchar, ← hk, hb]
        rfl

end Decoder

/-! ### Whole texts -/

/-- The characters that are read have the octets that they were read from. -/
theorem flatMap_shown_rest {bs : Bytes} (h : .invalid ∉ ready.rest bs) :
    ((ready.rest bs).map Piece.shown).flatMap String.utf8EncodeChar = bs := by
  induction hn : bs.length using Nat.strong_induction_on generalizing bs with
  | _ n ih =>
      cases bs with
      | nil => rfl
      | cons b bs =>
          obtain ⟨c, rest, hc⟩ := exists_append_of_ready h
          have hread : ready.rest (b :: bs) = .char c :: ready.rest rest := by
            rw [hc, rest_append, feed_utf8EncodeChar]
            rfl
          have hlt : rest.length < n := by
            have hpos := c.utf8Size_pos
            rw [← hn, hc, List.length_append, String.length_utf8EncodeChar]
            omega
          rw [hread] at h ⊢
          have hrest := ih rest.length hlt (fun hmem => h (List.mem_cons_of_mem _ hmem)) rfl
          rw [List.map_cons, List.flatMap_cons, hrest, hc]
          rfl

/-- **Octets are read as a text exactly if they are those of the text.** -/
theorem decode?_eq_some_iff {bs : Bytes} {s : String} : decode? bs = some s ↔ bs = encode s := by
  constructor
  · intro h
    unfold decode? at h
    dsimp only at h
    rw [pieces_eq_rest] at h
    split_ifs at h with hvalid
    obtain rfl := Option.some.inj h
    have hnone : .invalid ∉ ready.rest bs := fun hmem => by
      simpa using List.all_eq_true.mp hvalid _ hmem
    rw [encode, String.toList_ofList, flatMap_shown_rest hnone]
  · rintro rfl
    exact decode?_encode s

end Turnstile.Utf8
