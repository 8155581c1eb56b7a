import Turnstile.Proofs.Text.Encoding
import Turnstile.Text.Offset

/-!
# Offsets and characters

A character takes as many octets as its width, of which only the first does not go on with a
character (`exists_utf8EncodeChar_eq`). So the size of a text is a sum over its characters, and
octets show where a character starts.

* `charOffset_eq`: the offset of a character is the size of the characters before it.
* **Theorem** (`isBoundary_octets_iff`): what looks like a boundary in the octets of a text is one,
  the size of some of its first characters.
-/

namespace Turnstile.Utf8

/-! ### Octets and their number -/

/-- No characters have no octets. -/
@[simp] theorem octets_nil : octets [] = [] := rfl

/-- The octets of the first character come first. -/
@[simp] theorem octets_cons (c : Char) (cs : List Char) :
    octets (c :: cs) = String.utf8EncodeChar c ++ octets cs := List.flatMap_cons

/-- Texts that are joined have their octets joined. -/
@[simp] theorem octets_append (cs rest : List Char) :
    octets (cs ++ rest) = octets cs ++ octets rest := List.flatMap_append

/-- The octets of characters are decoded as these characters. -/
theorem decode?_octets (cs : List Char) : decode? (octets cs) = some (String.ofList cs) := by
  have h := decode?_encode (String.ofList cs)
  rwa [encode, String.toList_ofList] at h

/-- A text has as many octets as its size says. -/
@[simp] theorem length_octets (cs : List Char) : (octets cs).length = size cs := rfl

/-- Every character has an octet. -/
theorem width_pos (c : Char) : 0 < width c := c.utf8Size_pos

/-- A character has as many octets as its width says. -/
theorem length_utf8EncodeChar (c : Char) : (String.utf8EncodeChar c).length = width c :=
  String.length_utf8EncodeChar c

/-- The empty text has no octets. -/
@[simp] theorem size_nil : size [] = 0 := rfl

/-- One character more adds its width. -/
@[simp] theorem size_cons (c : Char) (cs : List Char) : size (c :: cs) = width c + size cs := by
  rw [size, octets_cons, List.length_append, length_utf8EncodeChar, length_octets]

/-- Sizes add up. -/
@[simp] theorem size_append (cs rest : List Char) : size (cs ++ rest) = size cs + size rest := by
  rw [size, octets_append, List.length_append, length_octets, length_octets]

/-- Only the empty text has no octets. -/
theorem size_eq_zero_iff {cs : List Char} : size cs = 0 ↔ cs = [] := by
  cases cs with
  | nil => simp
  | cons c cs => simp [Nat.ne_of_gt (width_pos c)]

/-- The sizes of pieces add up to that of what they make together. -/
theorem totalSize_eq (css : List (List Char)) : totalSize css = size css.flatten := by
  induction css with
  | nil => rfl
  | cons cs css ih => rw [totalSize, ih, List.flatten_cons, size_append]

/-- The order of the parts does not count. -/
theorem size_flatten_reverse (css : List (List Char)) :
    size css.reverse.flatten = size css.flatten := by
  induction css with
  | nil => rfl
  | cons cs css ih =>
      rw [List.reverse_cons, List.flatten_append, List.flatten_singleton, size_append, ih,
        List.flatten_cons, size_append, Nat.add_comm]

/-! ### Where characters start -/

/-- A character begins behind the octets of those in front of it. -/
theorem getElem?_charOffsets (start k : Nat) (cs : List Char) :
    (charOffsets start cs)[k]? =
      if k < cs.length then some (start + size (cs.take k)) else none := by
  induction cs generalizing start k with
  | nil => simp [charOffsets]
  | cons c cs ih =>
      cases k with
      | zero => simp [charOffsets]
      | succ k => simp [charOffsets, ih, Nat.add_assoc]

/-- The offset of a character is the size of those before it. -/
theorem charOffset_eq (cs : List Char) (k : Nat) : charOffset cs k = size (cs.take k) := by
  rw [charOffset, getElem?_charOffsets]
  by_cases h : k < cs.length
  · rw [if_pos h, Option.getD_some, Nat.zero_add]
  · rw [if_neg h, Option.getD_none, List.take_of_length_le (Nat.le_of_not_lt h)]

/-! ### Boundaries -/

/-- The octets that go on with a character, as a range. -/
theorem isContinuation_ofNat_iff {n : Nat} (h : n < 256) :
    isContinuation (UInt8.ofNat n) = true ↔ 0x80 ≤ n ∧ n ≤ 0xBF := by
  simp [isContinuation, UInt8.toNat_ofNat_of_lt' h]

/-- The first octet of a character does not go on with one, and all others do. -/
theorem exists_utf8EncodeChar_eq (c : Char) :
    ∃ b bs, String.utf8EncodeChar c = b :: bs ∧ isContinuation b = false ∧
      ∀ d ∈ bs, isContinuation d = true := by
  have hvalid : c.val.toNat < 0xD800 ∨ 0xDFFF < c.val.toNat ∧ c.val.toNat < 0x110000 := c.valid
  unfold String.utf8EncodeChar
  generalize c.val.toNat = v at hvalid
  dsimp only
  split_ifs with hone htwo hthree
  · refine ⟨_, [], rfl, ?_, fun d hd => absurd hd List.not_mem_nil⟩
    rw [← Bool.not_eq_true, isContinuation_ofNat_iff (by omega)]
    omega
  all_goals
    refine ⟨_, _, rfl, ?_, ?_⟩
    · rw [← Bool.not_eq_true, isContinuation_ofNat_iff (by omega)]
      omega
    · simp (disch := omega) only [List.forall_mem_cons, List.not_mem_nil, false_implies,
        implies_true, and_true, isContinuation_ofNat_iff]
      omega

/-- An offset is a boundary at the start, at the end, and where a character begins. -/
theorem isBoundary_iff {bs : Bytes} {offset : Nat} :
    isBoundary bs offset = true ↔
      offset = 0 ∨ (∃ b, bs[offset]? = some b ∧ isContinuation b = false) ∨
        offset = bs.length := by
  unfold isBoundary
  cases hget : bs[offset]? with
  | none => simp
  | some b =>
      have hlt := (List.getElem?_eq_some_iff.mp hget).1
      simp [Nat.ne_of_lt hlt]

/-- Between two parts of a text is a boundary. -/
theorem isBoundary_size (cs rest : List Char) :
    isBoundary (octets (cs ++ rest)) (size cs) = true := by
  rw [isBoundary_iff, octets_append]
  cases rest with
  | nil => exact .inr (.inr (by rw [octets_nil, List.append_nil, length_octets]))
  | cons c rest =>
      obtain ⟨b, bs, hc, hb, -⟩ := exists_utf8EncodeChar_eq c
      refine .inr (.inl ⟨b, ?_, hb⟩)
      rw [size, List.getElem?_append_right (Nat.le_refl _), Nat.sub_self, octets_cons, hc]
      rfl

/-- Inside its first character a text has no boundary. -/
theorem not_isBoundary_of_lt_width {c : Char} {cs : List Char} {offset : Nat} (hpos : offset ≠ 0)
    (hlt : offset < width c) : ¬ isBoundary (octets (c :: cs)) offset = true := by
  obtain ⟨b, bs, hc, -, hbs⟩ := exists_utf8EncodeChar_eq c
  have hlength := length_utf8EncodeChar c
  rw [isBoundary_iff, octets_cons]
  rintro (hzero | ⟨d, hget, hd⟩ | hend)
  · exact hpos hzero
  · obtain ⟨i, rfl⟩ := Nat.exists_eq_succ_of_ne_zero hpos
    rw [List.getElem?_append_left (by omega), hc, List.getElem?_cons_succ] at hget
    rw [hbs d (List.mem_of_getElem? hget)] at hd
    cases hd
  · rw [List.length_append] at hend
    omega

/-- What is a boundary behind other octets is one without them. -/
theorem isBoundary_of_append {front bs : Bytes} {i : Nat}
    (h : isBoundary (front ++ bs) (front.length + i) = true) : isBoundary bs i = true := by
  rw [isBoundary_iff] at h ⊢
  rcases h with hzero | ⟨b, hget, hb⟩ | hend
  · exact .inl (Nat.add_eq_zero_iff.mp hzero).2
  · rw [List.getElem?_append_right (Nat.le_add_right _ _), Nat.add_sub_cancel_left] at hget
    exact .inr (.inl ⟨b, hget, hb⟩)
  · rw [List.length_append] at hend
    exact .inr (.inr (Nat.add_left_cancel hend))

/-- **The boundaries of a text are the offsets between its characters.** -/
theorem isBoundary_octets_iff {cs : List Char} {offset : Nat} :
    isBoundary (octets cs) offset = true ↔ ∃ k, offset = size (cs.take k) := by
  constructor
  · intro h
    induction cs generalizing offset with
    | nil => exact ⟨0, by simpa [isBoundary_iff] using h⟩
    | cons c cs ih =>
        by_cases hzero : offset = 0
        · exact ⟨0, hzero⟩
        have hle : width c ≤ offset :=
          Nat.le_of_not_lt fun hlt => not_isBoundary_of_lt_width hzero hlt h
        obtain ⟨i, rfl⟩ := Nat.exists_eq_add_of_le hle
        rw [octets_cons, ← length_utf8EncodeChar] at h
        obtain ⟨k, rfl⟩ := ih (isBoundary_of_append h)
        exact ⟨k + 1, by rw [List.take_succ_cons, size_cons]⟩
  · rintro ⟨k, rfl⟩
    have h := isBoundary_size (cs.take k) (cs.drop k)
    rwa [List.take_append_drop] at h

/-- Between the two octets of a character there is none. -/
example : (octets ['é', 'x']).length = 3 ∧ isBoundary (octets ['é', 'x']) 1 = false ∧
    isBoundary (octets ['é', 'x']) 2 = true := by decide

end Turnstile.Utf8
