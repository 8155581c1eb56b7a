import Turnstile.Filter.Slice
import Turnstile.Proofs.Filter.WholeLines
import Turnstile.Proofs.Text.Offsets
import Turnstile.Proofs.Text.Validity

/-!
# Cuts between characters

A cut leaves a piece at one end of a text, and the size of the piece says where it is divided from
the rest (`Side.offset`). There is a boundary, and slicing there leaves the octets of the piece
(`Side.Piece.slice?_eq`), so it only has to be shown that each cut slices there:

* `charsOffset?_eq` and `linesOffset?_eq` for the cuts by characters and by lines.
* `wholeLinesOffset?_eq` for the cut in whole lines, from what its two loops add up
  (`stopOfLines_eq`) and take off (`startOfLines?_eq`).

**Theorem** (`Cut.slice?_between_characters`): a cut of octets that are a text slices between
characters, and has a result, the text that the cut leaves.
-/

namespace Turnstile

open Text Utf8

/-! ### Dividing a text -/

namespace Side

/-- Where a piece at one end of a text is divided from the rest. -/
def offset (keep : Side) (p text : List Char) : Nat :=
  match keep with
  | .top => size p
  | .bottom => size text - size p

variable {keep : Side} {p text : List Char}

/-- A piece has no more octets than the text. -/
theorem Piece.size_le (h : keep.Piece p text) : size p ≤ size text := by
  cases keep with
  | top =>
      obtain ⟨rest, rfl⟩ := h
      rw [size_append]
      exact Nat.le_add_right _ _
  | bottom =>
      obtain ⟨front, rfl⟩ := h
      rw [size_append]
      exact Nat.le_add_left _ _

/-- Its offset is within the text. -/
theorem Piece.offset_le (h : keep.Piece p text) : keep.offset p text ≤ size text := by
  cases keep with
  | top => exact h.size_le
  | bottom => exact Nat.sub_le _ _

/-- Its offset is on the boundary of a character. -/
theorem Piece.isBoundary (h : keep.Piece p text) :
    isBoundary (octets text) (keep.offset p text) = true := by
  cases keep with
  | top =>
      obtain ⟨rest, rfl⟩ := h
      exact isBoundary_size p rest
  | bottom =>
      obtain ⟨front, rfl⟩ := h
      rw [offset, size_append, Nat.add_sub_cancel]
      exact isBoundary_size front p

/-- Slicing where a piece is divided from the rest leaves its octets. -/
theorem Piece.slice?_eq (h : keep.Piece p text) :
    keep.slice? (keep.offset p text) (octets text) = some (octets p) := by
  unfold slice?
  rw [if_pos h.isBoundary]
  cases keep with
  | top =>
      obtain ⟨rest, rfl⟩ := h
      simp only [offset, octets_append]
      exact congrArg some (List.take_left' rfl)
  | bottom =>
      obtain ⟨front, rfl⟩ := h
      simp only [offset, size_append, Nat.add_sub_cancel, octets_append]
      exact congrArg some (List.drop_left' rfl)

end Side

namespace Filter

/-- A subtraction fails only below zero. -/
theorem minus?_of_le {n m : Nat} (h : m ≤ n) : minus? n m = some (n - m) := if_pos h

variable {limit : Nat} {keep : Side} {text : List Char}

/-! ### The cut by characters -/

/-- The cut by characters slices where its piece begins or ends. -/
theorem charsOffset?_eq (h : limit ≤ text.length) :
    charsOffset? limit keep text = some (keep.offset (cutChars limit keep text) text) := by
  cases keep with
  | top =>
      rw [charsOffset?, charOffset_eq, cutChars_top]
      rfl
  | bottom =>
      have hsize : size (text.take (text.length - limit)) + size (text.drop (text.length - limit)) =
          size text := by
        rw [← size_append, List.take_append_drop]
      rw [charsOffset?, minus?_of_le h, Option.map_some, charOffset_eq, cutChars_bottom,
        Side.offset]
      congr 1
      omega

/-! ### The cut by lines -/

/-- So does the cut by lines. -/
theorem linesOffset?_eq (limit : Nat) (keep : Side) (text : List Char) :
    linesOffset? limit keep text = some (keep.offset (cutLines limit keep text) text) := by
  cases keep with
  | top =>
      rw [linesOffset?, totalSize_eq, cutLines_top]
      rfl
  | bottom =>
      have htail : totalSize ((lines text).reverse.take limit) =
          size (cutLines limit .bottom text) := by
        rw [totalSize_eq, List.take_reverse, size_flatten_reverse, cutLines_bottom]
        rfl
      rw [linesOffset?, htail, minus?_of_le (cutLines_piece limit .bottom text).size_le]
      rfl

/-! ### The cut in whole lines -/

/-- Going on adds up the lines that fit what is left of the limit. -/
theorem stopOfLines_eq {used : Nat} (h : used ≤ limit) (stop : Nat) (ls : List (List Char)) :
    stopOfLines limit used stop ls = stop + size (fittingLines (limit - used) ls).flatten := by
  induction ls generalizing used stop with
  | nil => rfl
  | cons line ls ih =>
      unfold stopOfLines fittingLines
      by_cases hline : limit < used + line.length
      · rw [if_pos hline, if_neg (by omega)]
        rfl
      · rw [if_neg hline, if_pos (by omega), ih (by omega), List.flatten_cons, size_append,
          Nat.add_assoc, Nat.sub_sub]

/-- Going back takes them off, and never more than there is in front of the offset. -/
theorem startOfLines?_eq {used start : Nat} (h : used ≤ limit) {ls : List (List Char)}
    (hstart : size ls.flatten ≤ start) :
    startOfLines? limit used start ls =
      some (start - size (fittingLines (limit - used) ls).flatten) := by
  induction ls generalizing used start with
  | nil => rfl
  | cons line ls ih =>
      rw [List.flatten_cons, size_append] at hstart
      unfold startOfLines? fittingLines
      by_cases hline : limit < used + line.length
      · rw [if_pos hline, if_neg (by omega)]
        rfl
      · rw [if_neg hline, if_pos (by omega), minus?_of_le (by omega), Option.bind_eq_bind,
          Option.bind_some, ih (by omega) (by omega), List.flatten_cons, size_append, Nat.sub_sub,
          Nat.sub_sub]

/-- The lines that fit are a piece at one end. -/
theorem flatten_fitting_piece (limit : Nat) (keep : Side) (text : List Char) :
    keep.Piece (fitting limit keep text).flatten text := by
  cases keep with
  | top =>
      obtain ⟨rest, hrest⟩ := isPrefix_fittingLines limit (lines text)
      refine ⟨rest.flatten, ?_⟩
      rw [fitting, ← List.flatten_append, hrest, Text.flatten_lines]
  | bottom =>
      obtain ⟨rest, hrest⟩ := isPrefix_fittingLines limit (lines text).reverse
      refine ⟨rest.reverse.flatten, ?_⟩
      rw [fitting, ← List.flatten_append, ← List.reverse_append, hrest, List.reverse_reverse,
        Text.flatten_lines]

/-- The cut in whole lines leaves a piece at one end. -/
theorem cutCharsByLine_piece (limit : Nat) (keep : Side) (text : List Char) :
    keep.Piece (cutCharsByLine limit keep text) text := by
  rw [cutCharsByLine_eq]
  split_ifs
  · exact Side.Piece.refl keep text
  · exact cutChars_piece limit keep text
  · exact flatten_fitting_piece limit keep text

/-- No line is empty, so an offset that has not moved says that no line fits. -/
theorem size_flatten_fitting_eq_zero_iff :
    size (fitting limit keep text).flatten = 0 ↔ fitting limit keep text = [] := by
  rw [size_eq_zero_iff, List.flatten_eq_nil_iff, List.eq_nil_iff_forall_not_mem]
  refine forall_congr' fun line => ⟨fun h hline => ?_, fun h hline => absurd hline h⟩
  exact ne_nil_of_mem_lines ((fitting_sublist limit keep text).subset hline) (h hline)

/-- The cut in whole lines slices by characters if not even one line fits. -/
theorem wholeLinesOffset?_eq_ite (limit : Nat) (keep : Side) (text : List Char) :
    wholeLinesOffset? limit keep text =
      if fitting limit keep text = [] then charsOffset? limit keep text
      else some (keep.offset (fitting limit keep text).flatten text) := by
  cases keep with
  | top =>
      have hstop : stopOfLines limit 0 0 (lines text) =
          size (fitting limit .top text).flatten := by
        rw [stopOfLines_eq (Nat.zero_le limit), Nat.zero_add]
        rfl
      simp only [wholeLinesOffset?, hstop, size_flatten_fitting_eq_zero_iff]
      rfl
  | bottom =>
      have hall : size (lines text).reverse.flatten = size text := by
        rw [size_flatten_reverse, Text.flatten_lines]
      have hstart : startOfLines? limit 0 (size text) (lines text).reverse =
          some (size text - size (fitting limit .bottom text).flatten) := by
        rw [startOfLines?_eq (Nat.zero_le limit) (le_of_eq hall), fitting, size_flatten_reverse]
        rfl
      have hle := (flatten_fitting_piece limit .bottom text).size_le
      have hunmoved : size text - size (fitting limit .bottom text).flatten = size text ↔
          fitting limit .bottom text = [] := by
        rw [← size_flatten_fitting_eq_zero_iff]
        omega
      rw [wholeLinesOffset?, hstart, Option.bind_eq_bind, Option.bind_some]
      simp only [hunmoved]
      rfl

/-- In both cases it slices where its piece begins or ends. -/
theorem wholeLinesOffset?_eq (h : limit < text.length) :
    wholeLinesOffset? limit keep text =
      some (keep.offset (cutCharsByLine limit keep text) text) := by
  rw [wholeLinesOffset?_eq_ite, cutCharsByLine_eq, if_neg (Nat.not_le_of_lt h)]
  by_cases hnone : fitting limit keep text = []
  · rw [if_pos hnone, hnone, List.isEmpty_nil, if_pos rfl, charsOffset?_eq (Nat.le_of_lt h)]
  · rw [if_neg hnone, if_neg (fun hempty => hnone (List.isEmpty_iff.mp hempty))]

/-! ### All cuts -/

namespace Cut

variable {cut : Cut}

/-- Every cut leaves a piece at one end. -/
theorem apply_piece (cut : Cut) (limit : Nat) (keep : Side) (text : List Char) :
    keep.Piece (cut.apply limit keep text) text := by
  cases cut with
  | byChars => exact cutChars_piece limit keep text
  | byWholeLines => exact cutCharsByLine_piece limit keep text
  | byLines => exact cutLines_piece limit keep text

/-- A text within the limit is left alone. -/
theorem apply_of_count_le (h : cut.count text ≤ limit) : cut.apply limit keep text = text := by
  cases cut with
  | byChars => exact if_pos h
  | byWholeLines => exact if_pos h
  | byLines => exact if_pos h

/-- A text beyond the limit is sliced where what the cut leaves is divided from the rest. -/
theorem offset?_eq (h : limit < cut.count text) :
    cut.offset? limit keep text = some (keep.offset (cut.apply limit keep text) text) := by
  cases cut with
  | byChars => exact charsOffset?_eq (Nat.le_of_lt h)
  | byWholeLines => exact wholeLinesOffset?_eq h
  | byLines => exact linesOffset?_eq limit keep text

/-- A cut of the octets of a text leaves the octets of what it leaves of the text. -/
theorem slice?_octets (cut : Cut) (limit : Nat) (keep : Side) (text : List Char) :
    cut.slice? limit keep (octets text) = some (octets (cut.apply limit keep text)) := by
  unfold slice?
  rw [decode?_octets, Option.bind_eq_bind, Option.bind_some, String.toList_ofList]
  by_cases h : cut.count text ≤ limit
  · rw [if_pos h, apply_of_count_le h]
  · rw [if_neg h, offset?_eq (Nat.lt_of_not_le h), Option.bind_eq_bind, Option.bind_some,
      (cut.apply_piece limit keep text).slice?_eq]

/-- **A cut never splits a character.** The offset of a character is the number of octets before it.
A text beyond the limit is sliced at such an offset, which is a boundary of its octets, and no
difference on the way to it is below zero. So the cut has a result, and what it leaves is a text. -/
theorem slice?_between_characters (cut : Cut) (limit : Nat) (keep : Side) {bs : Bytes}
    {text : String} (h : decode? bs = some text) :
    (∀ k, charOffset text.toList k =
      (octets (text.toList.take (min k text.toList.length))).length) ∧
    (limit < cut.count text.toList →
      ∃ offset, cut.offset? limit keep text.toList = some offset ∧ offset ≤ bs.length ∧
        isBoundary bs offset = true ∧ ∃ k, offset = charOffset text.toList k) ∧
    ∃ kept, cut.slice? limit keep bs = some kept ∧
      decode? kept = some (String.ofList (cut.apply limit keep text.toList)) := by
  obtain rfl : bs = octets text.toList := decode?_eq_some_iff.mp h
  have hpiece := cut.apply_piece limit keep text.toList
  refine ⟨fun k => ?_, fun hcount => ?_, ?_⟩
  · rw [charOffset_eq, ← List.take_eq_take_min, length_octets]
  · obtain ⟨k, hk⟩ := isBoundary_octets_iff.mp hpiece.isBoundary
    rw [← charOffset_eq] at hk
    exact ⟨_, offset?_eq hcount, hpiece.offset_le, hpiece.isBoundary, k, hk⟩
  · exact ⟨_, slice?_octets cut limit keep text.toList, decode?_octets _⟩

/-- The last line of `é\n語テキスト` has five characters, so no line fits in three. The last three
characters are left, and nine octets stand before them. -/
theorem slice?_between_characters_wide :
    let bs := encode "é\n語テキスト"
    decode? bs = some "é\n語テキスト" ∧ 3 < byWholeLines.count "é\n語テキスト".toList ∧
      byWholeLines.offset? 3 .bottom "é\n語テキスト".toList = some 9 ∧ 9 ≤ bs.length ∧
      isBoundary bs 9 = true ∧
      ∃ kept, byWholeLines.slice? 3 .bottom bs = some kept ∧ decode? kept = some "キスト" := by
  intro bs
  have hread : decode? bs = some "é\n語テキスト" := decode?_encode _
  have hcount : 3 < byWholeLines.count "é\n語テキスト".toList := by decide
  have hnine : byWholeLines.offset? 3 .bottom "é\n語テキスト".toList = some 9 := by decide
  have happly : byWholeLines.apply 3 .bottom "é\n語テキスト".toList = "キスト".toList := by decide
  obtain ⟨-, hoffset, hkept⟩ := slice?_between_characters byWholeLines 3 .bottom hread
  obtain ⟨offset, heq, hle, hboundary, -⟩ := hoffset hcount
  rw [hnine] at heq
  obtain rfl := Option.some.inj heq
  rw [happly, String.ofList_toList] at hkept
  exact ⟨hread, hcount, hnine, hle, hboundary, hkept⟩

end Cut

end Filter

end Turnstile
