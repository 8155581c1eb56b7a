import Turnstile.Proofs.Filter.Idempotence
import Turnstile.Proofs.Number.Rounding

/-!
# A filter only takes away

Each stage of a filter leaves a sublist of the characters that it is given
(`Deletes.apply_sublist`), and a sublist has no more lines than the text it is taken from
(`Text.lineCount_le_of_sublist`).

**Theorem** (`run_reduces`): the output of a filter is a sublist of the text, the sizes that are
reported are those of the text and of the output, neither of them grows, and the share that was
saved is between zero and a hundred percent.
-/

namespace Turnstile

open Text

/-- The size of a text, by its characters and by the pieces that end with their only newline, or at
the end of the text. -/
structure Text.Measures (text : List Char) (chars lineTotal : Nat) : Prop where
  chars : text.length = chars
  lines : ∃ ls, Lines ls ∧ ls.flatten = text ∧ ls.length = lineTotal

/-- A text is measured as its lines and characters are counted. -/
theorem Text.measures (text : List Char) : Measures text text.length (lineCount text) where
  chars := rfl
  lines := ⟨lines text, lines_spec text, Text.flatten_lines text, rfl⟩

namespace FilterStats

variable {s : FilterStats}

/-- Nothing is saved of an empty text. -/
theorem savings_of_rawChars_eq_zero (h : s.rawChars = 0) : s.savings = .zero false :=
  if_pos h

/-- Otherwise the saving is the percentage that is missing. -/
theorem savings_of_rawChars_pos (h : 0 < s.rawChars) :
    s.savings = .percentMissing s.filteredChars s.rawChars :=
  if_neg (by omega)

/-- What was saved of a count that has a number is between zero and a hundred percent. -/
theorem savings_atMost (h : s.filteredChars ≤ s.rawChars)
    (hnumber : ∃ y, Binary64.AtMost y (.ofRatio false s.rawChars 1)) :
    Binary64.AtMost 100 s.savings := by
  obtain ⟨y, hy⟩ := hnumber
  rcases Nat.eq_zero_or_pos s.rawChars with hzero | hpos
  · rw [savings_of_rawChars_eq_zero hzero, Binary64.zero, Binary64.atMost_finite_iff]
    norm_num
  · rw [savings_of_rawChars_pos hpos]
    exact Binary64.percentMissing_atMost hpos h hy

/-- Only a count beyond the range of all finite numbers leaves the share undefined. -/
theorem savings_eq_nan_or (h : s.filteredChars ≤ s.rawChars) :
    s.savings = .nan ∨ Binary64.AtMost 100 s.savings := by
  rcases Binary64.ofRatio_eq_infinite_or s.rawChars 1 with hinfinite | hnumber
  · rcases Nat.eq_zero_or_pos s.rawChars with hzero | hpos
    · rw [hzero] at hinfinite
      cases hinfinite
    · rw [savings_of_rawChars_pos hpos]
      exact .inl (Binary64.percentMissing_of_infinite hinfinite)
  · exact .inr (savings_atMost h hnumber)

end FilterStats

namespace OutputFilter

open Turnstile.Filter

/-- Nothing is inserted, moved or doubled: what a filter leaves is a sublist of the text. -/
theorem Deletes.apply_sublist {ε : Type} [Engine ε] {f : OutputFilter ε} (h : f.Deletes)
    (text : List Char) : (f.apply text).Sublist text :=
  calc (f.apply text).Sublist (withinChars f (selected f (removed f text))) :=
        withinLines_sublist f _
    List.Sublist _ (selected f (removed f text)) := withinChars_sublist f _
    List.Sublist _ (removed f text) := selected_sublist f _
    List.Sublist _ text := h.removed_sublist _

/-- **Filtering only reduces.** -/
theorem run_reduces (f : OutputFilter) (rawBytes : Nat) (raw : List Char) :
    let r := f.run rawBytes raw
    r.output.toList.Sublist raw ∧
      Measures raw r.stats.rawChars r.stats.rawLines ∧
      Measures r.output.toList r.stats.filteredChars r.stats.filteredLines ∧
      r.stats.filteredChars ≤ r.stats.rawChars ∧
      r.stats.filteredLines ≤ r.stats.rawLines ∧
      (r.stats.savings = .nan ∨ Binary64.AtMost 100 r.stats.savings) ∧
      (raw.length < Word.count → Binary64.AtMost 100 r.stats.savings) := by
  intro r
  have houtput : r.output.toList = f.apply raw := String.toList_ofList
  have hsublist := f.deletes.apply_sublist raw
  have hchars : r.stats.filteredChars ≤ r.stats.rawChars := hsublist.length_le
  rw [houtput]
  refine ⟨hsublist, measures raw, measures (f.apply raw), hchars,
    lineCount_le_of_sublist hsublist, FilterStats.savings_eq_nan_or hchars, ?_⟩
  intro hword
  exact FilterStats.savings_atMost hchars (Binary64.exists_atMost_of_word hword)

/-- The cut takes a newline away, and the line that has lost it still counts. -/
theorem run_reduces_unterminated :
    let f : OutputFilter := { limitChars := some 4 }
    let r := f.run 6 "ab\ncd\n".toList
    "ab\ncd\n".toList.length < Word.count ∧ r.output = "ab\nc" ∧ r.stats.filteredLines = 2 ∧
      Binary64.AtMost 100 r.stats.savings := by
  intro f r
  have hword : "ab\ncd\n".toList.length < Word.count := by decide
  obtain ⟨-, -, -, -, -, -, hsavings⟩ := run_reduces f 6 "ab\ncd\n".toList
  exact ⟨hword, by decide, by decide, hsavings hword⟩

end OutputFilter

end Turnstile
