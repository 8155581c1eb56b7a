import Mathlib.Order.Bounds.Defs
import Turnstile.Proofs.Filter.Idempotence

/-!
# The limits of a filter that selects lines

After a selection of lines, the cut by characters keeps whole lines, because a part of a line may
match no more. `Side.take` is the first or the last elements of a list, so that a cut reads the same
on both sides, and `Fits` says that a number of lines is within both limits.

* `fitting_eq_take`, `le_length_fitting`: the lines that the cut by characters keeps are as many
  lines at the end that is kept as have no more characters than allowed.
* `cutLines_flatten_take`: the cut by lines after it leaves the smaller of the two numbers of lines.

**Theorem** (`apply_wholeLines`): a filter that selects lines leaves the greatest number of selected
lines within both limits. The one exception is a line that is alone too long (`Overlong`), of which
a part is left.
-/

namespace Turnstile

open Text

/-! ### The elements at one end -/

namespace Side

/-- The first, or the last, elements of a list. -/
def take {α : Type} (keep : Side) (n : Nat) (xs : List α) : List α :=
  match keep with
  | .top => xs.take n
  | .bottom => xs.drop (xs.length - n)

variable {α : Type} (keep : Side) (n : Nat) (xs : List α)

/-- As many are taken as there are, up to the number. -/
theorem length_take : (keep.take n xs).length = min n xs.length := by
  cases keep with
  | top => exact List.length_take
  | bottom =>
      rw [take, List.length_drop]
      omega

/-- None taken leaves nothing. -/
theorem take_zero : keep.take 0 xs = [] :=
  List.eq_nil_of_length_eq_zero (by rw [length_take, Nat.zero_min])

/-- All are taken if there are no more. -/
theorem take_of_length_le (h : xs.length ≤ n) : keep.take n xs = xs := by
  cases keep with
  | top => exact List.take_of_length_le h
  | bottom => rw [take, Nat.sub_eq_zero_of_le h, List.drop_zero]

/-- To take twice is to take the fewer. -/
theorem take_take (m : Nat) : keep.take m (keep.take n xs) = keep.take (min m n) xs := by
  cases keep with
  | top => exact List.take_take
  | bottom =>
      simp only [take, List.drop_drop, List.length_drop]
      congr 1
      omega

/-- What is taken was there. -/
theorem take_sublist : (keep.take n xs).Sublist xs := by
  cases keep with
  | top => exact List.take_sublist n xs
  | bottom => exact List.drop_sublist _ xs

/-- Who takes more takes at least as much. -/
theorem take_sublist_take {m : Nat} (h : m ≤ n) : (keep.take m xs).Sublist (keep.take n xs) := by
  rw [← Nat.min_eq_left h, ← take_take]
  exact keep.take_sublist m _

/-- Joined lists begin, or end, with the lists that were taken from that end. -/
theorem take_flatten {n : Nat} {xss : List (List α)} {xs : List α} (h : keep.take 1 xss = [xs])
    (hn : n ≤ xs.length) : keep.take n xss.flatten = keep.take n xs := by
  cases keep with
  | top =>
      cases xss with
      | nil => cases h
      | cons ys xss =>
          obtain rfl : ys = xs := by simpa [take] using h
          rw [take, List.flatten_cons, List.take_append_of_le_length hn]
          rfl
  | bottom =>
      have hsplit : xss.flatten = (xss.take (xss.length - 1)).flatten ++ xs := by
        have hdrop : xss.drop (xss.length - 1) = [xs] := h
        have hjoin := congrArg List.flatten (List.take_append_drop (xss.length - 1) xss)
        rw [hdrop, List.flatten_append, List.flatten_singleton] at hjoin
        exact hjoin.symm
      simp only [take, hsplit, List.length_append, List.drop_append]
      rw [List.drop_of_length_le (by omega), List.nil_append]
      congr 1
      omega

end Side

namespace Filter

/-- The cut by characters takes characters. -/
theorem cutChars_eq_take (limit : Nat) (keep : Side) (text : List Char) :
    cutChars limit keep text = keep.take limit text := by
  cases keep with
  | top => exact cutChars_top limit text
  | bottom => exact cutChars_bottom limit text

/-- The cut by lines takes lines. -/
theorem cutLines_eq_take (limit : Nat) (keep : Side) (text : List Char) :
    cutLines limit keep text = (keep.take limit (lines text)).flatten := by
  cases keep with
  | top => exact cutLines_top limit text
  | bottom => exact cutLines_bottom limit text

/-! ### The lines that fit -/

/-- No more lines would fit. -/
theorem le_length_fittingLines {budget j : Nat} {ls : List (List Char)} (hj : j ≤ ls.length)
    (hfits : (ls.take j).flatten.length ≤ budget) : j ≤ (fittingLines budget ls).length := by
  induction ls generalizing budget j with
  | nil => exact hj
  | cons line ls ih =>
      cases j with
      | zero => exact Nat.zero_le _
      | succ j =>
          rw [List.take_succ_cons, List.flatten_cons, List.length_append] at hfits
          have hline : line.length ≤ budget := by omega
          rw [fittingLines, if_pos hline, List.length_cons]
          exact Nat.succ_le_succ (ih (Nat.le_of_succ_le_succ hj) (by omega))

variable (limit : Nat) (keep : Side) (text : List Char)

/-- The lines that fit are taken from the end that is kept. -/
theorem fitting_eq_take :
    fitting limit keep text = keep.take (fitting limit keep text).length (lines text) := by
  cases keep with
  | top => exact List.prefix_iff_eq_take.mp (isPrefix_fittingLines limit (lines text))
  | bottom =>
      have hprefix := List.prefix_iff_eq_take.mp (isPrefix_fittingLines limit (lines text).reverse)
      rw [List.take_reverse] at hprefix
      have hreverse := congrArg List.reverse hprefix
      rw [List.reverse_reverse] at hreverse
      rw [fitting, List.length_reverse]
      exact hreverse

/-- No more lines at this end would fit. -/
theorem le_length_fitting {j : Nat} (hj : j ≤ lineCount text)
    (hfits : (keep.take j (lines text)).flatten.length ≤ limit) :
    j ≤ (fitting limit keep text).length := by
  cases keep with
  | top => exact le_length_fittingLines hj hfits
  | bottom =>
      have hj : j ≤ (lines text).reverse.length := by rwa [List.length_reverse]
      rw [fitting, List.length_reverse]
      refine le_length_fittingLines hj ?_
      rw [List.take_reverse, List.length_flatten, List.map_reverse, List.sum_reverse,
        ← List.length_flatten]
      exact hfits

/-- No more lines fit than there are. -/
theorem length_fitting_le : (fitting limit keep text).length ≤ lineCount text :=
  (fitting_sublist limit keep text).length_le

/-- If all of the text fits, all of its lines do. -/
theorem flatten_fitting_of_length_le (h : text.length ≤ limit) :
    (fitting limit keep text).flatten = text := by
  have hall : lineCount text ≤ (fitting limit keep text).length := by
    refine le_length_fitting limit keep text (Nat.le_refl _) ?_
    have htaken := keep.take_of_length_le (lineCount text) (lines text) (Nat.le_refl _)
    rwa [htaken, Text.flatten_lines]
  have hsame := (fitting_sublist limit keep text).eq_of_length_le hall
  rw [hsame, Text.flatten_lines]

/-- The cut by characters keeps the lines that fit, unless not even one of them does. -/
theorem cutCharsByLine_cases :
    cutCharsByLine limit keep text = (fitting limit keep text).flatten ∨
      fitting limit keep text = [] ∧ limit < text.length := by
  rw [cutCharsByLine_eq]
  by_cases hlength : text.length ≤ limit
  · rw [if_pos hlength]
    exact .inl (flatten_fitting_of_length_le limit keep text hlength).symm
  · rw [if_neg hlength]
    by_cases hempty : (fitting limit keep text).isEmpty
    · exact .inr ⟨List.isEmpty_iff.mp hempty, Nat.lt_of_not_le hlength⟩
    · rw [if_neg hempty]
      exact .inl rfl

/-- The cut by lines takes from lines that were taken before. -/
theorem cutLines_flatten_take (m n : Nat) :
    cutLines m keep (keep.take n (lines text)).flatten =
      (keep.take (min m n) (lines text)).flatten := by
  have hlines := (lines_spec text).sublist (keep.take_sublist n (lines text))
  rw [cutLines_eq_take, lines_flatten hlines, Side.take_take]

/-! ### The limits together -/

variable {ε : Type}

/-- The first, or the last, lines of a text are within the limits of a filter. -/
structure Fits (f : OutputFilter ε) (text : List Char) (k : Nat) : Prop where
  le_lineCount : k ≤ lineCount text
  lines_le : ∀ limit, f.limitLines = some limit → k ≤ limit
  chars_le : ∀ limit, f.limitChars = some limit →
    (f.keep.take k (lines text)).flatten.length ≤ limit

/-- The line at the end that is kept is alone longer than the limit, and a line may be kept. -/
structure Overlong (f : OutputFilter ε) (text line : List Char) (limit : Nat) : Prop where
  limitLines : f.limitLines ≠ some 0
  limitChars : f.limitChars = some limit
  first : f.keep.take 1 (lines text) = [line]
  lt_length : limit < line.length

variable {f : OutputFilter ε} {limit : Nat} {keep : Side} {text line : List Char}

/-- No lines at all are within every limit. -/
theorem fits_zero (f : OutputFilter ε) (text : List Char) : Fits f text 0 where
  le_lineCount := Nat.zero_le _
  lines_le _ _ := Nat.zero_le _
  chars_le limit _ := by
    rw [Side.take_zero]
    exact Nat.zero_le limit

/-- If the line at the end that is kept is too long, no line fits. -/
theorem fitting_eq_nil (hfirst : keep.take 1 (lines text) = [line]) (h : limit < line.length) :
    fitting limit keep text = [] := by
  by_contra hne
  have hpos : 1 ≤ (fitting limit keep text).length := List.length_pos_iff.mpr hne
  have hsub := (keep.take_sublist_take _ (lines text) hpos).flatten.length_le
  have hfits := length_flatten_fitting_le limit keep text
  rw [← fitting_eq_take, hfirst, List.flatten_singleton] at hsub
  omega

/-- If a text is longer than the limit and no line fits, the line at the end that is kept is too
long. -/
theorem exists_first_of_fitting_eq_nil (hnone : fitting limit keep text = [])
    (h : limit < text.length) :
    ∃ line, keep.take 1 (lines text) = [line] ∧ limit < line.length := by
  have hcount : 1 ≤ lineCount text :=
    lineCount_pos (List.ne_nil_of_length_pos (Nat.zero_lt_of_lt h))
  have hlength : (keep.take 1 (lines text)).length = 1 := by
    rw [Side.length_take]
    exact Nat.min_eq_left hcount
  obtain ⟨line, hfirst⟩ := List.length_eq_one_iff.mp hlength
  refine ⟨line, hfirst, Nat.lt_of_not_le fun hle => ?_⟩
  have hone := le_length_fitting limit keep text hcount (by
    rwa [hfirst, List.flatten_singleton])
  rw [hnone] at hone
  exact Nat.not_succ_le_zero 0 hone

/-- Of a line that is too long, a part is left. -/
theorem cutCharsByLine_of_lt (hfirst : keep.take 1 (lines text) = [line])
    (h : limit < line.length) : cutCharsByLine limit keep text = keep.take limit line := by
  have hlong : ¬ text.length ≤ limit := by
    have hsub := (keep.take_sublist 1 (lines text)).flatten.length_le
    rw [hfirst, List.flatten_singleton, Text.flatten_lines] at hsub
    omega
  rw [cutCharsByLine_eq, if_neg hlong, fitting_eq_nil hfirst h, List.isEmpty_nil, if_pos rfl,
    cutChars_eq_take, ← Side.take_flatten _ hfirst (Nat.le_of_lt h), Text.flatten_lines]

/-- The cut by characters leaves the greatest number of lines that fit, or a part of a line that is
too long. -/
theorem withinChars_wholeLines (hgrep : f.grep.isSome) (text : List Char) :
    (∃ n, withinChars f text = (f.keep.take n (lines text)).flatten ∧
      ∀ j, j ≤ n ↔ j ≤ lineCount text ∧ ∀ limit, f.limitChars = some limit →
        (f.keep.take j (lines text)).flatten.length ≤ limit) ∨
    ∃ limit line, f.limitChars = some limit ∧ f.keep.take 1 (lines text) = [line] ∧
      limit < line.length ∧ withinChars f text = f.keep.take limit line := by
  unfold withinChars
  cases hlimit : f.limitChars with
  | none =>
      refine .inl ⟨lineCount text, ?_, fun j => by simp⟩
      have htaken := f.keep.take_of_length_le (lineCount text) (lines text) (Nat.le_refl _)
      rw [htaken, Text.flatten_lines]
  | some limit =>
      simp only [if_pos hgrep]
      obtain hfits | ⟨hnone, hlt⟩ := cutCharsByLine_cases limit f.keep text
      · refine .inl ⟨(fitting limit f.keep text).length, ?_, fun j => ⟨fun hj => ?_, ?_⟩⟩
        · rw [hfits, ← fitting_eq_take]
        · refine ⟨Nat.le_trans hj (length_fitting_le limit f.keep text), fun limit' heq => ?_⟩
          obtain rfl := Option.some.inj heq
          have hsub := (f.keep.take_sublist_take _ (lines text) hj).flatten.length_le
          rw [← fitting_eq_take] at hsub
          exact Nat.le_trans hsub (length_flatten_fitting_le limit f.keep text)
        · rintro ⟨hcount, hchars⟩
          exact le_length_fitting limit f.keep text hcount (hchars limit rfl)
      · obtain ⟨line, hfirst, hlong⟩ := exists_first_of_fitting_eq_nil hnone hlt
        exact .inr ⟨limit, line, rfl, hfirst, hlong, cutCharsByLine_of_lt hfirst hlong⟩

/-- The cut by lines leaves the smaller number of lines. -/
theorem withinLines_wholeLines (f : OutputFilter ε) (text : List Char) (n : Nat) :
    ∃ k, withinLines f (f.keep.take n (lines text)).flatten =
        (f.keep.take k (lines text)).flatten ∧
      ∀ j, j ≤ k ↔ j ≤ n ∧ ∀ limit, f.limitLines = some limit → j ≤ limit := by
  unfold withinLines
  cases f.limitLines with
  | none => exact ⟨n, rfl, fun j => by simp⟩
  | some limit =>
      refine ⟨min limit n, cutLines_flatten_take f.keep text limit n, fun j => ?_⟩
      rw [Nat.le_min, and_comm]
      simp

/-- A part of a line is one line. -/
theorem lineCount_take_le_one (hfirst : keep.take 1 (lines text) = [line]) (limit : Nat) :
    lineCount (keep.take limit line) ≤ 1 := by
  have hline : Lines [line] := by
    rw [← hfirst]
    exact (lines_spec text).sublist (keep.take_sublist 1 (lines text))
  have hone : lineCount line = 1 := by
    have hlines := lines_flatten hline
    rw [List.flatten_singleton] at hlines
    rw [lineCount, hlines, List.length_singleton]
  rw [← cutChars_eq_take, ← hone]
  exact (cutChars_piece limit keep line).lineCount_le

end Filter

namespace OutputFilter

open Turnstile.Filter

/-- **A filter that selects lines leaves the greatest number of selected lines within both
limits**, whole and in their order, and so is within both limits itself. Only if the line at the end
that is kept is alone too long, a part of this line is left. -/
theorem apply_wholeLines {ε : Type} [Engine ε] {f : OutputFilter ε} (h : f.grep.isSome)
    (text : List Char) :
    ((∀ line limit, ¬ Overlong f (selected f (removed f text)) line limit) →
      ∃ k, IsGreatest {k | Fits f (selected f (removed f text)) k} k ∧
        f.apply text = (f.keep.take k (lines (selected f (removed f text)))).flatten ∧
        lines (f.apply text) = f.keep.take k (lines (selected f (removed f text)))) ∧
    (∀ line limit, Overlong f (selected f (removed f text)) line limit →
      f.apply text = f.keep.take limit line) ∧
    Within f (f.apply text) := by
  have hwithin := apply_within f text
  unfold apply at hwithin ⊢
  generalize selected f (removed f text) = chosen at hwithin ⊢
  refine ⟨fun hnone => ?_, fun line limit hlong => ?_, hwithin⟩
  · obtain ⟨k, hcut, hfits⟩ : ∃ k, withinLines f (withinChars f chosen) =
        (f.keep.take k (lines chosen)).flatten ∧ ∀ j, Fits f chosen j ↔ j ≤ k := by
      obtain ⟨n, hchars, hn⟩ | ⟨limit, line, hlimit, hfirst, hlong, hchars⟩ :=
        withinChars_wholeLines h chosen
      · obtain ⟨k, hlines, hk⟩ := withinLines_wholeLines f chosen n
        refine ⟨k, by rw [hchars, hlines], fun j => ?_⟩
        rw [hk, hn]
        exact ⟨fun hj => ⟨⟨hj.le_lineCount, hj.chars_le⟩, hj.lines_le⟩,
          fun ⟨⟨hcount, hchars⟩, hlines⟩ => ⟨hcount, hlines, hchars⟩⟩
      · -- The line is not kept, so no line is.
        have hzero : f.limitLines = some 0 := by
          by_contra hne
          exact hnone line limit ⟨hne, hlimit, hfirst, hlong⟩
        refine ⟨0, ?_, fun j => ⟨fun hj => hj.lines_le 0 hzero, fun hj => ?_⟩⟩
        · simp only [withinLines, hzero, cutLines_eq_take, Side.take_zero]
        · rw [Nat.le_zero.mp hj]
          exact fits_zero f chosen
    have hsub := f.keep.take_sublist k (lines chosen)
    refine ⟨k, ⟨(hfits k).mpr (Nat.le_refl k), fun j hj => (hfits j).mp hj⟩, hcut, ?_⟩
    rw [hcut, lines_flatten ((lines_spec chosen).sublist hsub)]
  · have hchars : withinChars f chosen = f.keep.take limit line := by
      simp only [withinChars, hlong.limitChars, if_pos h]
      exact cutCharsByLine_of_lt hlong.first hlong.lt_length
    rw [hchars, withinLines]
    cases hlines : f.limitLines with
    | none => rfl
    | some most =>
        have hmost : most ≠ 0 := fun hzero => hlong.limitLines (by rw [hlines, hzero])
        have hone := lineCount_take_le_one hlong.first limit
        exact if_pos (Nat.le_trans hone (Nat.pos_of_ne_zero hmost))

/-- A filter that selects lines with an X, of which at most three are kept from the end. -/
def lastMarked (limitChars : Nat) : OutputFilter where
  limitChars := some limitChars
  limitLines := some 3
  keep := .bottom
  grep := Matcher.ofSource? "X"

/-- The last two of the selected lines have five characters together, and all three have ten. With
room for a single character, the last one of the last line is left. -/
theorem apply_lastMarked :
    (lastMarked 6).grep.isSome ∧ (lastMarked 1).grep.isSome ∧
      (∃ k, IsGreatest {k | Fits (lastMarked 6) "XXXX\nX1\nX2".toList k} k ∧
        Side.bottom.take k ["XXXX\n".toList, "X1\n".toList, "X2".toList] =
          ["X1\n".toList, "X2".toList]) ∧
      (lastMarked 1).apply "XXXX\na\nX1\nX2".toList = Side.bottom.take 1 "X2".toList := by
  have hchosen (limit : Nat) : selected (lastMarked limit)
      (removed (lastMarked limit) "XXXX\na\nX1\nX2".toList) = "XXXX\nX1\nX2".toList := by
    change selected (lastMarked 0) (removed (lastMarked 0) _) = _
    decide +kernel
  have hselects (limit : Nat) : (lastMarked limit).grep.isSome := by
    change (lastMarked 0).grep.isSome
    decide +kernel
  have hlines : lines "XXXX\nX1\nX2".toList =
      ["XXXX\n".toList, "X1\n".toList, "X2".toList] := by decide
  have hfirst {limit limit' : Nat} {line : List Char}
      (h : Overlong (lastMarked limit) "XXXX\nX1\nX2".toList line limit') :
      line = "X2".toList ∧ limit' = limit := by
    have htaken := h.first
    rw [hlines] at htaken
    exact ⟨List.head_eq_of_cons_eq htaken.symm, Option.some.inj h.limitChars.symm⟩
  obtain ⟨hwhole, -, -⟩ := apply_wholeLines (hselects 6) "XXXX\na\nX1\nX2".toList
  obtain ⟨-, hpart, -⟩ := apply_wholeLines (hselects 1) "XXXX\na\nX1\nX2".toList
  rw [hchosen] at hwhole hpart
  refine ⟨hselects 6, hselects 1, ?_, ?_⟩
  · obtain ⟨k, hk, -, happly⟩ := hwhole fun line limit hlong => by
      obtain ⟨rfl, rfl⟩ := hfirst hlong
      exact absurd hlong.lt_length (by decide)
    have hrun : lines ((lastMarked 6).apply "XXXX\na\nX1\nX2".toList) =
        ["X1\n".toList, "X2".toList] := by decide +kernel
    rw [hrun, hlines] at happly
    exact ⟨k, hk, happly.symm⟩
  · refine hpart "X2".toList 1 ⟨by decide, rfl, ?_, by decide⟩
    rw [hlines]
    rfl

end OutputFilter

end Turnstile
